import Mathlib.Data.List.Forall2
import Mathlib.Tactic.SplitIfs

/-!
# Sequences of checks

When a program that stops at its first error gets to its end: one rule for each way to put checks
together.
-/

namespace Checks

variable {ε α β : Type}

/-- A sequence of checks passes if each one does. -/
lemma bind_eq_ok_iff {check : Except ε α} {f : α → Except ε β} {b : β} :
    (check >>= f) = .ok b ↔ ∃ a, check = .ok a ∧ f a = .ok b := by
  cases check with
  | error e =>
      constructor
      · intro h
        cases h
      · rintro ⟨_, h, -⟩
        cases h
  | ok a =>
      constructor
      · exact fun h => ⟨a, rfl, h⟩
      · rintro ⟨_, h, hf⟩
        cases h
        exact hf

lemma ite_eq_ok_iff {p : Prop} [Decidable p] {e : ε} {x : Except ε α} {a : α} :
    (if p then .error e else x) = .ok a ↔ ¬p ∧ x = .ok a := by
  split_ifs with h <;> simp [h]

/-- A list passes if each of its members does. -/
lemma mapM_eq_ok_iff {f : α → Except ε β} {as : List α} {bs : List β} :
    as.mapM f = .ok bs ↔ List.Forall₂ (fun a b => f a = .ok b) as bs := by
  induction as generalizing bs with
  | nil =>
      rw [List.mapM_nil, List.forall₂_nil_left_iff]
      exact ⟨fun h => (Except.ok.inj h).symm, fun h => congrArg Except.ok h.symm⟩
  | cons a as ih =>
      rw [List.mapM_cons, bind_eq_ok_iff, List.forall₂_cons_left_iff]
      constructor
      · rintro ⟨b, hb, hrest⟩
        obtain ⟨bs', hbs', hpure⟩ := bind_eq_ok_iff.mp hrest
        exact ⟨b, bs', hb, ih.mp hbs', (Except.ok.inj hpure).symm⟩
      · rintro ⟨b, bs', hb, hbs', rfl⟩
        exact ⟨b, hb, bind_eq_ok_iff.mpr ⟨bs', ih.mpr hbs', rfl⟩⟩

lemma forM_eq_ok_iff {f : α → Except ε Unit} {as : List α} :
    as.forM f = .ok () ↔ ∀ a ∈ as, f a = .ok () := by
  induction as with
  | nil => simp [pure, Except.pure]
  | cons a as ih =>
      rw [List.forall_mem_cons, ← ih]
      refine bind_eq_ok_iff.trans ?_
      constructor
      · rintro ⟨_, ha, has⟩
        exact ⟨ha, has⟩
      · exact fun ⟨ha, has⟩ => ⟨(), ha, has⟩

end Checks
