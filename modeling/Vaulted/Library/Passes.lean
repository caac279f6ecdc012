import Mathlib.Order.Basic

/-!
# Passes over a list, until nothing changes

A loop that goes over the same items again and again.  At an item the state may take a step; the
loop is over after the first pass in which it takes none.

* `pass` — one pass, and whether there was a step in it.
* `passes` — the loop; `none` says that it is not over after so many passes.
* `Settled` — the state takes no step at any of the items.
* `passes_total` — the rule for the loop: where every step keeps an invariant and uses up a
  measure, the loop is over, in a settled state that has the invariant.
* `passes_of_le` — what it ends in does not depend on how many passes it is given.
-/

namespace Passes

variable {σ ι : Type*} (step : σ → ι → Option σ)

def pass (s : σ) : List ι → σ × Bool
  | [] => (s, false)
  | x :: xs =>
      match step s x with
      | none => pass s xs
      | some s' => ((pass s' xs).1, true)

def passes (items : List ι) : ℕ → σ → Option σ
  | 0, _ => none
  | fuel + 1, s =>
      if (pass step s items).2 then passes items fuel (pass step s items).1
      else some (pass step s items).1

def Settled (items : List ι) (s : σ) : Prop := ∀ x ∈ items, step s x = none

variable {step}

/-! ## One pass -/

lemma pass_none {s : σ} {x : ι} (h : step s x = none) (xs : List ι) :
    pass step s (x :: xs) = pass step s xs := by
  rw [pass, h]

lemma pass_some {s s' : σ} {x : ι} (h : step s x = some s') (xs : List ι) :
    pass step s (x :: xs) = ((pass step s' xs).1, true) := by
  rw [pass, h]

/-- A pass without a step leaves the state as it is, and shows that it is settled. -/
lemma settled_of_pass {s : σ} {xs : List ι} (h : (pass step s xs).2 = false) :
    (pass step s xs).1 = s ∧ Settled step xs s := by
  induction xs with
  | nil => exact ⟨rfl, by simp [Settled]⟩
  | cons x xs ih =>
      cases hstep : step s x with
      | some s' =>
          rw [pass_some hstep] at h
          cases h
      | none =>
          rw [pass_none hstep] at h ⊢
          obtain ⟨hsame, hsettled⟩ := ih h
          exact ⟨hsame, List.forall_mem_cons.mpr ⟨hstep, hsettled⟩⟩

section Rule

variable {I : σ → Prop} {μ : σ → ℕ}

lemma pass_invariant (hI : ∀ s x s', I s → step s x = some s' → I s') {s : σ} (h : I s)
    (xs : List ι) : I (pass step s xs).1 := by
  induction xs generalizing s with
  | nil => exact h
  | cons x xs ih =>
      cases hstep : step s x with
      | none =>
          rw [pass_none hstep]
          exact ih h
      | some s' =>
          rw [pass_some hstep]
          exact ih (hI s x s' h hstep)

lemma pass_measure_le (hμ : ∀ s x s', step s x = some s' → μ s' < μ s) (s : σ) (xs : List ι) :
    μ (pass step s xs).1 ≤ μ s := by
  induction xs generalizing s with
  | nil => exact Nat.le_refl _
  | cons x xs ih =>
      cases hstep : step s x with
      | none =>
          rw [pass_none hstep]
          exact ih s
      | some s' =>
          rw [pass_some hstep]
          exact Nat.le_of_lt (Nat.lt_of_le_of_lt (ih s') (hμ s x s' hstep))

/-- A pass with a step in it uses up some of the measure. -/
lemma pass_measure_lt (hμ : ∀ s x s', step s x = some s' → μ s' < μ s) {s : σ} {xs : List ι}
    (h : (pass step s xs).2 = true) : μ (pass step s xs).1 < μ s := by
  induction xs generalizing s with
  | nil => cases h
  | cons x xs ih =>
      cases hstep : step s x with
      | none =>
          rw [pass_none hstep] at h ⊢
          exact ih h
      | some s' =>
          rw [pass_some hstep]
          exact Nat.lt_of_le_of_lt (pass_measure_le hμ s' xs) (hμ s x s' hstep)

/-! ## The loop -/

/-- **The loop ends**, in a settled state. -/
theorem passes_total (hI : ∀ s x s', I s → step s x = some s' → I s')
    (hμ : ∀ s x s', step s x = some s' → μ s' < μ s) (items : List ι) {fuel : ℕ} {s : σ}
    (h : I s) (hfuel : μ s < fuel) :
    ∃ s', passes step items fuel s = some s' ∧ I s' ∧ Settled step items s' := by
  induction fuel generalizing s with
  | zero => exact absurd hfuel (Nat.not_lt_zero _)
  | succ fuel ih =>
      have hpass := pass_invariant hI h items
      cases hchanged : (pass step s items).2 with
      | false =>
          obtain ⟨hsame, hsettled⟩ := settled_of_pass hchanged
          refine ⟨_, by rw [passes, hchanged]; rfl, hpass, ?_⟩
          rw [hsame]
          exact hsettled
      | true =>
          have hless := pass_measure_lt hμ hchanged
          rw [passes, hchanged, if_pos rfl]
          exact ih hpass (Nat.lt_of_lt_of_le hless (Nat.le_of_lt_succ hfuel))

end Rule

theorem passes_of_le {items : List ι} {fuel fuel' : ℕ} {s s' : σ} (hle : fuel ≤ fuel')
    (h : passes step items fuel s = some s') : passes step items fuel' s = some s' := by
  induction fuel generalizing fuel' s with
  | zero => cases h
  | succ fuel ih =>
      obtain ⟨fuel', rfl⟩ : ∃ k, fuel' = k + 1 := Nat.exists_eq_add_one_of_ne_zero (by omega)
      rw [passes] at h ⊢
      split_ifs at h ⊢ with hchanged
      · exact ih (Nat.le_of_succ_le_succ hle) h
      · exact h

end Passes
