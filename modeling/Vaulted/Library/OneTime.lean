import Mathlib.Logic.Function.Basic
import Vaulted.Library.Runs

/-!
# Permits that are used once

A permit is issued under a key.  Whoever tries the key is accepted while the permit is outstanding
and grants the attempt, and then the permit is gone.

* `Event`, `effect`, `Fits` — what is observed of the permits, and when it can be.
* `Legal` — a history in which every event fits.
* `Consistent` — a key is accepted once, for a permit that grants the attempt; and an attempt that
  some permit grants is refused only after another one has been accepted.
* `Legal.consistent` — legal histories are consistent, where no key is issued twice.
-/

namespace OneTime

variable {κ π ψ : Type*} [DecidableEq κ]

inductive Event (κ π ψ : Type*)
  | Issued (k : κ) (p : π)
  | Tried (k : κ) (q : ψ) (accepted : Bool)
  deriving DecidableEq

/-- The permits that are outstanding. -/
abbrev Permits (κ π : Type*) := κ → Option π

def effect (m : Permits κ π) : Event κ π ψ → Permits κ π
  | .Issued k p => Function.update m k (some p)
  | .Tried k _ true => Function.update m k none
  | .Tried _ _ false => m

/-- Does the permit of the key grant the attempt? -/
def Granted (grants : π → ψ → Prop) (m : Permits κ π) (k : κ) (q : ψ) : Prop :=
  ∃ p, m k = some p ∧ grants p q

/-- An attempt is accepted exactly if the permit of its key, as it is then, grants it; permits may
be issued at any time. -/
def Fits (grants : π → ψ → Prop) (m : Permits κ π) : Event κ π ψ → Prop
  | .Issued _ _ => True
  | .Tried k q accepted => accepted = true ↔ Granted grants m k q

/-- Every event of the history fits, from the permits `m` on. -/
abbrev Legal (grants : π → ψ → Prop) (m : Permits κ π) (h : List (Event κ π ψ)) : Prop :=
  Runs.Guarded effect (Fits grants) m h

/-- The permits after a history that starts with none. -/
abbrev after (h : List (Event κ π ψ)) : Permits κ π := Runs.exec effect (fun _ => none) h

/-- No key is issued twice. -/
def IssuedOnce (h : List (Event κ π ψ)) : Prop :=
  h.Pairwise fun e e' => ∀ k p p', e = .Issued k p → e' ≠ .Issued k p'

/-- What one-time permits promise of a history: a key is accepted once at most, an accepted attempt
had been granted by a permit issued before it, and a granted attempt is refused only if its key has
been accepted already. -/
structure Consistent (grants : π → ψ → Prop) (h : List (Event κ π ψ)) : Prop where
  once : ∀ pre mid post k q q',
    h ≠ pre ++ .Tried k q true :: (mid ++ .Tried k q' true :: post)
  issued : ∀ pre post k q, h = pre ++ .Tried k q true :: post →
    ∃ p, .Issued k p ∈ pre ∧ grants p q
  first : ∀ pre post k p q, h = pre ++ .Tried k q false :: post → .Issued k p ∈ pre →
    grants p q → ∃ q', .Tried k q' true ∈ pre

/-! ## The permits after a history -/

section Legal

variable {grants : π → ψ → Prop} {m : Permits κ π} {h : List (Event κ π ψ)} {k : κ} {p : π} {q : ψ}

/-- What is outstanding has been issued. -/
lemma issued_of_after (hp : after h k = some p) : .Issued k p ∈ h := by
  induction h using List.reverseRecOn with
  | nil => cases hp
  | append_singleton h e ih =>
      rw [after, Runs.exec_concat] at hp
      cases e with
      | Issued k' p' =>
          rw [effect, Function.update_apply] at hp
          split_ifs at hp with hk
          · rw [hk, Option.some.inj hp]
            simp
          · exact List.mem_append_left _ (ih hp)
      | Tried k' q accepted =>
          cases accepted with
          | true =>
              rw [effect, Function.update_apply] at hp
              split_ifs at hp
              exact List.mem_append_left _ (ih hp)
          | false => exact List.mem_append_left _ (ih hp)

/-- What is accepted has been issued, and grants the attempt. -/
lemma issued_of_accepted {pre post : List (Event κ π ψ)}
    (hlegal : Legal grants (fun _ => none) (pre ++ .Tried k q true :: post)) :
    ∃ p, .Issued k p ∈ pre ∧ grants p q := by
  obtain ⟨p, hp, hgrants⟩ := hlegal.back.1.mp rfl
  exact ⟨p, issued_of_after hp, hgrants⟩

omit [DecidableEq κ] in
lemma issuedOnce_concat {e : Event κ π ψ} : IssuedOnce (h ++ [e])
    ↔ IssuedOnce h ∧ ∀ k p p', .Issued k p ∈ h → e ≠ .Issued k p' := by
  simp only [IssuedOnce, List.pairwise_append, List.pairwise_singleton, true_and,
    List.mem_singleton]
  refine and_congr_right fun _ => ⟨fun hnew k p p' hmem => ?_, fun hnew e' he' e'' he'' => ?_⟩
  · exact hnew _ hmem e rfl k p p' rfl
  · rintro k p p' rfl
    rw [he'']
    exact hnew k p p' he'

/-- **What is outstanding** has been issued and not been accepted. -/
theorem after_iff (hlegal : Legal grants (fun _ => none) h) (honce : IssuedOnce h) :
    after h k = some p ↔ .Issued k p ∈ h ∧ ∀ q, .Tried k q true ∉ h := by
  induction h using List.reverseRecOn with
  | nil => simp [after]
  | append_singleton h e ih =>
      obtain ⟨honce, hnew⟩ := issuedOnce_concat.mp honce
      have ih := ih hlegal.front honce
      rw [after, Runs.exec_concat]
      cases e with
      | Issued k' p' =>
          rw [effect, Function.update_apply]
          split_ifs with hk
          · -- the key is new, and has not been tried with success before
            subst hk
            have hissued : ∀ p, .Issued k p ∉ h := fun p hmem => hnew k p p' hmem rfl
            have htried : ∀ q, .Tried k q true ∉ h := by
              intro q hmem
              obtain ⟨pre, post, rfl⟩ := List.append_of_mem hmem
              obtain ⟨p, hp, -⟩ := issued_of_accepted hlegal.front
              exact hissued p (List.mem_append_left _ hp)
            simp [hissued, htried, eq_comm]
          · simpa [hk] using ih
      | Tried k' q accepted =>
          cases accepted with
          | true =>
              rw [effect, Function.update_apply]
              split_ifs with hk
              · subst hk
                refine iff_of_false (fun hp => by cases hp) ?_
                exact fun hnone => hnone.2 q (by simp)
              · simpa [hk] using ih
          | false => simpa [effect] using ih

/-- **A legal history is consistent.** An acceptance leaves no permit behind, and as no key is
issued twice there is never another one for it: `after_iff` says what is outstanding at each point
of the history. -/
theorem Legal.consistent (hlegal : Legal grants (fun _ => none) h) (honce : IssuedOnce h) :
    Consistent grants h where
  once := by
    rintro pre mid post k q q' rfl
    rw [← List.cons_append, ← List.append_assoc] at hlegal honce
    obtain ⟨p, hp, -⟩ := hlegal.back.1.mp rfl
    have hfront : IssuedOnce (pre ++ .Tried k q true :: mid) := (List.pairwise_append.mp honce).1
    exact ((after_iff hlegal.front hfront).mp hp).2 q (by simp)
  issued := by
    rintro pre post k q rfl
    exact issued_of_accepted hlegal
  first := by
    rintro pre post k p q rfl hissued hgrants
    by_contra hnone
    have hfront : IssuedOnce pre := (List.pairwise_append.mp honce).1
    have hp : after pre k = some p :=
      (after_iff hlegal.front hfront).mpr ⟨hissued, fun q' hmem => hnone ⟨q', hmem⟩⟩
    exact Bool.false_ne_true (hlegal.back.1.mpr ⟨p, hp, hgrants⟩)

end Legal

end OneTime
