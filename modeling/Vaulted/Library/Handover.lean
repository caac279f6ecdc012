import Mathlib.Data.Option.Basic
import Mathlib.Logic.Function.Basic

/-!
# Handing assets over

Parties own assets and offer them to each other.  An offer is made by the owner, can be taken
up once, and lapses as soon as its asset changes hands:

* `State` — who owns what, and which offers are live;
* `Step` — an offer is made, or a live one is accepted, or nothing happens;
* `Sound` — every live offer was made by the party that still owns the asset.  It is preserved
  by every step (`Step.sound`), so an accepted offer takes its asset from its giver, and then
  it is gone (`live_handOver`).
-/

namespace Handover

/-- An offer of `asset` by `giver` to `taker`. -/
structure Offer (α ι : Type*) where
  asset : α
  giver : ι
  taker : ι

/-- Owners and live offers; offers go by their identifier. -/
structure State (α ι τ : Type*) where
  owner : α → Option ι
  live : τ → Option (Offer α ι)

variable {α ι τ : Type*} [DecidableEq α] [DecidableEq τ]

/-- A new live offer. -/
def State.offer (s : State α ι τ) (t : τ) (o : Offer α ι) : State α ι τ where
  owner := s.owner
  live := Function.update s.live t (some o)

/-- The owner of one asset changes, and all offers of it lapse. -/
def State.handOver (s : State α ι τ) (o : Offer α ι) : State α ι τ where
  owner := Function.update s.owner o.asset (some o.taker)
  live t := (s.live t).filter fun o' => !decide (o'.asset = o.asset)

/-- What can happen: nothing, an offer by the owner under a fresh identifier, or the acceptance of a
live offer, which hands the asset over. -/
inductive Step (s : State α ι τ) : State α ι τ → Prop
  | Stutter : Step s s
  | Offer (t : τ) (o : Offer α ι) : s.live t = none → s.owner o.asset = some o.giver →
      Step s (s.offer t o)
  | Accept (t : τ) (o : Offer α ι) : s.live t = some o → Step s (s.handOver o)

/-- Every live offer was made by the current owner. -/
def Sound (s : State α ι τ) : Prop :=
  ∀ t o, s.live t = some o → s.owner o.asset = some o.giver

omit [DecidableEq τ] in
lemma live_handOver {s : State α ι τ} {o o' : Offer α ι} {t : τ} :
    (s.handOver o).live t = some o' ↔ s.live t = some o' ∧ o'.asset ≠ o.asset := by
  simp [State.handOver, Option.filter_eq_some_iff]

/-- **Every step keeps the offers sound.** A new offer is made by the owner; an acceptance makes
another party the owner of that asset, but the offers of the old owner lapse with it. -/
theorem Step.sound {s s' : State α ι τ} (hstep : Step s s') (h : Sound s) : Sound s' := by
  cases hstep with
  | Stutter => exact h
  | Offer t o _ howner =>
      intro t' o' hlive
      by_cases ht : t' = t
      · have ho : some o = some o' := by simpa [State.offer, ht] using hlive
        rw [← Option.some.inj ho]
        exact howner
      · have hold : s.live t' = some o' := by simpa [State.offer, ht] using hlive
        exact h t' o' hold
  | Accept t o _ =>
      intro t' o' hlive
      obtain ⟨hold, hne⟩ := live_handOver.mp hlive
      rw [State.handOver]
      simp only [Function.update_of_ne hne]
      exact h t' o' hold

end Handover
