import Mathlib.Logic.Function.Basic
import Vaulted.Library.Runs

/-!
# Stores that are written once

A store keeps one value per key.  A value is published under a key that is free, and stays until it
is removed.

* `Event`, `effect`, `Fits` — what is observed of a store, and when it can be.
* `Legal` — a history in which every event fits.
* `Consistent` — every read returns what was published last, and two writes that succeed without a
  removal between them agree.
* `Legal.consistent` — legal histories are consistent.
-/

namespace WriteOnce

variable {κ β : Type*} [DecidableEq κ]

/-- `Matched` is a write that finds its own value there. -/
inductive Event (κ β : Type*)
  | Published (k : κ) (b : β)
  | Matched (k : κ) (b : β)
  | Got (k : κ) (b : β)
  | Removed (k : κ)
  deriving DecidableEq

/-- The values by their keys. -/
abbrev Store (κ β : Type*) := κ → Option β

def effect (m : Store κ β) : Event κ β → Store κ β
  | .Published k b => Function.update m k (some b)
  | .Matched _ _ => m
  | .Got _ _ => m
  | .Removed k => Function.update m k none

/-- A value is published where there is none; a write that matches, and a read, find the value that
is there; and what is removed was there. -/
def Fits (m : Store κ β) : Event κ β → Prop
  | .Published k _ => m k = none
  | .Matched k b => m k = some b
  | .Got k b => m k = some b
  | .Removed k => (m k).isSome = true

/-- Every event of the history fits, from the store `m` on. -/
abbrev Legal (m : Store κ β) (h : List (Event κ β)) : Prop := Runs.Guarded effect Fits m h

/-- The store after a history. -/
abbrev after (m : Store κ β) (h : List (Event κ β)) : Store κ β := Runs.exec effect m h

/-- Neither removed nor published. -/
def Untouched (k : κ) (h : List (Event κ β)) : Prop :=
  .Removed k ∉ h ∧ ∀ b, .Published k b ∉ h

/-- The value was published last, or there was one at the start and nothing has been published
since; it has not been removed since. -/
def Current (m : Store κ β) (h : List (Event κ β)) (k : κ) (b : β) : Prop :=
  (∃ pre mid, h = pre ++ .Published k b :: mid ∧ Untouched k mid) ∨ (m k = some b ∧ Untouched k h)

/-- A write of the value that succeeds. -/
def Event.Writes (e : Event κ β) (k : κ) (b : β) : Prop := e = .Published k b ∨ e = .Matched k b

/-- What write-once keys promise of a history: a read has the value that is current, and two writes
to one key that succeed, without a removal between them, have written the same. -/
structure Consistent (m : Store κ β) (h : List (Event κ β)) : Prop where
  reads : ∀ pre post k b, h = pre ++ .Got k b :: post → Current m pre k b
  agree : ∀ pre mid post e e' k b b', h = pre ++ e :: (mid ++ e' :: post) → e.Writes k b →
    e'.Writes k b' → .Removed k ∉ mid → b = b'

/-! ## Legal histories -/

section Legal

variable {m : Store κ β} {h : List (Event κ β)} {k : κ} {b : β}

lemma effect_untouched (m : Store κ β) {e : Event κ β} (he : Untouched k [e]) :
    effect m e k = m k := by
  cases e with
  | Published k' b' =>
      refine Function.update_of_ne (fun hk => ?_) _ _
      rw [hk] at he
      exact he.2 b' (List.mem_singleton.mpr rfl)
  | Matched k' b' => rfl
  | Got k' b' => rfl
  | Removed k' =>
      refine Function.update_of_ne (fun hk => ?_) _ _
      rw [hk] at he
      exact he.1 (List.mem_singleton.mpr rfl)

omit [DecidableEq κ] in
lemma untouched_append {h h' : List (Event κ β)} :
    Untouched k (h ++ h') ↔ Untouched k h ∧ Untouched k h' := by
  simp only [Untouched, List.mem_append, not_or]
  exact ⟨fun ⟨hr, hp⟩ => ⟨⟨hr.1, fun b => (hp b).1⟩, hr.2, fun b => (hp b).2⟩,
    fun ⟨⟨hr, hp⟩, hr', hp'⟩ => ⟨⟨hr, hr'⟩, fun b => ⟨hp b, hp' b⟩⟩⟩

/-- **What a store has is current.** -/
theorem current_of_after (h : List (Event κ β)) (hb : after m h k = some b) : Current m h k b := by
  induction h using List.reverseRecOn with
  | nil => exact .inr ⟨hb, List.not_mem_nil, fun _ => List.not_mem_nil⟩
  | append_singleton h e ih =>
      rw [after, Runs.exec_concat] at hb
      by_cases he : Untouched k [e]
      · rw [effect_untouched _ he] at hb
        rcases ih hb with ⟨pre, mid, rfl, hmid⟩ | ⟨hm, huntouched⟩
        · exact .inl ⟨pre, mid ++ [e], by simp, untouched_append.mpr ⟨hmid, he⟩⟩
        · exact .inr ⟨hm, untouched_append.mpr ⟨huntouched, he⟩⟩
      · -- the last event has set the key
        cases e with
        | Published k' b' =>
            by_cases hk : k = k'
            · subst hk
              rw [effect, Function.update_self] at hb
              obtain rfl := Option.some.inj hb
              exact .inl ⟨h, [], rfl, List.not_mem_nil, fun _ => List.not_mem_nil⟩
            · exact absurd ⟨by simp, by simp [hk]⟩ he
        | Matched k' b' => exact absurd ⟨by simp, by simp⟩ he
        | Got k' b' => exact absurd ⟨by simp, by simp⟩ he
        | Removed k' =>
            by_cases hk : k = k'
            · subst hk
              rw [effect, Function.update_self] at hb
              cases hb
            · exact absurd ⟨by simp [hk], by simp⟩ he

/-- **What is there stays**, as long as it is not removed. -/
theorem after_of_not_removed {h : List (Event κ β)} (hlegal : Legal m h) (hb : m k = some b)
    (hremoved : .Removed k ∉ h) : after m h k = some b := by
  induction h generalizing m with
  | nil => exact hb
  | cons e h ih =>
      obtain ⟨hfits, hlegal⟩ := hlegal
      rw [List.mem_cons, not_or] at hremoved
      refine ih hlegal ?_ hremoved.2
      rw [effect_untouched m ⟨by simpa using hremoved.1, fun b' => ?_⟩, hb]
      -- the key is taken
      rw [List.mem_singleton]
      rintro rfl
      rw [Fits, hb] at hfits
      cases hfits

lemma after_of_writes {e : Event κ β} (hfits : Fits m e) (he : e.Writes k b) :
    effect m e k = some b := by
  rcases he with rfl | rfl
  · exact Function.update_self _ _ _
  · exact hfits

/-- **A legal history is consistent.** What the store has is current at every point of it, and the
value of a successful write stays until it is removed, so a second write finds it there and has to
match it. -/
theorem Legal.consistent (hlegal : Legal m h) : Consistent m h where
  reads := by
    rintro pre post k b rfl
    exact current_of_after pre hlegal.back.1
  agree := by
    rintro pre mid post e e' k b b' rfl he he' hremoved
    obtain ⟨hfits, hmid⟩ := hlegal.back
    have hafter := after_of_not_removed hmid.front (after_of_writes hfits he) hremoved
    have hfits' : Fits (after (effect (after m pre) e) mid) e' := hmid.back.1
    rcases he' with rfl | rfl
    · rw [Fits, hafter] at hfits'
      cases hfits'
    · exact Option.some.inj (hafter.symm.trans hfits')

end Legal

end WriteOnce
