import Vaulted.Library.Runs
import Mathlib.Order.Basic
import Mathlib.Data.Set.Function
import Mathlib.Logic.Function.Basic

/-!
# Replay caches

A cache remembers ids until they expire.  An id is used with a reading of the clock: entries that
have expired by it are dropped, and the use is accepted if no entry of the id is left.

* `Cache`, `Cache.use` — the cache, and one use of an id.
* `uses` — what became of each use of a list.
* `use_iff_not_known`, `accepted_iff` — a use is accepted if every earlier acceptance of its id has
  been forgotten.
* `acceptedOnce_iff` — every id is accepted once at most exactly where no id is used again after
  a reading beyond the expiry that it was accepted with (`Remembered`).
-/

namespace ReplayCache

variable {ι τ : Type} [LinearOrder τ]

/-- The ids in use, with their expiry. -/
abbrev Cache (ι τ : Type) := ι → Option τ

structure Use (ι τ : Type) where
  id : ι
  exp : τ
  now : τ
  deriving DecidableEq

/-- A use, and whether it was accepted. -/
structure Outcome (ι τ : Type) where
  use : Use ι τ
  accepted : Bool
  deriving DecidableEq

namespace Cache

/-- The entries that have not expired. -/
def live (c : Cache ι τ) (now : τ) : Cache ι τ := fun id => (c id).filter fun e => decide (now ≤ e)

lemma live_eq_some {c : Cache ι τ} {now : τ} {id : ι} {e : τ} :
    c.live now id = some e ↔ c id = some e ∧ now ≤ e := by
  rw [live, Option.filter_eq_some_iff, decide_eq_true_eq]

variable [DecidableEq ι]

/-- One use of an id, with the expiry to remember it by and a reading of the clock. The entries that
have expired by the reading are dropped first, whether the use is accepted or not. -/
def use (c : Cache ι τ) (u : Use ι τ) : Bool × Cache ι τ :=
  if (c.live u.now u.id).isSome then (false, c.live u.now)
  else (true, Function.update (c.live u.now) u.id (some u.exp))

def step (c : Cache ι τ) (u : Use ι τ) : Cache ι τ := (c.use u).2

def outcome (c : Cache ι τ) (u : Use ι τ) : List (Outcome ι τ) := [⟨u, (c.use u).1⟩]

/-- A use is accepted if the cache holds no entry of the id that is still good. -/
lemma use_accepts {c : Cache ι τ} {u : Use ι τ} :
    (c.use u).1 = true ↔ ∀ e, c u.id = some e → ¬ u.now ≤ e := by
  have hlive : c.live u.now u.id = none ↔ ∀ e, c u.id = some e → ¬ u.now ≤ e := by
    rw [Option.eq_none_iff_forall_not_mem]
    exact forall_congr' fun e => by rw [Option.mem_def, live_eq_some, not_and]
  rw [← hlive, use]
  split_ifs with hseen
  · simp only [false_iff]
    intro hnone
    rw [hnone] at hseen
    cases hseen
  · simpa using hseen

/-- What the cache holds after a use. -/
lemma step_eq_some {c : Cache ι τ} {u : Use ι τ} {id : ι} {e : τ} :
    c.step u id = some e
      ↔ ((c.use u).1 = true ∧ id = u.id ∧ e = u.exp) ∨ (c id = some e ∧ u.now ≤ e) := by
  unfold step use
  split_ifs with hseen
  · simp [live_eq_some]
  · have hnone : c.live u.now u.id = none := by simpa using hseen
    rcases eq_or_ne id u.id with rfl | hne
    · simp only [Function.update_self, Option.some.injEq, true_and]
      refine ⟨fun h => .inl h.symm, ?_⟩
      rintro (rfl | h)
      · rfl
      · rw [live_eq_some.mpr h] at hnone
        cases hnone
    · simp [live_eq_some, hne]

end Cache

variable [DecidableEq ι]

/-- What becomes of uses one after the other, from an empty cache. -/
def uses (us : List (Use ι τ)) : List (Outcome ι τ) :=
  Runs.history Cache.step Cache.outcome (fun _ => none) us

/-- The cache after the uses. -/
def cache (us : List (Use ι τ)) : Cache ι τ := Runs.exec Cache.step (fun _ => none) us

lemma uses_concat (us : List (Use ι τ)) (u : Use ι τ) :
    uses (us ++ [u]) = uses us ++ [⟨u, ((cache us).use u).1⟩] := Runs.history_concat _ _ _ _ _

lemma length_uses (us : List (Use ι τ)) : (uses us).length = us.length := by
  induction us using List.reverseRecOn with
  | nil => rfl
  | append_singleton us u ih => simp [uses_concat, ih]

lemma uses_front {us : List (Use ι τ)} (u : Use ι τ) {k : ℕ} (hk : k < us.length) :
    (uses (us ++ [u]))[k]? = (uses us)[k]? := by
  rw [uses_concat, List.getElem?_append_left (by rwa [length_uses])]

lemma uses_last (us : List (Use ι τ)) (u : Use ι τ) :
    (uses (us ++ [u]))[us.length]? = some ⟨u, ((cache us).use u).1⟩ := by
  rw [uses_concat, ← length_uses us, List.getElem?_concat_length]

/-- The place of a use. -/
lemma lt_length {us : List (Use ι τ)} {j : ℕ} {o : Outcome ι τ} (h : (uses us)[j]? = some o) :
    j < us.length := by
  rw [← length_uses us]
  exact (List.getElem?_eq_some_iff.mp h).1

/-- The acceptance has not been forgotten by any use between it and the `n`-th. -/
def Kept (h : List (Outcome ι τ)) (i n : ℕ) (e : τ) : Prop :=
  ∀ k u, i < k → k < n → h[k]? = some u → u.use.now ≤ e

/-- **The cache holds what has been accepted and not been forgotten.** -/
theorem cache_eq_some {us : List (Use ι τ)} {id : ι} {e : τ} :
    cache us id = some e ↔ ∃ i o, (uses us)[i]? = some o ∧ o.accepted = true ∧ o.use.id = id
      ∧ o.use.exp = e ∧ Kept (uses us) i us.length e := by
  induction us using List.reverseRecOn generalizing e with
  | nil => simp [cache, uses, Runs.history]
  | append_singleton us u ih =>
      have hcache : cache (us ++ [u]) = (cache us).step u := Runs.exec_concat _ _ _ _
      rw [hcache, Cache.step_eq_some, ih, List.length_append, List.length_singleton]
      constructor
      · rintro (⟨hacc, rfl, rfl⟩ | ⟨⟨i, o, hi, hacc, rfl, rfl, hkept⟩, hnow⟩)
        · exact ⟨us.length, _, uses_last us u, hacc, rfl, rfl, fun k u' hk hk' => by omega⟩
        · have hlt := lt_length hi
          refine ⟨i, o, (uses_front u hlt).trans hi, hacc, rfl, rfl, fun k u' hik hk hku => ?_⟩
          rcases Nat.lt_succ_iff_lt_or_eq.mp hk with hk | rfl
          · exact hkept k u' hik hk ((uses_front u hk).symm.trans hku)
          · rw [uses_last] at hku
            rw [← Option.some.inj hku]
            exact hnow
      · rintro ⟨i, o, hi, hacc, rfl, rfl, hkept⟩
        have hle : i < us.length + 1 := by simpa using lt_length hi
        rcases Nat.lt_succ_iff_lt_or_eq.mp hle with hlt | rfl
        · refine .inr ⟨⟨i, o, (uses_front u hlt).symm.trans hi, hacc, rfl, rfl, fun k u' hik hk hku =>
            hkept k u' hik (by omega) ((uses_front u hk).trans hku)⟩, ?_⟩
          exact hkept us.length _ hlt (by omega) (uses_last us u)
        · rw [uses_last] at hi
          obtain rfl := Option.some.inj hi
          exact .inl ⟨hacc, rfl, rfl⟩

/-! ## Acceptance -/

/-- The id has been accepted, and every use since has come before its expiry, as does one now. -/
def Known (h : List (Outcome ι τ)) (id : ι) (now : τ) : Prop :=
  ∃ i o, h[i]? = some o ∧ o.accepted = true ∧ o.use.id = id ∧ Kept h i h.length o.use.exp
    ∧ now ≤ o.use.exp

/-- **The next use is accepted if its id is not known.** -/
theorem use_iff_not_known {us : List (Use ι τ)} {u : Use ι τ} :
    ((cache us).use u).1 = true ↔ ¬ Known (uses us) u.id u.now := by
  rw [Cache.use_accepts]
  constructor
  · rintro h ⟨i, o, hi, hacc, hid, hkept, hnow⟩
    rw [length_uses] at hkept
    exact h _ (cache_eq_some.mpr ⟨i, o, hi, hacc, hid, rfl, hkept⟩) hnow
  · intro h e he hnow
    obtain ⟨i, o, hi, hacc, hid, rfl, hkept⟩ := cache_eq_some.mp he
    rw [← length_uses us] at hkept
    exact h ⟨i, o, hi, hacc, hid, hkept, hnow⟩

/-- **A use is accepted if every earlier acceptance of its id has been forgotten**, by a reading
beyond its expiry that a use since, or this one, has brought. -/
theorem accepted_iff {us : List (Use ι τ)} {j : ℕ} {o : Outcome ι τ}
    (hj : (uses us)[j]? = some o) :
    o.accepted = true ↔ ∀ i o', i < j → (uses us)[i]? = some o' → o'.accepted = true →
      o'.use.id = o.use.id → ¬ Kept (uses us) i (j + 1) o'.use.exp := by
  induction us using List.reverseRecOn with
  | nil => simp [uses, Runs.history] at hj
  | append_singleton us u ih =>
      have hkept : ∀ i n e, n ≤ us.length →
          (Kept (uses (us ++ [u])) i n e ↔ Kept (uses us) i n e) := by
        intro i n e hn
        constructor
        · intro h k v hik hk hkv
          exact h k v hik hk ((uses_front u (by omega)).trans hkv)
        · intro h k v hik hk hkv
          exact h k v hik hk ((uses_front u (by omega)).symm.trans hkv)
      have hle : j < us.length + 1 := by simpa using lt_length hj
      rcases Nat.lt_succ_iff_lt_or_eq.mp hle with hlt | rfl
      · rw [ih ((uses_front u hlt).symm.trans hj)]
        refine forall₃_congr fun i o' hij => ?_
        rw [uses_front u (by omega), hkept i (j + 1) _ hlt]
      · rw [uses_last] at hj
        obtain rfl := Option.some.inj hj
        rw [Cache.use_accepts]
        constructor
        · intro h i o' hij hi hacc hid hforgotten
          refine h o'.use.exp (cache_eq_some.mpr ⟨i, o', (uses_front u hij).symm.trans hi, hacc, hid,
            rfl, (hkept i _ _ (le_refl _)).mp fun k v hik hk => hforgotten k v hik (by omega)⟩) ?_
          exact hforgotten us.length _ hij (by omega) (uses_last us u)
        · intro h e he hnow
          obtain ⟨i, o', hi, hacc, hid, rfl, hkept'⟩ := cache_eq_some.mp he
          have hij := lt_length hi
          refine h i o' hij ((uses_front u hij).trans hi) hacc hid fun k v hik hk hkv => ?_
          rcases Nat.lt_succ_iff_lt_or_eq.mp hk with hk | rfl
          · exact hkept' k v hik hk ((uses_front u hk).symm.trans hkv)
          · rw [uses_last] at hkv
            rw [← Option.some.inj hkv]
            exact hnow

/-- Every id is accepted once at most. -/
def AcceptedOnce (h : List (Outcome ι τ)) : Prop :=
  ∀ (i j : ℕ) (o o' : Outcome ι τ), h[i]? = some o → h[j]? = some o' → o.accepted = true →
    o'.accepted = true → o.use.id = o'.use.id → i = j

/-- An id that has been accepted is used again only as long as no use, this one included, has
brought a reading beyond the expiry that it was accepted with. -/
def Remembered (h : List (Outcome ι τ)) : Prop :=
  ∀ (i j : ℕ) (o again : Outcome ι τ), h[i]? = some o → o.accepted = true → i < j →
    h[j]? = some again → again.use.id = o.use.id → Kept h i (j + 1) o.use.exp

/-- **Ids are accepted once exactly where they are remembered as long as they are used.** A clock
that goes forward and back again makes the cache forget: the entry is dropped at the later reading,
and at the earlier one it would still have been good. -/
theorem acceptedOnce_iff (us : List (Use ι τ)) : AcceptedOnce (uses us) ↔ Remembered (uses us) := by
  constructor
  · intro honce i j o again hi hacc hij hj hid
    by_contra hforgotten
    have hrefused : ¬ again.accepted = true := fun hacc' =>
      absurd (honce i j o again hi hj hacc hacc' hid.symm) (by omega)
    rw [accepted_iff hj] at hrefused
    push Not at hrefused
    obtain ⟨i', o', hij', hi', hacc', hid', hkept⟩ := hrefused
    obtain rfl := honce i i' o o' hi hi' hacc hacc' (hid.symm.trans hid'.symm)
    rw [Option.some.inj (hi'.symm.trans hi)] at hkept
    exact hforgotten hkept
  · intro hremembered
    have earlier : ∀ (i j : ℕ) (o o' : Outcome ι τ), (uses us)[i]? = some o →
        (uses us)[j]? = some o' → o.accepted = true → o'.accepted = true →
        o.use.id = o'.use.id → ¬ i < j := by
      intro i j o o' hi hj hacc hacc' hid hij
      exact (accepted_iff hj).mp hacc' i o hij hi hacc hid
        (hremembered i j o o' hi hacc hij hj hid.symm)
    intro i j o o' hi hj hacc hacc' hid
    exact Nat.le_antisymm (not_lt.mp (earlier j i o' o hj hi hacc' hacc hid.symm))
      (not_lt.mp (earlier i j o o' hi hj hacc hacc' hid))

end ReplayCache
