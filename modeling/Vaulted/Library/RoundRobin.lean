import Mathlib.Data.Finset.Sort
import Mathlib.Data.Finset.Union
import Mathlib.Data.Prod.Lex
import Mathlib.Order.Interval.Finset.Nat

/-!
# Rounds that serve the oldest

In every round the `b` items whose keys are least are served.  An item that is served gets a key
behind all others, unless it is stuck; then it keeps its key, and is served again.

* `Round`, `Rounds` — one round, and a run of them, from the keys `origin` on.
* `visited` — what has been served.
* `Listing` — the items in the order of their keys, one way or another where keys agree.
* `Fits` — the items can be cut into portions, one for each round, each of which has room beside
  the stuck items of the portions before.
* `Rounds.visited_of_fits` — if every listing fits, every run serves every item;
  `Rounds.fits_of_visited` — a run that breaks ties as a listing does, and serves every item,
  shows that the listing fits.
-/

namespace RoundRobin

variable {ι τ : Type*} [DecidableEq ι] [LinearOrder τ]

/-! ## Rounds -/

/-- One round: as many items as there is room for are served, none of them younger than one that is
not. The key of an item that moves goes behind all the keys that the run began with; ties may be
broken in any way. -/
structure Round (b : Nat) (stuck : ι → Bool) (items : Finset ι) (origin key : ι → τ)
    (served : Finset ι) (key' : ι → τ) : Prop where
  subset : served ⊆ items
  card : served.card = min b items.card
  oldest : ∀ x ∈ served, ∀ y ∈ items, y ∉ served → key x ≤ key y
  stays : ∀ x, x ∉ served ∨ stuck x = true → key' x = key x
  moves : ∀ x ∈ served, stuck x = false → ∀ y ∈ items, origin y < key' x

/-- `m` rounds; `served j` is what the `j`-th of them serves, at the keys `key j`. -/
structure Rounds (b : Nat) (stuck : ι → Bool) (items : Finset ι) (m : Nat)
    (served : Nat → Finset ι) (key : Nat → ι → τ) : Prop where
  round : ∀ j < m, Round b stuck items (key 0) (key j) (served j) (key (j + 1))

def visited (served : Nat → Finset ι) (j : Nat) : Finset ι := (Finset.range j).biUnion served

lemma mem_visited {served : Nat → Finset ι} {j : Nat} {x : ι} :
    x ∈ visited served j ↔ ∃ i < j, x ∈ served i := by
  simp [visited]

@[simp] lemma visited_zero (served : Nat → Finset ι) : visited served 0 = ∅ := rfl

lemma visited_succ (served : Nat → Finset ι) (j : Nat) :
    visited served (j + 1) = visited served j ∪ served j := by
  rw [visited, Finset.range_add_one, Finset.biUnion_insert, Finset.union_comm, visited]

lemma visited_mono {served : Nat → Finset ι} {i j : Nat} (h : i ≤ j) :
    visited served i ⊆ visited served j :=
  Finset.biUnion_subset_biUnion_of_subset_left _ (Finset.range_subset_range.mpr h)

section Rounds

variable {b m : Nat} {stuck : ι → Bool} {items : Finset ι} {served : Nat → Finset ι}
  {key : Nat → ι → τ}

lemma Rounds.visited_subset (h : Rounds b stuck items m served key) {j : Nat} (hj : j ≤ m) :
    visited served j ⊆ items := by
  intro x hx
  obtain ⟨i, hi, hx⟩ := mem_visited.mp hx
  exact (h.round i (by omega)).subset hx

/-- What has not been served, or is stuck, has its first key. -/
lemma Rounds.key_of_stays (h : Rounds b stuck items m served key) {j : Nat} (hj : j ≤ m) {x : ι}
    (hx : x ∉ visited served j ∨ stuck x = true) : key j x = key 0 x := by
  induction j with
  | zero => rfl
  | succ j ih =>
      rw [visited_succ, Finset.notMem_union] at hx
      rw [(h.round j hj).stays x (hx.imp_left And.right), ih (by omega) (hx.imp_left And.left)]

/-- What has been served, and is not stuck, is behind all that has its first key. -/
lemma Rounds.key_of_moves (h : Rounds b stuck items m served key) {j : Nat} (hj : j ≤ m) {x y : ι}
    (hx : x ∈ visited served j) (hstuck : stuck x = false) (hy : y ∈ items) :
    key 0 y < key j x := by
  induction j with
  | zero => simp at hx
  | succ j ih =>
      by_cases hserved : x ∈ served j
      · exact (h.round j hj).moves x hserved hstuck y hy
      · rw [visited_succ, Finset.mem_union] at hx
        rw [(h.round j hj).stays x (.inl hserved)]
        exact ih (by omega) (hx.resolve_right hserved)

/-- The older items come first. -/
lemma Rounds.le_of_visited (h : Rounds b stuck items m served key) {j : Nat} (hj : j ≤ m) {x y : ι}
    (hx : x ∈ visited served j) (hy : y ∈ items) (hnew : y ∉ visited served j) :
    key 0 x ≤ key 0 y := by
  induction j with
  | zero => simp at hx
  | succ j ih =>
      rw [visited_succ, Finset.notMem_union] at hnew
      by_cases hold : x ∈ visited served j
      · exact ih (by omega) hold hnew.1
      · rw [visited_succ, Finset.mem_union] at hx
        have hle := (h.round j hj).oldest x (hx.resolve_left hold) y hy hnew.2
        rwa [h.key_of_stays (by omega) (.inl hold), h.key_of_stays (by omega) (.inl hnew.1)] at hle

/-- **A round that does not finish serves as many new items as the stuck ones leave room for.** -/
lemma Rounds.progress (h : Rounds b stuck items m served key) {j : Nat} (hj : j < m)
    (hunfinished : ¬items ⊆ visited served (j + 1)) :
    b ≤ (served j \ visited served j).card
      + ((visited served j).filter fun x => stuck x = true).card := by
  have hround := h.round j hj
  have hcard : served j = items ∨ (served j).card = b := by
    rcases Nat.le_total items.card b with hle | hle
    · exact .inl (Finset.eq_of_subset_of_card_le hround.subset (by rw [hround.card]; omega))
    · exact .inr (by rw [hround.card]; omega)
  rcases hcard with hall | hcard
  · refine absurd ?_ hunfinished
    rw [visited_succ, hall]
    exact Finset.subset_union_right
  · obtain ⟨y, hy, hnew⟩ := Finset.not_subset.mp hunfinished
    rw [visited_succ, Finset.notMem_union] at hnew
    -- an item that has moved is behind `y`, and cannot be served before it
    have hsubset : served j ⊆ (served j \ visited served j)
        ∪ (visited served j).filter fun x => stuck x = true := by
      intro x hx
      rw [Finset.mem_union, Finset.mem_sdiff, Finset.mem_filter]
      by_cases hold : x ∈ visited served j
      · refine .inr ⟨hold, Bool.of_not_eq_false fun hmoves => ?_⟩
        have hbehind := h.key_of_moves (Nat.le_of_lt hj) hold hmoves hy
        have hle := hround.oldest x hx y hy hnew.2
        rw [h.key_of_stays (Nat.le_of_lt hj) (.inl hnew.1)] at hle
        exact absurd hle (not_le_of_gt hbehind)
      · exact .inl ⟨hx, hold⟩
    rw [← hcard]
    exact (Finset.card_le_card hsubset).trans (Finset.card_union_le _ _)

end Rounds

/-! ## Listings -/

/-- The items, each once, in the order of their keys. -/
structure Listing (items : Finset ι) (origin : ι → τ) (L : List ι) : Prop where
  nodup : L.Nodup
  mem : ∀ x, x ∈ L ↔ x ∈ items
  sorted : L.Pairwise fun x y => origin x ≤ origin y

/-- A listing can be cut into `m` portions, each of which has room beside `k` items and those of
the portions before that are stuck. -/
inductive Fits (b : Nat) (stuck : ι → Bool) : Nat → Nat → List ι → Prop
  | Done (k : Nat) : Fits b stuck 0 k []
  | Portion (m k : Nat) (portion rest : List ι) : portion.length + k ≤ b →
      Fits b stuck m (k + portion.countP stuck) rest → Fits b stuck (m + 1) k (portion ++ rest)

omit [DecidableEq ι] in
/-- Where nothing is stuck, there is only the number of items to be considered. -/
lemma fits_of_moving {b : Nat} {stuck : ι → Bool} {L : List ι} (hmoving : ∀ x ∈ L, stuck x = false)
    {m : Nat} (hlen : L.length ≤ m * b) : Fits b stuck m 0 L := by
  induction m generalizing L with
  | zero =>
      rw [Nat.zero_mul, Nat.le_zero, List.length_eq_zero_iff] at hlen
      exact hlen ▸ .Done 0
  | succ m ih =>
      have hnone : (L.take b).countP stuck = 0 := by
        rw [List.countP_eq_zero]
        exact fun x hx => by simp [hmoving x (List.mem_of_mem_take hx)]
      rw [← List.take_append_drop b L]
      refine .Portion m 0 _ _ (List.length_take_le b L) ?_
      rw [hnone]
      refine ih (fun x hx => hmoving x (List.mem_of_mem_drop hx)) ?_
      rw [List.length_drop]
      rw [Nat.add_mul] at hlen
      omega

/-- The items of `V` come first. -/
def Front (V : Finset ι) (L : List ι) : Prop := L.Pairwise fun x y => y ∈ V → x ∈ V

/-- The items of a listing that are in `V`. -/
def part (V : Finset ι) (L : List ι) : List ι := L.filter fun x => decide (x ∈ V)

section Front

variable {V W : Finset ι} {L : List ι}

lemma part_initial (h : Front V L) : part V L <+: L := by
  induction L with
  | nil => exact List.nil_prefix
  | cons a L ih =>
      obtain ⟨hhead, htail⟩ := List.pairwise_cons.mp h
      by_cases ha : a ∈ V
      · rw [part, List.filter_cons_of_pos (by simpa using ha)]
        exact List.prefix_cons_inj a |>.mpr (ih htail)
      · have hnone : part V (a :: L) = [] := by
          rw [part, List.filter_eq_nil_iff]
          intro x hx
          rcases List.mem_cons.mp hx with rfl | hx
          · simpa using ha
          · simpa using fun hin => ha (hhead x hx hin)
        rw [hnone]
        exact List.nil_prefix

lemma mem_part {x : ι} : x ∈ part V L ↔ x ∈ L ∧ x ∈ V := by simp [part]

lemma toFinset_part (hV : ∀ x ∈ V, x ∈ L) : (part V L).toFinset = V := by
  ext x
  rw [List.mem_toFinset, mem_part]
  exact ⟨And.right, fun h => ⟨hV x h, h⟩⟩

lemma nodup_part (hnodup : L.Nodup) : (part V L).Nodup := hnodup.filter _

lemma length_part (hnodup : L.Nodup) (hV : ∀ x ∈ V, x ∈ L) : (part V L).length = V.card := by
  rw [← List.toFinset_card_of_nodup (nodup_part hnodup), toFinset_part hV]

lemma countP_part (hnodup : L.Nodup) (hV : ∀ x ∈ V, x ∈ L) (p : ι → Bool) :
    (part V L).countP p = (V.filter fun x => p x = true).card := by
  rw [List.countP_eq_length_filter, ← List.toFinset_card_of_nodup ((nodup_part hnodup).filter _),
    List.toFinset_filter, toFinset_part hV]

/-- Of two prefixes of a list, the shorter one is a prefix of the other. -/
lemma part_initial_part (hV : Front V L) (hW : Front W L) (h : V ⊆ W) : part V L <+: part W L := by
  refine List.prefix_of_prefix_length_le (part_initial hV) (part_initial hW) ?_
  refine (List.monotone_filter_right L fun x hx => ?_).length_le
  simpa using h (by simpa using hx)

end Front

/-! ## Every listing fits -/

section Rounds

variable {b m : Nat} {stuck : ι → Bool} {items : Finset ι} {served : Nat → Finset ι}
  {key : Nat → ι → τ} {L : List ι}

/-- How long an item waits. -/
def wait (served : Nat → Finset ι) (m : Nat) (x : ι) : Nat :=
  ((Finset.range (m + 1)).filter fun j => x ∉ visited served j).card

lemma wait_lt {j : Nat} (hj : j ≤ m) {x y : ι} (hx : x ∈ visited served j)
    (hy : y ∉ visited served j) : wait served m x < wait served m y := by
  refine Finset.card_lt_card (Finset.ssubset_iff_subset_ne.mpr ⟨fun i hi => ?_, fun heq => ?_⟩)
  · obtain ⟨hlt, hwaits⟩ := Finset.mem_filter.mp hi
    refine Finset.mem_filter.mpr ⟨hlt, fun hserved => ?_⟩
    rcases Nat.le_total i j with hij | hij
    · exact hy (visited_mono hij hserved)
    · exact hwaits (visited_mono hij hx)
  · have hmem : j ∈ (Finset.range (m + 1)).filter fun i => y ∉ visited served i :=
      Finset.mem_filter.mpr ⟨Finset.mem_range.mpr (Nat.lt_succ_of_le hj), hy⟩
    rw [← heq] at hmem
    exact (Finset.mem_filter.mp hmem).2 hx

/-- A run lists the items: by their keys, and where these agree by the time they have waited. -/
lemma Rounds.exists_listing (h : Rounds b stuck items m served key) :
    ∃ L, Listing items (key 0) L ∧ ∀ j ≤ m, Front (visited served j) L := by
  let rank : ι → τ ×ₗ Nat := fun x => toLex (key 0 x, wait served m x)
  let L := items.toList.mergeSort fun x y => decide (rank x ≤ rank y)
  have hperm : L.Perm items.toList := List.mergeSort_perm _ _
  have hmem : ∀ x, x ∈ L ↔ x ∈ items := fun x => by rw [hperm.mem_iff, Finset.mem_toList]
  have hsorted : L.Pairwise fun x y => rank x ≤ rank y := by
    refine (List.pairwise_mergeSort (fun x y z hxy hyz => ?_) (fun x y => ?_) _).imp ?_
    · simpa using le_trans (of_decide_eq_true hxy) (of_decide_eq_true hyz)
    · simpa using le_total (rank x) (rank y)
    · exact fun hxy => of_decide_eq_true hxy
  refine ⟨L, ⟨hperm.nodup_iff.mpr items.nodup_toList, hmem, ?_⟩, fun j hj => ?_⟩
  · exact hsorted.imp fun hxy => Prod.Lex.monotone_fst _ _ hxy
  · refine hsorted.imp_of_mem fun {x y} hx hy hxy hserved => ?_
    by_contra hwaits
    have hle := h.le_of_visited hj hserved ((hmem x).mp hx) hwaits
    rcases Prod.Lex.toLex_le_toLex.mp hxy with hlt | ⟨-, hwait⟩
    · exact absurd hle (not_le_of_gt hlt)
    · exact absurd hwait (Nat.not_le_of_lt (wait_lt hj hserved hwaits))

lemma Listing.mem_of_visited (hL : Listing items (key 0) L)
    (h : Rounds b stuck items m served key) {j : Nat} (hj : j ≤ m) :
    ∀ x ∈ visited served j, x ∈ L := fun x hx => (hL.mem x).mpr (h.visited_subset hj hx)

lemma card_visited_succ (served : Nat → Finset ι) (j : Nat) : (visited served (j + 1)).card
    = (served j \ visited served j).card + (visited served j).card := by
  rw [visited_succ, Finset.union_comm, Finset.card_sdiff_add_card]

/-- **If every listing fits, every run serves every item.** The listing to look at is the one that
breaks ties as the run does; the induction is on its portions, and says that those which should have
been served by now have been. -/
theorem Rounds.visited_of_fits (h : Rounds b stuck items m served key)
    (hfits : ∀ L, Listing items (key 0) L → Fits b stuck m 0 L) : items ⊆ visited served m := by
  obtain ⟨L, hL, hfront⟩ := h.exists_listing
  -- the portions that should have been served by now have been
  have hrun : ∀ m' k rest, Fits b stuck m' k rest → ∀ j pre, j + m' = m → pre ++ rest = L →
      k = pre.countP stuck → pre <+: part (visited served j) L → items ⊆ visited served m := by
    intro m' k rest hfits
    induction hfits with
    | Done k =>
        rintro j pre rfl hpre - hserved x hx
        rw [List.append_nil] at hpre
        exact (mem_part.mp (hserved.subset (hpre ▸ (hL.mem x).mpr hx))).2
    | Portion m' k portion rest hroom _ ih =>
        rintro j pre hj hpre rfl hserved
        by_cases hfinished : items ⊆ visited served (j + 1)
        · exact hfinished.trans (visited_mono (by omega))
        refine ih (j + 1) (pre ++ portion) (by omega) (by rw [List.append_assoc, hpre])
          (List.countP_append ..).symm ?_
        refine List.prefix_of_prefix_length_le ⟨rest, by rw [List.append_assoc, hpre]⟩
          (part_initial (hfront (j + 1) (by omega))) ?_
        have hprogress := h.progress (by omega) hfinished
        rw [← countP_part hL.nodup (hL.mem_of_visited h (by omega))] at hprogress
        have hlen := length_part hL.nodup (hL.mem_of_visited h (show j ≤ m by omega))
        have hlen' := length_part hL.nodup (hL.mem_of_visited h (show j + 1 ≤ m by omega))
        rw [card_visited_succ, ← hlen] at hlen'
        obtain ⟨ahead, hahead⟩ := hserved
        rw [← hahead, List.countP_append] at hprogress
        rw [← hahead, List.length_append] at hlen'
        have hle := List.countP_le_length (p := stuck) (l := ahead)
        rw [List.length_append]
        omega
  exact hrun m 0 L (hfits L hL) 0 [] (Nat.zero_add m) rfl rfl List.nil_prefix

/-! ## What a run shows about a listing -/

/-- The run breaks ties as the listing does. -/
def BreaksTies (m : Nat) (served : Nat → Finset ι) (key : Nat → ι → τ) (L : List ι) : Prop :=
  ∀ j < m, L.Pairwise fun x y => y ∈ served j → x ∉ served j → key j x ≠ key j y

lemma Rounds.front (h : Rounds b stuck items m served key) (hL : Listing items (key 0) L)
    (hties : BreaksTies m served key L) {j : Nat} (hj : j ≤ m) : Front (visited served j) L := by
  induction j with
  | zero => exact List.pairwise_of_forall fun x y hy => by simp at hy
  | succ j ih =>
      refine (((ih (by omega)).and hL.sorted).and (hties j hj)).imp_of_mem ?_
      rintro x y hx hy ⟨⟨hfront, hle⟩, hne⟩ hserved
      rw [visited_succ, Finset.mem_union] at hserved ⊢
      by_contra hwaits
      obtain ⟨hold, hnew⟩ := not_or.mp hwaits
      have hyold : y ∉ visited served j := fun hy => hold (hfront hy)
      have hyserved := hserved.resolve_left hyold
      have hge := (h.round j hj).oldest y hyserved x ((hL.mem x).mp hx) hnew
      have hnekey := hne hyserved hnew
      rw [h.key_of_stays (by omega) (.inl hold), h.key_of_stays (by omega) (.inl hyold)] at hge hnekey
      exact hnekey (le_antisymm hle hge)

/-- A round serves the stuck items before it serves a new one. -/
lemma Rounds.room (h : Rounds b stuck items m served key) (hL : Listing items (key 0) L)
    (hties : BreaksTies m served key L) {j : Nat} (hj : j < m) {portion : List ι}
    (hportion : part (visited served j) L ++ portion = part (visited served (j + 1)) L)
    (hroom : (part (visited served j) L).countP stuck ≤ b) :
    portion.length + (part (visited served j) L).countP stuck ≤ b := by
  cases hfirst : portion with
  | nil => simpa using hroom
  | cons y ys =>
      have hround := h.round j hj
      have hnodup : (part (visited served j) L ++ portion).Nodup := hportion ▸ nodup_part hL.nodup
      have hnew : ∀ x ∈ portion, x ∈ served j ∧ x ∉ visited served j := by
        intro x hx
        have hmem : x ∈ part (visited served (j + 1)) L := hportion ▸ List.mem_append_right _ hx
        have hold : x ∉ visited served j := fun hold => List.disjoint_of_nodup_append hnodup
          (mem_part.mpr ⟨(mem_part.mp hmem).1, hold⟩) hx
        have hserved := (mem_part.mp hmem).2
        rw [visited_succ, Finset.mem_union] at hserved
        exact ⟨hserved.resolve_left hold, hold⟩
      have hy : y ∈ portion := hfirst ▸ List.mem_cons_self
      -- what precedes `y` in the listing and is stuck has its first key, and comes first
      have hstuck : ∀ x ∈ (part (visited served j) L).filter stuck, x ∈ served j := by
        intro x hx
        obtain ⟨hx, hstuck⟩ := List.mem_filter.mp hx
        by_contra hwaits
        have hpair := (hL.sorted.and (hties j hj)).sublist
          (part_initial (h.front hL hties (j := j + 1) hj)).sublist
        rw [← hportion] at hpair
        obtain ⟨hle, hne⟩ := (List.pairwise_append.mp hpair).2.2 x hx y hy
        have hge := hround.oldest y (hnew y hy).1 x ((hL.mem x).mp (mem_part.mp hx).1) hwaits
        have hnekey := hne (hnew y hy).1 hwaits
        rw [h.key_of_stays (by omega) (.inr hstuck),
          h.key_of_stays (by omega) (.inl (hnew y hy).2)] at hge hnekey
        exact hnekey (le_antisymm hle hge)
      have hall : portion ++ (part (visited served j) L).filter stuck ⊆ (served j).toList := by
        intro x hx
        rw [Finset.mem_toList]
        rcases List.mem_append.mp hx with hx | hx
        · exact (hnew x hx).1
        · exact hstuck x hx
      have hnodup' : (portion ++ (part (visited served j) L).filter stuck).Nodup := by
        refine (List.perm_append_comm.nodup_iff).mp (hnodup.sublist ?_)
        exact List.filter_sublist.append_right _
      have hle := (hnodup'.subperm hall).length_le
      rw [List.length_append, Finset.length_toList, hround.card, ← List.countP_eq_length_filter]
        at hle
      rw [← hfirst]
      omega

/-- **A run that breaks ties as a listing does, and serves every item, shows that it fits.** The
portions are what each round serves for the first time, which is a stretch of the listing. -/
theorem Rounds.fits_of_visited (h : Rounds b stuck items m served key)
    (hL : Listing items (key 0) L) (hties : BreaksTies m served key L)
    (hall : items ⊆ visited served m) : Fits b stuck m 0 L := by
  have hfront : ∀ j ≤ m, Front (visited served j) L := fun j hj => h.front hL hties hj
  have hnext : ∀ j < m, ∃ portion,
      part (visited served j) L ++ portion = part (visited served (j + 1)) L := fun j hj =>
    part_initial_part (hfront j (by omega)) (hfront (j + 1) hj) (visited_mono (Nat.le_succ j))
  have hroom : ∀ j ≤ m, (part (visited served j) L).countP stuck ≤ b := by
    intro j hj
    induction j with
    | zero => simp [part]
    | succ j ih =>
        obtain ⟨portion, hportion⟩ := hnext j hj
        have hle := h.room hL hties hj hportion (ih (by omega))
        rw [← hportion, List.countP_append]
        have := List.countP_le_length (p := stuck) (l := portion)
        omega
  have hrest : ∀ m' j rest, j + m' = m → part (visited served j) L ++ rest = L →
      Fits b stuck m' ((part (visited served j) L).countP stuck) rest := by
    intro m'
    induction m' with
    | zero =>
        rintro j rest rfl hrest
        have hdone : part (visited served j) L = L := by
          refine List.filter_eq_self.mpr fun x hx => ?_
          simpa using hall ((hL.mem x).mp hx)
        rw [hdone, List.append_right_eq_self] at hrest
        exact hrest ▸ .Done _
    | succ m' ih =>
        intro j rest hj hrest
        obtain ⟨portion, hportion⟩ := hnext j (by omega)
        obtain ⟨rest', hrest'⟩ := part_initial (hfront (j + 1) (by omega))
        have hsplit : rest = portion ++ rest' := by
          rw [← hportion, List.append_assoc] at hrest'
          exact List.append_cancel_left (hrest.trans hrest'.symm)
        have hfits := ih (j + 1) rest' (by omega) hrest'
        rw [← hportion, List.countP_append] at hfits
        rw [hsplit]
        exact .Portion m' _ portion rest' (h.room hL hties (by omega) hportion (hroom j (by omega)))
          hfits
  have hfits := hrest m 0 L (Nat.zero_add m) (by simp [part])
  simpa [part] using hfits

end Rounds

end RoundRobin
