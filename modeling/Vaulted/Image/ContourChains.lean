import Mathlib.Data.Fintype.Card
import Mathlib.Data.List.Nodup
import Vaulted.Oracle.NftImage

/-!
# Chains of contour segments

What the loops of `chain_segments` make of a list of segments, whatever it means for two points to
be near.

* `Polyline` — points along segments, each of which begins near the end of the one before.
* `finishedChains` — the chains in the order in which the loop finishes them, the short ones too,
  with the segments that became used for each.
* `Chaining` — every segment is in one chain, the chains are in the order of their lowest segments,
  and none of those that a chain leaves unused has an end near its head or tail.
* `grow_spec` — what `while changed` does to a chain.
* `chainSegments_chaining` — the loops end, and what they return is the long ones of such chains.
-/

namespace Vaulted.NftImage

variable {P : Type} (near : P → P → Bool)

/-! ## Polylines -/

/-- A segment, walked along in either direction. -/
def directions (s : P × P) : List (P × P) := [s, s.swap]

/-- Points along these segments, from the head to the tail. -/
inductive Polyline (pts : List (P × P)) : List (Fin pts.length) → List P → Prop
  | Single (i : Fin pts.length) : Polyline pts [i] [(pts.get i).1, (pts.get i).2]
  | Tail {is : List (Fin pts.length)} {ch : List P} {z : P} {j : Fin pts.length} {e : P × P} :
      Polyline pts is ch → z ∈ ch.getLast? → e ∈ directions (pts.get j) → near z e.1 = true →
      Polyline pts (is ++ [j]) (ch ++ [e.2])
  | Head {is : List (Fin pts.length)} {ch : List P} {z : P} {j : Fin pts.length} {e : P × P} :
      Polyline pts is ch → z ∈ ch.head? → e ∈ directions (pts.get j) → near z e.2 = true →
      Polyline pts (j :: is) (e.1 :: ch)

/-- An end of the segment is near the head or the tail. -/
def Touches (s : P × P) (ch : List P) : Prop :=
  ∃ p ∈ [s.1, s.2], ∃ z, (z ∈ ch.head? ∨ z ∈ ch.getLast?) ∧ near p z = true

lemma Polyline.length_eq {pts : List (P × P)} {is : List (Fin pts.length)} {ch : List P}
    (h : Polyline near pts is ch) : ch.length = is.length + 1 := by
  induction h with
  | Single i => rfl
  | Tail _ _ _ _ ih => simp [ih]
  | Head _ _ _ _ ih => simp [ih]

/-! ## The chains that the loop finishes -/

/-- A finished chain: the segment that it started from, those that became used for it, those that
are left unused at that moment, and its points. -/
structure Finished (n : ℕ) (P : Type) where
  first : Fin n
  members : List (Fin n)
  left : List (Fin n)
  points : List P

/-- The segments that are not used. -/
def unusedOf {n : ℕ} (used : Fin n → Bool) : List (Fin n) :=
  (List.finRange n).filter fun j => !used j

/-- The segments that became used. -/
def newlyUsed {n : ℕ} (used used' : Fin n → Bool) : List (Fin n) :=
  (List.finRange n).filter fun j => !used j && used' j

section Loop

variable {pts : List (P × P)}

/-- The loop of `chainFrom`, which keeps every chain. -/
def finishedFrom (fuel : ℕ) : List (Fin pts.length) → (Fin pts.length → Bool) →
    Option (List (Finished pts.length P))
  | [], _ => some []
  | i :: is, used =>
      if used i then finishedFrom fuel is used
      else (grow near fuel (start used i)).bind fun g =>
        (finishedFrom fuel is g.used).map (⟨i, newlyUsed used g.used, unusedOf g.used, g.ch⟩ :: ·)

end Loop

def finishedChains (fuel : ℕ) (pts : List (P × P)) : Option (List (Finished pts.length P)) :=
  finishedFrom near fuel (List.finRange pts.length) fun _ => false

/-- The chains that are returned. -/
def longChains {n : ℕ} (built : List (Finished n P)) : List (List P) :=
  (built.filter fun c => decide (c.points.length > 4)).map Finished.points

/-- What the chains that are built from these segments should be like: each segment is in one of
them, a chain of `k` segments has `k + 1` points, and none could have gone on. -/
structure Chaining (pts : List (P × P)) (segs : List (Fin pts.length))
    (built : List (Finished pts.length P)) : Prop where
  covers : (built.flatMap Finished.members).Perm segs
  joined : ∀ c ∈ built, ∃ is, is.Perm c.members ∧ Polyline near pts is c.points
  counted : ∀ c ∈ built, c.points.length = c.members.length + 1
  lowest : ∀ c ∈ built, c.first ∈ c.members ∧ ∀ j ∈ c.members, c.first ≤ j
  ordered : built.Pairwise fun c d => c.first < d.first
  maximal : ∀ c ∈ built, ∀ j ∈ c.left, ¬Touches near (pts.get j) c.points

section Loop

variable {near} {pts : List (P × P)}

lemma chainFrom_eq (fuel : ℕ) (is : List (Fin pts.length)) (used : Fin pts.length → Bool)
    (chains : List (List P)) : chainFrom near fuel is used chains
      = (finishedFrom near fuel is used).map fun built => chains ++ longChains built := by
  induction is generalizing used chains with
  | nil => simp [chainFrom, finishedFrom, longChains]
  | cons i is ih =>
      rw [chainFrom, finishedFrom]
      split_ifs with hused
      · exact ih used chains
      · cases hgrow : grow near fuel (start used i) with
        | none => rfl
        | some g =>
            simp only [Option.bind_some, ih, Option.map_map]
            congr 1
            funext built
            by_cases hlong : g.ch.length > 4
            · simp [longChains, hlong]
            · simp [longChains, hlong]

/-! ## One segment -/

lemma Growing.head_mem (g : Growing pts) : g.head ∈ g.ch.head? := by
  rw [Growing.head, List.head?_eq_some_head g.nonempty]
  rfl

lemma Growing.tail_mem (g : Growing pts) : g.tail ∈ g.ch.getLast? := by
  rw [Growing.tail, List.getLast?_eq_some_getLast g.nonempty]
  rfl

/-- **What a step can do**: a segment that is not used lengthens the chain at one end. -/
lemma extend_eq_some {g g' : Growing pts} {j : Fin pts.length} (h : extend near g j = some g') :
    g.used j = false ∧ ∃ e ∈ directions (pts.get j),
      (near g.tail e.1 = true ∧ g' = g.push j e.2)
        ∨ (near g.head e.2 = true ∧ g' = g.insert j e.1) := by
  simp only [extend] at h
  split_ifs at h with hused h₁ h₂ h₃ h₄
  · exact ⟨Bool.of_not_eq_true hused, pts.get j, by simp [directions],
      .inl ⟨h₁, (Option.some.inj h).symm⟩⟩
  · exact ⟨Bool.of_not_eq_true hused, (pts.get j).swap, by simp [directions],
      .inl ⟨h₂, (Option.some.inj h).symm⟩⟩
  · exact ⟨Bool.of_not_eq_true hused, pts.get j, by simp [directions],
      .inr ⟨h₃, (Option.some.inj h).symm⟩⟩
  · exact ⟨Bool.of_not_eq_true hused, (pts.get j).swap, by simp [directions],
      .inr ⟨h₄, (Option.some.inj h).symm⟩⟩

lemma extend_eq_none {g : Growing pts} {j : Fin pts.length} (h : extend near g j = none)
    (hused : g.used j = false) : ∀ p ∈ [(pts.get j).1, (pts.get j).2],
      near g.head p = false ∧ near g.tail p = false := by
  rw [extend, hused, if_neg Bool.false_ne_true] at h
  split_ifs at h with h₁ h₂ h₃ h₄
  simp only [Bool.not_eq_true] at h₁ h₂ h₃ h₄
  intro p hp
  rcases List.mem_pair.mp hp with rfl | rfl
  · exact ⟨h₄, h₁⟩
  · exact ⟨h₃, h₂⟩

/-! ## One chain -/

/-- A chain that has grown from the segment `i`, and the flags that it found. -/
def GrownFrom (near : P → P → Bool) (used : Fin pts.length → Bool) (i : Fin pts.length)
    (g : Growing pts) : Prop :=
  ∃ is, Polyline near pts is g.ch ∧ is.Nodup ∧ i ∈ is ∧ (∀ j ∈ is, used j = false)
    ∧ ∀ j, g.used j = true ↔ used j = true ∨ j ∈ is

/-- How many segments are not used. -/
def unused (used : Fin pts.length → Bool) : ℕ :=
  (Finset.univ.filter fun j => used j = false).card

lemma unused_update {used : Fin pts.length → Bool} {j : Fin pts.length} (h : used j = false) :
    unused (Function.update used j true) < unused used := by
  refine Finset.card_lt_card (Finset.ssubset_iff_subset_ne.mpr ⟨fun k hk => ?_, fun heq => ?_⟩)
  · rw [Finset.mem_filter_univ] at hk ⊢
    by_cases hkj : k = j
    · rw [hkj, h]
    · rwa [Function.update_of_ne hkj] at hk
  · have hj : j ∈ Finset.univ.filter fun j => used j = false := by simpa using h
    rw [← heq] at hj
    simp at hj

lemma grownFrom_start {used : Fin pts.length → Bool} {i : Fin pts.length} (h : used i = false) :
    GrownFrom near used i (start used i) := by
  refine ⟨[i], .Single i, List.nodup_singleton i, List.mem_singleton_self i, ?_, fun j => ?_⟩
  · simpa using h
  · by_cases hji : j = i
    · simp [start, hji]
    · simp [start, hji]

lemma GrownFrom.extend {used : Fin pts.length → Bool} {i j : Fin pts.length} {g g' : Growing pts}
    (h : GrownFrom near used i g) (hstep : extend near g j = some g') :
    GrownFrom near used i g' := by
  obtain ⟨is, hline, hnodup, hi, hfresh, hused⟩ := h
  obtain ⟨hj, e, he, hcases⟩ := extend_eq_some hstep
  have hnew : ¬(used j = true ∨ j ∈ is) := by rw [← hused j, hj]; exact Bool.false_ne_true
  rw [not_or, Bool.not_eq_true] at hnew
  have hset : ∀ k, Function.update g.used j true k = true ↔ used k = true ∨ k = j ∨ k ∈ is := by
    intro k
    by_cases hkj : k = j
    · simp [hkj]
    · simp [hkj, hused]
  rcases hcases with ⟨hnear, rfl⟩ | ⟨hnear, rfl⟩
  · refine ⟨is ++ [j], hline.Tail g.tail_mem he hnear, ?_, by simp [hi], ?_, fun k => ?_⟩
    · exact List.nodup_append_comm.mp (List.nodup_cons.mpr ⟨hnew.2, hnodup⟩)
    · simpa [or_imp, forall_and] using ⟨hfresh, hnew.1⟩
    · rw [List.mem_append, List.mem_singleton, or_comm (a := k ∈ is)]
      exact hset k
  · refine ⟨j :: is, hline.Head g.head_mem he hnear, List.nodup_cons.mpr ⟨hnew.2, hnodup⟩,
      List.mem_cons_of_mem j hi, List.forall_mem_cons.mpr ⟨hnew.1, hfresh⟩, fun k => ?_⟩
    rw [List.mem_cons]
    exact hset k

lemma unused_extend {g g' : Growing pts} {j : Fin pts.length} (h : extend near g j = some g') :
    unused g'.used < unused g.used := by
  obtain ⟨hj, e, -, ⟨-, rfl⟩ | ⟨-, rfl⟩⟩ := extend_eq_some h
  · exact unused_update hj
  · exact unused_update hj

/-- **`while changed` comes to an end**, with a chain that no segment is near which it has left. -/
theorem grow_spec (hsymm : ∀ p q, near p q = near q p) {used : Fin pts.length → Bool}
    {i : Fin pts.length} (h : used i = false) :
    ∃ g, (∀ fuel, pts.length ≤ fuel → grow near fuel (start used i) = some g)
      ∧ GrownFrom near used i g ∧ ∀ j, g.used j = false → ¬Touches near (pts.get j) g.ch := by
  have hfew : unused (start used i).used < pts.length := by
    refine Nat.lt_of_lt_of_le (unused_update h) ((Finset.card_le_univ _).trans ?_)
    rw [Fintype.card_fin]
  obtain ⟨g, hg, hgrown, hsettled⟩ := Passes.passes_total (I := GrownFrom near used i)
    (μ := fun g => unused g.used) (fun g j g' hgrown hstep => hgrown.extend hstep)
    (fun g j g' hstep => unused_extend hstep) (List.finRange pts.length) (grownFrom_start h) hfew
  refine ⟨g, fun fuel hfuel => Passes.passes_of_le hfuel hg, hgrown, fun j hj htouches => ?_⟩
  obtain ⟨p, hp, z, hz, hnear⟩ := htouches
  obtain ⟨hhead, htail⟩ := extend_eq_none (hsettled j (List.mem_finRange j)) hj p hp
  rw [hsymm] at hnear
  rcases hz with hz | hz
  · rw [Option.mem_unique hz g.head_mem, hhead] at hnear
    cases hnear
  · rw [Option.mem_unique hz g.tail_mem, htail] at hnear
    cases hnear

/-! ## All chains -/

lemma mem_unusedOf {n : ℕ} {used : Fin n → Bool} {j : Fin n} :
    j ∈ unusedOf used ↔ used j = false := by
  simp [unusedOf]

lemma mem_newlyUsed {n : ℕ} {used used' : Fin n → Bool} {j : Fin n} :
    j ∈ newlyUsed used used' ↔ used j = false ∧ used' j = true := by
  simp [newlyUsed]

/-- What was not used is now used, or is still not used. -/
lemma newlyUsed_perm {n : ℕ} {used used' : Fin n → Bool}
    (hmono : ∀ j, used j = true → used' j = true) :
    (newlyUsed used used' ++ unusedOf used').Perm (unusedOf used) := by
  have hsplit := List.filter_append_perm used' (unusedOf used)
  have hnew : (unusedOf used).filter used' = newlyUsed used used' := by
    rw [unusedOf, List.filter_filter, newlyUsed]
    exact List.filter_congr fun j _ => Bool.and_comm _ _
  have hold : (unusedOf used).filter (fun j => !used' j) = unusedOf used' := by
    rw [unusedOf, List.filter_filter, unusedOf]
    refine List.filter_congr fun j _ => ?_
    cases hused : used j with
    | false => simp
    | true => simp [hmono j hused]
  rwa [hnew, hold] at hsplit

lemma GrownFrom.exists_perm {used : Fin pts.length → Bool} {i : Fin pts.length} {g : Growing pts}
    (h : GrownFrom near used i g) :
    ∃ is, is.Perm (newlyUsed used g.used) ∧ Polyline near pts is g.ch := by
  obtain ⟨is, hline, hnodup, -, hfresh, hused⟩ := h
  refine ⟨is, ?_, hline⟩
  have hnew : (newlyUsed used g.used).Nodup := (List.nodup_finRange _).filter _
  refine (List.perm_ext_iff_of_nodup hnodup hnew).mpr fun j => ?_
  rw [mem_newlyUsed, hused]
  constructor
  · exact fun hj => ⟨hfresh j hj, .inr hj⟩
  · rintro ⟨hj, hold | hin⟩
    · rw [hj] at hold
      cases hold
    · exact hin

/-- **The first chain, and those from what it leaves.** -/
lemma Chaining.cons {used : Fin pts.length → Bool} {i : Fin pts.length} {g : Growing pts}
    {built : List (Finished pts.length P)} (hi : used i = false)
    (hlowest : ∀ j, used j = false → i ≤ j) (hgrown : GrownFrom near used i g)
    (hmaximal : ∀ j, g.used j = false → ¬Touches near (pts.get j) g.ch)
    (hlater : ∀ c ∈ built, i < c.first) (h : Chaining near pts (unusedOf g.used) built) :
    Chaining near pts (unusedOf used)
      (⟨i, newlyUsed used g.used, unusedOf g.used, g.ch⟩ :: built) := by
  obtain ⟨is, hperm, hline⟩ := hgrown.exists_perm
  obtain ⟨js, -, -, hmem, -, hused⟩ := hgrown
  constructor
  · rw [List.flatMap_cons]
    exact (h.covers.append_left _).trans (newlyUsed_perm fun j hj => (hused j).mpr (.inl hj))
  · exact List.forall_mem_cons.mpr ⟨⟨is, hperm, hline⟩, h.joined⟩
  · refine List.forall_mem_cons.mpr ⟨?_, h.counted⟩
    rw [hline.length_eq, hperm.length_eq]
  · refine List.forall_mem_cons.mpr ⟨⟨?_, fun j hj => ?_⟩, h.lowest⟩
    · exact mem_newlyUsed.mpr ⟨hi, (hused i).mpr (.inr hmem)⟩
    · exact hlowest j (mem_newlyUsed.mp hj).1
  · exact List.pairwise_cons.mpr ⟨hlater, h.ordered⟩
  · exact List.forall_mem_cons.mpr ⟨fun j hj => hmaximal j (mem_unusedOf.mp hj), h.maximal⟩

/-- The loop, from a segment on; all before it are used. -/
theorem finishedFrom_spec (hsymm : ∀ p q, near p q = near q p) (is : List (Fin pts.length))
    {used : Fin pts.length → Bool} (hsorted : is.Pairwise (· < ·))
    (hrest : ∀ j, used j = false → j ∈ is) :
    ∃ built, (∀ fuel, pts.length ≤ fuel → finishedFrom near fuel is used = some built)
      ∧ Chaining near pts (unusedOf used) built ∧ ∀ c ∈ built, c.first ∈ is := by
  induction is generalizing used with
  | nil =>
      have hnone : unusedOf used = [] :=
        List.eq_nil_iff_forall_not_mem.mpr fun j hj =>
          List.not_mem_nil (hrest j (mem_unusedOf.mp hj))
      refine ⟨[], fun _ _ => rfl, ?_, by simp⟩
      rw [hnone]
      constructor <;> simp
  | cons i is ih =>
      obtain ⟨hbefore, hsorted⟩ := List.pairwise_cons.mp hsorted
      cases hi : used i with
      | true =>
          have hrest' : ∀ j, used j = false → j ∈ is := by
            intro j hj
            refine (List.mem_cons.mp (hrest j hj)).resolve_left fun hji => ?_
            rw [hji, hi] at hj
            cases hj
          obtain ⟨built, hbuilt, hchaining, hfirst⟩ := ih hsorted hrest'
          refine ⟨built, fun fuel hfuel => ?_, hchaining,
            fun c hc => List.mem_cons_of_mem i (hfirst c hc)⟩
          rw [finishedFrom, if_pos hi]
          exact hbuilt fuel hfuel
      | false =>
          obtain ⟨g, hg, hgrown, hmaximal⟩ := grow_spec hsymm hi
          have hlowest : ∀ j, used j = false → i ≤ j := by
            intro j hj
            rcases List.mem_cons.mp (hrest j hj) with rfl | hmem
            · exact le_rfl
            · exact le_of_lt (hbefore j hmem)
          have hrest' : ∀ j, g.used j = false → j ∈ is := by
            obtain ⟨js, -, -, hmem, -, hused⟩ := hgrown
            intro j hj
            have hstill : ¬(used j = true ∨ j ∈ js) := by
              rw [← hused j, hj]
              exact Bool.false_ne_true
            rw [not_or, Bool.not_eq_true] at hstill
            refine (List.mem_cons.mp (hrest j hstill.1)).resolve_left fun hji => hstill.2 ?_
            rwa [hji]
          obtain ⟨built, hbuilt, hchaining, hfirst⟩ := ih hsorted hrest'
          refine ⟨_, fun fuel hfuel => ?_, Chaining.cons hi hlowest hgrown hmaximal
            (fun c hc => hbefore _ (hfirst c hc)) hchaining, ?_⟩
          · rw [finishedFrom, if_neg (by simp [hi]), hg fuel hfuel, Option.bind_some,
              hbuilt fuel hfuel, Option.map_some]
          · exact List.forall_mem_cons.mpr ⟨List.mem_cons_self,
              fun c hc => List.mem_cons_of_mem i (hfirst c hc)⟩

lemma finishedChains_spec (hsymm : ∀ p q, near p q = near q p) (pts : List (P × P)) :
    ∃ built, Chaining near pts (List.finRange pts.length) built
      ∧ ∀ fuel, pts.length ≤ fuel → finishedChains near fuel pts = some built := by
  obtain ⟨built, hbuilt, hchaining, -⟩ := @finishedFrom_spec P near pts hsymm
    (List.finRange _) (fun _ => false) (List.pairwise_lt_finRange _) fun j _ => List.mem_finRange j
  have hall : unusedOf (fun _ : Fin pts.length => false) = List.finRange _ :=
    List.filter_eq_self.mpr fun _ _ => rfl
  rw [hall] at hchaining
  exact ⟨built, hchaining, hbuilt⟩

end Loop

lemma chainSegments_eq (scale : P → P) (fuel : ℕ) (segs : List (P × P)) :
    chainSegments near scale fuel segs
      = (finishedChains near fuel (scaledSegments scale segs)).map longChains :=
  chainFrom_eq fuel _ _ []

/-- **The loops end**, every segment is in one chain, and the long ones are returned. The segments
that are chained are those of the call in their places, scaled. -/
theorem chainSegments_chaining {near : P → P → Bool} (hsymm : ∀ p q, near p q = near q p)
    (scale : P → P) (segs : List (P × P)) :
    (∀ i : ℕ, (scaledSegments scale segs)[i]? = segs[i]?.map fun s : P × P => (scale s.1, scale s.2))
      ∧ ∃ built, Chaining near (scaledSegments scale segs) (List.finRange _) built
        ∧ ∀ fuel, segs.length ≤ fuel →
          finishedChains near fuel (scaledSegments scale segs) = some built
            ∧ chainSegments near scale fuel segs = some (longChains built) := by
  have hlength : (scaledSegments scale segs).length = segs.length := List.length_map _
  obtain ⟨built, hchaining, hbuilt⟩ := finishedChains_spec hsymm (scaledSegments scale segs)
  refine ⟨fun i => List.getElem?_map, built, hchaining, fun fuel hfuel => ?_⟩
  have hfinished := hbuilt fuel (hlength.le.trans hfuel)
  refine ⟨hfinished, ?_⟩
  rw [chainSegments_eq, hfinished]
  rfl

/-! ## Points of the image -/

lemma isNear_symm (a b : Pt) : isNear a b = isNear b a := by
  rw [isNear, isNear, abs_sub_comm a.1, abs_sub_comm a.2]

namespace Sample

/-- Three sides of a square in halves, out of order and direction, and a segment far from them. -/
def segments : List (Pt × Pt) :=
  [((1, 0), (1 / 2, 0)), ((1, 1 / 2), (1, 1)), ((5, 5), (6, 6)), ((1, 0), (1, 1 / 2)),
    ((0, 0), (1 / 2, 0)), ((0, 0), (0, 1 / 2))]

/-- The five segments make one chain; the segment alone is too short for one. -/
example : chainSegments isNear scaled segments.length segments
    = some [[(3, 3), (3, 3 / 2), (3, 0), (3 / 2, 0), (0, 0), (0, 3 / 2)]] := by decide +kernel

theorem segments_chaining :
    (∀ i : ℕ, (scaledSegments scaled segments)[i]?
        = segments[i]?.map fun s : Pt × Pt => (scaled s.1, scaled s.2))
      ∧ ∃ built, Chaining isNear (scaledSegments scaled segments) (List.finRange _) built
        ∧ ∀ fuel, segments.length ≤ fuel →
          finishedChains isNear fuel (scaledSegments scaled segments) = some built
            ∧ chainSegments isNear scaled fuel segments = some (longChains built) :=
  chainSegments_chaining isNear_symm scaled segments

end Sample

end Vaulted.NftImage
