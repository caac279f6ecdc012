import Mathlib.Data.Finset.Card
import Vaulted.Oracle.Replication

/-!
# The nodes that are selected

Each strategy selects as many nodes as it is asked for, or all of them, and those that it is to
prefer.

* `Picks`, `Covers`, `LeastLoaded` — what a selection of `count` nodes is to be.
* `picks_regionDiverse`, `picks_loadBalanced`, `picks_mixed` — each strategy, with the count as the
  cast to `usize` makes it.
* `picks_forUpload` — the selection for an upload, whatever its settings are.
* `Meets` — the three strategies, with the count as it was asked for, where a negative one asks for
  none.
* **`meets_iff`** — they do so exactly for the counts that are not negative.  A negative count
  becomes a huge one in the cast, and selects every node.
-/

namespace Vaulted.SelectedNodes

open Replication List

/-! ## What a selection is to be -/

/-- `count` nodes of a list or all of it, none of them twice. -/
structure Picks (count : Nat) (nodes selected : List NodeCandidate) : Prop where
  length : selected.length = min count nodes.length
  distinct : (selected.map (·.id)).Nodup
  listed : ∀ n ∈ selected, n ∈ nodes

def regions (nodes : List NodeCandidate) : Finset String := (nodes.map (·.region)).toFinset

/-- As many regions as `count` nodes can be in. -/
def Covers (count : Nat) (nodes selected : List NodeCandidate) : Prop :=
  (regions selected).card = min count (regions nodes).card

/-- No node that is selected is more loaded than one that is left out. -/
def LeastLoaded (nodes selected : List NodeCandidate) : Prop :=
  ∀ x ∈ selected, ∀ y ∈ nodes, y ∉ selected → usagePercent x ≤ usagePercent y

lemma mem_regions {nodes : List NodeCandidate} {r : String} :
    r ∈ regions nodes ↔ ∃ n ∈ nodes, n.region = r := by
  simp [regions]

lemma regions_mono {nodes nodes' : List NodeCandidate} (h : ∀ n ∈ nodes, n ∈ nodes') :
    regions nodes ⊆ regions nodes' := by
  intro r hr
  obtain ⟨n, hn, rfl⟩ := mem_regions.mp hr
  exact mem_regions.mpr ⟨n, h n hn, rfl⟩

lemma card_regions_of_nodup {nodes : List NodeCandidate} (h : (nodes.map (·.region)).Nodup) :
    (regions nodes).card = nodes.length := by
  rw [regions, List.toFinset_card_of_nodup h, List.length_map]

lemma perm_sortByUsage (nodes : List NodeCandidate) : sortByUsage nodes ~ nodes :=
  List.perm_insertionSort byUsage nodes

/-- **One node for each region is enough**: a selection covers if it starts with nodes of
different regions, of which there are `count` or at least one for each region. -/
lemma covers_of_initial {count : Nat} {nodes first selected : List NodeCandidate}
    (hinitial : first <+: selected) (hlisted : ∀ n ∈ selected, n ∈ nodes)
    (hnodup : (first.map (·.region)).Nodup) (hlength : first.length ≤ count)
    (hdone : (first.length = count ∧ selected = first) ∨ regions nodes ⊆ regions first) :
    Covers count nodes selected := by
  have hcard := card_regions_of_nodup hnodup
  have hmono := regions_mono fun n hn => hinitial.subset hn
  rw [Covers]
  rcases hdone with ⟨hfull, rfl⟩ | hall
  · have := Finset.card_le_card (regions_mono hlisted)
    omega
  · have hfirst := Finset.card_le_card hall
    have heq : regions selected = regions nodes :=
      (regions_mono hlisted).antisymm (hall.trans hmono)
    have := Finset.card_le_card (regions_mono fun n hn => hlisted n (hinitial.subset hn))
    rw [heq]
    omega

/-- A selection without repetition keeps the ids apart that its list keeps apart. -/
lemma Picks.of_subperm {count : Nat} {nodes selected : List NodeCandidate}
    (hids : (nodes.map (·.id)).Nodup) (hsub : selected <+~ nodes)
    (hlength : selected.length = min count nodes.length) : Picks count nodes selected where
  length := hlength
  distinct := by
    obtain ⟨chosen, hperm, hchosen⟩ := hsub
    exact (hperm.map _).nodup ((hchosen.map _).nodup hids)
  listed := fun _ hn => hsub.subset hn

/-! ## Different regions -/

/-- What the first pass adds: nodes of new regions, until there are enough or every region has
one. -/
lemma onePerRegion_spec {count : Nat} {nodes selected : List NodeCandidate}
    {usedRegions : List String} (hused : ∀ r, r ∈ usedRegions ↔ r ∈ selected.map (·.region))
    (hnodup : (selected.map (·.region)).Nodup) (hlength : selected.length ≤ count) :
    ∃ added, onePerRegion count nodes selected usedRegions = selected ++ added
      ∧ added <+ nodes ∧ ((selected ++ added).map (·.region)).Nodup
      ∧ (selected ++ added).length ≤ count
      ∧ ((selected ++ added).length = count
        ∨ ∀ n ∈ nodes, n.region ∈ (selected ++ added).map (·.region)) := by
  induction nodes generalizing selected usedRegions with
  | nil => exact ⟨[], by simp [onePerRegion], by simp, by simpa using hnodup, by simpa, by simp⟩
  | cons node nodes ih =>
      rw [onePerRegion]
      split_ifs with hfull hseen
      · refine ⟨[], by simp, by simp, by simpa using hnodup, by simpa, .inl ?_⟩
        simp only [append_nil]
        omega
      · obtain ⟨added, heq, hsub, hnodup', hlength', hdone⟩ := ih hused hnodup hlength
        refine ⟨added, heq, hsub.cons _, hnodup', hlength', hdone.imp_right fun hall => ?_⟩
        refine forall_mem_cons.mpr ⟨?_, hall⟩
        rw [map_append]
        exact mem_append_left _ ((hused _).mp hseen)
      · have hnew : node.region ∉ selected.map (·.region) := fun h => hseen ((hused _).mpr h)
        have hused' : ∀ r, r ∈ node.region :: usedRegions
            ↔ r ∈ (selected ++ [node]).map (·.region) := by
          intro r
          rw [mem_cons, hused, map_append, mem_append, or_comm]
          simp
        have hnodup' : ((selected ++ [node]).map (·.region)).Nodup := by
          rw [map_append]
          exact hnodup.append (by simp) (by simpa using hnew)
        obtain ⟨added, heq, hsub, hnodup', hlength', hdone⟩ :=
          ih hused' hnodup' (by rw [length_append, length_singleton]; omega)
        rw [append_assoc, singleton_append] at heq hnodup' hlength' hdone
        refine ⟨node :: added, heq, hsub.cons_cons _, hnodup', hlength', ?_⟩
        refine hdone.imp_right fun hall => forall_mem_cons.mpr ⟨?_, hall⟩
        simp

lemma fillSlots_eq (count : Nat) (remaining selected : List NodeCandidate) :
    fillSlots count remaining selected = selected ++ remaining.take (count - selected.length) := by
  induction remaining generalizing selected with
  | nil => simp [fillSlots]
  | cons node remaining ih =>
      rw [fillSlots]
      split_ifs with hfull
      · rw [Nat.sub_eq_zero_of_le hfull, take_zero, append_nil]
      · obtain ⟨k, hk⟩ := Nat.exists_eq_add_of_lt (Nat.lt_of_not_le hfull)
        rw [ih, length_append, length_singleton, append_assoc, singleton_append,
          show count - selected.length = count - (selected.length + 1) + 1 by omega, take_succ_cons]

/-- What was not selected, found by its id. -/
lemma perm_append_remaining {nodes first : List NodeCandidate} (hids : (nodes.map (·.id)).Nodup)
    (hsub : first <+ nodes) :
    first ++ nodes.filter (fun n => !first.any fun s => s.id = n.id) ~ nodes := by
  have hchosen : first ~ nodes.filter fun n => first.any fun s => s.id = n.id := by
    refine (perm_ext_iff_of_nodup (hsub.nodup hids.of_map) (hids.of_map.filter _)).mpr fun n => ?_
    simp only [mem_filter, any_eq_true, decide_eq_true_eq]
    constructor
    · exact fun hn => ⟨hsub.subset hn, n, hn, rfl⟩
    · rintro ⟨hn, s, hs, hid⟩
      exact inj_on_of_nodup_map hids (hsub.subset hs) hn hid ▸ hs
  exact (hchosen.append_right _).trans (filter_append_perm _ nodes)

lemma picks_regionDiverse {nodes : List NodeCandidate} (hids : (nodes.map (·.id)).Nodup)
    (count : Int32) :
    Picks (FileProxy.asUsize count.toInt) nodes (selectRegionDiverse nodes count)
      ∧ Covers (FileProxy.asUsize count.toInt) nodes (selectRegionDiverse nodes count) := by
  rw [selectRegionDiverse]
  generalize FileProxy.asUsize count.toInt = count
  obtain ⟨first, hfirst, hsub, hnodup, hlength, hdone⟩ :=
    @onePerRegion_spec count nodes [] [] (by simp) (by simp) (by simp)
  rw [nil_append] at hfirst hnodup hlength hdone
  dsimp only
  rw [hfirst]
  have hle := hsub.length_le
  split_ifs with hfew
  · set remaining := nodes.filter fun n => !first.any fun s => s.id = n.id with hremaining
    rw [fillSlots_eq]
    have hperm : first ++ sortByUsage remaining ~ nodes :=
      ((perm_sortByUsage remaining).append_left first).trans (perm_append_remaining hids hsub)
    have htake : first ++ (sortByUsage remaining).take (count - first.length) <+~ nodes :=
      ((take_sublist _ _).append_left first).subperm.trans hperm.subperm
    have hrest : first.length + (sortByUsage remaining).length = nodes.length := by
      rw [← length_append, hperm.length_eq]
    have hpicks : Picks count nodes (first ++ (sortByUsage remaining).take (count - first.length)) :=
      .of_subperm hids htake (by rw [length_append, length_take]; omega)
    refine ⟨hpicks, covers_of_initial (prefix_append _ _) hpicks.listed hnodup hlength (.inr ?_)⟩
    intro r hr
    obtain ⟨n, hn, rfl⟩ := mem_regions.mp hr
    exact mem_toFinset.mpr (hdone.resolve_left (by omega) n hn)
  · have hfull : first.length = count := by omega
    exact ⟨.of_subperm hids hsub.subperm (by omega),
      covers_of_initial prefix_rfl (fun n hn => hsub.subset hn) hnodup hlength (.inl ⟨hfull, rfl⟩)⟩

/-! ## The lowest load -/

lemma picks_loadBalanced {nodes : List NodeCandidate} (hids : (nodes.map (·.id)).Nodup)
    (count : Int32) :
    Picks (FileProxy.asUsize count.toInt) nodes (selectLoadBalanced nodes count) := by
  have hperm := perm_sortByUsage nodes
  refine .of_subperm hids ((take_sublist _ _).subperm.trans hperm.subperm) ?_
  rw [selectLoadBalanced, length_take, hperm.length_eq]

lemma leastLoaded_loadBalanced (nodes : List NodeCandidate) (count : Int32) :
    LeastLoaded nodes (selectLoadBalanced nodes count) := by
  intro x hx y hy hleft
  have hsorted : (sortByUsage nodes).Pairwise fun a b => usagePercent a ≤ usagePercent b :=
    pairwise_insertionSort byUsage nodes
  rw [← take_append_drop (FileProxy.asUsize count.toInt) (sortByUsage nodes)] at hsorted
  have hy' := (perm_sortByUsage nodes).mem_iff.mpr hy
  rw [← take_append_drop (FileProxy.asUsize count.toInt) (sortByUsage nodes), mem_append] at hy'
  exact (pairwise_append.mp hsorted).2.2 x hx y (hy'.resolve_left hleft)

/-! ## Round-robin over the regions -/

/-- The nodes that the indices say are selected. -/
def taken (groups : List Group) (indices : String → Nat) : List NodeCandidate :=
  groups.flatMap fun group => group.2.take (indices group.1)

/-- What the loop keeps: the selection has the nodes that its indices say, and not too many. It goes
through the regions again and again, and takes one node of each. -/
structure Kept (count : Nat) (groups : List Group) (p : Progress) : Prop where
  perm : p.selected ~ taken groups p.indices
  length : p.selected.length ≤ count

lemma taken_cons (group : Group) (groups : List Group) (indices : String → Nat) :
    taken (group :: groups) indices = group.2.take (indices group.1) ++ taken groups indices :=
  flatMap_cons

lemma taken_congr {groups : List Group} {indices indices' : String → Nat}
    (h : ∀ group ∈ groups, indices group.1 = indices' group.1) :
    taken groups indices = taken groups indices' := by
  induction groups with
  | nil => rfl
  | cons group groups ih =>
      rw [forall_mem_cons] at h
      rw [taken_cons, taken_cons, h.1, ih h.2]

/-- The next node of a region is taken beside those that were. -/
lemma taken_update {groups : List Group} (hkeys : (groups.map Prod.fst).Nodup) {group : Group}
    (hgroup : group ∈ groups) {indices : String → Nat} {node : NodeCandidate}
    (hnode : group.2[indices group.1]? = some node) :
    taken groups (Function.update indices group.1 (indices group.1 + 1))
      ~ taken groups indices ++ [node] := by
  induction groups with
  | nil => cases hgroup
  | cons first groups ih =>
      rw [map_cons, nodup_cons] at hkeys
      rcases mem_cons.mp hgroup with rfl | hrest
      · have hothers : ∀ other ∈ groups,
            Function.update indices group.1 (indices group.1 + 1) other.1 = indices other.1 := by
          intro other hother
          refine Function.update_of_ne (fun heq => hkeys.1 ?_) _ _
          exact heq ▸ mem_map_of_mem hother
        rw [taken_cons, Function.update_self, take_add_one, hnode, Option.toList_some,
          taken_congr hothers, taken_cons, append_assoc, append_assoc]
        exact perm_append_comm.append_left _
      · have hne : first.1 ≠ group.1 := fun heq => hkeys.1 (heq ▸ mem_map_of_mem hrest)
        rw [taken_cons, Function.update_of_ne hne, taken_cons, append_assoc]
        exact (ih hkeys.2 hrest).append_left _

lemma Kept.push {count : Nat} {groups : List Group} (hkeys : (groups.map Prod.fst).Nodup)
    {p : Progress} (h : Kept count groups p) {group : Group} (hgroup : group ∈ groups)
    {node : NodeCandidate} (hnode : group.2[p.indices group.1]? = some node)
    (hroom : p.selected.length < count) : Kept count groups (p.push group.1 node) where
  perm := (h.perm.append_right _).trans (taken_update hkeys hgroup hnode).symm
  length := by
    rw [Progress.push, length_append, length_singleton]
    omega

lemma Kept.pickRound {count : Nat} {groups : List Group} (hkeys : (groups.map Prod.fst).Nodup)
    {some : List Group} (hsome : some ⊆ groups) {p : Progress} (h : Kept count groups p) :
    Kept count groups (pickRound count some p) := by
  induction some generalizing p with
  | nil => exact h
  | cons group some ih =>
      rw [cons_subset] at hsome
      rw [Replication.pickRound]
      split
      · exact h
      · next hroom =>
          split
          · next hnode => exact ih hsome.2 (h.push hkeys hsome.1 hnode (Nat.lt_of_not_le hroom))
          · exact ih hsome.2 h

lemma pickRound_added {count : Nat} {groups : List Group} {p : Progress} (h : p.added = true) :
    (pickRound count groups p).added = true := by
  induction groups generalizing p with
  | nil => exact h
  | cons group groups ih =>
      rw [pickRound]
      split
      · exact h
      · split
        · exact ih rfl
        · exact ih h

/-- A round that adds nothing to what is not enough has come to the end of every region. -/
lemma pickRound_stuck {count : Nat} {groups : List Group} {p : Progress}
    (hroom : p.selected.length < count) (hstuck : (pickRound count groups p).added = false) :
    pickRound count groups p = p ∧ ∀ group ∈ groups, group.2.length ≤ p.indices group.1 := by
  induction groups with
  | nil => exact ⟨rfl, by simp⟩
  | cons group groups ih =>
      rw [pickRound, if_neg (Nat.not_le_of_lt hroom)] at hstuck ⊢
      split at hstuck
      · next node hnode =>
          rw [pickRound_added rfl] at hstuck
          cases hstuck
      · next hnone =>
          obtain ⟨heq, hend⟩ := ih hstuck
          exact ⟨heq, forall_mem_cons.mpr ⟨getElem?_eq_none_iff.mp hnone, hend⟩⟩

/-- The first node of each region. -/
def firsts (groups : List Group) : List NodeCandidate := groups.filterMap fun group => group.2.head?

/-- From a region that no node was taken from, a round takes the first. -/
lemma pickRound_first {count : Nat} {groups : List Group} (hkeys : (groups.map Prod.fst).Nodup)
    {p : Progress} (hfresh : ∀ group ∈ groups, p.indices group.1 = 0) :
    (pickRound count groups p).selected
      = p.selected ++ (firsts groups).take (count - p.selected.length) := by
  induction groups generalizing p with
  | nil => simp [pickRound, firsts]
  | cons group groups ih =>
      rw [map_cons, nodup_cons] at hkeys
      rw [forall_mem_cons] at hfresh
      rw [pickRound, hfresh.1, ← head?_eq_getElem?]
      split_ifs with hfull
      · rw [Nat.sub_eq_zero_of_le hfull, take_zero, append_nil]
      · cases hhead : group.2.head? with
        | none =>
            rw [firsts, filterMap_cons, hhead]
            exact ih hkeys.2 hfresh.2
        | some node =>
            have hfresh' : ∀ other ∈ groups, (p.push group.1 node).indices other.1 = 0 := by
              intro other hother
              rw [← hfresh.2 other hother]
              refine Function.update_of_ne (fun heq => hkeys.1 ?_) _ _
              exact heq ▸ mem_map_of_mem hother
            rw [firsts, filterMap_cons, hhead]
            dsimp only
            rw [ih hkeys.2 hfresh', Progress.push, length_append, length_singleton, append_assoc,
              singleton_append, ← take_succ_cons, firsts,
              show count - (p.selected.length + 1) + 1 = count - p.selected.length by omega]

/-- The nodes of all regions. -/
def members (groups : List Group) : List NodeCandidate := groups.flatMap Prod.snd

lemma taken_sublist (groups : List Group) (indices : String → Nat) :
    taken groups indices <+ members groups := by
  induction groups with
  | nil => exact Sublist.refl _
  | cons group groups ih =>
      rw [taken_cons, members, flatMap_cons]
      exact (take_sublist _ _).append ih

lemma taken_of_end {groups : List Group} {indices : String → Nat}
    (h : ∀ group ∈ groups, group.2.length ≤ indices group.1) :
    taken groups indices = members groups := by
  induction groups with
  | nil => rfl
  | cons group groups ih =>
      rw [forall_mem_cons] at h
      rw [taken_cons, take_of_length_le h.1, ih h.2, members, members, flatMap_cons]

/-- **The loop goes on from its selection, until there are enough nodes or no more.** -/
lemma pickRounds_spec {count : Nat} {groups : List Group} (hkeys : (groups.map Prod.fst).Nodup)
    {selected : List NodeCandidate} {indices : String → Nat}
    (h : Kept count groups ⟨selected, indices, false⟩) :
    selected <+: pickRounds count groups selected indices
      ∧ pickRounds count groups selected indices <+~ members groups
      ∧ (pickRounds count groups selected indices).length
        = min count (members groups).length := by
  have hsubperm : selected <+~ members groups :=
    h.perm.subperm.trans (taken_sublist groups indices).subperm
  have hlength := h.length
  fun_induction pickRounds count groups selected indices with
  | case1 selected indices hroom next hadded ih =>
      have hnext : Kept count groups next := h.pickRound hkeys (Subset.refl _)
      obtain ⟨hinitial, hrest⟩ := ih ⟨hnext.perm, hnext.length⟩
        (hnext.perm.subperm.trans (taken_sublist groups _).subperm) hnext.length
      exact ⟨(pickRound_grows count groups ⟨selected, indices, false⟩).1.trans hinitial, hrest⟩
  | case2 selected indices hroom next hadded =>
      obtain ⟨heq, hend⟩ := pickRound_stuck hroom (Bool.not_eq_true _ ▸ hadded)
      rw [show next = ⟨selected, indices, false⟩ from heq]
      refine ⟨prefix_rfl, hsubperm, ?_⟩
      have hall := h.perm.length_eq
      rw [taken_of_end hend] at hall
      dsimp only at hall hlength ⊢
      omega
  | case3 selected indices hfull =>
      have := hsubperm.length_le
      dsimp only at hlength
      exact ⟨prefix_rfl, hsubperm, by omega⟩

/-- The selection starts with the first nodes of the regions. -/
lemma firsts_initial {count : Nat} {groups : List Group} (hkeys : (groups.map Prod.fst).Nodup) :
    (firsts groups).take count <+: pickRounds count groups [] fun _ => 0 := by
  have hkept : Kept count groups ⟨[], fun _ => 0, false⟩ :=
    ⟨by simp [taken], Nat.zero_le _⟩
  have hround := @pickRound_first count groups hkeys ⟨[], fun _ => 0, false⟩ (by simp)
  rw [nil_append] at hround
  rw [pickRounds]
  split
  · have hnext := hkept.pickRound hkeys (Subset.refl _)
    dsimp only
    split
    · rw [show (firsts groups).take count = _ from hround.symm]
      exact (pickRounds_spec hkeys ⟨hnext.perm, hnext.length⟩).1
    · rw [show (firsts groups).take count = _ from hround.symm]
  · next hzero =>
      rw [show count = 0 by simpa using hzero]
      exact prefix_rfl

section Groups

variable {nodes : List NodeCandidate} (order : RegionOrder nodes)

lemma perm_regionIter : regionIter nodes order ~ order.regions.map (regionGroup nodes) :=
  perm_insertionSort byGroupKey _

lemma keys_regionIter : (regionIter nodes order).map Prod.fst ~ order.regions := by
  refine ((perm_regionIter order).map _).trans (Perm.of_eq ?_)
  rw [map_map]
  exact map_id _

lemma nodup_keys : ((regionIter nodes order).map Prod.fst).Nodup :=
  (keys_regionIter order).nodup_iff.mpr order.nodup

lemma mem_regionIter {group : Group} :
    group ∈ regionIter nodes order ↔ ∃ r ∈ order.regions, regionGroup nodes r = group := by
  rw [(perm_regionIter order).mem_iff, mem_map]

lemma mem_regionGroup {r : String} {n : NodeCandidate} :
    n ∈ (regionGroup nodes r).2 ↔ n ∈ nodes ∧ n.region = r := by
  rw [regionGroup, (perm_sortByUsage _).mem_iff, mem_filter, decide_eq_true_eq]

/-- Every node is in the group of its region, and nowhere else. -/
lemma members_regionIter (hids : (nodes.map (·.id)).Nodup) :
    members (regionIter nodes order) ~ nodes := by
  have hperm : members (regionIter nodes order)
      ~ order.regions.flatMap fun r => (regionGroup nodes r).2 := by
    refine ((perm_regionIter order).flatMap_right Prod.snd).trans (Perm.of_eq ?_)
    rw [flatMap_map]
  refine hperm.trans ((perm_ext_iff_of_nodup ?_ hids.of_map).mpr fun n => ?_)
  · refine nodup_flatMap.mpr ⟨fun r _ => ?_, ?_⟩
    · exact (perm_sortByUsage _).nodup_iff.mpr (hids.of_map.filter _)
    · refine order.nodup.imp fun {r r'} hne => ?_
      intro n hn hn'
      exact hne ((mem_regionGroup.mp hn).2.symm.trans (mem_regionGroup.mp hn').2)
  · simp only [mem_flatMap, mem_regionGroup]
    constructor
    · rintro ⟨r, -, hn, -⟩
      exact hn
    · exact fun hn => ⟨n.region, (order.mem_iff _).mpr (mem_map_of_mem hn), hn, rfl⟩

/-- The first nodes of the regions are in these regions. -/
lemma regions_firsts : (firsts (regionIter nodes order)).map (·.region)
    = (regionIter nodes order).map Prod.fst := by
  have hgroups : ∀ group ∈ regionIter nodes order,
      ∃ n, group.2.head? = some n ∧ n.region = group.1 := by
    intro group hgroup
    obtain ⟨r, hr, rfl⟩ := (mem_regionIter order).mp hgroup
    obtain ⟨n, hn, hregion⟩ := mem_map.mp ((order.mem_iff r).mp hr)
    have hne := ne_nil_of_mem (mem_regionGroup.mpr ⟨hn, hregion⟩)
    exact ⟨_, head?_eq_some_head hne, (mem_regionGroup.mp (head_mem hne)).2⟩
  generalize regionIter nodes order = groups at hgroups ⊢
  induction groups with
  | nil => rfl
  | cons group groups ih =>
      rw [forall_mem_cons] at hgroups
      obtain ⟨⟨n, hhead, hregion⟩, hrest⟩ := hgroups
      rw [firsts, filterMap_cons, hhead, map_cons, map_cons, hregion]
      exact congrArg _ (ih hrest)

lemma picks_mixed (hids : (nodes.map (·.id)).Nodup) (count : Int32) :
    Picks (FileProxy.asUsize count.toInt) nodes (selectMixed nodes order count)
      ∧ Covers (FileProxy.asUsize count.toInt) nodes (selectMixed nodes order count) := by
  rw [selectMixed]
  generalize FileProxy.asUsize count.toInt = count
  have hmembers := members_regionIter order hids
  obtain ⟨-, hsub, hlength⟩ := @pickRounds_spec count _ (nodup_keys order) [] (fun _ => 0)
    ⟨by simp [taken], Nat.zero_le _⟩
  have hpicks : Picks count nodes (pickRounds count (regionIter nodes order) [] fun _ => 0) :=
    .of_subperm hids (hsub.trans hmembers.subperm) (by rw [hlength, hmembers.length_eq])
  have hinitial := @firsts_initial count _ (nodup_keys order)
  have hnodup : ((firsts (regionIter nodes order)).map (·.region)).Nodup :=
    regions_firsts order ▸ nodup_keys order
  refine ⟨hpicks, covers_of_initial hinitial hpicks.listed ?_ (length_take_le _ _) ?_⟩
  · exact ((take_sublist _ _).map _).nodup hnodup
  · rcases Nat.le_total count (firsts (regionIter nodes order)).length with hle | hle
    · have hfull := length_take_of_le hle
      refine .inl ⟨hfull, (hinitial.eq_of_length_le ?_).symm⟩
      rw [hfull, hpicks.length]
      exact Nat.min_le_left _ _
    · rw [take_of_length_le hle]
      refine .inr fun r hr => ?_
      rw [regions, mem_toFinset, regions_firsts, (keys_regionIter order).mem_iff, order.mem_iff]
      exact mem_toFinset.mp hr

end Groups

/-! ## The selection for an upload -/

lemma mem_withoutRegions {excludeRegions : Option (List String)} {nodes : List NodeCandidate}
    {n : NodeCandidate} : n ∈ withoutRegions excludeRegions nodes
      ↔ n ∈ nodes ∧ ∀ exclude, excludeRegions = some exclude → n.region ∉ exclude := by
  cases excludeRegions <;> simp [withoutRegions]

lemma withoutRegions_sublist (excludeRegions : Option (List String)) (nodes : List NodeCandidate) :
    withoutRegions excludeRegions nodes <+ nodes := by
  cases excludeRegions with
  | none => exact Sublist.refl _
  | some exclude => exact filter_sublist

/-- **Whatever the strategy is called**, an upload goes to different nodes outside the excluded
regions, and to as many as the settings say. A name that is not known is the mixed strategy, so that
there is no setting with which an upload has nowhere to go. -/
theorem picks_forUpload {settings : Settings} {excludeRegions : Option (List String)}
    {available : List NodeCandidate} (hids : (available.map (·.id)).Nodup)
    (order : RegionOrder (withoutRegions excludeRegions available)) :
    Picks (FileProxy.asUsize settings.replicationFactor.toInt)
        (withoutRegions excludeRegions available)
        (selectNodesForUpload settings excludeRegions available order)
      ∧ ∀ n ∈ selectNodesForUpload settings excludeRegions available order,
        n ∈ available ∧ ∀ exclude, excludeRegions = some exclude → n.region ∉ exclude := by
  have hids' := ((withoutRegions_sublist excludeRegions available).map (·.id)).nodup hids
  have hpicks : Picks (FileProxy.asUsize settings.replicationFactor.toInt)
      (withoutRegions excludeRegions available)
      (selectNodesForUpload settings excludeRegions available order) := by
    rw [selectNodesForUpload]
    split_ifs
    · exact (picks_regionDiverse hids' _).1
    · exact picks_loadBalanced hids' _
    · exact (picks_mixed order hids' _).1
  exact ⟨hpicks, fun n hn => mem_withoutRegions.mp (hpicks.listed n hn)⟩

/-! ## The count -/

/-- The three strategies do what they are for, with a count that may be negative. -/
structure Meets (nodes : List NodeCandidate) (order : RegionOrder nodes) (count : Int32) : Prop where
  regionDiverse : Picks count.toInt.toNat nodes (selectRegionDiverse nodes count)
    ∧ Covers count.toInt.toNat nodes (selectRegionDiverse nodes count)
  loadBalanced : Picks count.toInt.toNat nodes (selectLoadBalanced nodes count)
    ∧ LeastLoaded nodes (selectLoadBalanced nodes count)
  mixed : Picks count.toInt.toNat nodes (selectMixed nodes order count)
    ∧ Covers count.toInt.toNat nodes (selectMixed nodes order count)

lemma asUsize_of_nonneg {count : Int32} (h : 0 ≤ count.toInt) :
    FileProxy.asUsize count.toInt = count.toInt.toNat := by
  have := count.toInt_lt
  rw [FileProxy.asUsize, Int.emod_eq_of_lt h (by omega)]

lemma asUsize_of_neg {count : Int32} (h : count.toInt < 0) :
    0 < FileProxy.asUsize count.toInt := by
  have := count.le_toInt
  rw [FileProxy.asUsize]
  omega

lemma picks_nil (count : Nat) {selected : List NodeCandidate} {count' : Nat}
    (h : Picks count' [] selected) : Picks count [] selected where
  length := by simpa using h.length
  distinct := h.distinct
  listed := h.listed

lemma covers_nil (count : Nat) {selected : List NodeCandidate} {count' : Nat}
    (h : Covers count' [] selected) : Covers count [] selected := by
  simpa [Covers, regions] using h

/-- **The selections are what they are to be exactly for the counts that are not negative**, and
where there is nothing to select from. A negative count becomes a `usize` that is larger than any
list, and selects all nodes. -/
theorem meets_iff (nodes : List NodeCandidate) (hids : (nodes.map (·.id)).Nodup)
    (order : RegionOrder nodes) (count : Int32) :
    Meets nodes order count ↔ 0 ≤ count.toInt ∨ nodes = [] := by
  have hdiverse := picks_regionDiverse hids count
  have hbalanced := picks_loadBalanced hids count
  have hmixed := picks_mixed order hids count
  constructor
  · intro h
    refine or_iff_not_imp_left.mpr fun hneg => length_eq_zero_iff.mp ?_
    have hpos := asUsize_of_neg (Int.not_le.mp hneg)
    have hnone := h.loadBalanced.1.length
    rw [hbalanced.length, Int.toNat_of_nonpos (by omega)] at hnone
    omega
  · rintro (hcount | rfl)
    · rw [asUsize_of_nonneg hcount] at hdiverse hbalanced hmixed
      exact ⟨hdiverse, ⟨hbalanced, leastLoaded_loadBalanced nodes count⟩, hmixed⟩
    · exact ⟨⟨picks_nil _ hdiverse.1, covers_nil _ hdiverse.2⟩,
        ⟨picks_nil _ hbalanced, leastLoaded_loadBalanced [] count⟩,
        ⟨picks_nil _ hmixed.1, covers_nil _ hmixed.2⟩⟩

/-! ## One node -/

namespace Sample

/-- A node of a region, with so much of a thousand bytes in use. -/
def node (id region : String) (usedSpaceBytes : Int) : NodeCandidate where
  id := id
  endpointUrl := "http://localhost:9001"
  region := region
  status := .Active
  totalSpaceBytes := 1000
  usedSpaceBytes := usedSpaceBytes
  healthCheckFailures := 0

/-- Five nodes in three regions, of different loads. -/
def cluster : List NodeCandidate :=
  [node "node-1" "eu" 900, node "node-2" "eu" 100, node "node-3" "us" 500, node "node-4" "us" 300,
    node "node-5" "ap" 700]

lemma nodup_cluster : (cluster.map (·.id)).Nodup := by decide

/-- Four of them cover all three regions. -/
theorem meets_cluster : (regions cluster).card = 3 ∧ Meets cluster default 4 :=
  ⟨by decide, (meets_iff cluster nodup_cluster default 4).mpr (.inl (by decide))⟩

def settings : Settings where
  replicationFactor := 2
  strategy := "mixed"

/-- An upload that may not go to one region goes to two of the three nodes that are left. -/
theorem picks_forUpload_elsewhere : (withoutRegions (some ["us"]) cluster).length = 3
    ∧ Picks (FileProxy.asUsize settings.replicationFactor.toInt)
        (withoutRegions (some ["us"]) cluster)
        (selectNodesForUpload settings (some ["us"]) cluster default)
    ∧ ∀ n ∈ selectNodesForUpload settings (some ["us"]) cluster default,
        n ∈ cluster ∧ ∀ exclude, some ["us"] = some exclude → n.region ∉ exclude :=
  ⟨by decide, picks_forUpload nodup_cluster default⟩

-- the first node of each region, and then the emptiest one that is left
example : (selectRegionDiverse cluster 4).map (·.id) = ["node-1", "node-3", "node-5", "node-2"] := by
  decide +kernel

/-- Minus one replica is every node. -/
theorem not_meets : (selectLoadBalanced cluster (-1)).length = 5
    ∧ ¬∀ nodes : List NodeCandidate, (nodes.map (·.id)).Nodup → ∀ order count,
      Meets nodes order count := by
  have hall : (selectLoadBalanced cluster (-1)).length = 5 := by decide +kernel
  refine ⟨hall, fun h => ?_⟩
  have hnone := (h cluster nodup_cluster default (-1)).loadBalanced.1.length
  rw [hall] at hnone
  exact absurd hnone (by decide)

end Sample

end Vaulted.SelectedNodes
