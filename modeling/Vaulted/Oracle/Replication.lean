import Mathlib.Algebra.Order.Floor.Ring
import Mathlib.Data.Int.Log
import Mathlib.Data.List.Dedup
import Mathlib.Data.List.Sort
import Mathlib.Data.Rat.Floor
import Vaulted.Oracle.FileProxy

/-!
# Nodes for an upload

`services/replication.rs`: on which of the nodes with room for a file its replicas are stored.

* `usagePercent` — the load of a node, rounded as `f64` arithmetic rounds.
* `selectRegionDiverse`, `selectLoadBalanced`, `selectMixed` — the three strategies.
* `Progress`, `pickRound`, `pickRounds` — the round-robin of the mixed strategy: what is selected,
  how many nodes of each region are used up, and whether the round has added a node.
* `selectNodesForUpload` — the strategy of the settings, without the excluded regions.
-/

namespace Vaulted.Replication

/-! ## The load of a node -/

/-- To the nearest integer, and to the even one of two nearest. -/
def roundHalfEven (q : ℚ) : Int :=
  let d := q - ⌊q⌋
  if d < 1 / 2 then ⌊q⌋
  else if 1 / 2 < d then ⌊q⌋ + 1
  else if ⌊q⌋ % 2 = 0 then ⌊q⌋ else ⌊q⌋ + 1

/-- The `f64` nearest to a number that is neither too large for one nor too small. -/
def f64 (q : ℚ) : ℚ :=
  let ulp : ℚ := 2 ^ (Int.log 2 |q| - 52)
  roundHalfEven (q / ulp) * ulp

/-- `f64 as i64`: towards zero, and within the bounds. -/
def asI64 (q : ℚ) : Int :=
  max (-2 ^ 63) (min (2 ^ 63 - 1) (if q < 0 then ⌈q⌉ else ⌊q⌋))

/-- A candidate is the row of a node; the selection reads its id, its region and its space. -/
abbrev NodeCandidate := StorageNode

def usagePercent (node : NodeCandidate) : ℚ :=
  if node.totalSpaceBytes = 0 then 100
  else f64 (f64 (f64 node.usedSpaceBytes / f64 node.totalSpaceBytes) * 100)

def byUsage (a b : NodeCandidate) : Prop := usagePercent a ≤ usagePercent b

instance : DecidableRel byUsage :=
  fun a b => inferInstanceAs (Decidable (usagePercent a ≤ usagePercent b))

instance : Std.Total byUsage := ⟨fun a b => le_total (usagePercent a) (usagePercent b)⟩

instance : IsTrans NodeCandidate byUsage :=
  ⟨fun a b c => le_trans (a := usagePercent a) (b := usagePercent b) (c := usagePercent c)⟩

def sortByUsage (nodes : List NodeCandidate) : List NodeCandidate := nodes.insertionSort byUsage

/-! ## Different regions -/

/-- The first pass: one node per region, in the given order. -/
def onePerRegion (count : Nat) :
    List NodeCandidate → List NodeCandidate → List String → List NodeCandidate
  | [], selected, _ => selected
  | node :: nodes, selected, usedRegions =>
      if count ≤ selected.length then selected
      else if node.region ∈ usedRegions then onePerRegion count nodes selected usedRegions
      else onePerRegion count nodes (selected ++ [node]) (node.region :: usedRegions)

/-- The second pass: the slots that are left. -/
def fillSlots (count : Nat) : List NodeCandidate → List NodeCandidate → List NodeCandidate
  | [], selected => selected
  | node :: remaining, selected =>
      if count ≤ selected.length then selected
      else fillSlots count remaining (selected ++ [node])

def selectRegionDiverse (nodes : List NodeCandidate) (count : Int32) : List NodeCandidate :=
  let count := FileProxy.asUsize count.toInt
  let selected := onePerRegion count nodes [] []
  if selected.length < count then
    let remaining := nodes.filter fun n => !selected.any fun s => s.id = n.id
    fillSlots count (sortByUsage remaining) selected
  else selected

/-! ## The lowest load -/

def selectLoadBalanced (nodes : List NodeCandidate) (count : Int32) : List NodeCandidate :=
  (sortByUsage nodes).take (FileProxy.asUsize count.toInt)

/-! ## Round-robin over the regions -/

/-- The order in which the map of the regions is gone through, which is not determined. -/
structure RegionOrder (nodes : List NodeCandidate) where
  regions : List String
  nodup : regions.Nodup
  mem_iff : ∀ r, r ∈ regions ↔ r ∈ nodes.map (·.region)

instance (nodes : List NodeCandidate) : Inhabited (RegionOrder nodes) where
  default :=
    { regions := (nodes.map (·.region)).dedup
      nodup := List.nodup_dedup _
      mem_iff := fun _ => List.mem_dedup }

/-- A region with its nodes. -/
abbrev Group := String × List NodeCandidate

def regionGroup (nodes : List NodeCandidate) (region : String) : Group :=
  (region, sortByUsage (nodes.filter fun n => n.region = region))

/-- The load of the emptiest node of a region. -/
def groupKey (group : Group) : Int :=
  match group.2.head? with
  | some node => asI64 (usagePercent node)
  | none => 2 ^ 63 - 1

def byGroupKey (a b : Group) : Prop := groupKey a ≤ groupKey b

instance : DecidableRel byGroupKey :=
  fun a b => inferInstanceAs (Decidable (groupKey a ≤ groupKey b))

/-- The regions, the one with the emptiest node first. -/
def regionIter (nodes : List NodeCandidate) (order : RegionOrder nodes) : List Group :=
  (order.regions.map (regionGroup nodes)).insertionSort byGroupKey

/-- What the loop carries: the selection, how many nodes of each region are in it, and whether
the round has added one. -/
structure Progress where
  selected : List NodeCandidate
  indices : String → Nat
  added : Bool

def Progress.push (p : Progress) (region : String) (node : NodeCandidate) : Progress where
  selected := p.selected ++ [node]
  indices := Function.update p.indices region (p.indices region + 1)
  added := true

/-- One round over the regions. -/
def pickRound (count : Nat) : List Group → Progress → Progress
  | [], p => p
  | group :: groups, p =>
      if count ≤ p.selected.length then p
      else
        match group.2[p.indices group.1]? with
        | some node => pickRound count groups (p.push group.1 node)
        | none => pickRound count groups p

/-- A round does not take a node back, and one that says so has added one. -/
lemma pickRound_grows (count : Nat) (groups : List Group) (p : Progress) :
    p.selected <+: (pickRound count groups p).selected
      ∧ (p.added = false → (pickRound count groups p).added = true →
        p.selected.length < (pickRound count groups p).selected.length) := by
  induction groups generalizing p with
  | nil => exact ⟨List.prefix_rfl, fun h h' => by simp [pickRound, h] at h'⟩
  | cons group groups ih =>
      rw [pickRound]
      split
      · exact ⟨List.prefix_rfl, fun h h' => by simp [h] at h'⟩
      · split
        · next node _ =>
            have hgrown := (ih (p.push group.1 node)).1
            refine ⟨(List.prefix_append _ _).trans hgrown, fun _ _ => ?_⟩
            simpa [Progress.push, Nat.succ_le_iff] using hgrown.length_le
        · exact ih p

/-- Round after round, until there are enough nodes or a round has added none. -/
def pickRounds (count : Nat) (groups : List Group) (selected : List NodeCandidate)
    (indices : String → Nat) : List NodeCandidate :=
  if selected.length < count then
    let next := pickRound count groups ⟨selected, indices, false⟩
    if next.added = true then pickRounds count groups next.selected next.indices
    else next.selected
  else selected
termination_by count - selected.length
decreasing_by
  have := (pickRound_grows count groups ⟨selected, indices, false⟩).2 rfl ‹_›
  dsimp only at this
  omega

def selectMixed (nodes : List NodeCandidate) (order : RegionOrder nodes) (count : Int32) :
    List NodeCandidate :=
  pickRounds (FileProxy.asUsize count.toInt) (regionIter nodes order) [] fun _ => 0

/-! ## The selection for an upload -/

structure Settings where
  replicationFactor : Int32
  strategy : String

/-- The nodes with room for the fragment, less those of an excluded region. -/
def withoutRegions (excludeRegions : Option (List String)) (nodes : List NodeCandidate) :
    List NodeCandidate :=
  match excludeRegions with
  | some exclude => nodes.filter fun n => !exclude.contains n.region
  | none => nodes

/-- Every other text of a strategy means the mixed one. -/
def selectNodesForUpload (settings : Settings) (excludeRegions : Option (List String))
    (available : List NodeCandidate)
    (order : RegionOrder (withoutRegions excludeRegions available)) : List NodeCandidate :=
  let nodes := withoutRegions excludeRegions available
  if settings.strategy = "region_diverse" then
    selectRegionDiverse nodes settings.replicationFactor
  else if settings.strategy = "load_balanced" then
    selectLoadBalanced nodes settings.replicationFactor
  else selectMixed nodes order settings.replicationFactor

end Vaulted.Replication
