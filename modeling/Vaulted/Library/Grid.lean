import Mathlib.Algebra.BigOperators.Group.List.Lemmas
import Mathlib.Algebra.BigOperators.Ring.List
import Mathlib.Algebra.Order.Field.Basic
import Mathlib.Data.List.Nodup
import Mathlib.Data.List.Perm.Basic

/-!
# Lines through the cells of a grid

A grid of `w` by `h` unit cells.  Lines are drawn cell by cell: in every cell they end on some of
its sides.

* `Cell`, `Edge`, `edgeAt` — the cells, the edges between corners, and the four sides of a cell.
* `cellsOf` — the cells of the grid that an edge is a side of; `Inner` edges have two.
* `Traced` — in every cell the lines end once on each crossed side, at the point of that edge.
* `Traced.pointsOn_inner` — on an inner edge there is no end, or there are two, at one point.
* `Traced.onBorder_of_odd` — where an odd number of ends meet, there is the border of the grid.
-/

namespace Grid

/-- A cell, by its first corner. -/
abbrev Cell := ℕ × ℕ

inductive Side
  | Top
  | Right
  | Bottom
  | Left
  deriving DecidableEq

/-- An edge from one corner to the next one in its direction. -/
inductive Edge
  | Horizontal (x y : ℕ)
  | Vertical (x y : ℕ)
  deriving DecidableEq

def edgeAt (c : Cell) : Side → Edge
  | .Top => .Horizontal c.1 c.2
  | .Right => .Vertical (c.1 + 1) c.2
  | .Bottom => .Horizontal c.1 (c.2 + 1)
  | .Left => .Vertical c.1 c.2

def sides (c : Cell) : List Edge := [Side.Top, Side.Right, Side.Bottom, Side.Left].map (edgeAt c)

/-- The cells, row by row. -/
def cells (w h : ℕ) : List Cell :=
  (List.range h).flatMap fun y => (List.range w).map fun x => (x, y)

/-- The cells that the edge would be a side of in a grid without an end. -/
def Edge.neighbours : Edge → List Cell
  | .Horizontal x y => (x, y) :: if y = 0 then [] else [(x, y - 1)]
  | .Vertical x y => (x, y) :: if x = 0 then [] else [(x - 1, y)]

def cellsOf (w h : ℕ) (e : Edge) : List Cell := e.neighbours.filter fun c => decide (c ∈ cells w h)

/-- There is a cell of the grid on both sides of the edge. -/
def Inner (w h : ℕ) (e : Edge) : Prop := (cellsOf w h e).length = 2

lemma mem_cells {w h : ℕ} {c : Cell} : c ∈ cells w h ↔ c.1 < w ∧ c.2 < h := by
  obtain ⟨x, y⟩ := c
  simp [cells, and_comm]

lemma nodup_cells (w h : ℕ) : (cells w h).Nodup := by
  refine List.nodup_flatMap.mpr ⟨fun y _ => ?_, ?_⟩
  · exact List.nodup_range.map fun x x' heq => congrArg Prod.fst heq
  · refine List.nodup_range.imp fun {y y'} hne c hc hc' => hne ?_
    obtain ⟨x, -, rfl⟩ := List.mem_map.mp hc
    obtain ⟨x', -, heq⟩ := List.mem_map.mp hc'
    exact (congrArg Prod.snd heq).symm

lemma nodup_sides (c : Cell) : (sides c).Nodup := by
  simp [sides, edgeAt]

lemma mem_sides {c : Cell} {e : Edge} : e ∈ sides c ↔ c ∈ e.neighbours := by
  obtain ⟨x, y⟩ := c
  cases e with
  | Horizontal x' y' =>
      by_cases hy : y' = 0
      · simp [sides, edgeAt, Edge.neighbours, hy]
        omega
      · simp [sides, edgeAt, Edge.neighbours, hy]
        omega
  | Vertical x' y' =>
      by_cases hx : x' = 0
      · simp [sides, edgeAt, Edge.neighbours, hx]
        omega
      · simp [sides, edgeAt, Edge.neighbours, hx]
        omega

lemma nodup_neighbours (e : Edge) : e.neighbours.Nodup := by
  cases e with
  | Horizontal x y =>
      rw [Edge.neighbours]
      split_ifs with hy
      · exact List.nodup_singleton _
      · simp only [List.nodup_cons, List.mem_singleton, Prod.mk.injEq, true_and]
        simp only [List.not_mem_nil, not_false_eq_true, List.nodup_nil, and_true]
        omega
  | Vertical x y =>
      rw [Edge.neighbours]
      split_ifs with hx
      · exact List.nodup_singleton _
      · simp only [List.nodup_cons, List.mem_singleton, Prod.mk.injEq, and_true]
        simp only [List.not_mem_nil, not_false_eq_true, List.nodup_nil, and_true]
        omega

lemma length_cellsOf_horizontal (w h x y : ℕ) : (cellsOf w h (.Horizontal x y)).length
    = (if x < w ∧ y < h then 1 else 0) + if y ≠ 0 ∧ x < w ∧ y - 1 < h then 1 else 0 := by
  rw [cellsOf, ← List.countP_eq_length_filter, Edge.neighbours, List.countP_cons]
  by_cases hy : y = 0
  · simp [hy, mem_cells]
  · simp [hy, mem_cells, Nat.add_comm]

lemma length_cellsOf_vertical (w h x y : ℕ) : (cellsOf w h (.Vertical x y)).length
    = (if x < w ∧ y < h then 1 else 0) + if x ≠ 0 ∧ x - 1 < w ∧ y < h then 1 else 0 := by
  rw [cellsOf, ← List.countP_eq_length_filter, Edge.neighbours, List.countP_cons]
  by_cases hx : x = 0
  · simp [hx, mem_cells]
  · simp [hx, mem_cells, Nat.add_comm]

lemma length_cellsOf_le (w h : ℕ) (e : Edge) : (cellsOf w h e).length ≤ 2 := by
  cases e with
  | Horizontal x y =>
      rw [length_cellsOf_horizontal]
      split_ifs <;> omega
  | Vertical x y =>
      rw [length_cellsOf_vertical]
      split_ifs <;> omega

/-- **An edge is a side of as many cells as are on either side of it.** -/
lemma count_sides (w h : ℕ) (e : Edge) :
    ((cells w h).flatMap sides).count e = (cellsOf w h e).length := by
  have hcount : ∀ c, (sides c).count e = if c ∈ e.neighbours then 1 else 0 := by
    intro c
    rw [(nodup_sides c).count]
    exact if_congr mem_sides rfl rfl
  have hperm : ((cells w h).filter fun c => decide (c ∈ e.neighbours)).Perm (cellsOf w h e) := by
    refine (List.perm_ext_iff_of_nodup ((nodup_cells w h).filter _)
      ((nodup_neighbours e).filter _)).mpr fun c => ?_
    simp [and_comm]
  rw [List.count_flatMap, ← hperm.length_eq, ← List.countP_eq_length_filter]
  induction cells w h with
  | nil => rfl
  | cons c cs ih =>
      rw [List.map_cons, List.sum_cons, ih, List.countP_cons, Function.comp_apply, hcount]
      simp [Nat.add_comm]

/-! ## Lines -/

section Lines

variable {Z : Type*} {w h : ℕ} {crossed : Edge → Bool} {point : Edge → Z}
  {ends : Cell → List (Edge × Z)}

/-- The ends of the lines in all cells, each with the edge that it is on. -/
def allEnds (w h : ℕ) (ends : Cell → List (Edge × Z)) : List (Edge × Z) := (cells w h).flatMap ends

/-- The points at which lines end on an edge. -/
def pointsOn (w h : ℕ) (ends : Cell → List (Edge × Z)) (e : Edge) : List Z :=
  ((allEnds w h ends).filter fun m => decide (m.1 = e)).map Prod.snd

/-- In every cell, lines end once on each of the sides that are crossed, at the point of the
edge. -/
def Traced (w h : ℕ) (crossed : Edge → Bool) (point : Edge → Z) (ends : Cell → List (Edge × Z)) :
    Prop :=
  ∀ c ∈ cells w h, (ends c).Perm (((sides c).filter crossed).map fun e => (e, point e))

lemma Traced.allEnds_perm (htraced : Traced w h crossed point ends) :
    (allEnds w h ends).Perm
      ((((cells w h).flatMap sides).filter crossed).map fun e => (e, point e)) := by
  rw [List.filter_flatMap, List.map_flatMap]
  exact List.Perm.flatMap_left _ htraced

/-- **A crossed edge has an end for each cell beside it**, and all at its point. -/
theorem Traced.pointsOn_eq (htraced : Traced w h crossed point ends) (e : Edge) :
    pointsOn w h ends e
      = if crossed e then List.replicate (cellsOf w h e).length (point e) else [] := by
  have hperm := (htraced.allEnds_perm.filter fun m => decide (m.1 = e)).map Prod.snd
  have hedges : ((((cells w h).flatMap sides).filter crossed).map fun e => (e, point e)).filter
      (fun m => decide (m.1 = e))
        = (((cells w h).flatMap sides).filter crossed |>.filter fun e' => decide (e' = e)).map
            fun e => (e, point e) := by
    rw [List.filter_map]
    rfl
  rw [hedges, List.filter_eq, List.map_map, List.map_replicate] at hperm
  rw [pointsOn, List.perm_replicate.mp hperm]
  split_ifs with hcrossed
  · rw [List.count_filter hcrossed, count_sides]
    rfl
  · rw [List.count_eq_zero_of_not_mem fun hmem => hcrossed (List.mem_filter.mp hmem).2]
    rfl

theorem Traced.pointsOn_inner (htraced : Traced w h crossed point ends) {e : Edge}
    (he : Inner w h e) : pointsOn w h ends e = [] ∨ ∃ z, pointsOn w h ends e = [z, z] := by
  rw [htraced.pointsOn_eq, he]
  split_ifs
  · exact .inr ⟨point e, rfl⟩
  · exact .inl rfl

theorem Traced.pointsOn_outer (htraced : Traced w h crossed point ends) {e : Edge}
    (he : ¬Inner w h e) : pointsOn w h ends e = [] ∨ ∃ z, pointsOn w h ends e = [z] := by
  rw [htraced.pointsOn_eq]
  have hle := length_cellsOf_le w h e
  have hlength : (cellsOf w h e).length = 0 ∨ (cellsOf w h e).length = 1 := by
    rw [Inner] at he
    omega
  split_ifs
  · rcases hlength with hzero | hone
    · exact .inl (by rw [hzero]; rfl)
    · exact .inr ⟨point e, by rw [hone]; rfl⟩
  · exact .inl rfl

end Lines

/-! ## The border -/

/-- If all elements with a property occur evenly often, the property does. -/
lemma even_countP {α : Type*} [DecidableEq α] {p : α → Bool} {l : List α}
    (heven : ∀ x ∈ l, p x = true → Even (l.count x)) : Even (l.countP p) := by
  rw [← List.sum_map_count_dedup_filter_eq_countP, even_iff_two_dvd]
  refine List.dvd_sum fun n hn => ?_
  obtain ⟨x, hx, rfl⟩ := List.mem_map.mp hn
  obtain ⟨hmem, hp⟩ := List.mem_filter.mp hx
  exact even_iff_two_dvd.mp (heven x (List.mem_dedup.mp hmem) hp)

section Border

variable {K : Type*} [Field K] [LinearOrder K] [IsStrictOrderedRing K] {w h : ℕ}

/-- The point is on the edge. -/
def Edge.Contains : Edge → K × K → Prop
  | .Horizontal x y, p => x ≤ p.1 ∧ p.1 ≤ x + 1 ∧ p.2 = y
  | .Vertical x y, p => p.1 = x ∧ y ≤ p.2 ∧ p.2 ≤ y + 1

/-- The point is on the border of the grid. -/
def OnBorder (w h : ℕ) (p : K × K) : Prop :=
  (p.1 = 0 ∨ p.1 = w) ∧ 0 ≤ p.2 ∧ p.2 ≤ h ∨ (p.2 = 0 ∨ p.2 = h) ∧ 0 ≤ p.1 ∧ p.1 ≤ w

/-- An edge with a cell on one side only is on the border. -/
lemma onBorder_of_contains {e : Edge} {p : K × K} (hone : (cellsOf w h e).length = 1)
    (hp : e.Contains p) : OnBorder w h p := by
  cases e with
  | Horizontal x y =>
      obtain ⟨hleft, hright, hy⟩ := hp
      have hedge : x + 1 ≤ w ∧ (y = 0 ∨ y = h) := by
        rw [length_cellsOf_horizontal] at hone
        split_ifs at hone <;> omega
      have hw : (x : K) + 1 ≤ w := by exact_mod_cast hedge.1
      have hx : (0 : K) ≤ x := Nat.cast_nonneg x
      refine .inr ⟨?_, hx.trans hleft, hright.trans hw⟩
      rcases hedge.2 with rfl | rfl
      · exact .inl (by rw [hy, Nat.cast_zero])
      · exact .inr hy
  | Vertical x y =>
      obtain ⟨hx, hlow, hhigh⟩ := hp
      have hedge : y + 1 ≤ h ∧ (x = 0 ∨ x = w) := by
        rw [length_cellsOf_vertical] at hone
        split_ifs at hone <;> omega
      have hh : (y : K) + 1 ≤ h := by exact_mod_cast hedge.1
      have hy : (0 : K) ≤ y := Nat.cast_nonneg y
      refine .inl ⟨?_, hy.trans hlow, hhigh.trans hh⟩
      rcases hedge.2 with rfl | rfl
      · exact .inl (by rw [hx, Nat.cast_zero])
      · exact .inr hx

/-- **Where a line ends, there is the border**: any other point is an end evenly often. An edge
inside the grid has a cell on both sides, and lines end at its point in both or in neither; only
edges of the border have one cell. -/
theorem Traced.onBorder_of_odd {crossed : Edge → Bool} {point : Edge → K × K}
    {ends : Cell → List (Edge × (K × K))} (htraced : Traced w h crossed point ends)
    (hpoint : ∀ e, crossed e = true → e.Contains (point e)) {z : K × K}
    (hodd : Odd (((allEnds w h ends).map Prod.snd).count z)) : OnBorder w h z := by
  by_contra hinside
  have hcount : ((allEnds w h ends).map Prod.snd).count z
      = ((cells w h).flatMap sides).countP fun e => decide (point e = z) && crossed e := by
    rw [(htraced.allEnds_perm.map Prod.snd).count_eq, List.map_map, List.count, List.countP_map,
      List.countP_filter]
    refine List.countP_congr fun e _ => ?_
    simp only [Function.comp_apply, Bool.and_eq_true, beq_iff_eq, decide_eq_true_eq]
  rw [hcount, ← Nat.not_even_iff_odd] at hodd
  refine hodd (even_countP fun e _ he => ?_)
  rw [Bool.and_eq_true, decide_eq_true_eq] at he
  have hone : (cellsOf w h e).length ≠ 1 := fun hone =>
    hinside (onBorder_of_contains hone (he.1 ▸ hpoint e he.2))
  have hle := length_cellsOf_le w h e
  rw [count_sides]
  rcases (by omega : (cellsOf w h e).length = 0 ∨ (cellsOf w h e).length = 2) with hzero | htwo
  · rw [hzero]
    exact Even.zero
  · rw [htwo]
    exact even_two

end Border

end Grid
