import Mathlib.Data.List.GetD
import Vaulted.Library.Grid
import Vaulted.Oracle.NftImage

/-!
# Contour lines do not break

What `march_squares` draws at one threshold, on a field of any size.  An end of a segment belongs to
the side of the cell that it was computed for; where the threshold is the value of a corner, this
side is not the only one that the point lies on.

* `straddles` — one of the corners of an edge is above the threshold.
* `markedCell` — the segments of a cell, with the edge that each end was computed for.
* `Unbroken` — in a cell there is one end on each straddling edge; two cells compute the same point
  on the edge between them; and lines end on the border of the field only.
* `joined_ends` — the sixteen cases of the `match`.
* `marchSquares_unbroken` — every field has unbroken lines.
-/

namespace Vaulted.NftImage

open Grid

section Field

variable (F : ℕ × ℕ → ℚ) (thr : ℚ)

/-- The two nodes of the grid that an edge is between. -/
def corners : Edge → (ℕ × ℕ) × (ℕ × ℕ)
  | .Horizontal x y => ((x, y), (x + 1, y))
  | .Vertical x y => ((x, y), (x, y + 1))

def straddles (e : Edge) : Bool :=
  decide (F (corners e).1 > thr) ^^ decide (F (corners e).2 > thr)

/-- `marchCell`, where a point comes with the edge that it was computed for. -/
def markedCell (c : Cell) : List ((Edge × Pt) × (Edge × Pt)) :=
  let v0 := F (c.1, c.2)
  let v1 := F (c.1 + 1, c.2)
  let v2 := F (c.1 + 1, c.2 + 1)
  let v3 := F (c.1, c.2 + 1)
  let p : Pt := (c.1, c.2)
  let q : Pt := (c.1 + 1, c.2)
  let r : Pt := (c.1 + 1, c.2 + 1)
  let s : Pt := (c.1, c.2 + 1)
  joined (cornerBits thr v0 v1 v2 v3)
    (edgeAt c .Top, lerp thr v0 v1 p q) (edgeAt c .Right, lerp thr v1 v2 q r)
    (edgeAt c .Bottom, lerp thr v3 v2 s r) (edgeAt c .Left, lerp thr v0 v3 p s)

/-- The ends of the segments of a cell. -/
def cellEnds (c : Cell) : List (Edge × Pt) := (markedCell F thr c).flatMap fun s => [s.1, s.2]

/-- What the segments at a threshold should be like, on a field of `w` by `h` cells. Ends are
counted with their edges, since two edges that meet in a corner may share a point. -/
structure Unbroken (w h : ℕ) (segs : List (Pt × Pt)) : Prop where
  drawn : segs = ((cells w h).flatMap (markedCell F thr)).map fun s => (s.1.2, s.2.2)
  straddled : ∀ c ∈ cells w h,
    ((cellEnds F thr c).map Prod.fst).Perm ((sides c).filter (straddles F thr))
  onEdge : ∀ c ∈ cells w h, ∀ m ∈ cellEnds F thr c, m.1.Contains m.2
  onlyOn : ∀ c ∈ cells w h, ∀ m ∈ cellEnds F thr c, ∀ e ∈ sides c, e.Contains m.2 →
    e = m.1 ∨ F (corners m.1).1 = thr ∨ F (corners m.1).2 = thr
  agree : ∀ c ∈ cells w h, ∀ c' ∈ cells w h, ∀ m ∈ cellEnds F thr c, ∀ m' ∈ cellEnds F thr c',
    m.1 = m'.1 → m.2 = m'.2
  inner : ∀ e, Inner w h e → pointsOn w h (cellEnds F thr) e = []
    ∨ ∃ z, pointsOn w h (cellEnds F thr) e = [z, z]
  outer : ∀ e, ¬Inner w h e → pointsOn w h (cellEnds F thr) e = []
    ∨ ∃ z, pointsOn w h (cellEnds F thr) e = [z]
  border : ∀ z, Odd ((segs.flatMap fun s => [s.1, s.2]).count z) → OnBorder w h z

end Field

/-! ## The sixteen cases -/

/-- The side of a cell that one of these corners is above the threshold of, and the other not. -/
def crossedSide (b0 b1 b2 b3 : Bool) : Side → Bool
  | .Top => b0 ^^ b1
  | .Right => b1 ^^ b2
  | .Bottom => b3 ^^ b2
  | .Left => b0 ^^ b3

def bits (b0 b1 b2 b3 : Bool) : ℕ :=
  (if b0 then 1 else 0) ||| (if b1 then 2 else 0) ||| (if b2 then 4 else 0) ||| if b3 then 8 else 0

/-- **In all cases, every crossed side has one end.** -/
lemma joined_ends (b0 b1 b2 b3 : Bool) :
    ((joined (bits b0 b1 b2 b3) Side.Top Side.Right Side.Bottom Side.Left).flatMap
      fun s => [s.1, s.2]).Perm
      ([Side.Top, Side.Right, Side.Bottom, Side.Left].filter (crossedSide b0 b1 b2 b3)) := by
  revert b0 b1 b2 b3
  decide

lemma joined_map {α β : Type} (f : α → β) (cfg : ℕ) (a b c d : α) :
    joined cfg (f a) (f b) (f c) (f d) = (joined cfg a b c d).map (Prod.map f f) := by
  unfold joined
  split <;> rfl

lemma cornerBits_eq (thr v0 v1 v2 v3 : ℚ) : cornerBits thr v0 v1 v2 v3
    = bits (decide (v0 > thr)) (decide (v1 > thr)) (decide (v2 > thr)) (decide (v3 > thr)) := by
  simp [cornerBits, bits]

/-! ## The point of an edge -/

/-- How far along the edge the line crosses it. -/
def fraction (thr va vb : ℚ) : ℚ := if |va - vb| < 1e-6 then 1 / 2 else (thr - va) / (vb - va)

lemma lerp_eq (thr va vb : ℚ) (pa pb : Pt) : lerp thr va vb pa pb
    = (pa.1 + (pb.1 - pa.1) * fraction thr va vb, pa.2 + (pb.2 - pa.2) * fraction thr va vb) := by
  rw [lerp, fraction]
  split_ifs
  · rw [Prod.mk.injEq]
    constructor <;> ring
  · rfl

/-- A line crosses a straddling edge between its corners. -/
lemma fraction_mem {thr va vb : ℚ} (h : (decide (va > thr) ^^ decide (vb > thr)) = true) :
    0 ≤ fraction thr va vb ∧ fraction thr va vb ≤ 1 := by
  rw [fraction]
  split_ifs with hclose
  · norm_num
  · by_cases ha : va > thr
    · have hb : vb ≤ thr := by simpa [ha] using h
      have hneg : vb - va < 0 := by linarith
      exact ⟨div_nonneg_of_nonpos (by linarith) hneg.le, (div_le_one_of_neg hneg).mpr (by linarith)⟩
    · have hb : thr < vb := by simpa [ha] using h
      have hpos : 0 < vb - va := by linarith
      exact ⟨div_nonneg (by linarith) hpos.le, (div_le_one hpos).mpr (by linarith)⟩

/-- It crosses it in a corner only where this has the value of the threshold. -/
lemma eq_thr_of_fraction {thr va vb : ℚ} (h : (decide (va > thr) ^^ decide (vb > thr)) = true)
    (hcorner : fraction thr va vb = 0 ∨ fraction thr va vb = 1) : va = thr ∨ vb = thr := by
  have hne : vb - va ≠ 0 := by
    intro heq
    rw [sub_eq_zero.mp heq] at h
    simp at h
  rw [fraction] at hcorner
  split_ifs at hcorner with hclose
  · norm_num at hcorner
  · rw [div_eq_zero_iff, div_eq_one_iff_eq hne] at hcorner
    rcases hcorner with (hzero | hzero) | hone
    · exact .inl (sub_eq_zero.mp hzero).symm
    · exact absurd hzero hne
    · exact .inr (sub_left_injective hone).symm

section Field

variable (F : ℕ × ℕ → ℚ) (thr : ℚ)

/-- The point that is computed on an edge. -/
def crossing (e : Edge) : Pt :=
  lerp thr (F (corners e).1) (F (corners e).2) ((corners e).1.1, (corners e).1.2)
    ((corners e).2.1, (corners e).2.2)

/-- How far along the edge this is. -/
def crossedAt (e : Edge) : ℚ := fraction thr (F (corners e).1) (F (corners e).2)

lemma crossing_horizontal (x y : ℕ) : crossing F thr (.Horizontal x y)
    = ((x : ℚ) + crossedAt F thr (.Horizontal x y), (y : ℚ)) := by
  rw [crossing, lerp_eq, crossedAt, Prod.mk.injEq]
  simp only [corners]
  push_cast
  constructor <;> ring

lemma crossing_vertical (x y : ℕ) : crossing F thr (.Vertical x y)
    = ((x : ℚ), (y : ℚ) + crossedAt F thr (.Vertical x y)) := by
  rw [crossing, lerp_eq, crossedAt, Prod.mk.injEq]
  simp only [corners]
  push_cast
  constructor <;> ring

lemma crossing_mem {e : Edge} (h : straddles F thr e = true) : e.Contains (crossing F thr e) := by
  obtain ⟨hzero, hone⟩ : 0 ≤ crossedAt F thr e ∧ crossedAt F thr e ≤ 1 := fraction_mem h
  cases e with
  | Horizontal x y =>
      rw [crossing_horizontal]
      exact ⟨le_add_of_nonneg_right hzero, add_le_add_right hone _, rfl⟩
  | Vertical x y =>
      rw [crossing_vertical]
      exact ⟨rfl, le_add_of_nonneg_right hzero, add_le_add_right hone _⟩

/-- Another side of the cell has the point in a corner. -/
lemma corner_of_contains {c : Cell} {e e' : Edge} (he : e ∈ sides c) (he' : e' ∈ sides c)
    (hmem : e'.Contains (crossing F thr e)) :
    e' = e ∨ crossedAt F thr e = 0 ∨ crossedAt F thr e = 1 := by
  simp only [sides, List.map_cons, List.map_nil, edgeAt, List.mem_cons, List.not_mem_nil,
    or_false] at he he'
  cases e with
  | Horizontal x y =>
      rw [crossing_horizontal] at hmem
      generalize crossedAt F thr (.Horizontal x y) = t at hmem ⊢
      cases e' with
      | Horizontal x' y' =>
          have hy : (y : ℚ) = y' := hmem.2.2
          have hx : x' = x := by grind
          exact .inl (by rw [hx, Nat.cast_injective hy])
      | Vertical x' y' =>
          have hx : (x : ℚ) + t = x' := hmem.1
          rcases (by grind : x' = x ∨ x' = x + 1) with rfl | rfl
          · exact .inr (.inl (by linarith))
          · push_cast at hx
            exact .inr (.inr (by linarith))
  | Vertical x y =>
      rw [crossing_vertical] at hmem
      generalize crossedAt F thr (.Vertical x y) = t at hmem ⊢
      cases e' with
      | Horizontal x' y' =>
          have hy : (y : ℚ) + t = y' := hmem.2.2
          rcases (by grind : y' = y ∨ y' = y + 1) with rfl | rfl
          · exact .inr (.inl (by linarith))
          · push_cast at hy
            exact .inr (.inr (by linarith))
      | Vertical x' y' =>
          have hx : (x : ℚ) = x' := hmem.1
          have hy : y' = y := by grind
          exact .inl (by rw [Nat.cast_injective hx, hy])

lemma crossing_onlyOn {c : Cell} {e e' : Edge} (he : e ∈ sides c) (he' : e' ∈ sides c)
    (h : straddles F thr e = true) (hmem : e'.Contains (crossing F thr e)) :
    e' = e ∨ F (corners e).1 = thr ∨ F (corners e).2 = thr :=
  (corner_of_contains F thr he he' hmem).imp_right (eq_thr_of_fraction h)

/-! ## One cell -/

/-- A side of a cell, with the point of its edge. -/
def markOf (c : Cell) (side : Side) : Edge × Pt := (edgeAt c side, crossing F thr (edgeAt c side))

/-- **A cell computes the point of an edge from the edge alone.** -/
lemma markedCell_eq (c : Cell) : markedCell F thr c
    = (joined (cornerBits thr (F (c.1, c.2)) (F (c.1 + 1, c.2)) (F (c.1 + 1, c.2 + 1))
        (F (c.1, c.2 + 1))) Side.Top Side.Right Side.Bottom Side.Left).map
          (Prod.map (markOf F thr c) (markOf F thr c)) := by
  rw [← joined_map, markedCell]
  simp only [markOf, crossing, edgeAt, corners]
  push_cast
  rfl

lemma straddles_edgeAt (c : Cell) (side : Side) : straddles F thr (edgeAt c side)
    = crossedSide (decide (F (c.1, c.2) > thr)) (decide (F (c.1 + 1, c.2) > thr))
        (decide (F (c.1 + 1, c.2 + 1) > thr)) (decide (F (c.1, c.2 + 1) > thr)) side := by
  cases side <;> rfl

lemma traced (w h : ℕ) : Traced w h (straddles F thr) (crossing F thr) (cellEnds F thr) := by
  intro c _
  have hperm := (joined_ends (decide (F (c.1, c.2) > thr)) (decide (F (c.1 + 1, c.2) > thr))
    (decide (F (c.1 + 1, c.2 + 1) > thr)) (decide (F (c.1, c.2 + 1) > thr))).map (markOf F thr c)
  rw [← cornerBits_eq] at hperm
  have hends : cellEnds F thr c = ((joined (cornerBits thr (F (c.1, c.2)) (F (c.1 + 1, c.2))
      (F (c.1 + 1, c.2 + 1)) (F (c.1, c.2 + 1))) Side.Top Side.Right Side.Bottom Side.Left).flatMap
        fun s => [s.1, s.2]).map (markOf F thr c) := by
    rw [cellEnds, markedCell_eq, List.flatMap_map, List.map_flatMap]
    rfl
  have hsides : (((sides c).filter (straddles F thr)).map fun e => (e, crossing F thr e))
      = ([Side.Top, Side.Right, Side.Bottom, Side.Left].filter
          (crossedSide (decide (F (c.1, c.2) > thr)) (decide (F (c.1 + 1, c.2) > thr))
            (decide (F (c.1 + 1, c.2 + 1) > thr)) (decide (F (c.1, c.2 + 1) > thr)))).map
              (markOf F thr c) := by
    rw [sides, List.filter_map, List.map_map]
    refine congrArg₂ _ rfl (List.filter_congr fun side _ => ?_)
    exact straddles_edgeAt F thr c side
  rw [hends, hsides]
  exact hperm

end Field

/-! ## The whole field -/

/-- The value at a node of the grid. -/
def valueAt (field : List ℚ) (cols : ℕ) (n : ℕ × ℕ) : ℚ := field.getD (n.2 * cols + n.1) 0

lemma getElem?_valueAt {field : List ℚ} {cols rows ix iy : ℕ} (hfield : field.length = cols * rows)
    (hx : ix < cols) (hy : iy < rows) :
    field[iy * cols + ix]? = some (valueAt field cols (ix, iy)) := by
  have hlt : iy * cols + ix < field.length :=
    calc iy * cols + ix < (iy + 1) * cols := by rw [Nat.succ_mul]; omega
      _ ≤ rows * cols := Nat.mul_le_mul_right cols hy
      _ = field.length := by rw [hfield, Nat.mul_comm]
  rw [valueAt, List.getD_eq_getElem _ _ hlt, List.getElem?_eq_getElem hlt]

lemma mapM_of_forall {α β : Type} {f : α → Option β} {g : α → β} {as : List α}
    (h : ∀ a ∈ as, f a = some (g a)) : as.mapM f = some (as.map g) := by
  induction as with
  | nil => rfl
  | cons a as ih =>
      obtain ⟨ha, has⟩ := List.forall_mem_cons.mp h
      rw [List.mapM_cons, ha, ih has]
      rfl

lemma marchCell_eq (F : ℕ × ℕ → ℚ) (thr : ℚ) (c : Cell) :
    marchCell thr (F (c.1, c.2)) (F (c.1 + 1, c.2)) (F (c.1 + 1, c.2 + 1)) (F (c.1, c.2 + 1))
      c.1 c.2 = (markedCell F thr c).map fun s => (s.1.2, s.2.2) := by
  rw [marchCell, markedCell]
  split_ifs with hcfg
  · rcases hcfg with hcfg | hcfg
    · rw [hcfg]
      rfl
    · rw [hcfg]
      rfl
  · have hpoints : (fun s : (Edge × Pt) × (Edge × Pt) => (s.1.2, s.2.2))
        = Prod.map Prod.snd Prod.snd := rfl
    rw [hpoints, ← joined_map]

lemma marchAt_eq {field : List ℚ} {cols rows ix iy : ℕ} (hfield : field.length = cols * rows)
    (hx : ix + 1 < cols) (hy : iy + 1 < rows) (thr : ℚ) : marchAt field cols thr iy ix
      = some ((markedCell (valueAt field cols) thr (ix, iy)).map fun s => (s.1.2, s.2.2)) := by
  rw [marchAt, ← marchCell_eq, Nat.add_assoc, Nat.add_assoc,
    getElem?_valueAt hfield (by omega) (by omega), getElem?_valueAt hfield hx (by omega),
    getElem?_valueAt hfield hx hy, getElem?_valueAt hfield (by omega) hy]
  rfl

/-- **A field of two columns and rows at least is marched without a panic**, cell by cell. -/
lemma marchSquares_eq {field : List ℚ} {cols rows : ℕ} (hcols : 2 ≤ cols) (hrows : 2 ≤ rows)
    (hfield : field.length = cols * rows) (thr : ℚ) : marchSquares field cols rows thr
      = some (((cells (cols - 1) (rows - 1)).flatMap (markedCell (valueAt field cols) thr)).map
          fun s => (s.1.2, s.2.2)) := by
  obtain ⟨w, rfl⟩ : ∃ w, cols = w + 1 := ⟨cols - 1, by omega⟩
  obtain ⟨h, rfl⟩ : ∃ h, rows = h + 1 := ⟨rows - 1, by omega⟩
  have hrow : ∀ iy ∈ List.range h,
      ((checkedPred (w + 1)).bind fun width =>
        (List.range width).mapM (marchAt field (w + 1) thr iy))
      = some ((List.range w).map fun ix =>
          (markedCell (valueAt field (w + 1)) thr (ix, iy)).map fun s => (s.1.2, s.2.2)) := by
    intro iy hy
    rw [List.mem_range] at hy
    refine mapM_of_forall fun ix hx => ?_
    rw [List.mem_range] at hx
    exact marchAt_eq hfield (by omega) (by omega) thr
  have hmarch : marchSquares field (w + 1) (h + 1) thr
      = ((List.range h).mapM fun iy => (checkedPred (w + 1)).bind fun width =>
          (List.range width).mapM (marchAt field (w + 1) thr iy)).map
            fun segs => segs.flatten.flatten := by
    rw [marchSquares, Option.map_eq_bind]
    rfl
  rw [hmarch, mapM_of_forall hrow, Option.map_some]
  simp only [Nat.add_sub_cancel, cells, List.flatMap, List.map_flatten, List.map_map,
    List.flatten_flatten]
  refine congrArg (fun segs => some (List.flatten segs)) (List.map_congr_left fun iy _ => ?_)
  simp [List.map_flatten, Function.comp_def]

/-- **The segments of all cells, one cell after the other.** -/
lemma unbroken_cells (F : ℕ × ℕ → ℚ) (thr : ℚ) (w h : ℕ) : Unbroken F thr w h
    (((cells w h).flatMap (markedCell F thr)).map fun s => (s.1.2, s.2.2)) := by
  have htraced := traced F thr w h
  have hmark : ∀ c ∈ cells w h, ∀ m ∈ cellEnds F thr c,
      straddles F thr m.1 = true ∧ m.2 = crossing F thr m.1 := by
    intro c hc m hm
    obtain ⟨e, he, rfl⟩ := List.mem_map.mp ((htraced c hc).mem_iff.mp hm)
    exact ⟨(List.mem_filter.mp he).2, rfl⟩
  refine ⟨rfl, fun c hc => ?_, fun c hc m hm => ?_, fun c hc m hm e he hmem => ?_,
    fun c hc c' hc' m hm m' hm' heq => ?_, fun e he => htraced.pointsOn_inner he,
    fun e he => htraced.pointsOn_outer he, fun z hodd => ?_⟩
  · have hedges := (htraced c hc).map Prod.fst
    rw [List.map_map] at hedges
    simpa [Function.comp_def] using hedges
  · rw [(hmark c hc m hm).2]
    exact crossing_mem _ _ (hmark c hc m hm).1
  · obtain ⟨e', he', rfl⟩ := List.mem_map.mp ((htraced c hc).mem_iff.mp hm)
    obtain ⟨hside, hstraddles⟩ := List.mem_filter.mp he'
    exact crossing_onlyOn _ _ hside he hstraddles hmem
  · rw [(hmark c hc m hm).2, (hmark c' hc' m' hm').2, heq]
  · refine htraced.onBorder_of_odd (fun e he => crossing_mem _ _ he) ?_
    have hends : (allEnds w h (cellEnds F thr)).map Prod.snd
        = ((((cells w h).flatMap (markedCell F thr)).map fun s => (s.1.2, s.2.2)).flatMap
            fun s => [s.1, s.2]) := by
      rw [allEnds, List.map_flatMap, List.flatMap_map, List.flatMap_assoc]
      refine congrArg (fun f => List.flatMap f _) (funext fun c => ?_)
      rw [cellEnds, List.map_flatMap]
      rfl
    rw [hends]
    exact hodd

/-- **Contour lines do not break.** By the sixteen cases of a cell: its ends lie on the edges that
straddle the threshold, and where they lie on an edge is computed from the two corners alone, so
that the cells on both sides of it agree. -/
theorem marchSquares_unbroken {field : List ℚ} {cols rows : ℕ} (hcols : 2 ≤ cols) (hrows : 2 ≤ rows)
    (hfield : field.length = cols * rows) (thr : ℚ) : ∃ segs,
      marchSquares field cols rows thr = some segs
        ∧ Unbroken (valueAt field cols) thr (cols - 1) (rows - 1) segs :=
  ⟨_, marchSquares_eq hcols hrows hfield thr, unbroken_cells _ thr _ _⟩

namespace Sample

/-- A hill in the middle of the field. -/
def hill : List ℚ := [0, 0, 0, 0, 2, 0, 0, 0, 0]

/-- The line around the hill is closed. -/
example : marchSquares hill 3 3 1 = some [((1, 1 / 2), (1 / 2, 1)), ((1, 1 / 2), (3 / 2, 1)),
    ((1 / 2, 1), (1, 3 / 2)), ((1, 3 / 2), (3 / 2, 1))] := by decide +kernel

theorem hill_unbroken : ∃ segs, marchSquares hill 3 3 1 = some segs
    ∧ Unbroken (valueAt hill 3) 1 2 2 segs :=
  marchSquares_unbroken (by decide) (by decide) rfl 1

end Sample

end Vaulted.NftImage
