import Mathlib.Algebra.Order.BigOperators.Group.List
import Mathlib.Order.Bounds.Basic
import Mathlib.Order.Std
import Vaulted.Image.ContourChains
import Vaulted.Image.ContourLines
import Vaulted.Image.SamePicture

/-!
# The image of a token

From the scalar field to the paths of the SVG, for every token and whatever a square root is.

* `IsLevel` — the chains at one threshold are those of unbroken segments; `Levels` — all of them.
* `isoLines_spec` — the loop over the thresholds ends, with such chains at each of them.
* `Follows` — a path goes smoothly from the first point of a chain to the last, along its points.
* `toBezierPath_spec` — a chain of more than four points has a path.
* `paths_spec` — the whole image: every chain at every threshold is drawn, in the token's colour.
-/

namespace Vaulted.NftImage

/-! ## Levels -/

/-- The chains at a threshold. -/
def IsLevel (field : List ℚ) (cols rows : ℕ) (thr : ℚ) (chains : List (List Pt)) : Prop :=
  ∃ segs built, Unbroken (valueAt field cols) thr (cols - 1) (rows - 1) segs
    ∧ Chaining isNear (scaledSegments scaled segs) (List.finRange _) built
    ∧ chains = longChains built

/-- The chains of all levels, between the least and the greatest value of the field. -/
structure Levels (field : List ℚ) (cols rows : ℕ) where
  mn : ℚ
  mx : ℚ
  chains : ℕ → List (List Pt)
  least : IsLeast {v | v ∈ field} mn
  greatest : IsGreatest {v | v ∈ field} mx
  inRange : ∀ l < lines, threshold mn mx l ∈ Set.Icc mn mx
  isLevel : ∀ l < lines, IsLevel field cols rows (threshold mn mx l) (chains l)

/-- Passes that are enough at every threshold: two segments in each cell. -/
def enough (cols rows : ℕ) : ℕ := (cols - 1) * (rows - 1) * 2

lemma length_markedCell_le (F : ℕ × ℕ → ℚ) (thr : ℚ) (c : Grid.Cell) :
    (markedCell F thr c).length ≤ 2 := by
  rw [markedCell]
  unfold joined
  split <;> simp

lemma length_cells (w h : ℕ) : (Grid.cells w h).length = w * h := by
  simp [Grid.cells, Nat.mul_comm]

lemma length_segs_le (F : ℕ × ℕ → ℚ) (thr : ℚ) (w h : ℕ) :
    ((Grid.cells w h).flatMap (markedCell F thr)).length ≤ w * h * 2 := by
  have hsum := List.sum_le_card_nsmul ((Grid.cells w h).map fun c => (markedCell F thr c).length) 2
    (List.forall_mem_map.mpr fun c _ => length_markedCell_le F thr c)
  rwa [← List.length_flatMap, List.length_map, length_cells] at hsum

section Levels

variable {field : List ℚ} {cols rows : ℕ}

lemma isoLine_spec (hcols : 2 ≤ cols) (hrows : 2 ≤ rows) (hfield : field.length = cols * rows)
    (thr : ℚ) : ∃ chains, IsLevel field cols rows thr chains
      ∧ ∀ fuel, enough cols rows ≤ fuel → isoLine fuel field cols rows thr = some chains := by
  have hunbroken := unbroken_cells (valueAt field cols) thr (cols - 1) (rows - 1)
  have hmarch := marchSquares_eq hcols hrows hfield thr
  have hfew := length_segs_le (valueAt field cols) thr (cols - 1) (rows - 1)
  rw [← List.length_map (f := fun s => (s.1.2, s.2.2))] at hfew
  generalize ((Grid.cells (cols - 1) (rows - 1)).flatMap
    (markedCell (valueAt field cols) thr)).map (fun s => (s.1.2, s.2.2)) = segs
    at hunbroken hmarch hfew
  obtain ⟨built, hchaining, hbuilt⟩ := finishedChains_spec isNear_symm (scaledSegments scaled segs)
  refine ⟨longChains built, ⟨segs, built, hunbroken, hchaining, rfl⟩, fun fuel hfuel => ?_⟩
  have hscaled : (scaledSegments scaled segs).length ≤ fuel :=
    calc (scaledSegments scaled segs).length = segs.length := List.length_map _
      _ ≤ enough cols rows := hfew
      _ ≤ fuel := hfuel
  rw [isoLine, hmarch, Option.bind_eq_bind, Option.bind_some, chainSegments_eq, hbuilt fuel hscaled]
  rfl

end Levels

/-- The thresholds are in the range of the field. -/
lemma threshold_mem {mn mx : ℚ} (h : mn ≤ mx) {l : ℕ} (hl : l < lines) :
    threshold mn mx l ∈ Set.Icc mn mx := by
  have hle : (l : ℚ) + 1 ≤ lines + 1 := by
    have hcast : (l : ℚ) ≤ lines := by exact_mod_cast hl.le
    linarith
  have hpos : (0 : ℚ) < lines + 1 := by positivity
  have hrange : 0 ≤ mx - mn := sub_nonneg.mpr h
  have hstep : (mx - mn) * (l + 1) / (lines + 1) ≤ mx - mn := by
    rw [div_le_iff₀ hpos]
    exact mul_le_mul_of_nonneg_left hle hrange
  rw [threshold]
  exact ⟨le_add_of_nonneg_right (by positivity), by linarith⟩

/-- **The loop over the thresholds.** -/
theorem isoLines_spec {field : List ℚ} {cols rows : ℕ} (hcols : 2 ≤ cols) (hrows : 2 ≤ rows)
    (hfield : field.length = cols * rows) : ∃ levels : Levels field cols rows,
      ∀ fuel, enough cols rows ≤ fuel →
        isoLines fuel field cols rows = some ((List.range lines).map levels.chains) := by
  have hnonempty : field ≠ [] := by
    rw [← List.length_pos_iff, hfield]
    exact Nat.mul_pos (by omega) (by omega)
  obtain ⟨mn, hmn⟩ := Option.ne_none_iff_exists'.mp (mt List.min?_eq_none_iff.mp hnonempty)
  obtain ⟨mx, hmx⟩ := Option.ne_none_iff_exists'.mp (mt List.max?_eq_none_iff.mp hnonempty)
  have hleast : IsLeast {v | v ∈ field} mn := List.min?_eq_some_iff.mp hmn
  have hgreatest : IsGreatest {v | v ∈ field} mx := List.max?_eq_some_iff.mp hmx
  choose chains hlevel hrun using fun l => isoLine_spec hcols hrows hfield (threshold mn mx l)
  refine ⟨⟨mn, mx, chains, hleast, hgreatest, fun l hl => ?_, fun l _ => hlevel l⟩,
    fun fuel hfuel => ?_⟩
  · exact threshold_mem (hleast.2 hgreatest.1) hl
  · rw [isoLines, hmn, hmx]
    exact mapM_of_forall fun l _ => hrun l fuel hfuel

/-! ## Paths -/

/-- A path along a chain. -/
structure Follows (ch : List Pt) (path : Path) : Prop where
  starts : path.start ∈ ch.head?
  ends : ∃ piece ∈ path.pieces.getLast?, piece.p2 ∈ ch.getLast?
  along : ∀ piece ∈ path.pieces, piece.p2 ∈ ch
  smooth : path.pieces.IsChain fun a b => b.c1 - a.p2 = a.p2 - a.c2

lemma mem_of_mem_sampled {p : Pt} {pts : List Pt} (h : p ∈ sampled pts) : p ∈ pts := by
  fun_induction sampled pts with
  | case1 q _ _ rest ih =>
      rcases List.mem_cons.mp h with rfl | h
      · exact List.mem_cons_self
      · simp [ih h]
  | case2 q r => exact List.mem_cons.mpr (.inl (List.mem_singleton.mp h))
  | case3 pts _ _ => cases h

lemma sampled_ne_nil {pts : List Pt} (h : 2 ≤ pts.length) : sampled pts ≠ [] := by
  match pts with
  | p :: _ :: _ :: rest => simp [sampled]
  | [p, q] => simp [sampled]
  | [p] => simp at h
  | [] => simp at h

/-- The points that the path of a long chain goes through. -/
lemma downsampled_spec {ch : List Pt} (h : 4 < ch.length) :
    ∃ ds, downsampled ch = some ds ∧ 3 ≤ ds.length ∧ (∀ p ∈ ds, p ∈ ch)
      ∧ ds.head? = ch.head? ∧ ds.getLast? = ch.getLast? := by
  have hnonempty : ch ≠ [] := List.ne_nil_of_length_pos (by omega)
  have hhead := List.head?_eq_some_head hnonempty
  have hlast := List.getLast?_eq_some_getLast hnonempty
  refine ⟨ch.head hnonempty :: sampled (ch.drop 3) ++ [ch.getLast hnonempty], ?_, ?_, ?_, ?_, ?_⟩
  · rw [downsampled, hhead, hlast]
    rfl
  · have htwo : 2 ≤ (ch.drop 3).length := by
      rw [List.length_drop]
      omega
    have hsampled := List.length_pos_iff.mpr (sampled_ne_nil htwo)
    simp only [List.length_append, List.length_cons, List.length_nil]
    omega
  · simp only [List.cons_append, List.mem_cons, List.mem_append, List.not_mem_nil, or_false]
    rintro p (rfl | hp | rfl)
    · exact List.head_mem hnonempty
    · exact List.mem_of_mem_drop (mem_of_mem_sampled hp)
    · exact List.getLast_mem hnonempty
  · rw [hhead]
    rfl
  · rw [hlast, List.getLast?_concat]

/-- The next piece goes on in the direction in which a piece ends. -/
lemma pieceAt_smooth {ds : List Pt} {i : ℕ} (h : i + 2 < ds.length) :
    (pieceAt ds (i + 1)).c1 - (pieceAt ds i).p2 = (pieceAt ds i).p2 - (pieceAt ds i).c2 := by
  have h₁ : min (i + 1) (ds.length - 1) = i + 1 := by omega
  have h₂ : min (i + 2) (ds.length - 1) = i + 2 := by omega
  simp only [pieceAt, cubic, h₁, h₂, Nat.add_sub_cancel]
  ext
  · simp
  · simp

lemma getElem?_eq_getD {ds : List Pt} {i : ℕ} (h : i < ds.length) : ds[i]? = some (ds.getD i 0) := by
  rw [List.getD_eq_getElem _ _ h, List.getElem?_eq_getElem h]

/-- **A chain that is long enough is drawn.** -/
theorem toBezierPath_spec {ch : List Pt} (h : 4 < ch.length) :
    ∃ path, toBezierPath ch = some (some path) ∧ Follows ch path := by
  obtain ⟨ds, hds, hlength, hmem, hhead, hlast⟩ := downsampled_spec h
  obtain ⟨n, hn⟩ : ∃ n, ds.length = n + 2 := ⟨ds.length - 2, by omega⟩
  refine ⟨⟨ds.getD 0 0, (List.range (ds.length - 1)).map (pieceAt ds)⟩, ?_, ?_, ?_, ?_, ?_⟩
  · rw [toBezierPath, hds, Option.bind_eq_bind, Option.bind_some, if_neg (by omega)]
    rfl
  · rw [← hhead, List.head?_eq_getElem?, getElem?_eq_getD (by omega)]
    rfl
  · refine ⟨pieceAt ds n, ?_, ?_⟩
    · have hrange : List.range (ds.length - 1) = List.range n ++ [n] := by
        rw [hn]
        exact List.range_succ
      rw [hrange, List.map_append, List.map_singleton, List.getLast?_concat]
      rfl
    · rw [← hlast, List.getLast?_eq_getElem?, getElem?_eq_getD (by omega), pieceAt, cubic]
      simp [hn]
  · intro piece hpiece
    obtain ⟨i, hi, rfl⟩ := List.mem_map.mp hpiece
    exact hmem _ (List.mem_of_getElem? (getElem?_eq_getD (by omega)))
  · rw [List.isChain_iff_getElem]
    intro i hi
    rw [List.length_map, List.length_range] at hi
    simp only [List.getElem_map, List.getElem_range]
    exact pieceAt_smooth (by omega)

/-! ## The whole image -/

lemma length_field (d : Sketch) (sqrt : ℚ → ℚ) : (d.field sqrt).length = cols * rows := by
  simp [Sketch.field, samplePoints, List.length_flatMap, Nat.mul_comm]

lemma IsLevel.length_lt {field : List ℚ} {cols rows : ℕ} {thr : ℚ} {chains : List (List Pt)}
    (h : IsLevel field cols rows thr chains) : ∀ ch ∈ chains, 4 < ch.length := by
  obtain ⟨segs, built, -, -, rfl⟩ := h
  intro ch hch
  obtain ⟨c, hc, rfl⟩ := List.mem_map.mp hch
  exact of_decide_eq_true (List.mem_filter.mp hc).2

lemma reduceOption_map_some {α β : Type} (f : α → β) (as : List α) :
    (as.map fun a => some (f a)).reduceOption = as.map f := by
  change (as.map fun a => some (f a)).filterMap id = as.map f
  rw [List.filterMap_map]
  exact congrFun List.filterMap_eq_map as

/-- **The image of any token**: the loops end, and every chain of every level is drawn, in the
colour that the metadata of the token has. The numbers are the exact rationals before they are
printed; neither `f64` nor the rounding to one decimal is modelled. -/
theorem paths_spec (sqrt : ℚ → ℚ) (tokenId : String) :
    ∃ (levels : Levels ((sketch tokenId).field sqrt) cols rows) (path : List Pt → Path),
      (∀ l < lines, ∀ ch ∈ levels.chains l, Follows ch (path ch))
        ∧ ∀ fuel, enough cols rows ≤ fuel → paths fuel sqrt tokenId
          = some (((List.range lines).flatMap levels.chains).map fun ch =>
              (path ch, (getNftColor tokenId).2)) := by
  obtain ⟨levels, hrun⟩ := isoLines_spec (by decide) (by decide)
    (length_field (sketch tokenId) sqrt)
  have hlong : ∀ l < lines, ∀ ch ∈ levels.chains l, 4 < ch.length :=
    fun l hl => (levels.isLevel l hl).length_lt
  have : Nonempty Path := ⟨⟨0, []⟩⟩
  choose! path hpath hfollows using fun (ch : List Pt) (hch : 4 < ch.length) =>
    toBezierPath_spec hch
  refine ⟨levels, path, fun l hl ch hch => hfollows ch (hlong l hl ch hch), fun fuel hfuel => ?_⟩
  have hdrawn : ∀ ch ∈ (List.range lines).flatMap levels.chains,
      toBezierPath ch = some (some (path ch)) := by
    intro ch hch
    obtain ⟨l, hl, hmem⟩ := List.mem_flatMap.mp hch
    exact hpath ch (hlong l (List.mem_range.mp hl) ch hmem)
  rw [paths, hrun fuel hfuel, Option.bind_eq_bind, Option.bind_some, ← List.flatMap_def,
    mapM_of_forall hdrawn, Option.bind_eq_bind, Option.bind_some, reduceOption_map_some,
    List.map_map]
  rfl

end Vaulted.NftImage
