import Mathlib.Data.Int.Log
import Mathlib.Tactic.NormNum
import Vaulted.Desktop.NftImage
import Vaulted.Oracle.NftImage

/-!
# Two generators of one picture

The Oracle and the user interface draw the image of a token each on their own, and are meant to draw
the same one.

* `SamePicture` — the same seed, draws, colour and sample points.
* `sameSeed`, `sameDraws` — two ways to compute with words of 32 bits.
* `sameColour_iff` — the first draw of one seed is the largest there is, and the user interface has
  no colour for it.
* `not_samePoints` — the user interface has one column and one row of sample points more.
* `not_samePicture` — so the pictures are never the same.
* `fieldAt_eq` — where the Oracle has a sample point, the two fields agree, up to how the user
  interface stores its numbers.
-/

namespace Vaulted.NftImage

/-- All characters are in the ASCII range. -/
def Ascii (s : String) : Prop := ∀ c ∈ s.toList, c.toNat < 128

instance (s : String) : Decidable (Ascii s) :=
  List.decidableBAll (p := fun c : Char => c.toNat < 128) s.toList

/-- The draw after that many others. -/
def Lcg.drawAt (rng : Lcg) (k : ℕ) : ℚ := ((fun rng : Lcg => rng.next.2)^[k] rng).next.1

end Vaulted.NftImage

namespace Vaulted.Ui

/-- The draw after that many others. -/
def Rng.drawAt (rng : Rng) (k : ℕ) : ℚ := ((fun rng : Rng => rng.call.2)^[k] rng).call.1

end Vaulted.Ui

namespace Vaulted.NftImage

def SameSeed (tokenId : String) : Prop := Ui.fnvHash tokenId = (fnvHash tokenId).toNat

def SameDraws (tokenId : String) : Prop :=
  ∀ k, (Ui.lcg (Ui.fnvHash tokenId)).drawAt k = Lcg.drawAt ⟨fnvHash tokenId⟩ k

/-- Both choose one colour of the palette. -/
def SameColour (tokenId : String) : Prop :=
  ∃ colour ∈ neonColors, (sketch tokenId).stroke = colour
    ∧ (Ui.sketch tokenId none).stroke = some colour

def SamePoints : Prop := ∀ p, p ∈ Ui.samplePoints ↔ p ∈ samplePoints

/-- Everything that a picture is made of is the same on both sides: the seed, what is drawn from it,
the colour, and the points where the field is sampled. -/
structure SamePicture (tokenId : String) : Prop where
  seed : SameSeed tokenId
  draws : SameDraws tokenId
  colour : SameColour tokenId
  points : SamePoints

/-! ## Words of 32 bits -/

open JavaScript

/-- The number is the value of the word. -/
lemma word_eq {x : ℤ} {v : UInt32} (h : x = v.toNat) : word x = v.toBitVec := by
  rw [h]
  exact word_toNat v.toBitVec

lemma fnv_step {h : ℤ} {v : UInt32} (hv : h = v.toNat) (b : UInt8) :
    toUint32 (imul (bitXor h b.toNat) 16777619) = ((v ^^^ b.toUInt32) * 16777619).toNat := by
  have hb : word (b.toNat : ℤ) = b.toUInt32.toBitVec := word_eq (by simp)
  rw [toUint32, word_imul, word_bitXor, word_eq hv, hb]
  rfl

lemma fnv_run {h : ℤ} {v : UInt32} (hv : h = v.toNat) (bytes : List UInt8) :
    (bytes.map UInt8.toNat).foldl (fun h c => toUint32 (imul (bitXor h c) 16777619)) h
      = (bytes.foldl (fun h b => (h ^^^ b.toUInt32) * 16777619) v).toNat := by
  induction bytes generalizing h v with
  | nil => exact hv
  | cons b bytes ih => exact ih (fnv_step hv b)

/-- **The seeds of ASCII texts are the same.** -/
theorem sameSeed {tokenId : String} (hascii : Ascii tokenId) : SameSeed tokenId := by
  rw [SameSeed, Ui.fnvHash, charCodes_ascii hascii]
  exact fnv_run (by decide) _

/-- The generators are in the same state. -/
def InStep (r : Ui.Rng) (rng : Lcg) : Prop := r.s = rng.state.toNat

lemma InStep.next {r : Ui.Rng} {rng : Lcg} (h : InStep r rng) :
    r.call.1 = rng.next.1 ∧ InStep r.call.2 rng.next.2 := by
  have hs : toUint32 (imul r.s 1664525 + 1013904223)
      = ((rng.state * 1664525 + 1013904223).toNat : ℤ) := by
    rw [toUint32, word_add, word_imul, word_eq h]
    rfl
  refine ⟨?_, hs⟩
  rw [Ui.Rng.call, hs, Lcg.next, Int.cast_natCast]

lemma InStep.iterate {r : Ui.Rng} {rng : Lcg} (h : InStep r rng) (k : ℕ) :
    InStep ((fun r : Ui.Rng => r.call.2)^[k] r) ((fun rng : Lcg => rng.next.2)^[k] rng) := by
  induction k with
  | zero => exact h
  | succ k ih =>
      rw [Function.iterate_succ_apply', Function.iterate_succ_apply']
      exact ih.next.2

lemma inStep_lcg {tokenId : String} (h : SameSeed tokenId) :
    InStep (Ui.lcg (Ui.fnvHash tokenId)) ⟨fnvHash tokenId⟩ := by
  rw [InStep, Ui.lcg, toUint32, word_eq h]
  rfl

theorem sameDraws {tokenId : String} (hascii : Ascii tokenId) : SameDraws tokenId := by
  intro k
  exact ((inStep_lcg (sameSeed hascii)).iterate k).next.1

/-! ## The colour -/

lemma next_mem (rng : Lcg) : 0 ≤ rng.next.1 ∧ rng.next.1 ≤ 1 := by
  have hlt := (rng.state * 1664525 + 1013904223).toNat_lt
  rw [Lcg.next]
  generalize (rng.state * 1664525 + 1013904223).toNat = n at hlt ⊢
  have hle : (n : ℚ) ≤ 4294967295 := by exact_mod_cast Nat.le_of_lt_succ hlt
  exact ⟨by positivity, (div_le_one (by norm_num)).mpr hle⟩

/-- The multiplier is odd, so that a step can be taken back. -/
lemma step_eq_iff (v : UInt32) : v * 1664525 + 1013904223 = 4294967295 ↔ v = 653637408 := by
  constructor
  · intro h
    have hinverse : (1664525 * 4276115653 : UInt32) = 1 := by decide
    calc v = v * (1664525 * 4276115653) := by rw [hinverse, UInt32.mul_one]
      _ = (v * 1664525 + 1013904223 - 1013904223) * 4276115653 := by
          rw [UInt32.add_sub_cancel, UInt32.mul_assoc]
      _ = 653637408 := by rw [h]; decide
  · rintro rfl
    decide

/-- **One state is followed by the largest draw.** -/
lemma next_eq_one_iff (rng : Lcg) : rng.next.1 = 1 ↔ rng.state = 653637408 := by
  rw [← step_eq_iff, ← UInt32.toNat_inj, Lcg.next, div_eq_one_iff_eq (by norm_num)]
  norm_cast

/-- The user interface finds no colour for the largest draw. -/
lemma colour_eq {draw : ℚ} (hzero : 0 ≤ draw) (hone : draw ≤ 1) :
    Ui.at? Ui.neonColors ⌊draw * Ui.neonColors.length⌋
      = if draw = 1 then none else some neonColors[colorIndex draw] := by
  have hlength : (Ui.neonColors.length : ℚ) = 10 := by norm_num [Ui.neonColors]
  have hfloor : 0 ≤ ⌊draw * 10⌋ := Int.floor_nonneg.mpr (by linarith)
  rw [hlength, Ui.at?, if_neg (by omega)]
  split_ifs with hlast
  · rw [hlast]
    norm_num [Ui.neonColors]
  · have hlt : draw * 10 < 10 := by linarith [lt_of_le_of_ne hone hlast]
    have hfew : ⌊draw * 10⌋ < 10 := Int.floor_lt.mpr (by exact_mod_cast hlt)
    have hindex : (colorIndex draw : ℕ) = ⌊draw * 10⌋.toNat := by
      change min ⌊draw * Ui.neonColors.length⌋₊ 9 = _
      rw [hlength, Int.floor_toNat]
      exact min_eq_left (by rw [← Int.floor_toNat]; omega)
    rw [← hindex]
    exact List.getElem?_eq_getElem (colorIndex draw).isLt

lemma stroke_eq {tokenId : String} (hascii : Ascii tokenId) : (Ui.sketch tokenId none).stroke
    = if (Lcg.next ⟨fnvHash tokenId⟩).1 = 1 then none else some (sketch tokenId).stroke := by
  have hdraw : (Ui.lcg (Ui.fnvHash tokenId)).call.1 = (Lcg.next ⟨fnvHash tokenId⟩).1 :=
    (inStep_lcg (sameSeed hascii)).next.1
  rw [Ui.sketch, Ui.orElse, hdraw]
  exact colour_eq (next_mem _).1 (next_mem _).2

/-- **The colours are the same, unless the first draw is the largest.** -/
theorem sameColour_iff {tokenId : String} (hascii : Ascii tokenId) :
    SameColour tokenId ↔ fnvHash tokenId ≠ 653637408 := by
  rw [SameColour, stroke_eq hascii, ne_eq, ← next_eq_one_iff ⟨fnvHash tokenId⟩]
  split_ifs with hlast
  · simp [hlast]
  · simp only [hlast, not_false_eq_true, iff_true]
    exact ⟨_, List.getElem_mem _, rfl, rfl⟩

/-! ## The grid -/

/-- The points of a grid with that many columns and rows, at distances of three. -/
def gridPoints (cols rows : ℕ) : List (ℚ × ℚ) :=
  (List.range rows).flatMap fun (iy : ℕ) => (List.range cols).map fun (ix : ℕ) =>
    (3 * (ix : ℚ), 3 * (iy : ℚ))

lemma mem_gridPoints {cols rows : ℕ} {p : ℚ × ℚ} : p ∈ gridPoints cols rows ↔
    ∃ ix : ℕ, ix < cols ∧ ∃ iy : ℕ, iy < rows ∧ p = (3 * (ix : ℚ), 3 * (iy : ℚ)) := by
  simp only [gridPoints, List.mem_flatMap, List.mem_map, List.mem_range]
  constructor
  · rintro ⟨iy, hy, ix, hx, rfl⟩
    exact ⟨ix, hx, iy, hy, rfl⟩
  · rintro ⟨ix, hx, iy, hy, rfl⟩
    exact ⟨iy, hy, ix, hx, rfl⟩

/-- Whole threes, rounded down, and one. -/
lemma samplePoints_eq : samplePoints = gridPoints 139 182 := by
  simp [samplePoints, gridPoints, cols, rows, fw, fh, imgW, imgH, pad, res, mul_comm]

/-- Whole threes, rounded up, and one. -/
lemma uiSamplePoints_eq : Ui.samplePoints = gridPoints 140 183 := by
  have hcols : Ui.cols = 140 := by decide +kernel
  have hrows : Ui.rows = 183 := by decide +kernel
  simp [Ui.samplePoints, gridPoints, hcols, hrows, Ui.res, mul_comm]

theorem samplePoints_subset : samplePoints ⊆ Ui.samplePoints := by
  intro p hp
  rw [samplePoints_eq, mem_gridPoints] at hp
  obtain ⟨ix, hx, iy, hy, rfl⟩ := hp
  rw [uiSamplePoints_eq, mem_gridPoints]
  exact ⟨ix, by omega, iy, by omega, rfl⟩

/-- **The user interface has one column more.** -/
theorem not_samePoints : ¬SamePoints := by
  intro h
  have hui : ((417, 0) : ℚ × ℚ) ∈ Ui.samplePoints := by
    rw [uiSamplePoints_eq, mem_gridPoints]
    exact ⟨139, by decide, 0, by decide, by norm_num⟩
  rw [h, samplePoints_eq, mem_gridPoints] at hui
  obtain ⟨ix, hx, iy, -, heq⟩ := hui
  have hcolumn : ((417 : ℕ) : ℚ) = ((3 * ix : ℕ) : ℚ) := by
    push_cast
    exact congrArg Prod.fst heq
  have := Nat.cast_injective hcolumn
  omega

/-! ## The picture -/

/-- **The pictures are never the same**: seeds and draws are, colours unless the first draw is the
largest, and the Oracle's sample points are some of the user interface's. One rounds the number of
its columns and rows down, and the other one up. -/
theorem not_samePicture {tokenId : String} (hascii : Ascii tokenId) :
    ¬SamePicture tokenId ∧ SameSeed tokenId ∧ SameDraws tokenId
      ∧ (SameColour tokenId ↔ fnvHash tokenId ≠ 653637408)
      ∧ samplePoints ⊆ Ui.samplePoints ∧ ¬SamePoints :=
  ⟨fun h => not_samePoints h.points, sameSeed hascii, sameDraws hascii, sameColour_iff hascii,
    samplePoints_subset, not_samePoints⟩

namespace Sample

/-- The id of a token whose seed is followed by the largest draw. -/
def lastDraw : String := "0008000049A8ECBB223D180261DC8A3A8995E141FAB37FDCBF02000000011402"

lemma fnvHash_lastDraw : fnvHash lastDraw = 653637408 := by decide +kernel

/-- **The user interface draws this token without a colour**, and on another grid. -/
theorem not_drawn_alike : Ascii lastDraw ∧ ¬SamePicture lastDraw
    ∧ (Ui.sketch lastDraw none).stroke = none ∧ (sketch lastDraw).stroke = "#84cc16" := by
  have hascii : Ascii lastDraw := by decide +kernel
  have hdraw := (next_eq_one_iff ⟨fnvHash lastDraw⟩).mpr fnvHash_lastDraw
  refine ⟨hascii, fun h => not_samePoints h.points, ?_, ?_⟩
  · rw [stroke_eq hascii, if_pos hdraw]
  · have hstroke : (sketch lastDraw).stroke = neonColors[colorIndex 1] :=
      congrArg (fun draw => neonColors[colorIndex draw]) hdraw
    rw [hstroke]
    decide +kernel

theorem lastDraw_pictures : ¬SamePicture lastDraw ∧ SameSeed lastDraw ∧ SameDraws lastDraw
    ∧ (SameColour lastDraw ↔ fnvHash lastDraw ≠ 653637408)
    ∧ samplePoints ⊆ Ui.samplePoints ∧ ¬SamePoints :=
  not_samePicture (by decide +kernel)

end Sample

/-! ## The field -/

lemma values_eq {r : Ui.Rng} {rng : Lcg} (h : InStep r rng) (n : ℕ) :
    (Ui.values n r).1 = (Noise.values n rng).1.toList
      ∧ InStep (Ui.values n r).2 (Noise.values n rng).2 := by
  induction n with
  | zero => exact ⟨rfl, h⟩
  | succ n ih =>
      obtain ⟨hvalues, hstep⟩ := ih
      refine ⟨?_, hstep.next.2⟩
      rw [Ui.values, Noise.values, hvalues, hstep.next.1, Vector.toList_push]

lemma gt_eq (noise : Noise) (x y : ℤ) : Ui.gt noise.grid.toList x y = some (noise.get x y) := by
  have hx : Ui.wrap x = Noise.wrap x := rfl
  have hy : Ui.wrap y = Noise.wrap y := rfl
  have hindex : (Noise.wrap x + Noise.wrap y * 32).toNat
      = (Noise.wrap x).toNat + (Noise.wrap y).toNat * 32 := by
    rw [Noise.wrap_eq, Noise.wrap_eq]
    omega
  have hlt := Noise.index_lt x y
  have hnonneg : ¬Noise.wrap x + Noise.wrap y * 32 < 0 := by
    rw [Noise.wrap_eq, Noise.wrap_eq]
    omega
  have hlength : (Noise.wrap x).toNat + (Noise.wrap y).toNat * 32 < noise.grid.toList.length := by
    rw [Vector.length_toList]
    exact hlt
  rw [Ui.gt, hx, hy, Ui.at?, if_neg hnonneg, hindex, List.getElem?_eq_getElem hlength,
    Vector.getElem_toList, Noise.get]

/-- A number in the range of the integers is not changed by the cast. -/
lemma toI32_floor {x : ℚ} (hzero : 0 ≤ x) (hsmall : x < 1000) : Noise.toI32 ⌊x⌋ = ⌊x⌋ := by
  have hlow : 0 ≤ ⌊x⌋ := Int.floor_nonneg.mpr hzero
  have hhigh : ⌊x⌋ < 1000 := Int.floor_lt.mpr (by exact_mod_cast hsmall)
  rw [Noise.toI32]
  omega

lemma noiseAt_eq (noise : Noise) {x y : ℚ} (hx : 0 ≤ x ∧ x < 1000) (hy : 0 ≤ y ∧ y < 1000) :
    Ui.noiseAt noise.grid.toList x y = some (noise.sample x y) := by
  rw [Ui.noiseAt, Noise.sample, toI32_floor hx.1 hx.2, toI32_floor hy.1 hy.2]
  simp only [gt_eq, Option.bind_eq_bind, Option.bind_some]
  rfl

lemma noise_eq {r : Ui.Rng} {rng : Lcg} (h : InStep r rng) :
    (Ui.makeNoise r).1 = (Noise.new rng).1.grid.toList
      ∧ InStep (Ui.makeNoise r).2 (Noise.new rng).2 := by
  rw [Ui.makeNoise, Noise.new]
  exact values_eq h (32 * 32)

/-- What the two generators have drawn for a token. -/
lemma sketch_eq {tokenId : String} (hascii : Ascii tokenId) :
    (Ui.sketch tokenId none).n1 = (sketch tokenId).n1.grid.toList
      ∧ (Ui.sketch tokenId none).n2 = (sketch tokenId).n2.grid.toList
      ∧ (Ui.sketch tokenId none).fx = (sketch tokenId).fx
      ∧ (Ui.sketch tokenId none).fy = (sketch tokenId).fy := by
  have hcolour := (inStep_lcg (sameSeed hascii)).next.2
  have hn1 := noise_eq hcolour
  have hn2 := noise_eq hn1.2
  have hx := hn2.2.next
  have hy := hx.2.next
  refine ⟨hn1.1, hn2.1, ?_, ?_⟩
  · rw [Ui.sketch, sketch, hx.1]
    norm_num [Ui.pad, Ui.imgW, pad, imgW]
  · rw [Ui.sketch, sketch, hy.1]
    norm_num [Ui.pad, Ui.imgH, pad, imgH]

/-- **Where both have a sample point, the fields agree**, up to the rounding of what is stored. All
other arithmetic is that of exact rationals on both sides, so nothing is said about the last bits of
an `f64`. -/
theorem fieldAt_eq {tokenId : String} (hascii : Ascii tokenId) (sqrt fround : ℚ → ℚ) {p : Pt}
    (hp : p ∈ samplePoints) : (Ui.sketch tokenId none).fieldAt sqrt fround p
      = some (fround ((sketch tokenId).fieldAt sqrt p)) := by
  obtain ⟨hn1, hn2, hfx, hfy⟩ := sketch_eq hascii
  rw [samplePoints_eq, mem_gridPoints] at hp
  obtain ⟨ix, hx, iy, hy, rfl⟩ := hp
  have hx : (ix : ℚ) < 139 := by exact_mod_cast hx
  have hy : (iy : ℚ) < 182 := by exact_mod_cast hy
  have hx₀ : (0 : ℚ) ≤ ix := Nat.cast_nonneg ix
  have hy₀ : (0 : ℚ) ≤ iy := Nat.cast_nonneg iy
  have hnoise : ∀ (noise : Noise) (k : ℚ), k = 0.006 ∨ k = 0.013 →
      Ui.noiseAt noise.grid.toList (3 * (ix : ℚ) * k) (3 * (iy : ℚ) * k)
        = some (noise.sample (3 * (ix : ℚ) * k) (3 * (iy : ℚ) * k)) := by
    intro noise k hk
    refine noiseAt_eq noise ?_ ?_
    · rcases hk with rfl | rfl
      · constructor <;> linarith
      · constructor <;> linarith
    · rcases hk with rfl | rfl
      · constructor <;> linarith
      · constructor <;> linarith
  rw [Ui.Sketch.fieldAt, hn1, hn2, hfx, hfy]
  simp only [hnoise _ _ (.inl rfl), hnoise _ _ (.inr rfl), Option.bind_eq_bind, Option.bind_some,
    sq]
  rfl

namespace Sample

/-- A square root to six decimal places. -/
def sqrt (q : ℚ) : ℚ := Nat.sqrt ⌊q * 10 ^ 12⌋₊ / 10 ^ 6

/-- To 24 binary digits. -/
def fround (q : ℚ) : ℚ :=
  let ulp : ℚ := 2 ^ (Int.log 2 |q| - 23)
  round (q / ulp) * ulp

def tokenId : String := "00080000E8F2C1B45A6D3F907B1C2E4D5A6B7C8D9E0F1A2B3C4D5E6F0000000A"

/-- In the middle of the picture of a token, where all four corners of a noise cell count. -/
theorem fieldAt_eq_middle :
    (Ui.sketch tokenId none).fieldAt sqrt fround (3 * ((69 : ℕ) : ℚ), 3 * ((91 : ℕ) : ℚ))
      = some (fround ((sketch tokenId).fieldAt sqrt (3 * ((69 : ℕ) : ℚ), 3 * ((91 : ℕ) : ℚ)))) := by
  have hmiddle : (3 * ((69 : ℕ) : ℚ), 3 * ((91 : ℕ) : ℚ)) ∈ samplePoints := by
    rw [samplePoints_eq, mem_gridPoints]
    exact ⟨69, by decide, 91, by decide, rfl⟩
  exact fieldAt_eq (by decide) sqrt fround hmiddle

end Sample

end Vaulted.NftImage
