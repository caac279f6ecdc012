import Mathlib.Algebra.Order.Field.Rat
import Mathlib.Algebra.Order.Floor.Semiring
import Mathlib.Data.Rat.Floor
import Vaulted.Library.Passes
import Vaulted.Library.Text

/-!
# Contour images of NFTs

How the Oracle draws the image of a token (`nft_image.rs`), up to the text of the SVG.  Floating
point numbers are exact rationals here; square roots are a parameter.

* `fnvHash`, `Lcg` — the seed, and the draws from it.
* `Noise` — a lattice of drawn values, and its smooth interpolation.
* `marchSquares` — the segments of an iso-line, cell by cell; `none` is a panic.
* `chainSegments` — segments joined into polylines; `none` says that it has not come to an end.
* `sketch`, `field` — what is drawn for a token, and the scalar field on its grid.
* `isoLines`, `toBezierPath`, `paths` — the chains at each threshold, and the paths along them.
-/

namespace Vaulted.NftImage

def neonColors : List String :=
  ["#ff3b7a", "#00e5a0", "#ffc53d", "#3b82f6", "#a855f7", "#06b6d4", "#f97316", "#ec4899",
    "#22d3ee", "#84cc16"]

def bg : String := "#060608"
def warp : ℚ := 35
def imgW : ℕ := 256
def imgH : ℕ := 384
def pad : ℕ := 80
def fw : ℕ := imgW + pad * 2
def fh : ℕ := imgH + pad * 2
def res : ℕ := 3

/-! ## Pseudo-random numbers -/

def fnvHash (s : String) : UInt32 :=
  (Text.utf8 s).foldl (fun h b => (h ^^^ b.toUInt32) * 16777619) 2166136261

structure Lcg where
  state : UInt32

/-- The draw, and the generator after it. -/
def Lcg.next (rng : Lcg) : ℚ × Lcg :=
  let state := rng.state * 1664525 + 1013904223
  (state.toNat / 4294967295, ⟨state⟩)

/-! ## Value noise -/

structure Noise where
  grid : Vector ℚ (32 * 32)

namespace Noise

/-- That many values of a lattice, the first drawn first. -/
def values : (n : ℕ) → Lcg → Vector ℚ n × Lcg
  | 0, rng => (#v[], rng)
  | n + 1, rng =>
      let grid := values n rng
      let draw := grid.2.next
      (grid.1.push (draw.1 * 2 - 1), draw.2)

def new (rng : Lcg) : Noise × Lcg := (⟨(values (32 * 32) rng).1⟩, (values (32 * 32) rng).2)

/-- `((i % n) + n) % n`, with the remainder that has the sign of the dividend. -/
def wrap (i : ℤ) : ℤ := (i.tmod 32 + 32).tmod 32

lemma wrap_eq (i : ℤ) : wrap i = i % 32 := by
  have hlt := Int.lt_tmod_of_pos i (show (0 : ℤ) < 32 by omega)
  rw [wrap, Int.tmod_eq_emod_of_nonneg (by omega), Int.tmod_eq_emod]
  split_ifs <;> omega

lemma index_lt (x y : ℤ) : (wrap x).toNat + (wrap y).toNat * 32 < 32 * 32 := by
  rw [wrap_eq, wrap_eq]
  omega

def get (noise : Noise) (ix iy : ℤ) : ℚ :=
  have := index_lt ix iy
  noise.grid[(wrap ix).toNat + (wrap iy).toNat * 32]

def quintic (t : ℚ) : ℚ := t * t * t * (t * (t * 6 - 15) + 10)

/-- `as i32`, which saturates. -/
def toI32 (i : ℤ) : ℤ := max (-2 ^ 31) (min i (2 ^ 31 - 1))

def sample (noise : Noise) (x y : ℚ) : ℚ :=
  let ix := toI32 ⌊x⌋
  let iy := toI32 ⌊y⌋
  let fx := quintic (x - ⌊x⌋)
  let fy := quintic (y - ⌊y⌋)
  let a := noise.get ix iy * (1 - fx) + noise.get (ix + 1) iy * fx
  let b := noise.get ix (iy + 1) * (1 - fx) + noise.get (ix + 1) (iy + 1) * fx
  a * (1 - fy) + b * fy

end Noise

/-! ## Marching squares -/

abbrev Pt := ℚ × ℚ

def lerp (thr va vb : ℚ) (pa pb : Pt) : Pt :=
  if |va - vb| < 1e-6 then ((pa.1 + pb.1) / 2, (pa.2 + pb.2) / 2)
  else
    let t := (thr - va) / (vb - va)
    (pa.1 + (pb.1 - pa.1) * t, pa.2 + (pb.2 - pa.2) * t)

/-- A bit for each corner that is above the threshold. -/
def cornerBits (thr v0 v1 v2 v3 : ℚ) : ℕ :=
  (if v0 > thr then 1 else 0) ||| (if v1 > thr then 2 else 0) ||| (if v2 > thr then 4 else 0)
    ||| (if v3 > thr then 8 else 0)

/-- `match cfg`: which of the cell's four points are joined. -/
def joined {α : Type} (cfg : ℕ) (a b c d : α) : List (α × α) :=
  match cfg with
  | 1 | 14 => [(d, a)]
  | 2 | 13 => [(a, b)]
  | 3 | 12 => [(d, b)]
  | 4 | 11 => [(b, c)]
  | 5 => [(d, a), (b, c)]
  | 6 | 9 => [(a, c)]
  | 7 | 8 => [(d, c)]
  | 10 => [(d, c), (a, b)]
  | _ => []

def marchCell (thr v0 v1 v2 v3 : ℚ) (ix iy : ℕ) : List (Pt × Pt) :=
  let cfg := cornerBits thr v0 v1 v2 v3
  if cfg = 0 ∨ cfg = 15 then []
  else
    let p : Pt := (ix, iy)
    let q : Pt := (ix + 1, iy)
    let r : Pt := (ix + 1, iy + 1)
    let s : Pt := (ix, iy + 1)
    joined cfg (lerp thr v0 v1 p q) (lerp thr v1 v2 q r) (lerp thr v3 v2 s r) (lerp thr v0 v3 p s)

/-- Subtraction that must not go below zero. -/
def checkedPred : ℕ → Option ℕ
  | 0 => none
  | n + 1 => some n

/-- The cell at a place of the field. -/
def marchAt (field : List ℚ) (cols : ℕ) (thr : ℚ) (iy ix : ℕ) : Option (List (Pt × Pt)) := do
  let v0 ← field[iy * cols + ix]?
  let v1 ← field[iy * cols + ix + 1]?
  let v2 ← field[(iy + 1) * cols + ix + 1]?
  let v3 ← field[(iy + 1) * cols + ix]?
  return marchCell thr v0 v1 v2 v3 ix iy

def marchSquares (field : List ℚ) (cols rows : ℕ) (thr : ℚ) : Option (List (Pt × Pt)) := do
  let height ← checkedPred rows
  let segs ← (List.range height).mapM fun iy => do
    let width ← checkedPred cols
    (List.range width).mapM (marchAt field cols thr iy)
  return segs.flatten.flatten

/-! ## Chaining -/

section Chains

variable {P : Type} (near : P → P → Bool)

section Loop

variable (pts : List (P × P))

/-- A chain that grows, and which of the segments are used. -/
structure Growing where
  used : Fin pts.length → Bool
  ch : List P
  nonempty : ch ≠ []

variable {pts}

def Growing.head (g : Growing pts) : P := g.ch.head g.nonempty

def Growing.tail (g : Growing pts) : P := g.ch.getLast g.nonempty

/-- The segment is used, and a point of it is the new tail. -/
def Growing.push (g : Growing pts) (j : Fin pts.length) (p : P) : Growing pts where
  used := Function.update g.used j true
  ch := g.ch ++ [p]
  nonempty := List.append_ne_nil_of_right_ne_nil _ (List.cons_ne_nil _ _)

/-- The segment is used, and a point of it is the new head. -/
def Growing.insert (g : Growing pts) (j : Fin pts.length) (p : P) : Growing pts where
  used := Function.update g.used j true
  ch := p :: g.ch
  nonempty := List.cons_ne_nil _ _

/-- One segment of the inner loop; `none` leaves the chain as it is. -/
def extend (g : Growing pts) (j : Fin pts.length) : Option (Growing pts) :=
  if g.used j then none
  else if near g.tail (pts.get j).1 then some (g.push j (pts.get j).2)
  else if near g.tail (pts.get j).2 then some (g.push j (pts.get j).1)
  else if near g.head (pts.get j).2 then some (g.insert j (pts.get j).1)
  else if near g.head (pts.get j).1 then some (g.insert j (pts.get j).2)
  else none

/-- `while changed`. -/
def grow (fuel : ℕ) (g : Growing pts) : Option (Growing pts) :=
  Passes.passes (extend near) (List.finRange pts.length) fuel g

def start (used : Fin pts.length → Bool) (i : Fin pts.length) : Growing pts where
  used := Function.update used i true
  ch := [(pts.get i).1, (pts.get i).2]
  nonempty := List.cons_ne_nil _ _

def chainFrom (fuel : ℕ) : List (Fin pts.length) → (Fin pts.length → Bool) → List (List P) →
    Option (List (List P))
  | [], _, chains => some chains
  | i :: is, used, chains =>
      if used i then chainFrom fuel is used chains
      else (grow near fuel (start used i)).bind fun g =>
        chainFrom fuel is g.used (if g.ch.length > 4 then chains ++ [g.ch] else chains)

end Loop

def scaledSegments (scale : P → P) (segs : List (P × P)) : List (P × P) :=
  segs.map fun s => (scale s.1, scale s.2)

/-- `chain_segments`, for any notion of points: `scale` multiplies their coordinates by `RES`. -/
def chainSegments (scale : P → P) (fuel : ℕ) (segs : List (P × P)) : Option (List (List P)) :=
  chainFrom near fuel (List.finRange (scaledSegments scale segs).length) (fun _ => false) []

end Chains

def scaled (p : Pt) : Pt := (p.1 * res, p.2 * res)

def isNear (a b : Pt) : Bool := decide (|a.1 - b.1| < 0.01) && decide (|a.2 - b.2| < 0.01)

/-! ## The image of a token -/

/-- The product cast to `usize`, and not beyond the last colour. -/
def colorIndex (draw : ℚ) : Fin neonColors.length :=
  ⟨min ⌊draw * neonColors.length⌋₊ (neonColors.length - 1), by
    have : 0 < neonColors.length := by decide
    omega⟩

/-- What is drawn for a token, in this order. -/
structure Sketch where
  stroke : String
  n1 : Noise
  n2 : Noise
  fx : ℚ
  fy : ℚ

def sketch (tokenId : String) : Sketch :=
  let draw := Lcg.next ⟨fnvHash tokenId⟩
  let n1 := Noise.new draw.2
  let n2 := Noise.new n1.2
  let drawX := n2.2.next
  let drawY := drawX.2.next
  { stroke := neonColors[colorIndex draw.1]
    n1 := n1.1
    n2 := n2.1
    fx := pad + drawX.1 * imgW
    fy := pad + drawY.1 * imgH }

def getNftColor (tokenId : String) : String × String :=
  (bg, neonColors[colorIndex (Lcg.next ⟨fnvHash tokenId⟩).1])

def cols : ℕ := fw / res + 1
def rows : ℕ := fh / res + 1

/-- The points that the field is evaluated at, row by row. -/
def samplePoints : List Pt :=
  (List.range rows).flatMap fun (iy : ℕ) => (List.range cols).map fun (ix : ℕ) =>
    ((ix * res : ℕ), (iy * res : ℕ))

def Sketch.fieldAt (d : Sketch) (sqrt : ℚ → ℚ) (p : Pt) : ℚ :=
  let x := p.1
  let y := p.2
  let wx := d.n1.sample (x * 0.006) (y * 0.006) * warp
    + d.n1.sample (x * 0.013) (y * 0.013) * warp * 0.4
  let wy := d.n2.sample (x * 0.006) (y * 0.006) * warp
    + d.n2.sample (x * 0.013) (y * 0.013) * warp * 0.4
  let dx := x + wx - d.fx
  let dy := y + wy - d.fy
  sqrt (dx * dx + dy * dy)

def Sketch.field (d : Sketch) (sqrt : ℚ → ℚ) : List ℚ := samplePoints.map (d.fieldAt sqrt)

/-! ## Iso-lines -/

def lines : ℕ := 25

/-- The threshold of a line, from the least and the greatest value of the field. -/
def threshold (mn mx : ℚ) (l : ℕ) : ℚ := mn + (mx - mn) * (l + 1) / (lines + 1)

/-- The chains at one threshold. -/
def isoLine (fuel : ℕ) (field : List ℚ) (cols rows : ℕ) (thr : ℚ) : Option (List (List Pt)) := do
  let segs ← marchSquares field cols rows thr
  chainSegments isNear scaled fuel segs

/-- The loop over the thresholds. -/
def isoLines (fuel : ℕ) (field : List ℚ) (cols rows : ℕ) : Option (List (List (List Pt))) := do
  let mn ← field.min?
  let mx ← field.max?
  (List.range lines).mapM fun l => isoLine fuel field cols rows (threshold mn mx l)

/-! ## Paths -/

/-- `while i < pts.len() - 1`, over the points from `i` on. -/
def sampled : List Pt → List Pt
  | p :: _ :: _ :: rest => p :: sampled rest
  | [p, _] => [p]
  | _ => []

/-- The points that a path goes through: every third, and the last. -/
def downsampled (pts : List Pt) : Option (List Pt) := do
  let first ← pts.head?
  let last ← pts.getLast?
  return first :: sampled (pts.drop 3) ++ [last]

/-- A piece of a path, from the end of the one before. -/
structure Cubic where
  c1 : Pt
  c2 : Pt
  p2 : Pt

/-- A path, before its numbers are rounded and printed. -/
structure Path where
  start : Pt
  pieces : List Cubic

def cubic (p0 p1 p2 p3 : Pt) : Cubic where
  c1 := (p1.1 + (p2.1 - p0.1) / 5, p1.2 + (p2.2 - p0.2) / 5)
  c2 := (p2.1 - (p3.1 - p1.1) / 5, p2.2 - (p3.2 - p1.2) / 5)
  p2 := p2

/-- The piece between the points `i` and `i + 1`. -/
def pieceAt (ds : List Pt) (i : ℕ) : Cubic :=
  cubic (ds.getD (i - 1) 0) (ds.getD i 0) (ds.getD (min (i + 1) (ds.length - 1)) 0)
    (ds.getD (min (i + 2) (ds.length - 1)) 0)

/-- `none` is a panic, and `some none` the empty text. -/
def toBezierPath (pts : List Pt) : Option (Option Path) := do
  let ds ← downsampled pts
  return if ds.length < 3 then none
    else some
      { start := ds.getD 0 0
        pieces := (List.range (ds.length - 1)).map (pieceAt ds) }

/-- The paths of the image of a token, and their colour. -/
def paths (fuel : ℕ) (sqrt : ℚ → ℚ) (tokenId : String) : Option (List (Path × String)) := do
  let levels ← isoLines fuel ((sketch tokenId).field sqrt) cols rows
  let drawn ← levels.flatten.mapM toBezierPath
  return drawn.reduceOption.map fun path => (path, (sketch tokenId).stroke)

end Vaulted.NftImage
