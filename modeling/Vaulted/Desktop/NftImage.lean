import Mathlib.Algebra.Order.Field.Rat
import Mathlib.Data.Rat.Floor
import Vaulted.Library.JavaScript

/-!
# Contour images in the user interface

How the client draws the image of a token (`utils/nft_image.ts`), up to its scalar field.  Numbers
are exact rationals; square roots, and the rounding of what is stored in a `Float32Array`, are
parameters.  A value that JavaScript leaves undefined, and what is computed with it, is `none`.

* `fnvHash`, `lcg` — the seed, and the draws from it.
* `makeNoise`, `noiseAt` — a lattice of drawn values, and its smooth interpolation.
* `sketch`, `field` — what is drawn for a token, and the scalar field on its grid.
-/

namespace Vaulted.Ui

open JavaScript

def neonColors : List String :=
  ["#ff3b7a", "#00e5a0", "#ffc53d", "#3b82f6", "#a855f7",
    "#06b6d4", "#f97316", "#ec4899", "#22d3ee", "#84cc16"]

def warp : ℚ := 35
def imgW : ℤ := 256
def imgH : ℤ := 384
def pad : ℤ := 80
def fw : ℤ := imgW + pad * 2
def fh : ℤ := imgH + pad * 2
def res : ℤ := 3

/-! ## Pseudo-random numbers -/

def fnvHash (s : String) : ℤ :=
  (charCodes s).foldl (fun h c => toUint32 (imul (bitXor h c) 16777619)) (toUint32 2166136261)

/-- What the generator closes over. -/
structure Rng where
  s : ℤ

def lcg (seed : ℤ) : Rng := ⟨toUint32 seed⟩

/-- A call of the generator. -/
def Rng.call (rng : Rng) : ℚ × Rng :=
  let s := toUint32 (imul rng.s 1664525 + 1013904223)
  (s / 0xffffffff, ⟨s⟩)

/-! ## Value noise -/

/-- What is pushed in that many rounds, and the generator after them. -/
def values : ℕ → Rng → List ℚ × Rng
  | 0, rng => ([], rng)
  | n + 1, rng =>
      let g := values n rng
      let draw := g.2.call
      (g.1 ++ [draw.1 * 2 - 1], draw.2)

def makeNoise (rng : Rng) : List ℚ × Rng := values (32 * 32) rng

/-- The element of an array. -/
def at? {α : Type} (xs : List α) (i : ℤ) : Option α := if i < 0 then none else xs[i.toNat]?

def wrap (x : ℤ) : ℤ := remainder (remainder x 32 + 32) 32

def gt (g : List ℚ) (x y : ℤ) : Option ℚ := at? g (wrap x + wrap y * 32)

def quintic (t : ℚ) : ℚ := t * t * t * (t * (t * 6 - 15) + 10)

def noiseAt (g : List ℚ) (x y : ℚ) : Option ℚ := do
  let ix := ⌊x⌋
  let iy := ⌊y⌋
  let fx := quintic (x - ix)
  let fy := quintic (y - iy)
  let g00 ← gt g ix iy
  let g10 ← gt g (ix + 1) iy
  let g01 ← gt g ix (iy + 1)
  let g11 ← gt g (ix + 1) (iy + 1)
  return (g00 * (1 - fx) + g10 * fx) * (1 - fy) + (g01 * (1 - fx) + g11 * fx) * fy

/-! ## The image of a token -/

/-- `colorOverride || color`: an override that is not empty. -/
def orElse (colorOverride color : Option String) : Option String :=
  match colorOverride with
  | some c => if c = "" then color else some c
  | none => color

/-- What is drawn for a token, in this order. -/
structure Sketch where
  stroke : Option String
  n1 : List ℚ
  n2 : List ℚ
  fx : ℚ
  fy : ℚ

def sketch (tokenId : String) (colorOverride : Option String) : Sketch :=
  let draw := (lcg (fnvHash tokenId)).call
  let n1 := makeNoise draw.2
  let n2 := makeNoise n1.2
  let drawX := n2.2.call
  let drawY := drawX.2.call
  { stroke := orElse colorOverride (at? neonColors ⌊draw.1 * neonColors.length⌋)
    n1 := n1.1
    n2 := n2.1
    fx := pad + drawX.1 * imgW
    fy := pad + drawY.1 * imgH }

def cols : ℕ := (⌈(fw : ℚ) / res⌉ + 1).toNat
def rows : ℕ := (⌈(fh : ℚ) / res⌉ + 1).toNat

/-- The points that the field is evaluated at, row by row. -/
def samplePoints : List (ℚ × ℚ) :=
  (List.range rows).flatMap fun (iy : ℕ) => (List.range cols).map fun (ix : ℕ) =>
    ((ix * res : ℤ), (iy * res : ℤ))

def Sketch.fieldAt (d : Sketch) (sqrt fround : ℚ → ℚ) (p : ℚ × ℚ) : Option ℚ := do
  let x := p.1
  let y := p.2
  let wx1 ← noiseAt d.n1 (x * 0.006) (y * 0.006)
  let wx2 ← noiseAt d.n1 (x * 0.013) (y * 0.013)
  let wy1 ← noiseAt d.n2 (x * 0.006) (y * 0.006)
  let wy2 ← noiseAt d.n2 (x * 0.013) (y * 0.013)
  let wx := wx1 * warp + wx2 * warp * 0.4
  let wy := wy1 * warp + wy2 * warp * 0.4
  return fround (sqrt ((x + wx - d.fx) ^ 2 + (y + wy - d.fy) ^ 2))

def Sketch.field (d : Sketch) (sqrt fround : ℚ → ℚ) : List (Option ℚ) :=
  samplePoints.map (d.fieldAt sqrt fround)

end Vaulted.Ui
