import Mathlib.Tactic.LinearCombination
import Vaulted.Crypto.Pre
import Vaulted.Library.BigEndian

/-!
# Child keys

`xrpl_wallet.rs`: the private key of a child is the sum of two scalars of secp256k1, computed byte
by byte.

* `add256`, `sub256`, `bytesGe` — the loops, from the last byte to the first or the other way.
* `addSecp256k1ScalarsModOrder` — the sum.
* `Exact` — what they compute; `scalars_exact` — they do so for all inputs.
-/

namespace Vaulted.ChildKeys

/-- `[u8; 32]`. -/
structure Bytes32 where
  bytes : List UInt8
  length : bytes.length = 32
  deriving DecidableEq

def Bytes32.toNat (x : Bytes32) : ℕ := BigEndian.ofBytes x.bytes

/-! ## The loops -/

/-- The bytes of a sum, and the carry. The source adds in `u16`, which is enough as the carry is
never above 1 (`addLoop_carry`). -/
def addLoop : List (UInt8 × UInt8) → List UInt8 × ℕ
  | [] => ([], 0)
  | (a, b) :: rest =>
      let (out, carry) := addLoop rest
      let sum := a.toNat + b.toNat + carry
      (UInt8.ofNat sum :: out, sum / 256)

/-- One byte of a difference, and what is borrowed. The source subtracts in `i16`, which is enough
as it borrows 0 or 1 (`subLoop_spec`). -/
def subByte (a b : UInt8) (borrow : ℤ) : UInt8 × ℤ :=
  let diff := (a.toNat : ℤ) - b.toNat - borrow
  if diff < 0 then (UInt8.ofNat (diff + 256).toNat, 1) else (UInt8.ofNat diff.toNat, 0)

def subLoop : List (UInt8 × UInt8) → List UInt8 × ℤ
  | [] => ([], 0)
  | (a, b) :: rest =>
      let (out, borrow) := subLoop rest
      let (byte, borrow) := subByte a b borrow
      (byte :: out, borrow)

def geLoop : List (UInt8 × UInt8) → Bool
  | [] => true
  | (a, b) :: rest => if a > b then true else if a < b then false else geLoop rest

lemma length_addLoop (pairs : List (UInt8 × UInt8)) : (addLoop pairs).1.length = pairs.length := by
  induction pairs with
  | nil => rfl
  | cons p rest ih => exact congrArg (· + 1) ih

lemma length_subLoop (pairs : List (UInt8 × UInt8)) : (subLoop pairs).1.length = pairs.length := by
  induction pairs with
  | nil => rfl
  | cons p rest ih => exact congrArg (· + 1) ih

lemma length_zip (left right : Bytes32) : (left.bytes.zip right.bytes).length = 32 := by
  rw [List.length_zip, left.length, right.length, Nat.min_self]

def add256 (left right : Bytes32) : Bytes32 × Bool :=
  let r := addLoop (left.bytes.zip right.bytes)
  (⟨r.1, (length_addLoop _).trans (length_zip left right)⟩, r.2 != 0)

def sub256 (left right : Bytes32) : Bytes32 :=
  ⟨(subLoop (left.bytes.zip right.bytes)).1, (length_subLoop _).trans (length_zip left right)⟩

def bytesGe (left right : Bytes32) : Bool := geLoop (left.bytes.zip right.bytes)

/-! ## Scalars -/

def secp256k1Order : Bytes32 where
  bytes := [0xff, 0xff, 0xff, 0xff, 0xff, 0xff, 0xff, 0xff,
    0xff, 0xff, 0xff, 0xff, 0xff, 0xff, 0xff, 0xfe,
    0xba, 0xae, 0xdc, 0xe6, 0xaf, 0x48, 0xa0, 0x3b,
    0xbf, 0xd2, 0x5e, 0x8c, 0xd0, 0x36, 0x41, 0x41]
  length := rfl

def isZero256 (value : Bytes32) : Bool := value.bytes.all (· == 0)

def isLessThanOrder (value : Bytes32) : Bool := !bytesGe value secp256k1Order

def isNonzeroLessThanOrder (value : Bytes32) : Bool := !isZero256 value && isLessThanOrder value

def addSecp256k1ScalarsModOrder (left right : Bytes32) : Except CryptoError Bytes32 :=
  if !isLessThanOrder left then
    .error (.KeyDerivation "BIP32 child tweak is out of secp256k1 range")
  else if !isNonzeroLessThanOrder right then
    .error (.KeyDerivation "BIP32 parent private key is out of secp256k1 range")
  else
    let (sum, carry) := add256 left right
    let reduced := if carry || bytesGe sum secp256k1Order then sub256 sum secp256k1Order else sum
    if isZero256 reduced then .error (.KeyDerivation "BIP32 child private key is zero")
    else .ok reduced

/-! ## What the loops compute -/

open BigEndian

lemma addLoop_spec (pairs : List (UInt8 × UInt8)) :
    ofBytes (addLoop pairs).1 + (addLoop pairs).2 * 256 ^ pairs.length
      = ofBytes (pairs.map Prod.fst) + ofBytes (pairs.map Prod.snd) := by
  induction pairs with
  | nil => rfl
  | cons p rest ih =>
      obtain ⟨a, b⟩ := p
      have hbyte : ∀ sum : ℕ, (UInt8.ofNat sum).toNat + sum / 256 * 256 = sum := by
        intro sum
        rw [UInt8.toNat_ofNat']
        omega
      simp only [addLoop, List.map_cons, ofBytes_cons, length_addLoop, List.length_cons,
        List.length_map]
      generalize (addLoop rest).2 = carry at ih ⊢
      calc (UInt8.ofNat (a.toNat + b.toNat + carry)).toNat * 256 ^ rest.length
            + ofBytes (addLoop rest).1
            + (a.toNat + b.toNat + carry) / 256 * 256 ^ (rest.length + 1)
          = ((UInt8.ofNat (a.toNat + b.toNat + carry)).toNat
            + (a.toNat + b.toNat + carry) / 256 * 256) * 256 ^ rest.length
            + ofBytes (addLoop rest).1 := by ring
        _ = (a.toNat + b.toNat) * 256 ^ rest.length
            + (ofBytes (addLoop rest).1 + carry * 256 ^ rest.length) := by rw [hbyte]; ring
        _ = _ := by rw [ih]; ring

lemma addLoop_carry (pairs : List (UInt8 × UInt8)) : (addLoop pairs).2 ≤ 1 := by
  induction pairs with
  | nil => exact Nat.zero_le 1
  | cons p rest ih =>
      have ha := p.1.toNat_lt
      have hb := p.2.toNat_lt
      simp only [addLoop]
      omega

lemma subByte_spec (a b : UInt8) {borrow : ℤ} (hborrow : borrow = 0 ∨ borrow = 1) :
    ((subByte a b borrow).1.toNat : ℤ) = a.toNat - b.toNat - borrow + (subByte a b borrow).2 * 256
      ∧ ((subByte a b borrow).2 = 0 ∨ (subByte a b borrow).2 = 1) := by
  have ha := a.toNat_lt
  have hb := b.toNat_lt
  rw [subByte]
  split_ifs with hdiff
  · refine ⟨?_, .inr rfl⟩
    rw [UInt8.toNat_ofNat']
    omega
  · refine ⟨?_, .inl rfl⟩
    rw [UInt8.toNat_ofNat']
    omega

lemma subLoop_spec (pairs : List (UInt8 × UInt8)) :
    (ofBytes (subLoop pairs).1 : ℤ) + ofBytes (pairs.map Prod.snd)
      = ofBytes (pairs.map Prod.fst) + (subLoop pairs).2 * 256 ^ pairs.length
      ∧ ((subLoop pairs).2 = 0 ∨ (subLoop pairs).2 = 1) := by
  induction pairs with
  | nil => exact ⟨rfl, .inl rfl⟩
  | cons p rest ih =>
      obtain ⟨a, b⟩ := p
      obtain ⟨ih, hborrow⟩ := ih
      obtain ⟨hbyte, hborrow'⟩ := subByte_spec a b hborrow
      refine ⟨?_, hborrow'⟩
      simp only [subLoop, List.map_cons, ofBytes_cons, length_subLoop, List.length_cons,
        List.length_map]
      push_cast
      rw [hbyte]
      linear_combination ih

lemma geLoop_iff (pairs : List (UInt8 × UInt8)) :
    geLoop pairs = true ↔ ofBytes (pairs.map Prod.snd) ≤ ofBytes (pairs.map Prod.fst) := by
  induction pairs with
  | nil => simp [geLoop]
  | cons p rest ih =>
      obtain ⟨a, b⟩ := p
      have hlength : (rest.map Prod.fst).length = (rest.map Prod.snd).length := by simp
      rw [geLoop, List.map_cons, List.map_cons]
      split_ifs with hgt hlt
      · simpa using (ofBytes_cons_lt hlength.symm hgt).le
      · simpa using ofBytes_cons_lt hlength hlt
      · obtain rfl : a = b := UInt8.le_antisymm (UInt8.not_lt.mp hgt) (UInt8.not_lt.mp hlt)
        rw [ih, ofBytes_cons, ofBytes_cons, hlength]
        exact (Nat.add_le_add_iff_left).symm

/-- No sum is above 511, and no difference below -256. -/
lemma sums_fit (a b : UInt8) (pairs : List (UInt8 × UInt8)) :
    a.toNat + b.toNat + (addLoop pairs).2 < 2 ^ 16
      ∧ -(2 : ℤ) ^ 15 ≤ a.toNat - b.toNat - (subLoop pairs).2
      ∧ (a.toNat : ℤ) - b.toNat - (subLoop pairs).2 < 2 ^ 15 := by
  have ha := a.toNat_lt
  have hb := b.toNat_lt
  have hcarry := addLoop_carry pairs
  obtain ⟨-, hborrow⟩ := subLoop_spec pairs
  omega

/-! ## What the scalars are -/

variable (left right : Bytes32)

lemma Bytes32.toNat_lt : left.toNat < 2 ^ 256 := by
  have hlt := ofBytes_lt left.bytes
  rwa [left.length, show 256 ^ 32 = 2 ^ 256 by norm_num] at hlt

lemma map_zip : (left.bytes.zip right.bytes).map Prod.fst = left.bytes
    ∧ (left.bytes.zip right.bytes).map Prod.snd = right.bytes := by
  have hlength : left.bytes.length = right.bytes.length := left.length.trans right.length.symm
  exact ⟨List.map_fst_zip hlength.le, List.map_snd_zip hlength.ge⟩

/-- No carry is lost. -/
lemma toNat_add256 : (add256 left right).1.toNat + (if (add256 left right).2 then 2 ^ 256 else 0)
    = left.toNat + right.toNat := by
  have hsum := addLoop_spec (left.bytes.zip right.bytes)
  rw [(map_zip left right).1, (map_zip left right).2, length_zip,
    show 256 ^ 32 = 2 ^ 256 by norm_num] at hsum
  change (add256 left right).1.toNat + _ * 2 ^ 256 = left.toNat + right.toNat at hsum
  rw [← hsum]
  rcases Nat.le_one_iff_eq_zero_or_eq_one.mp (addLoop_carry (left.bytes.zip right.bytes))
    with hcarry | hcarry
  · simp [add256, hcarry]
  · simp [add256, hcarry]

/-- No borrow is lost. -/
lemma toNat_sub256 :
    (sub256 left right).toNat = (left.toNat + 2 ^ 256 - right.toNat) % 2 ^ 256 := by
  obtain ⟨hdiff, hborrow⟩ := subLoop_spec (left.bytes.zip right.bytes)
  have hlt := (sub256 left right).toNat_lt
  have hleft := left.toNat_lt
  have hright := right.toNat_lt
  rw [(map_zip left right).1, (map_zip left right).2, length_zip] at hdiff
  change ((sub256 left right).toNat : ℤ) + right.toNat = left.toNat + _ at hdiff
  rcases hborrow with hborrow | hborrow
  · rw [hborrow] at hdiff
    omega
  · rw [hborrow] at hdiff
    omega

lemma bytesGe_iff : bytesGe left right = true ↔ right.toNat ≤ left.toNat := by
  rw [bytesGe, geLoop_iff, (map_zip left right).1, (map_zip left right).2]
  rfl

lemma isZero256_iff : isZero256 left = true ↔ left.toNat = 0 := by
  rw [isZero256, List.all_eq_true, Bytes32.toNat, ofBytes_eq_zero]
  simp

lemma isLessThanOrder_iff :
    isLessThanOrder left = true ↔ left.toNat < secp256k1Order.toNat := by
  rw [isLessThanOrder, Bool.not_eq_true', ← Bool.not_eq_true, bytesGe_iff, Nat.not_le]

/-! ## The sum -/

/-- The order of secp256k1. -/
def order : ℕ := 0xFFFFFFFFFFFFFFFFFFFFFFFFFFFFFFFEBAAEDCE6AF48A03BBFD25E8CD0364141

def Addable (left right : Bytes32) : Prop :=
  left.toNat < order ∧ 1 ≤ right.toNat ∧ right.toNat < order
    ∧ (left.toNat + right.toNat) % order ≠ 0

/-- No carry and no borrow is lost, no sum or difference of bytes leaves the `u16` or the `i16` it
is computed in, and a sum of scalars is what it is to be. The helpers are exact for all inputs, the
sum for those that are scalars. -/
structure Exact : Prop where
  sum : ∀ left right, Addable left right → ∃ s, addSecp256k1ScalarsModOrder left right = .ok s
    ∧ s.toNat = (left.toNat + right.toNat) % order ∧ 1 ≤ s.toNat ∧ s.toNat < order
  refused : ∀ left right, ¬Addable left right →
    ∃ e, addSecp256k1ScalarsModOrder left right = .error e
  addition : ∀ left right, (add256 left right).1.toNat
    + (if (add256 left right).2 then 2 ^ 256 else 0) = left.toNat + right.toNat
  subtraction : ∀ left right,
    (sub256 left right).toNat = (left.toNat + 2 ^ 256 - right.toNat) % 2 ^ 256
  comparison : ∀ left right, bytesGe left right = true ↔ right.toNat ≤ left.toNat
  fits : ∀ (a b : UInt8) (pairs : List (UInt8 × UInt8)),
    a.toNat + b.toNat + (addLoop pairs).2 < 2 ^ 16
      ∧ -(2 : ℤ) ^ 15 ≤ a.toNat - b.toNat - (subLoop pairs).2
      ∧ (a.toNat : ℤ) - b.toNat - (subLoop pairs).2 < 2 ^ 15

lemma toNat_order : secp256k1Order.toNat = order := by decide +kernel

/-- The sum is reduced by at most one order. -/
lemma toNat_reduced {left right : Bytes32} (hleft : left.toNat < order)
    (hright : right.toNat < order) :
    (if (add256 left right).2 || bytesGe (add256 left right).1 secp256k1Order then
      sub256 (add256 left right).1 secp256k1Order else (add256 left right).1).toNat
      = (left.toNat + right.toNat) % order := by
  have hsum := toNat_add256 left right
  have hdiff := toNat_sub256 (add256 left right).1 secp256k1Order
  have hge := bytesGe_iff (add256 left right).1 secp256k1Order
  rw [toNat_order] at hdiff hge
  have hmod : ∀ n < 2 * order, n % order = if order ≤ n then n - order else n := by
    intro n hn
    split_ifs with h
    · rw [Nat.mod_eq_sub_mod h, Nat.mod_eq_of_lt (by omega)]
    · exact Nat.mod_eq_of_lt (by omega)
  rw [hmod _ (by omega)]
  have horder : order < 2 ^ 256 := by decide
  have hlt := (add256 left right).1.toNat_lt
  cases hcarry : (add256 left right).2 with
  | true =>
      simp only [hcarry, if_true] at hsum
      rw [Bool.true_or, if_pos rfl, hdiff, if_pos (by omega)]
      omega
  | false =>
      simp only [hcarry, Bool.false_eq_true, if_false, Nat.add_zero] at hsum
      rw [Bool.false_or, ← hsum]
      by_cases h : order ≤ (add256 left right).1.toNat
      · rw [if_pos (hge.mpr h), hdiff, if_pos h]
        omega
      · rw [if_neg fun hcompare => h (hge.mp hcompare), if_neg h]

/-- **Sums of scalars**, said once: what is checked, and what comes out. -/
theorem addSecp256k1ScalarsModOrder_eq (left right : Bytes32) :
    (Addable left right ∧ ∃ s, addSecp256k1ScalarsModOrder left right = .ok s
      ∧ s.toNat = (left.toNat + right.toNat) % order)
    ∨ (¬Addable left right ∧ ∃ e, addSecp256k1ScalarsModOrder left right = .error e) := by
  have hleft := isLessThanOrder_iff left
  have hright := isLessThanOrder_iff right
  have hzero := isZero256_iff right
  rw [toNat_order] at hleft hright
  rw [addSecp256k1ScalarsModOrder]
  split_ifs with h h'
  · exact .inr ⟨fun hadd => by simp [hleft.mpr hadd.1] at h, _, rfl⟩
  · refine .inr ⟨fun hadd => ?_, _, rfl⟩
    have hnonzero : isZero256 right = false :=
      Bool.eq_false_iff.mpr fun hz => absurd (hzero.mp hz) (by have := hadd.2.1; omega)
    simp [isNonzeroLessThanOrder, hnonzero, hright.mpr hadd.2.2.1] at h'
  · rw [Bool.not_eq_true, Bool.not_eq_false'] at h
    rw [Bool.not_eq_true, Bool.not_eq_false', isNonzeroLessThanOrder, Bool.and_eq_true,
      Bool.not_eq_true'] at h'
    have hpos : right.toNat ≠ 0 := fun hz => by simp [hzero.mpr hz] at h'
    have hvalue := toNat_reduced (hleft.mp h) (hright.mp h'.2)
    dsimp only
    generalize (if (add256 left right).2 || bytesGe (add256 left right).1 secp256k1Order then
      sub256 (add256 left right).1 secp256k1Order else (add256 left right).1) = reduced at hvalue ⊢
    split_ifs with hreduced
    · rw [isZero256_iff, hvalue] at hreduced
      exact .inr ⟨fun hadd => hadd.2.2.2 hreduced, _, rfl⟩
    · rw [isZero256_iff, hvalue] at hreduced
      exact .inl ⟨⟨hleft.mp h, by omega, hright.mp h'.2, hreduced⟩, reduced, rfl, hvalue⟩

/-- **The arithmetic of child keys is exact.** The loops go through the bytes from the last one,
with the invariant that the digits so far and the carry, or the borrow, are the sum or the
difference of the digits that have been read. -/
theorem scalars_exact : Exact where
  sum left right hadd := by
    rcases addSecp256k1ScalarsModOrder_eq left right with ⟨-, s, hs, hvalue⟩ | ⟨hno, -⟩
    · have hpos := hadd.2.2.2
      refine ⟨s, hs, hvalue, by omega, ?_⟩
      rw [hvalue]
      exact Nat.mod_lt _ (by decide)
    · exact absurd hadd hno
  refused left right hadd := by
    rcases addSecp256k1ScalarsModOrder_eq left right with ⟨hyes, -⟩ | ⟨-, herror⟩
    · exact absurd hyes hadd
    · exact herror
  addition := toNat_add256
  subtraction := toNat_sub256
  comparison := bytesGe_iff
  fits := sums_fit

end Vaulted.ChildKeys
