import Mathlib.Algebra.Field.Rat
import Mathlib.Tactic.FieldSimp
import Mathlib.Tactic.Ring
import Vaulted.Library.JsonText

/-!
# Decimal texts and checked arithmetic

What the standard library does with unsigned numbers.

* `ofDecimal_append` — the value of a sequence of digits.
* `parseUnsigned` — the text of a number: digits, after at most one plus sign.
* `checkedAdd`, `checkedSub`, `checkedMul` — the exact result, if it is in range.
* `decimalValue`, `shifted_eq` — a number with a fraction, and its digits when the point is moved.
-/

namespace Vaulted.Decimal

open JsonText

/-! ## Digits -/

lemma foldl_digits (n : ℕ) (cs : List Char) :
    cs.foldl (fun n c => 10 * n + (c.toNat - 48)) n = n * 10 ^ cs.length + ofDecimal cs := by
  induction cs generalizing n with
  | nil => simp [ofDecimal]
  | cons c cs ih =>
      rw [ofDecimal, List.foldl_cons, List.foldl_cons, ih, ih (10 * 0 + _), List.length_cons]
      ring

lemma ofDecimal_append (xs ys : List Char) :
    ofDecimal (xs ++ ys) = ofDecimal xs * 10 ^ ys.length + ofDecimal ys := by
  rw [ofDecimal, List.foldl_append, foldl_digits]
  rfl

lemma ofDecimal_zeros (n : ℕ) : ofDecimal (List.replicate n '0') = 0 := by
  induction n with
  | zero => rfl
  | succ n ih =>
      rw [List.replicate_succ', ofDecimal_append, ih]
      rfl

/-! ## Reading a number -/

/-- One plus sign may stand before the digits. -/
def unsignedPart : List Char → List Char
  | '+' :: c :: cs => c :: cs
  | cs => cs

/-- `str::parse` of an unsigned type. -/
def parseUnsigned (bits : ℕ) (s : String) : Option ℕ :=
  let digits := unsignedPart s.toList
  if digits.isEmpty || !digits.all isDigit then none
  else if ofDecimal digits < 2 ^ bits then some (ofDecimal digits) else none

def parseU64 (s : String) : Option UInt64 := (parseUnsigned 64 s).map UInt64.ofNat

/-- Digits alone are read as they stand. -/
lemma parseUnsigned_digits {bits : ℕ} {s : String} (hne : s.toList ≠ [])
    (h : ∀ c ∈ s.toList, isDigit c = true) : parseUnsigned bits s
      = if ofDecimal s.toList < 2 ^ bits then some (ofDecimal s.toList) else none := by
  have hall : s.toList.all isDigit = true := List.all_eq_true.mpr h
  have hpart : unsignedPart s.toList = s.toList := by
    unfold unsignedPart
    split
    · next c cs heq =>
      have hplus := h '+' (by rw [heq]; exact List.mem_cons_self)
      cases hplus
    · rfl
  rw [parseUnsigned, hpart, hall, List.isEmpty_eq_false_iff.mpr hne]
  rfl

lemma parseU64_digits {s : String} (hne : s.toList ≠ []) (h : ∀ c ∈ s.toList, isDigit c = true)
    {n : UInt64} : parseU64 s = some n ↔ n.toNat = ofDecimal s.toList := by
  rw [parseU64, parseUnsigned_digits hne h]
  constructor
  · intro heq
    split_ifs at heq with hlt
    · rw [← Option.some.inj heq]
      exact UInt64.toNat_ofNat_of_lt' hlt
    · cases heq
  · intro heq
    rw [← heq, if_pos n.toNat_lt, Option.map_some, UInt64.ofNat_toNat]

/-! ## Checked arithmetic -/

section Checked

variable {a b c : UInt64}

def checkedAdd (a b : UInt64) : Option UInt64 :=
  if a.toNat + b.toNat < 2 ^ 64 then some (a + b) else none

def checkedSub (a b : UInt64) : Option UInt64 := if b ≤ a then some (a - b) else none

def checkedMul (a b : UInt64) : Option UInt64 :=
  if a.toNat * b.toNat < 2 ^ 64 then some (a * b) else none

lemma checkedAdd_eq_some : checkedAdd a b = some c ↔ c.toNat = a.toNat + b.toNat := by
  have hc := c.toNat_lt
  rw [checkedAdd]
  split_ifs with h
  · rw [Option.some.injEq, ← UInt64.toNat_inj, UInt64.toNat_add, Nat.mod_eq_of_lt h, eq_comm]
  · exact ⟨(fun heq => by cases heq), fun heq => by omega⟩

lemma checkedSub_eq_some : checkedSub a b = some c ↔ a.toNat = b.toNat + c.toNat := by
  rw [checkedSub]
  split_ifs with h
  · rw [Option.some.injEq, ← UInt64.toNat_inj, UInt64.toNat_sub_of_le _ _ h]
    have hle : b.toNat ≤ a.toNat := h
    omega
  · refine ⟨(fun heq => by cases heq), fun heq => absurd ?_ h⟩
    show b.toNat ≤ a.toNat
    omega

lemma checkedMul_eq_some : checkedMul a b = some c ↔ c.toNat = a.toNat * b.toNat := by
  have hc := c.toNat_lt
  rw [checkedMul]
  split_ifs with h
  · rw [Option.some.injEq, ← UInt64.toNat_inj, UInt64.toNat_mul, Nat.mod_eq_of_lt h, eq_comm]
  · exact ⟨(fun heq => by cases heq), fun heq => by omega⟩

end Checked

/-! ## Numbers with a fraction -/

/-- The number that is written with these digits before and after the point. -/
def decimalValue (whole fraction : List Char) : ℚ :=
  ofDecimal whole + ofDecimal fraction / 10 ^ fraction.length

/-- The point is moved by filling the fraction up with zeros. -/
lemma shifted_eq (whole fraction : List Char) {places : ℕ} (h : fraction.length ≤ places) :
    decimalValue whole fraction * 10 ^ places = ((ofDecimal whole * 10 ^ places
      + ofDecimal (fraction ++ List.replicate (places - fraction.length) '0') : ℕ) : ℚ) := by
  have hpow : (10 : ℚ) ^ places = 10 ^ fraction.length * 10 ^ (places - fraction.length) := by
    rw [← pow_add, Nat.add_sub_cancel' h]
  have hne : (10 : ℚ) ^ fraction.length ≠ 0 := pow_ne_zero _ (by norm_num)
  rw [ofDecimal_append, ofDecimal_zeros, List.length_replicate, decimalValue]
  push_cast
  rw [hpow]
  field_simp
  ring

end Vaulted.Decimal
