import Mathlib.Data.BitVec
import Vaulted.Library.Text

/-!
# Numbers and strings of JavaScript

Integral numbers, as the bitwise operators take and return them: an operand is read as a word of 32
bits, and a result as a signed number, or with `>>> 0` as an unsigned one.  Strings are sequences of
UTF-16 code units.

* `word`, `bitXor`, `imul`, `toUint32` — the operators.
* `remainder` — `%`, which has the sign of the dividend.
* `charCodes` — the code units of a string; those of an ASCII string are its UTF-8 bytes
  (`charCodes_ascii`).
-/

namespace JavaScript

/-! ## Numbers -/

/-- The word that an operand is read as. -/
def word (x : ℤ) : BitVec 32 := BitVec.ofInt 32 x

def bitXor (x y : ℤ) : ℤ := (word x ^^^ word y).toInt

def imul (x y : ℤ) : ℤ := (word x * word y).toInt

/-- `x >>> 0`. -/
def toUint32 (x : ℤ) : ℤ := (word x).toNat

def remainder (x y : ℤ) : ℤ := x.tmod y

@[simp] lemma word_toNat (v : BitVec 32) : word v.toNat = v := by
  rw [word, BitVec.ofInt_natCast, BitVec.ofNat_toNat, BitVec.setWidth_eq]

@[simp] lemma word_toInt (v : BitVec 32) : word v.toInt = v := BitVec.ofInt_toInt

@[simp] lemma word_add (x y : ℤ) : word (x + y) = word x + word y := BitVec.ofInt_add x y

@[simp] lemma word_bitXor (x y : ℤ) : word (bitXor x y) = word x ^^^ word y := word_toInt _

@[simp] lemma word_imul (x y : ℤ) : word (imul x y) = word x * word y := word_toInt _

/-! ## Strings -/

/-- The code units of a character: one, or a pair of surrogates. -/
def codeUnits (c : Char) : List ℕ :=
  if c.toNat < 0x10000 then [c.toNat]
  else [0xD800 + (c.toNat - 0x10000) / 0x400, 0xDC00 + (c.toNat - 0x10000) % 0x400]

def charCodes (s : String) : List ℕ := s.toList.flatMap codeUnits

lemma utf8EncodeChar_ascii {c : Char} (h : c.toNat < 128) :
    String.utf8EncodeChar c = [UInt8.ofNat c.toNat] := by
  have hle : c.toNat ≤ 127 := by omega
  simp [String.utf8EncodeChar, hle]

lemma codeUnits_ascii {c : Char} (h : c.toNat < 128) :
    codeUnits c = (String.utf8EncodeChar c).map UInt8.toNat := by
  rw [codeUnits, if_pos (by omega), utf8EncodeChar_ascii h, List.map_singleton, UInt8.toNat_ofNat',
    Nat.mod_eq_of_lt (by omega)]

/-- The code units of an ASCII string are its bytes. -/
lemma charCodes_ascii {s : String} (h : ∀ c ∈ s.toList, c.toNat < 128) :
    charCodes s = (Text.utf8 s).map UInt8.toNat := by
  rw [charCodes, Text.utf8, List.map_flatMap]
  exact List.flatMap_congr fun c hc => codeUnits_ascii (h c hc)

end JavaScript
