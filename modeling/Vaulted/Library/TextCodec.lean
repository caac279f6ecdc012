import Vaulted.Library.Json
import Vaulted.Library.Text

/-!
# Text codecs

The two encodings that carry binary records through text columns and request fields, as a
parameter `TextCodec`: base64 and the text form of JSON.  `Lawful` is what both promise, that
decoding undoes encoding; of JSON it is asked for `Plain` values only, whose numbers are
unsigned 64-bit integers, and as far as a parser goes into nested ones (`depth`).
`ReadsIntegers` is the same of negative ones.
-/

structure TextCodec where
  base64Encode : List UInt8 → String
  base64Decode : String → Except String (List UInt8)
  jsonToString : Json → String
  jsonFromStr : String → Except String Json

namespace Json

/-- Values that print without loss: every number is an unsigned 64-bit integer. -/
inductive Plain : Json → Prop
  | Null : Plain .Null
  | Boolean (b : Bool) : Plain (.Boolean b)
  | Num (n : Nat) : n < 2 ^ 64 → Plain (.Num (.Nat n))
  | Str (s : String) : Plain (.Str s)
  | Arr (items : List Json) : (∀ j ∈ items, Plain j) → Plain (.Arr items)
  | Obj (members : List (String × Json)) : (∀ m ∈ members, Plain m.2) → Plain (.Obj members)

/-- Values that print without loss: every number is an integer of 64 bits, signed or not. -/
inductive Integral : Json → Prop
  | Null : Integral .Null
  | Boolean (b : Bool) : Integral (.Boolean b)
  | Nat (n : Nat) : n < 2 ^ 64 → Integral (.Num (.Nat n))
  | Neg (n : Nat) : 0 < n → n ≤ 2 ^ 63 → Integral (.Num (.Neg n))
  | Str (s : String) : Integral (.Str s)
  | Arr (items : List Json) : (∀ j ∈ items, Integral j) → Integral (.Arr items)
  | Obj (members : List (String × Json)) :
      (∀ m ∈ members, Integral m.2) → Integral (.Obj members)

mutual

/-- How deep arrays and objects are nested. -/
def depth : Json → ℕ
  | .Arr items => depthItems items + 1
  | .Obj members => depthMembers members + 1
  | _ => 0

def depthItems : List Json → ℕ
  | [] => 0
  | j :: js => max (depth j) (depthItems js)

def depthMembers : List (String × Json) → ℕ
  | [] => 0
  | (_, j) :: ms => max (depth j) (depthMembers ms)

end

lemma depthItems_le {n : ℕ} {items : List Json} :
    depthItems items ≤ n ↔ ∀ j ∈ items, j.depth ≤ n := by
  induction items with
  | nil => simp [depthItems]
  | cons j items ih => rw [depthItems, Nat.max_le, ih, List.forall_mem_cons]

lemma depthMembers_le {n : ℕ} {members : List (String × Json)} :
    depthMembers members ≤ n ↔ ∀ m ∈ members, m.2.depth ≤ n := by
  induction members with
  | nil => simp [depthMembers]
  | cons m members ih => rw [depthMembers, Nat.max_le, ih, List.forall_mem_cons]

lemma depth_arr {n : ℕ} {items : List Json} :
    (Json.Arr items).depth ≤ n + 1 ↔ ∀ j ∈ items, j.depth ≤ n := by
  rw [depth, Nat.succ_le_succ_iff, depthItems_le]

lemma depth_obj {n : ℕ} {members : List (String × Json)} :
    (Json.Obj members).depth ≤ n + 1 ↔ ∀ m ∈ members, m.2.depth ≤ n := by
  rw [depth, Nat.succ_le_succ_iff, depthMembers_le]

lemma Plain.integral {j : Json} (h : j.Plain) : j.Integral := by
  induction h with
  | Null => exact .Null
  | Boolean b => exact .Boolean b
  | Num n hn => exact .Nat n hn
  | Str s => exact .Str s
  | Arr items _ ih => exact .Arr items ih
  | Obj members _ ih => exact .Obj members ih

lemma plain_ofBytes (bytes : List UInt8) : (ofBytes bytes).Plain := by
  refine .Arr _ fun j hj => ?_
  obtain ⟨b, -, rfl⟩ := List.mem_map.mp hj
  exact .Num _ (lt_of_lt_of_le b.toNat_lt (by decide))

lemma depth_ofBytes (bytes : List UInt8) : (ofBytes bytes).depth ≤ 1 := by
  refine depth_arr.mpr fun j hj => ?_
  obtain ⟨b, -, rfl⟩ := List.mem_map.mp hj
  exact Nat.le_refl _

/-- A record whose fields are texts and numbers, and arrays of bytes, is read at any depth. -/
lemma depth_record {members : List (String × Json)} (h : ∀ m ∈ members, m.2.depth ≤ 1) :
    (Json.Obj members).depth ≤ 127 :=
  depth_obj.mpr fun m hm => (h m hm).trans (by decide)

end Json

namespace TextCodec

/-- Decoding undoes encoding, and no value encodes to nothing.  A parser of JSON counts how deep it
is in arrays and objects, and gives up at the 128th level, so that only values below that are
promised to be read back. -/
structure Lawful (c : TextCodec) : Prop where
  base64 : ∀ bytes, c.base64Decode (c.base64Encode bytes) = .ok bytes
  json : ∀ j, j.Plain → j.depth ≤ 127 → c.jsonFromStr (c.jsonToString j) = .ok j
  nonempty : ∀ j, j.Plain →
    Text.isEmpty (c.base64Encode (Text.utf8 (c.jsonToString j))) = false

/-- Negative integers are read back too, in values that are not nested too deep. -/
def ReadsIntegers (c : TextCodec) : Prop :=
  ∀ j, j.Integral → j.depth ≤ 127 → c.jsonFromStr (c.jsonToString j) = .ok j

/-- JSON from bytes, which must be UTF-8. -/
def jsonFromSlice (c : TextCodec) (bytes : List UInt8) : Except String Json :=
  match Text.fromUtf8 bytes with
  | some text => c.jsonFromStr text
  | none => .error "invalid unicode code point"

/-- A JSON value as base64 text. -/
def toBase64 (c : TextCodec) (j : Json) : String := c.base64Encode (Text.utf8 (c.jsonToString j))

variable {c : TextCodec}

lemma Lawful.jsonFromSlice (h : c.Lawful) {j : Json} (hj : j.Plain) (hdepth : j.depth ≤ 127) :
    c.jsonFromSlice (Text.utf8 (c.jsonToString j)) = .ok j := by
  simp only [TextCodec.jsonFromSlice, Text.fromUtf8_utf8, h.json j hj hdepth]

end TextCodec
