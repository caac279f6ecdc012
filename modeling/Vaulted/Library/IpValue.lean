import Mathlib.Algebra.Group.Nat.Defs
import Mathlib.Tactic.SplitIfs
import Vaulted.Library.IpAddr

/-!
# Addresses and their texts

`"…".parse::<IpAddr>()` with the address that is read, over the readers of `IpAddr`, and what the
standard library says about an address.

* `parse` — an address from its text; `isSome_parse` — the texts are those of `isIpAddr`.
* `Ipv4.text`, `parse_text` — the dotted text of an address, and that it is read back.
* `Ipv4.isPrivate` and so on — the kinds of addresses.
-/

namespace IpAddr

structure Ipv4 where
  a : UInt8
  b : UInt8
  c : UInt8
  d : UInt8
  deriving DecidableEq

abbrev Ipv6 := BitVec 128

inductive Address
  | V4 (ip : Ipv4)
  | V6 (ip : Ipv6)
  deriving DecidableEq

/-! ## Kinds of addresses -/

namespace Ipv4

variable (ip : Ipv4)

def isLoopback : Bool := ip.a == 127

def isPrivate : Bool :=
  ip.a == 10 || (ip.a == 172 && 16 ≤ ip.b && ip.b ≤ 31) || (ip.a == 192 && ip.b == 168)

def isLinkLocal : Bool := ip.a == 169 && ip.b == 254

def isUnspecified : Bool := ip == ⟨0, 0, 0, 0⟩

def toNat : ℕ := ((ip.a.toNat * 256 + ip.b.toNat) * 256 + ip.c.toNat) * 256 + ip.d.toNat

def text : String :=
  toString ip.a.toNat ++ "." ++ toString ip.b.toNat ++ "." ++ toString ip.c.toNat ++ "."
    ++ toString ip.d.toNat

/-- The same address as one of IPv6. -/
def mapped : Ipv6 := BitVec.ofNat 128 (0xffff * 2 ^ 32 + ip.toNat)

end Ipv4

namespace Ipv6

variable (ip : Ipv6)

def isLoopback : Bool := ip == 1

def isUnspecified : Bool := ip == 0

/-- `fc00::/7`. -/
def isUniqueLocal : Bool := ip.toNat / 2 ^ 121 == 0x7e

/-- `fe80::/10`. -/
def isLinkLocal : Bool := ip.toNat / 2 ^ 118 == 0x3fa

end Ipv6

/-! ## Readers with values -/

def readNumberValue (radix maxDigits bound : ℕ) (allowZeroPrefix : Bool) (cs : List Char) :
    Option (ℕ × List Char) :=
  (readNumber radix maxDigits bound allowZeroPrefix cs).map fun rest =>
    ((cs.takeWhile fun c => (toDigit radix c).isSome).foldl
      (fun n c => n * radix + (toDigit radix c).getD 0) 0, rest)

def readSeparatedValue {α : Type} (sep : Char) (index : ℕ)
    (inner : List Char → Option (α × List Char)) (cs : List Char) : Option (α × List Char) :=
  if 0 < index then (readChar sep cs).bind inner else inner cs

def readOctetValue (index : ℕ) (cs : List Char) : Option (UInt8 × List Char) :=
  (readSeparatedValue '.' index (readNumberValue 10 3 256 false) cs).map fun p =>
    (UInt8.ofNat p.1, p.2)

def readIpv4Value (cs : List Char) : Option (Ipv4 × List Char) :=
  (readOctetValue 0 cs).bind fun a =>
  (readOctetValue 1 a.2).bind fun b =>
  (readOctetValue 2 b.2).bind fun c =>
  (readOctetValue 3 c.2).map fun d => (⟨a.1, b.1, c.1, d.1⟩, d.2)

/-- The groups that `readGroups` counts; an IPv4 address makes two. -/
def readGroupsValue (limit : ℕ) : ℕ → ℕ → List Char → List ℕ × Bool × List Char
  | 0, _, cs => ([], false, cs)
  | n + 1, i, cs =>
      match if i < limit - 1 then readSeparatedValue ':' i readIpv4Value cs else none with
      | some (ip, rest) => ([ip.toNat / 2 ^ 16, ip.toNat % 2 ^ 16], true, rest)
      | none =>
          match readSeparatedValue ':' i (readNumberValue 16 4 65536 true) cs with
          | some (group, rest) =>
              let (groups, ipv4, rest) := readGroupsValue limit n (i + 1) rest
              (group :: groups, ipv4, rest)
          | none => ([], false, cs)

def ofGroups (groups : List ℕ) : Ipv6 :=
  BitVec.ofNat 128 (groups.foldl (fun n group => n * 65536 + group) 0)

def readIpv6Value (cs : List Char) : Option (Ipv6 × List Char) :=
  let (head, ipv4, rest) := readGroupsValue 8 8 0 cs
  if head.length = 8 then some (ofGroups head, rest)
  else if ipv4 = true then none
  else ((readChar ':' rest).bind (readChar ':')).map fun rest =>
    let (tail, _, rest) := readGroupsValue (7 - head.length) (7 - head.length) 0 rest
    (ofGroups (head ++ List.replicate (8 - head.length - tail.length) 0 ++ tail), rest)

def parse (s : String) : Option Address :=
  match readIpv4Value s.toList with
  | some (ip, rest) => if rest.isEmpty then some (.V4 ip) else none
  | none =>
      match readIpv6Value s.toList with
      | some (ip, rest) => if rest.isEmpty then some (.V6 ip) else none
      | none => none

example : parse "10.0.0.1" = some (.V4 ⟨10, 0, 0, 1⟩) ∧ parse "::1" = some (.V6 1)
    ∧ parse "fe80::1:2" = some (.V6 (BitVec.ofNat 128 (0xfe80 * 2 ^ 112 + 0x10002)))
    ∧ parse "::ffff:10.0.0.1" = some (.V6 (Ipv4.mapped ⟨10, 0, 0, 1⟩)) ∧ parse "[::1]" = none := by
  decide +kernel

/-! ## The texts that are read -/

lemma map_readNumberValue {radix maxDigits bound : ℕ} {allow : Bool} {cs : List Char} :
    (readNumberValue radix maxDigits bound allow cs).map Prod.snd
      = readNumber radix maxDigits bound allow cs := by
  rw [readNumberValue, Option.map_map]
  exact Option.map_id'

lemma map_readSeparatedValue {α : Type} {sep : Char} {index : ℕ}
    {inner : List Char → Option (α × List Char)} {inner' : List Char → Option (List Char)}
    (h : ∀ cs, (inner cs).map Prod.snd = inner' cs) (cs : List Char) :
    (readSeparatedValue sep index inner cs).map Prod.snd = readSeparated sep index inner' cs := by
  rw [readSeparatedValue, readSeparated]
  split_ifs
  · rw [Option.map_bind]
    exact congrArg _ (funext h)
  · exact h cs

lemma map_readOctetValue (index : ℕ) (cs : List Char) :
    (readOctetValue index cs).map Prod.snd = readOctet index cs := by
  rw [readOctetValue, Option.map_map, readOctet,
    ← map_readSeparatedValue fun _ => map_readNumberValue]
  rfl

lemma map_readIpv4Value (cs : List Char) :
    (readIpv4Value cs).map Prod.snd = readIpv4 cs := by
  have hoctet : ∀ index, readOctet index = fun cs => (readOctetValue index cs).map Prod.snd :=
    fun index => funext fun cs => (map_readOctetValue index cs).symm
  simp only [readIpv4, readIpv4Value, hoctet, Option.map_bind, Option.bind_map, Option.bind_assoc,
    Option.map_map, Function.comp_def]

lemma readGroupsValue_eq (limit n i : ℕ) (cs : List Char) :
    readGroups limit n i cs = (i + (readGroupsValue limit n i cs).1.length,
      (readGroupsValue limit n i cs).2) := by
  induction n generalizing i cs with
  | zero => rfl
  | succ n ih =>
      have hipv4 : (if i < limit - 1 then readSeparated ':' i readIpv4 cs else none)
          = (if i < limit - 1 then readSeparatedValue ':' i readIpv4Value cs else none).map
              Prod.snd := by
        split_ifs
        · exact (map_readSeparatedValue map_readIpv4Value cs).symm
        · rfl
      rw [readGroups, readGroupsValue, hipv4]
      cases (if i < limit - 1 then readSeparatedValue ':' i readIpv4Value cs else none) with
      | some p => rfl
      | none =>
          rw [← map_readSeparatedValue (fun _ => map_readNumberValue) cs]
          cases readSeparatedValue ':' i (readNumberValue 16 4 65536 true) cs with
          | none => rfl
          | some p =>
              simp only [Option.map_none, Option.map_some, ih]
              rw [List.length_cons, Nat.add_assoc, Nat.add_comm 1]

lemma map_readIpv6Value (cs : List Char) :
    (readIpv6Value cs).map Prod.snd = readIpv6 cs := by
  rw [readIpv6Value, readIpv6, readGroupsValue_eq, Nat.zero_add]
  obtain ⟨head, ipv4, rest⟩ := readGroupsValue 8 8 0 cs
  dsimp only
  split_ifs
  · rfl
  · rfl
  · rw [Option.map_map]
    refine congrArg (fun f => Option.map f _) (funext fun rest => ?_)
    rw [readGroupsValue_eq]
    rfl

/-- **What is read is a text of an address.** -/
theorem isSome_parse (s : String) : (parse s).isSome = isIpAddr s := by
  rw [parse, isIpAddr, ← map_readIpv4Value, ← map_readIpv6Value]
  cases readIpv4Value s.toList with
  | some p =>
      obtain ⟨ip, rest⟩ := p
      cases rest <;> rfl
  | none =>
      cases readIpv6Value s.toList with
      | none => rfl
      | some p =>
          obtain ⟨ip, rest⟩ := p
          cases rest <;> rfl

/-- A text with another character is none of an address. -/
lemma parse_eq_none {s : String} {c : Char} (hmem : c ∈ s.toList) (hc : isIpChar c = false) :
    parse s = none := by
  rw [Option.eq_none_iff_forall_ne_some]
  intro ip hip
  have haddr : isIpAddr s = true := by rw [← isSome_parse, hip]; rfl
  rw [forall_isIpChar haddr c hmem] at hc
  cases hc

/-! ## The text of an address -/

lemma readNumberValue_octet {n : ℕ} (hn : n < 256) {rest : List Char}
    (hrest : ∀ c ∈ rest.head?, (toDigit 10 c).isSome = false) :
    readNumberValue 10 3 256 false ((toString n).toList ++ rest) = some (n, rest) := by
  have hall : ∀ n < 256, let digits := (toString n).toList
      (digits.all fun c => (toDigit 10 c).isSome) = true ∧ digits ≠ [] ∧ digits.length ≤ 3
        ∧ digits.foldl (fun n c => n * 10 + (toDigit 10 c).getD 0) 0 = n
        ∧ ¬ (digits.head? = some '0' ∧ 1 < digits.length) := by
    decide +kernel
  obtain ⟨hdigits, hne, hlength, hvalue, hzero⟩ := hall n hn
  have htake : ((toString n).toList ++ rest).takeWhile (fun c => (toDigit 10 c).isSome)
      = (toString n).toList := by
    rw [List.takeWhile_append_of_pos (List.all_eq_true.mp hdigits)]
    cases rest with
    | nil => simp
    | cons c rest => simp [hrest c rfl]
  rw [readNumberValue, readNumber, htake, hvalue]
  rw [if_neg, if_neg, List.drop_left, Option.map_some]
  · exact fun h => hzero h.2
  · rintro (h | h | h)
    · exact hne h
    · omega
    · omega

lemma readOctetValue_dotted {o : UInt8} {index : ℕ} (hindex : 0 < index) {rest : List Char}
    (hrest : ∀ c ∈ rest.head?, (toDigit 10 c).isSome = false) :
    readOctetValue index ('.' :: (toString o.toNat).toList ++ rest) = some (o, rest) := by
  rw [readOctetValue, readSeparatedValue, if_pos hindex, List.cons_append, readChar, if_pos rfl,
    Option.bind_some, readNumberValue_octet o.toNat_lt hrest, Option.map_some, UInt8.ofNat_toNat]

/-- **An address is read back.** -/
theorem parse_text (ip : Ipv4) : parse ip.text = some (.V4 ip) := by
  obtain ⟨a, b, c, d⟩ := ip
  have hchars : (Ipv4.text ⟨a, b, c, d⟩).toList = (toString a.toNat).toList
      ++ ('.' :: (toString b.toNat).toList ++ ('.' :: (toString c.toNat).toList
        ++ ('.' :: (toString d.toNat).toList ++ []))) := by
    simp [Ipv4.text]
  have hdot : (toDigit 10 '.').isSome = false := by decide
  have hfirst : ∀ rest, (∀ c ∈ rest.head?, (toDigit 10 c).isSome = false) →
      readOctetValue 0 ((toString a.toNat).toList ++ rest) = some (a, rest) := by
    intro rest hrest
    rw [readOctetValue, readSeparatedValue, if_neg (Nat.lt_irrefl 0),
      readNumberValue_octet a.toNat_lt hrest, Option.map_some, UInt8.ofNat_toNat]
  have hread : readIpv4Value (Ipv4.text ⟨a, b, c, d⟩).toList = some (⟨a, b, c, d⟩, []) := by
    rw [readIpv4Value, hchars, hfirst _ (by simpa using hdot), Option.bind_some,
      readOctetValue_dotted (by decide) (by simpa using hdot), Option.bind_some,
      readOctetValue_dotted (by decide) (by simpa using hdot), Option.bind_some,
      readOctetValue_dotted (by decide) (by simp)]
    rfl
  rw [parse, hread]
  rfl

end IpAddr
