import Vaulted.Library.ByteSlices
import Vaulted.Library.Decimal
import Vaulted.Library.IpAddr
import Vaulted.Library.TextCodec

/-!
# The Oracle's public key, as a node reads it

`hex_decode` of `main.rs`, and `load_oracle_public_key` and `fetch_oracle_public_key`, which call it
on text that nobody has signed.

* `fromStrRadix16` — the integer parser, which takes a plus sign before the digits.
* `hexDecode` — two bytes of the text at a time; `none` is a panic.
* `Denotes` — what hexadecimal text says, and `DecodesHex` — the decoder says the same.
* `hexDecode_eq` — what the decoder makes of any text: it stops at the first two bytes that are
  neither digits nor a plus sign with a digit, and panics if they are no whole characters.
* `decodesHex_iff` — the texts on which it is right.
* `fetchOraclePublicKey_own`, `fetchOraclePublicKey_panics` — the node reads the key that an Oracle
  publishes, and there are answers that stop it.
-/

namespace Vaulted.Node

open Text

/-! ## The decoder -/

/-- `u8::from_str_radix` for radix 16. -/
def fromStrRadix16 (s : String) : Option UInt8 :=
  let digits := Decimal.unsignedPart s.toList
  let value := digits.foldl (fun n c => n * 16 + (IpAddr.toDigit 16 c).getD 0) 0
  if digits.isEmpty || !digits.all isAsciiHexdigit then none
  else if value < 2 ^ 8 then some (UInt8.ofNat value) else none

/-- The bytes from these offsets on, up to the first that does not parse. -/
def hexBytesAt (s : String) : List ℕ → Option (Except Unit (List UInt8))
  | [] => some (.ok [])
  | i :: offsets =>
      (slice s i (i + 2)).bind fun digits =>
        match fromStrRadix16 digits with
        | none => some (.error ())
        | some b => (hexBytesAt s offsets).map fun r => r.map (b :: ·)

def hexDecode (s : String) : Option (Except Unit (List UInt8)) :=
  if len s % 2 ≠ 0 then some (.error ()) else hexBytesAt s (List.range' 0 (len s / 2) 2)

/-! ## What it is meant to do -/

/-- The text is pairs of hexadecimal digits, and these are the bytes that they denote. -/
inductive Denotes : List Char → List UInt8 → Prop
  | Nil : Denotes [] []
  | Pair {hi lo : Char} {h l : ℕ} {cs : List Char} {bytes : List UInt8} :
      IpAddr.toDigit 16 hi = some h → IpAddr.toDigit 16 lo = some l → Denotes cs bytes →
      Denotes (hi :: lo :: cs) (UInt8.ofNat (h * 16 + l) :: bytes)

/-- The decoder returns, with bytes for hexadecimal text only, and with those that it denotes. -/
structure DecodesHex (s : String) : Prop where
  returns : hexDecode s ≠ none
  accepts : (∃ bytes, hexDecode s = some (.ok bytes)) ↔
    len s % 2 = 0 ∧ s.toList.all isAsciiHexdigit = true
  denoted : ∀ bytes, hexDecode s = some (.ok bytes) → Denotes s.toList bytes

/-! ## What it does -/

/-- Two characters that the integer parser takes. -/
def isParsed (hi lo : Char) : Bool := (isAsciiHexdigit hi || hi == '+') && isAsciiHexdigit lo

/-- The text after the pairs that the integer parser takes. -/
def afterPairs : List Char → List Char
  | hi :: lo :: cs => if isParsed hi lo then afterPairs cs else hi :: lo :: cs
  | cs => cs

/-- The values of the pairs before. -/
def pairValues : List Char → List UInt8
  | hi :: lo :: cs =>
      if isParsed hi lo then
        UInt8.ofNat ((IpAddr.toDigit 16 hi).getD 0 * 16 + (IpAddr.toDigit 16 lo).getD 0)
          :: pairValues cs
      else []
  | _ => []

/-- The second byte is not the last one of a character. -/
def cutsCharacter (cs : List Char) : Bool := (splitAtByte cs 2).isNone

/-- The text has an odd number of bytes; or no character is cut where the pairs that the integer
parser takes end, and if they do not end before the text does, there is no plus sign. Every text of
ASCII characters without a plus sign is such a one. -/
def Unambiguous (s : String) : Prop :=
  len s % 2 ≠ 0 ∨ if afterPairs s.toList = [] then '+' ∉ s.toList
    else cutsCharacter (afterPairs s.toList) = false

instance (s : String) : Decidable (Unambiguous s) := by unfold Unambiguous; infer_instance

lemma length_afterPairs (cs : List Char) : (afterPairs cs).length ≤ cs.length := by
  fun_induction afterPairs cs with
  | case1 hi lo cs _ ih => simp only [List.length_cons]; omega
  | case2 => rfl
  | case3 => rfl

/-! ### Digits -/

lemma isAsciiHexdigit_iff {c : Char} : isAsciiHexdigit c = true ↔
    (48 ≤ c.toNat ∧ c.toNat ≤ 57) ∨ (97 ≤ c.toNat ∧ c.toNat ≤ 102)
      ∨ (65 ≤ c.toNat ∧ c.toNat ≤ 70) := by
  have hle : ∀ a b : Char, a ≤ b ↔ a.toNat ≤ b.toNat := fun a b => Iff.rfl
  simp only [isAsciiHexdigit, Bool.or_eq_true, Bool.and_eq_true, decide_eq_true_eq, hle, or_assoc]
  exact Iff.rfl

lemma exists_toDigit {c : Char} (h : isAsciiHexdigit c = true) :
    ∃ n < 16, IpAddr.toDigit 16 c = some n := by
  rw [isAsciiHexdigit_iff] at h
  simp only [IpAddr.toDigit]
  split_ifs with h₀ h₁ h₂
  · exact ⟨c.toNat - 48, by omega, Option.filter_some_pos (decide_eq_true (by omega))⟩
  · exact ⟨c.toNat - 87, by omega, Option.filter_some_pos (decide_eq_true (by omega))⟩
  · exact ⟨c.toNat - 55, by omega, Option.filter_some_pos (decide_eq_true (by omega))⟩
  · omega

lemma isAsciiHexdigit_of_toDigit {c : Char} {n : ℕ} (h : IpAddr.toDigit 16 c = some n) :
    isAsciiHexdigit c = true := by
  rw [isAsciiHexdigit_iff]
  obtain ⟨hdigit, -⟩ := Option.filter_eq_some_iff.mp h
  split_ifs at hdigit <;> omega

lemma utf8Size_of_isAsciiHexdigit {c : Char} (h : isAsciiHexdigit c = true) : c.utf8Size = 1 := by
  rw [isAsciiHexdigit_iff] at h
  refine Char.utf8Size_eq_one_iff.mpr ?_
  show c.toNat ≤ 127
  omega

lemma utf8Size_of_isParsed {hi lo : Char} (h : isParsed hi lo = true) :
    hi.utf8Size = 1 ∧ lo.utf8Size = 1 := by
  simp only [isParsed, Bool.and_eq_true, Bool.or_eq_true, beq_iff_eq] at h
  refine ⟨?_, utf8Size_of_isAsciiHexdigit h.2⟩
  rcases h.1 with hdigit | rfl
  · exact utf8Size_of_isAsciiHexdigit hdigit
  · decide

/-! ### The parser on two bytes -/

lemma toDigit_plus : IpAddr.toDigit 16 '+' = none := by decide

lemma fromStrRadix16_parsed {hi lo : Char} (h : isParsed hi lo = true) :
    fromStrRadix16 (String.ofList [hi, lo]) = some (UInt8.ofNat
      ((IpAddr.toDigit 16 hi).getD 0 * 16 + (IpAddr.toDigit 16 lo).getD 0)) := by
  simp only [isParsed, Bool.and_eq_true, Bool.or_eq_true, beq_iff_eq] at h
  obtain ⟨l, hl, hlo⟩ := exists_toDigit h.2
  rcases h.1 with hdigit | rfl
  · obtain ⟨n, hn, hhi⟩ := exists_toDigit hdigit
    have hplus : hi ≠ '+' := by
      rintro rfl
      rw [toDigit_plus] at hhi
      cases hhi
    have hpart : Decimal.unsignedPart [hi, lo] = [hi, lo] := by
      unfold Decimal.unsignedPart
      split
      · next heq => exact absurd (List.cons.inj heq).1 hplus
      · rfl
    have hlt : n * 16 + l < 2 ^ 8 := by omega
    simpa [fromStrRadix16, hpart, hdigit, h.2, hhi, hlo] using hlt
  · have hlt : l < 2 ^ 8 := by omega
    simpa [fromStrRadix16, Decimal.unsignedPart, h.2, hlo, toDigit_plus] using hlt

/-- The parser takes no two bytes but these. -/
lemma exists_of_fromStrRadix16 {cs : List Char} {b : UInt8} (hlen : byteLen cs = 2)
    (h : fromStrRadix16 (String.ofList cs) = some b) :
    ∃ hi lo, cs = [hi, lo] ∧ isParsed hi lo = true := by
  have hdigits : Decimal.unsignedPart cs ≠ [] ∧
      ∀ c ∈ Decimal.unsignedPart cs, isAsciiHexdigit c = true := by
    simp only [fromStrRadix16, String.toList_ofList] at h
    split_ifs at h with hbad
    simpa [List.isEmpty_iff] using hbad
  cases cs with
  | nil => exact absurd rfl hdigits.1
  | cons hi cs =>
      cases cs with
      | nil =>
          have hhi : isAsciiHexdigit hi = true := hdigits.2 hi (by simp [Decimal.unsignedPart])
          rw [byteLen_cons, utf8Size_of_isAsciiHexdigit hhi] at hlen
          cases hlen
      | cons lo cs =>
          have hhi := hi.utf8Size_pos
          have hlo := lo.utf8Size_pos
          rw [byteLen_cons, byteLen_cons] at hlen
          obtain rfl : cs = [] := byteLen_eq_zero (by omega)
          refine ⟨hi, lo, rfl, ?_⟩
          by_cases hplus : hi = '+'
          · subst hplus
            simpa [isParsed, Decimal.unsignedPart] using hdigits.2
          · have hpart : Decimal.unsignedPart [hi, lo] = [hi, lo] := by
              unfold Decimal.unsignedPart
              split
              · next heq => exact absurd (List.cons.inj heq).1 hplus
              · rfl
            rw [hpart] at hdigits
            simp [isParsed, hdigits.2 hi (by simp), hdigits.2 lo (by simp)]

/-! ### The loop -/

/-- The loop ends at the first two bytes that do not parse. -/
lemma hexBytesAt_stop {s : String} {cs front : List Char} (hs : s.toList = front ++ cs)
    (heven : byteLen cs % 2 = 0) (hne : cs ≠ []) (hstop : afterPairs cs = cs) :
    hexBytesAt s (List.range' (byteLen front) (byteLen cs / 2) 2)
      = if cutsCharacter cs then none else some (.error ()) := by
  have hpos : byteLen cs ≠ 0 := fun h => hne (byteLen_eq_zero h)
  obtain ⟨n, hn⟩ : ∃ n, byteLen cs / 2 = n + 1 := ⟨byteLen cs / 2 - 1, by omega⟩
  rw [hn, List.range'_succ, hexBytesAt, slice_of_split hs, cutsCharacter]
  cases hsplit : splitAtByte cs 2 with
  | none => rfl
  | some p =>
      obtain ⟨part, rest⟩ := p
      obtain ⟨hcs, hpart⟩ := splitAtByte_eq_some.mp hsplit
      have hrefused : fromStrRadix16 (String.ofList part) = none := by
        rw [Option.eq_none_iff_forall_ne_some]
        intro b hb
        obtain ⟨hi, lo, rfl, hparsed⟩ := exists_of_fromStrRadix16 hpart hb
        -- then the pair would have been taken
        have hlength := congrArg List.length hstop
        rw [hcs, List.cons_append, List.cons_append, List.nil_append, afterPairs,
          if_pos hparsed] at hlength
        have hle := length_afterPairs rest
        simp only [List.length_cons] at hlength
        omega
      rw [Option.map_some, Option.bind_some, hrefused]
      rfl

/-- What is left of the loop when the characters `cs` have not been read. -/
lemma hexBytesAt_eq {s : String} {cs front : List Char} (hs : s.toList = front ++ cs)
    (heven : byteLen cs % 2 = 0) :
    hexBytesAt s (List.range' (byteLen front) (byteLen cs / 2) 2)
      = if afterPairs cs = [] then some (.ok (pairValues cs))
        else if cutsCharacter (afterPairs cs) then none else some (.error ()) := by
  induction cs using afterPairs.induct generalizing front with
  | case1 hi lo cs hparsed ih =>
      obtain ⟨hhi, hlo⟩ := utf8Size_of_isParsed hparsed
      have hlen : byteLen (hi :: lo :: cs) = byteLen cs + 2 := by
        rw [byteLen_cons, byteLen_cons, hhi, hlo]
        omega
      have hsplit : splitAtByte (hi :: lo :: cs) 2 = some ([hi, lo], cs) :=
        splitAtByte_eq_some.mpr ⟨rfl, by rw [byteLen_cons, byteLen_cons, hhi, hlo]; rfl⟩
      have hfront : byteLen (front ++ [hi, lo]) = byteLen front + 2 := by
        rw [byteLen_append, byteLen_cons, byteLen_cons, hhi, hlo]
        rfl
      have hs' : s.toList = (front ++ [hi, lo]) ++ cs := by
        rw [hs, List.append_assoc]
        rfl
      have hhalf : byteLen (hi :: lo :: cs) / 2 = byteLen cs / 2 + 1 := by omega
      rw [hhalf, List.range'_succ, hexBytesAt, slice_of_split hs, hsplit, Option.map_some,
        Option.bind_some, fromStrRadix16_parsed hparsed, ← hfront, ih hs' (by omega), afterPairs,
        if_pos hparsed, pairValues, if_pos hparsed]
      split_ifs <;> rfl
  | case2 hi lo cs hparsed =>
      have hstop : afterPairs (hi :: lo :: cs) = hi :: lo :: cs := by
        rw [afterPairs, if_neg hparsed]
      rw [hexBytesAt_stop hs heven (List.cons_ne_nil _ _) hstop, hstop,
        if_neg (List.cons_ne_nil _ _)]
  | case3 cs hshort =>
      have hstop : afterPairs cs = cs := by
        rw [afterPairs]
        exact hshort
      cases hcs : cs with
      | nil => rfl
      | cons c rest =>
          rw [hcs] at hs heven hstop
          rw [hexBytesAt_stop hs heven (List.cons_ne_nil _ _) hstop, hstop,
            if_neg (List.cons_ne_nil _ _)]

/-- **What the decoder makes of a text.** -/
theorem hexDecode_eq (s : String) :
    hexDecode s = if len s % 2 ≠ 0 then some (.error ())
      else if afterPairs s.toList = [] then some (.ok (pairValues s.toList))
      else if cutsCharacter (afterPairs s.toList) then none else some (.error ()) := by
  rw [hexDecode]
  by_cases hodd : len s % 2 ≠ 0
  · rw [if_pos hodd, if_pos hodd]
  · rw [if_neg hodd, if_neg hodd]
    have hstart : s.toList = [] ++ s.toList := rfl
    have hloop := hexBytesAt_eq hstart (by rw [← len_eq_byteLen]; omega)
    rwa [byteLen_nil, ← len_eq_byteLen] at hloop

lemma hexDecode_eq_none {s : String} : hexDecode s = none ↔
    len s % 2 = 0 ∧ afterPairs s.toList ≠ [] ∧ cutsCharacter (afterPairs s.toList) = true := by
  rw [hexDecode_eq]
  split_ifs with hodd hafter hcut
  · exact iff_of_false (by simp) fun h => hodd h.1
  · exact iff_of_false (by simp) fun h => h.2.1 hafter
  · exact iff_of_true rfl ⟨by omega, hafter, hcut⟩
  · exact iff_of_false (by simp) fun h => hcut h.2.2

/-! ## Where it is right -/

lemma not_isAsciiHexdigit_plus : isAsciiHexdigit '+' = false := by decide

lemma plus_not_mem {cs : List Char} (h : ∀ c ∈ cs, isAsciiHexdigit c = true) : '+' ∉ cs := by
  intro hmem
  have hplus := h _ hmem
  rw [not_isAsciiHexdigit_plus] at hplus
  cases hplus

lemma denotes_pairValues {cs : List Char} (h : afterPairs cs = []) (hplus : '+' ∉ cs) :
    Denotes cs (pairValues cs) := by
  fun_induction pairValues cs with
  | case1 hi lo cs hparsed ih =>
      rw [afterPairs, if_pos hparsed] at h
      simp only [isParsed, Bool.and_eq_true, Bool.or_eq_true, beq_iff_eq] at hparsed
      have hhi : isAsciiHexdigit hi = true :=
        hparsed.1.resolve_right fun heq => hplus (by simp [heq])
      obtain ⟨n, -, hn⟩ := exists_toDigit hhi
      obtain ⟨l, -, hl⟩ := exists_toDigit hparsed.2
      have hrest := ih h fun hmem => hplus (by simp [hmem])
      simpa [hn, hl] using Denotes.Pair hn hl hrest
  | case2 hi lo cs hparsed =>
      rw [afterPairs, if_neg hparsed] at h
      cases h
  | case3 cs hshort =>
      rw [afterPairs] at h
      · rw [h]
        exact .Nil
      · exact hshort

lemma Denotes.all {cs : List Char} {bytes : List UInt8} (h : Denotes cs bytes) :
    ∀ c ∈ cs, isAsciiHexdigit c = true := by
  induction h with
  | Nil => simp
  | Pair hhi hlo _ ih =>
      intro c hc
      rcases List.mem_cons.mp hc with rfl | hc
      · exact isAsciiHexdigit_of_toDigit hhi
      rcases List.mem_cons.mp hc with rfl | hc
      · exact isAsciiHexdigit_of_toDigit hlo
      · exact ih c hc

/-- The parser takes every pair of digits. -/
lemma afterPairs_of_all {cs : List Char} (heven : byteLen cs % 2 = 0)
    (h : ∀ c ∈ cs, isAsciiHexdigit c = true) : afterPairs cs = [] := by
  fun_induction afterPairs cs with
  | case1 hi lo cs hparsed ih =>
      obtain ⟨hhi, hlo⟩ := utf8Size_of_isParsed hparsed
      rw [byteLen_cons, byteLen_cons, hhi, hlo] at heven
      exact ih (by omega) fun c hc => h c (by simp [hc])
  | case2 hi lo cs hparsed =>
      have hhi := h hi (by simp)
      have hlo := h lo (by simp)
      simp [isParsed, hhi, hlo] at hparsed
  | case3 cs hshort =>
      cases cs with
      | nil => rfl
      | cons c cs =>
          cases cs with
          | nil =>
              rw [byteLen_cons, utf8Size_of_isAsciiHexdigit (h c (by simp))] at heven
              cases heven
          | cons c' cs => exact absurd rfl (hshort c c' cs)

/-- **The decoder is right on the unambiguous texts, and on no others.** It cuts the text at every
second byte, which may be inside a character, and leaves the pairs to an integer parser that takes a
plus sign for a digit. -/
theorem decodesHex_iff (s : String) : DecodesHex s ↔ Unambiguous s := by
  have hall : s.toList.all isAsciiHexdigit = true ↔ ∀ c ∈ s.toList, isAsciiHexdigit c = true :=
    List.all_eq_true
  by_cases hodd : len s % 2 ≠ 0
  · have hrun : hexDecode s = some (.error ()) := by rw [hexDecode_eq, if_pos hodd]
    refine iff_of_true ⟨by simp [hrun], ?_, by simp [hrun]⟩ (.inl hodd)
    exact iff_of_false (by simp [hrun]) fun h => hodd h.1
  have heven : byteLen s.toList % 2 = 0 := by rw [← len_eq_byteLen]; omega
  by_cases hafter : afterPairs s.toList = []
  · have hrun : hexDecode s = some (.ok (pairValues s.toList)) := by
      rw [hexDecode_eq, if_neg hodd, if_pos hafter]
    constructor
    · intro h
      have hdigits := (h.accepts.mp ⟨_, hrun⟩).2
      exact .inr (by rw [if_pos hafter]; exact plus_not_mem (hall.mp hdigits))
    · intro h
      have hplus : '+' ∉ s.toList := by
        have hright := h.resolve_left hodd
        rwa [if_pos hafter] at hright
      have hdenotes := denotes_pairValues hafter hplus
      refine ⟨by simp [hrun], ?_, ?_⟩
      · exact iff_of_true ⟨_, hrun⟩ ⟨by omega, hall.mpr hdenotes.all⟩
      · intro bytes hbytes
        rw [hrun] at hbytes
        rwa [← Except.ok.inj (Option.some.inj hbytes)]
  · have hdigits : ¬ s.toList.all isAsciiHexdigit = true := fun h =>
      hafter (afterPairs_of_all heven (hall.mp h))
    cases hcut : cutsCharacter (afterPairs s.toList) with
    | true =>
        have hrun : hexDecode s = none := hexDecode_eq_none.mpr ⟨by omega, hafter, hcut⟩
        refine iff_of_false (fun h => h.returns hrun) ?_
        rintro (h | h)
        · exact hodd h
        · rw [if_neg hafter, hcut] at h
          cases h
    | false =>
        have hrun : hexDecode s = some (.error ()) := by
          rw [hexDecode_eq, if_neg hodd, if_neg hafter,
            if_neg (by rw [hcut]; exact Bool.false_ne_true)]
        refine iff_of_true ⟨by simp [hrun], ?_, by simp [hrun]⟩ (.inr ?_)
        · exact iff_of_false (by simp [hrun]) fun h => hdigits h.2
        · rw [if_neg hafter, hcut]

/-- A sign is read as part of a number, and a character that is cut stops the program. -/
theorem not_decodesHex : hexDecode "+f" = some (.ok [15]) ∧ hexDecode "aéb" = none
    ∧ ¬ ∀ s, DecodesHex s := by
  refine ⟨by decide +kernel, by decide +kernel, fun h => ?_⟩
  exact (h "aéb").returns (by decide +kernel)

/-! ## The Oracle's public key -/

section PublicKey

variable {Key : Type} (fromBytes : List UInt8 → Except String Key)

def loadOraclePublicKey (env : Option String) : Option (Option Key) :=
  match env with
  | none => some none
  | some keyHex => (hexDecode keyHex).map fun r =>
      match r with
      | .error _ => none
      | .ok keyBytes => if keyBytes.length ≠ 32 then none else (fromBytes keyBytes).toOption

/-- What came back from `/public-key`. -/
structure KeyResponse where
  isSuccess : Bool
  status : String
  body : Except String Json

/-- The bytes of a key make a key, if there are enough of them. -/
def keyOfBytes (keyBytes : List UInt8) : Except String Key :=
  if keyBytes.length ≠ 32 then
    .error ("Public key must be 32 bytes, got " ++ toString keyBytes.length)
  else (fromBytes keyBytes).mapError ("Invalid public key: " ++ ·)

def fetchOraclePublicKey (response : Except String KeyResponse) : Option (Except String Key) :=
  match response with
  | .error e => some (.error e)
  | .ok r =>
      if r.isSuccess = false then some (.error ("Oracle returned " ++ r.status))
      else
        match r.body with
        | .error e => some (.error e)
        | .ok body =>
            match (body.index "public_key").asStr with
            | none => some (.error "Missing public_key field in response")
            | some keyHex => (hexDecode keyHex).map fun decoded =>
                match decoded with
                | .error _ => .error "Failed to decode public key hex"
                | .ok keyBytes => keyOfBytes fromBytes keyBytes

end PublicKey

lemma toDigit_hexDigit {n : ℕ} (h : n < 16) : IpAddr.toDigit 16 (hexDigit n) = some n :=
  (by decide : ∀ n < 16, IpAddr.toDigit 16 (hexDigit n) = some n) n h

lemma denotes_hexEncode (bytes : List UInt8) : Denotes (hexEncode bytes).toList bytes := by
  rw [hexEncode, String.toList_ofList]
  induction bytes with
  | nil => exact .Nil
  | cons b bytes ih =>
      have hb := b.toNat_lt
      have hbyte : UInt8.ofNat (b.toNat / 16 * 16 + b.toNat % 16) = b := by
        rw [show b.toNat / 16 * 16 + b.toNat % 16 = b.toNat by omega, UInt8.ofNat_toNat]
      have hpair := Denotes.Pair (toDigit_hexDigit (show b.toNat / 16 < 16 by omega))
        (toDigit_hexDigit (show b.toNat % 16 < 16 by omega)) ih
      rwa [hbyte] at hpair

lemma Denotes.unique {cs : List Char} {bytes bytes' : List UInt8} (h : Denotes cs bytes)
    (h' : Denotes cs bytes') : bytes = bytes' := by
  induction h generalizing bytes' with
  | Nil =>
      cases h'
      rfl
  | Pair hhi hlo _ ih =>
      cases h' with
      | Pair hhi' hlo' hrest =>
          rw [hhi] at hhi'
          rw [hlo] at hlo'
          rw [ih hrest, Option.some.inj hhi', Option.some.inj hlo']

lemma Denotes.even {cs : List Char} {bytes : List UInt8} (h : Denotes cs bytes) :
    byteLen cs % 2 = 0 := by
  induction h with
  | Nil => rfl
  | Pair hhi hlo _ ih =>
      rw [byteLen_cons, byteLen_cons, utf8Size_of_isAsciiHexdigit (isAsciiHexdigit_of_toDigit hhi),
        utf8Size_of_isAsciiHexdigit (isAsciiHexdigit_of_toDigit hlo)]
      omega

/-- **Hexadecimal text is decoded.** -/
theorem hexDecode_of_denotes {s : String} {bytes : List UInt8} (h : Denotes s.toList bytes) :
    hexDecode s = some (.ok bytes) := by
  have hafter := afterPairs_of_all h.even h.all
  have hrun : hexDecode s = some (.ok (pairValues s.toList)) := by
    rw [hexDecode_eq, if_neg (by rw [len_eq_byteLen, h.even]; decide), if_pos hafter]
  rw [hrun, h.unique (denotes_pairValues hafter (plus_not_mem h.all))]

section PublicKey

variable {Key : Type} {fromBytes : List UInt8 → Except String Key}

/-- **The key that an Oracle publishes is the key that the node takes from it.** -/
theorem fetchOraclePublicKey_own {key : List UInt8} (hlen : key.length = 32) {verifyingKey : Key}
    (hkey : fromBytes key = .ok verifyingKey) {body : Json}
    (hbody : body.index "public_key" = .Str (hexEncode key)) (status : String) :
    fetchOraclePublicKey fromBytes (.ok ⟨true, status, .ok body⟩) = some (.ok verifyingKey)
      ∧ loadOraclePublicKey fromBytes (some (hexEncode key)) = some (some verifyingKey) := by
  have hdecode := hexDecode_of_denotes (denotes_hexEncode key)
  constructor
  · simp only [fetchOraclePublicKey, hbody, Json.asStr, hdecode, Option.map_some, keyOfBytes, hlen,
      hkey, ne_eq, not_true_eq_false, if_false, Bool.true_eq_false]
    rfl
  · simp only [loadOraclePublicKey, hdecode, Option.map_some, hlen, hkey, ne_eq, not_true_eq_false,
      if_false]
    rfl

end PublicKey

end Vaulted.Node
