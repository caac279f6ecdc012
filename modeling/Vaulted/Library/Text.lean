import Mathlib.Data.List.Infix
import Mathlib.Data.List.TakeWhile
import Mathlib.Data.Option.Basic

/-!
# Text, as a web service handles it

The string operations of the standard library that requests are checked with, computed on the
characters (or, where the original counts bytes, on the UTF-8 bytes) of a string, so that each
of them evaluates.  `varchar` is the length check of a bounded text column.
-/

namespace Text

/-! ## Bytes and length -/

/-- The UTF-8 bytes of a string. -/
def utf8 (s : String) : List UInt8 := s.toList.flatMap String.utf8EncodeChar

/-- Length in bytes. -/
def len (s : String) : ℕ := (utf8 s).length

def isEmpty (s : String) : Bool := s.toList.isEmpty

lemma utf8_append (s t : String) : utf8 (s ++ t) = utf8 s ++ utf8 t := by
  rw [utf8, String.toList_append, List.flatMap_append]
  rfl

lemma isEmpty_iff {s : String} : isEmpty s = true ↔ s = "" := by
  rw [isEmpty, List.isEmpty_iff, String.toList_eq_nil_iff]

/-- The string that the bytes encode, if they are valid UTF-8. -/
def fromUtf8 (bytes : List UInt8) : Option String := String.fromUTF8? ⟨bytes.toArray⟩

lemma toByteArray_utf8 (s : String) : (⟨(utf8 s).toArray⟩ : ByteArray) = s.toByteArray := by
  conv_rhs => rw [← String.ofList_toList (s := s), String.toByteArray_ofList]
  rw [List.utf8Encode, utf8]
  exact ByteArray.ext List.data_toByteArray.symm

lemma fromUtf8_utf8 (s : String) : fromUtf8 (utf8 s) = some s := by
  rw [fromUtf8, toByteArray_utf8, String.fromUTF8?, dif_pos s.isValidUTF8]
  rfl

lemma utf8_of_fromUtf8 {bytes : List UInt8} {s : String} (h : fromUtf8 bytes = some s) :
    utf8 s = bytes := by
  rw [fromUtf8, String.fromUTF8?] at h
  split_ifs at h with hvalid
  have hbytes : s.toByteArray = ⟨bytes.toArray⟩ := by
    rw [← Option.some.inj h]
    rfl
  rw [← toByteArray_utf8] at hbytes
  exact congrArg (fun array : ByteArray => array.data.toList) hbytes

lemma utf8_injective {s s' : String} (h : utf8 s = utf8 s') : s = s' := by
  have hdecode := fromUtf8_utf8 s
  rw [h, fromUtf8_utf8] at hdecode
  exact (Option.some.inj hdecode).symm

/-! ## Searching and comparing -/

def startsWith (s p : String) : Bool := p.toList.isPrefixOf s.toList

/-- Does `sub` occur in `s`? -/
def contains (s sub : String) : Bool := decide (sub.toList <:+: s.toList)

/-- Equality up to the case of ASCII letters. -/
def eqIgnoreAsciiCase (s t : String) : Bool :=
  decide (s.toList.map Char.toLower = t.toList.map Char.toLower)

def toAsciiUppercase (s : String) : String := String.ofList (s.toList.map Char.toUpper)

def toAsciiLowercase (s : String) : String := String.ofList (s.toList.map Char.toLower)

/-- The parts of a string between the separators. -/
def split (sep : Char) (s : String) : List String := (s.toList.splitOn sep).map String.ofList

/-- The Unicode category of control characters. -/
def isControl (c : Char) : Bool := c.toNat < 0x20 || (0x7F ≤ c.toNat && c.toNat ≤ 0x9F)

/-- Unicode `White_Space`. -/
def isWhitespace (c : Char) : Bool :=
  let n := c.toNat
  (9 ≤ n && n ≤ 13) || n == 0x20 || n == 0x85 || n == 0xA0 || n == 0x1680 ||
    (0x2000 ≤ n && n ≤ 0x200A) || n == 0x2028 || n == 0x2029 || n == 0x202F || n == 0x205F ||
    n == 0x3000

/-- The string without leading and trailing white space. -/
def trim (s : String) : String :=
  String.ofList (((s.toList.dropWhile isWhitespace).reverse.dropWhile isWhitespace).reverse)

/-- Trimming leaves nothing of white space only. -/
lemma isEmpty_trim_iff {s : String} :
    isEmpty (trim s) = true ↔ ∀ c ∈ s.toList, isWhitespace c = true := by
  rw [isEmpty, trim, String.toList_ofList, List.isEmpty_reverse, List.isEmpty_iff,
    List.dropWhile_eq_nil_iff]
  constructor
  · intro h
    cases hfront : s.toList.dropWhile isWhitespace with
    | nil => exact List.dropWhile_eq_nil_iff.mp hfront
    | cons c cs =>
        have hhead := List.head?_dropWhile_not isWhitespace s.toList
        have hc := h c (by rw [hfront]; simp)
        simp [hfront, hc] at hhead
  · intro h c hc
    exact h c ((List.dropWhile_suffix _).mem (List.mem_reverse.mp hc))

/-- Where there is no white space, nothing is trimmed. -/
lemma trim_eq_self {s : String} (h : ∀ c ∈ s.toList, isWhitespace c = false) : trim s = s := by
  have hfront : s.toList.dropWhile isWhitespace = s.toList :=
    List.dropWhile_eq_self_iff.mpr fun hlength => by
      rw [h _ (List.getElem_mem hlength)]
      exact Bool.false_ne_true
  have hback : s.toList.reverse.dropWhile isWhitespace = s.toList.reverse :=
    List.dropWhile_eq_self_iff.mpr fun hlength => by
      rw [h _ (List.mem_reverse.mp (List.getElem_mem hlength))]
      exact Bool.false_ne_true
  rw [trim, hfront, hback, List.reverse_reverse, String.ofList_toList]

@[simp] lemma eqIgnoreAsciiCase_self (s : String) : eqIgnoreAsciiCase s s = true := by
  simp [eqIgnoreAsciiCase]

lemma eqIgnoreAsciiCase_symm {s t : String} (h : eqIgnoreAsciiCase s t = true) :
    eqIgnoreAsciiCase t s = true := by
  simp only [eqIgnoreAsciiCase, decide_eq_true_eq] at h ⊢
  exact h.symm

lemma eqIgnoreAsciiCase_trans {s t u : String} (h : eqIgnoreAsciiCase s t = true)
    (h' : eqIgnoreAsciiCase t u = true) : eqIgnoreAsciiCase s u = true := by
  simp only [eqIgnoreAsciiCase, decide_eq_true_eq] at h h' ⊢
  exact h.trans h'

lemma contains_iff {s sub : String} : contains s sub = true ↔ sub.toList <:+: s.toList := by
  simp [contains]

lemma split_append {sep : Char} {p q : String} (hp : sep ∉ p.toList) (hq : sep ∉ q.toList) :
    split sep (p ++ String.singleton sep ++ q) = [p, q] := by
  have hchars : (p ++ String.singleton sep ++ q).toList = p.toList ++ sep :: q.toList := by simp
  rw [split, hchars, List.splitOn_append_cons_self_of_not_mem hp, List.splitOn_eq_singleton hq]
  simp

lemma split_append_split {sep : Char} {p : String} (hp : sep ∉ p.toList) (s : String) :
    split sep (p ++ String.singleton sep ++ s) = p :: split sep s := by
  have hchars : (p ++ String.singleton sep ++ s).toList = p.toList ++ sep :: s.toList := by simp
  rw [split, hchars, List.splitOn_append_cons_self_of_not_mem hp]
  simp [split]

lemma not_mem_of_mem_splitOn {sep : Char} {cs part : List Char} (h : part ∈ cs.splitOn sep) :
    sep ∉ part := by
  induction cs generalizing part with
  | nil =>
      rw [List.splitOn_nil, List.mem_singleton] at h
      simp [h]
  | cons c cs ih =>
      rw [List.splitOn_cons_eq_if_modifyHead] at h
      split_ifs at h with hc
      · rcases List.mem_cons.mp h with rfl | h
        · simp
        · exact ih h
      · cases hparts : cs.splitOn sep with
        | nil => exact absurd hparts (List.splitOn_ne_nil sep cs)
        | cons p ps =>
            rw [hparts] at h ih
            rcases List.mem_cons.mp h with rfl | h
            · have hp := ih List.mem_cons_self
              have hne : sep ≠ c := fun heq => hc (by simp [heq])
              simp [hne, hp]
            · exact ih (List.mem_cons_of_mem _ h)

/-- Two parts are what stands before and after the only separator. -/
lemma of_split_eq_pair {sep : Char} {s p q : String} (h : split sep s = [p, q]) :
    s = p ++ String.singleton sep ++ q ∧ sep ∉ p.toList := by
  obtain ⟨xs, ys, hsplit, rfl, rfl⟩ : ∃ xs ys, s.toList.splitOn sep = [xs, ys]
      ∧ String.ofList xs = p ∧ String.ofList ys = q := by
    rw [split] at h
    match hparts : s.toList.splitOn sep, h with
    | [xs, ys], h =>
        simp only [List.map_cons, List.map_nil, List.cons.injEq, and_true] at h
        exact ⟨xs, ys, rfl, h.1, h.2⟩
  have hmem : sep ∉ xs := not_mem_of_mem_splitOn (hsplit ▸ List.mem_cons_self)
  have hjoin : [sep].intercalate (s.toList.splitOn sep) = s.toList :=
    List.intercalate_splitOn sep
  rw [hsplit] at hjoin
  refine ⟨String.toList_injective ?_, by simpa using hmem⟩
  rw [← hjoin]
  simp [List.intercalate]

/-- Joining the parts gives the string. -/
lemma of_split_eq_triple {sep : Char} {s p q r : String} (h : split sep s = [p, q, r]) :
    s = p ++ String.singleton sep ++ q ++ String.singleton sep ++ r := by
  have hparts : s.toList.splitOn sep = [p.toList, q.toList, r.toList] := by
    have hmap := congrArg (List.map String.toList) h
    rw [split, List.map_map] at hmap
    simpa using hmap
  have hjoin : [sep].intercalate (s.toList.splitOn sep) = s.toList :=
    List.intercalate_splitOn sep
  rw [hparts] at hjoin
  refine String.toList_injective ?_
  rw [← hjoin]
  simp [List.intercalate]

lemma split_of_not_mem {sep : Char} {s : String} (h : sep ∉ s.toList) : split sep s = [s] := by
  rw [split, List.splitOn_eq_singleton h]
  simp

lemma of_split_eq_singleton {sep : Char} {s p : String} (h : split sep s = [p]) : s = p := by
  have hjoin : [sep].intercalate (s.toList.splitOn sep) = s.toList :=
    List.intercalate_splitOn sep
  rw [split, List.map_eq_singleton_iff] at h
  obtain ⟨xs, hsplit, rfl⟩ := h
  rw [hsplit] at hjoin
  refine String.toList_injective ?_
  rw [← hjoin]
  simp [List.intercalate]

/-! ## Hexadecimal -/

def isAsciiHexdigit (c : Char) : Bool :=
  ('0' ≤ c && c ≤ '9') || ('a' ≤ c && c ≤ 'f') || ('A' ≤ c && c ≤ 'F')

/-- Exactly `n` bytes, each an ASCII hexadecimal digit. -/
def isHexOfLen (n : ℕ) (s : String) : Bool := len s == n && s.toList.all isAsciiHexdigit

/-- The value of an ASCII hexadecimal digit. -/
def hexValue (b : UInt8) : Option UInt8 :=
  if 48 ≤ b ∧ b ≤ 57 then some (b - 48)
  else if 97 ≤ b ∧ b ≤ 102 then some (b - 87)
  else if 65 ≤ b ∧ b ≤ 70 then some (b - 55)
  else none

/-- Pairs of digits to bytes, or the position of the first character that is not a digit. -/
def hexPairs (i : ℕ) : List UInt8 → Except ℕ (List UInt8)
  | hi :: lo :: rest =>
      match hexValue hi, hexValue lo with
      | none, _ => .error i
      | some _, none => .error (i + 1)
      | some h, some l => (hexPairs (i + 2) rest).map ((h * 16 + l) :: ·)
  | _ => .ok []

/-- `{:?}` of a byte as a character. -/
def debugByte (b : UInt8) : String :=
  let escaped :=
    if b = 0 then "\\0"
    else if b = 9 then "\\t"
    else if b = 10 then "\\n"
    else if b = 13 then "\\r"
    else if b = 39 then "\\'"
    else if b = 92 then "\\\\"
    else if b < 32 ∨ 127 ≤ b ∧ b ≤ 160 ∨ b = 173 then
      "\\u\x7b" ++ String.ofList (Nat.toDigits 16 b.toNat) ++ "\x7d"
    else String.singleton (Char.ofNat b.toNat)
  "'" ++ escaped ++ "'"

/-- Hexadecimal text, of either letter case, to bytes. -/
def hexDecode (s : String) : Except String (List UInt8) :=
  let bytes := utf8 s
  if bytes.length % 2 = 1 then .error "Odd number of digits"
  else
    match hexPairs 0 bytes with
    | .ok decoded => .ok decoded
    | .error i =>
        .error ("Invalid character " ++ debugByte (bytes.getD i 0) ++ " at position " ++ toString i)

def hexDigit (n : ℕ) : Char := Char.ofNat (if n < 10 then 48 + n else 87 + n)

/-- Bytes to lower-case hexadecimal text. -/
def hexEncode (bytes : List UInt8) : String :=
  String.ofList (bytes.flatMap fun b => [hexDigit (b.toNat / 16), hexDigit (b.toNat % 16)])

/-- `hex::encode_upper`. -/
def hexEncodeUpper (bytes : List UInt8) : String := toAsciiUppercase (hexEncode bytes)

/-- Each digit is one byte, with the value that it stands for. -/
def IsHexDigits (digit : ℕ → Char) : Prop :=
  ∀ n < 16, String.utf8EncodeChar (digit n) = [UInt8.ofNat (digit n).toNat]
    ∧ hexValue (UInt8.ofNat (digit n).toNat) = some (UInt8.ofNat n)

/-- The two digits of each byte. -/
def hexDigits (digit : ℕ → Char) (bytes : List UInt8) : List Char :=
  bytes.flatMap fun b => [digit (b.toNat / 16), digit (b.toNat % 16)]

section Digits

variable {digit : ℕ → Char} (hdigit : IsHexDigits digit)

include hdigit in
lemma utf8_hexDigits (bytes : List UInt8) : utf8 (String.ofList (hexDigits digit bytes))
    = bytes.flatMap fun b => [UInt8.ofNat (digit (b.toNat / 16)).toNat,
        UInt8.ofNat (digit (b.toNat % 16)).toNat] := by
  rw [utf8, String.toList_ofList, hexDigits]
  induction bytes with
  | nil => rfl
  | cons b bytes ih =>
      have hb := b.toNat_lt
      simp only [List.flatMap_cons, ih, (hdigit _ (show b.toNat / 16 < 16 by omega)).1,
        (hdigit _ (show b.toNat % 16 < 16 by omega)).1, List.cons_append, List.nil_append]

include hdigit in
lemma hexPairs_flatMap (i : ℕ) (bytes : List UInt8) :
    hexPairs i (bytes.flatMap fun b => [UInt8.ofNat (digit (b.toNat / 16)).toNat,
      UInt8.ofNat (digit (b.toNat % 16)).toNat]) = .ok bytes := by
  induction bytes generalizing i with
  | nil => rfl
  | cons b bytes ih =>
      have hb := b.toNat_lt
      have hbyte : UInt8.ofNat (b.toNat / 16) * 16 + UInt8.ofNat (b.toNat % 16) = b := by
        apply UInt8.toNat_inj.mp
        have h16 : (16 : UInt8).toNat = 16 := rfl
        simp only [UInt8.toNat_add, UInt8.toNat_mul, UInt8.toNat_ofNat', h16]
        omega
      simp only [List.flatMap_cons, List.cons_append, List.nil_append, hexPairs,
        (hdigit _ (show b.toNat / 16 < 16 by omega)).2,
        (hdigit _ (show b.toNat % 16 < 16 by omega)).2, ih, hbyte]
      rfl

include hdigit in
/-- Bytes are read as they were written, whichever digits they were written with. -/
theorem hexDecode_hexDigits (bytes : List UInt8) :
    hexDecode (String.ofList (hexDigits digit bytes)) = .ok bytes := by
  have heven : (utf8 (String.ofList (hexDigits digit bytes))).length % 2 ≠ 1 := by
    rw [utf8_hexDigits hdigit]
    induction bytes with
    | nil => simp
    | cons b bytes ih =>
        simp only [List.flatMap_cons, List.length_append, List.length_cons, List.length_nil]
        omega
  simp only [hexDecode, if_neg heven]
  rw [utf8_hexDigits hdigit, hexPairs_flatMap hdigit]

end Digits

theorem hexDecode_hexEncode (bytes : List UInt8) : hexDecode (hexEncode bytes) = .ok bytes :=
  hexDecode_hexDigits (by unfold IsHexDigits; decide) bytes

theorem hexDecode_hexEncodeUpper (bytes : List UInt8) :
    hexDecode (hexEncodeUpper bytes) = .ok bytes := by
  have hdigits : hexEncodeUpper bytes
      = String.ofList (hexDigits (fun n => (hexDigit n).toUpper) bytes) := by
    rw [hexEncodeUpper, toAsciiUppercase, hexEncode, String.toList_ofList, List.map_flatMap]
    rfl
  rw [hdigits]
  exact hexDecode_hexDigits (by unfold IsHexDigits; decide) bytes

lemma length_of_hexPairs {i : ℕ} {digits bytes : List UInt8} (heven : digits.length % 2 ≠ 1)
    (h : hexPairs i digits = .ok bytes) : digits.length = 2 * bytes.length := by
  induction digits using List.twoStepInduction generalizing i bytes with
  | nil =>
      rw [← Except.ok.inj h]
      rfl
  | singleton _ => exact absurd rfl heven
  | cons_cons hi lo rest ih _ =>
      rw [hexPairs] at h
      split at h
      · cases h
      · cases h
      · cases hrest : hexPairs (i + 2) rest with
        | error e => simp [hrest, Except.map] at h
        | ok bytes' =>
            rw [hrest] at h
            obtain rfl := Except.ok.inj h
            have heven' : rest.length % 2 ≠ 1 := by
              simp only [List.length_cons] at heven
              omega
            have hlength := ih heven' hrest
            simp only [List.length_cons]
            omega

/-- A byte is two digits. -/
lemma length_of_hexDecode {s : String} {bytes : List UInt8} (h : hexDecode s = .ok bytes) :
    (utf8 s).length = 2 * bytes.length := by
  rw [hexDecode] at h
  split_ifs at h with heven
  cases hpairs : hexPairs 0 (utf8 s) with
  | error e => simp [hpairs] at h
  | ok decoded =>
      simp only [hpairs] at h
      obtain rfl := Except.ok.inj h
      exact length_of_hexPairs heven hpairs

lemma hexEncode_injective {bytes bytes' : List UInt8} (h : hexEncode bytes = hexEncode bytes') :
    bytes = bytes' := by
  have hdecode := hexDecode_hexEncode bytes
  rw [h, hexDecode_hexEncode] at hdecode
  exact (Except.ok.inj hdecode).symm

/-- What is no digit is not written. -/
lemma not_mem_hexEncode {c : Char} (hc : ∀ n < 16, hexDigit n ≠ c) (bytes : List UInt8) :
    c ∉ (hexEncode bytes).toList := by
  rw [hexEncode, String.toList_ofList, List.mem_flatMap]
  rintro ⟨b, -, hb⟩
  have hb16 := b.toNat_lt
  simp only [List.mem_cons, List.not_mem_nil, or_false] at hb
  rcases hb with hb | hb
  · exact hc _ (by omega) hb.symm
  · exact hc _ (Nat.mod_lt _ (by decide)) hb.symm

/-- White space begins with no hexadecimal digit. -/
lemma hexValue_whitespace {c : Char} (h : isWhitespace c = true) :
    ∃ b bytes, String.utf8EncodeChar c = b :: bytes ∧ hexValue b = none := by
  have hmem : c.toNat ∈ [9, 10, 11, 12, 13, 0x20, 0x85, 0xA0, 0x1680, 0x2000, 0x2001, 0x2002,
      0x2003, 0x2004, 0x2005, 0x2006, 0x2007, 0x2008, 0x2009, 0x200A, 0x2028, 0x2029, 0x202F,
      0x205F, 0x3000] := by
    simp only [isWhitespace, Bool.or_eq_true, Bool.and_eq_true, decide_eq_true_eq, beq_iff_eq] at h
    simp only [List.mem_cons, List.not_mem_nil, or_false]
    omega
  have hall : ∀ n ∈ [9, 10, 11, 12, 13, 0x20, 0x85, 0xA0, 0x1680, 0x2000, 0x2001, 0x2002,
      0x2003, 0x2004, 0x2005, 0x2006, 0x2007, 0x2008, 0x2009, 0x200A, 0x2028, 0x2029, 0x202F,
      0x205F, 0x3000], (String.utf8EncodeChar (Char.ofNat n)).head?.map hexValue = some none := by
    decide
  have hc := hall _ hmem
  rw [Char.ofNat_toNat] at hc
  cases hbytes : String.utf8EncodeChar c with
  | nil => simp [hbytes] at hc
  | cons b bytes => exact ⟨b, bytes, rfl, by simpa [hbytes] using hc⟩

/-- White space is the text of no bytes. -/
lemma hexDecode_blank {s : String} {bytes : List UInt8} (h : isEmpty (trim s) = true)
    (hdecode : hexDecode s = .ok bytes) : bytes = [] := by
  cases hs : s.toList with
  | nil =>
      have hutf8 : utf8 s = [] := by rw [utf8, hs]; rfl
      simpa [hexDecode, hutf8, hexPairs] using hdecode.symm
  | cons c cs =>
      obtain ⟨b, rest, hc, hb⟩ :=
        hexValue_whitespace (isEmpty_trim_iff.mp h c (by rw [hs]; exact List.mem_cons_self))
      have hutf8 : utf8 s = b :: (rest ++ cs.flatMap String.utf8EncodeChar) := by
        rw [utf8, hs, List.flatMap_cons, hc, List.cons_append]
      rw [hexDecode, hutf8] at hdecode
      split_ifs at hdecode with hodd
      cases hrest : rest ++ cs.flatMap String.utf8EncodeChar with
      | nil => simp [hrest] at hodd
      | cons b' rest' => simp [hrest, hexPairs, hb] at hdecode

/-! ## Bounded text columns -/

/-- Storing `s` in a column of at most `n` characters: spaces beyond the limit are cut off,
anything else beyond it is refused. Texts are taken not to contain U+0000, which is refused in
every column and as the argument of every statement. -/
def varchar (n : ℕ) (s : String) : Option String :=
  if s.toList.length ≤ n then some s
  else if (s.toList.drop n).all (· == ' ') then some (String.ofList (s.toList.take n))
  else none

lemma varchar_of_le {n : ℕ} {s : String} (h : s.toList.length ≤ n) : varchar n s = some s := by
  simp [varchar, h]

end Text
