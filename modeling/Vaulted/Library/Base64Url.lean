import Vaulted.Library.Base64
import Mathlib.Data.List.Basic

/-!
# URL-safe base64

The alphabet with `-` and `_`, and no padding, as it stands in tokens and URLs.

* `UrlCodec` — such a codec as a parameter; `Lawful` is what it promises.
* `encodeUrl`, `decodeUrl` — the codec computed, from the padded one of the standard alphabet.  A
  text is decoded only if it is what its bytes encode to: no padding, and no stray bits at the end.
* `urlSafe_lawful` — it keeps the promise.
-/

structure UrlCodec where
  encode : List UInt8 → String
  decode : String → Except String (List UInt8)

/-- Decoding undoes encoding, and no text contains the separator of a token. -/
structure UrlCodec.Lawful (c : UrlCodec) : Prop where
  decode_encode : ∀ bytes, c.decode (c.encode bytes) = .ok bytes
  noDot : ∀ bytes, '.' ∉ (c.encode bytes).toList

namespace Base64

def toUrl (c : Char) : Char := if c = '+' then '-' else if c = '/' then '_' else c

def ofUrl (c : Char) : Option Char :=
  if c = '-' then some '+'
  else if c = '_' then some '/'
  else if c = '+' ∨ c = '/' ∨ c = '=' then none
  else some c

/-- Without its padding. -/
def strip (cs : List Char) : List Char := cs.filter (· ≠ '=')

/-- Padded to groups of four. -/
def pad (cs : List Char) : List Char := cs ++ List.replicate ((4 - cs.length % 4) % 4) '='

def encodeUrl (bytes : List UInt8) : List Char := (strip (encode bytes)).map toUrl

def decodeUrl (cs : List Char) : Option (List UInt8) := do
  let digits ← cs.mapM ofUrl
  let bytes ← decode (pad digits)
  if encodeUrl bytes = cs then some bytes else none

/-- The characters of a text. -/
def IsUrlDigit (c : Char) : Prop := ∃ n < 64, c = toUrl (digit n)

/-- A codec whose texts need no escape in a URL. -/
def Alphabet (c : UrlCodec) : Prop := ∀ bytes, ∀ ch ∈ (c.encode bytes).toList, IsUrlDigit ch

/-! ## The round trip -/

lemma ofUrl_toUrl {n : ℕ} (h : n < 64) : ofUrl (toUrl (digit n)) = some (digit n) :=
  (by decide : ∀ n < 64, ofUrl (toUrl (digit n)) = some (digit n)) n h

lemma toUrl_ne_dot {n : ℕ} (h : n < 64) : toUrl (digit n) ≠ '.' :=
  (by decide : ∀ n < 64, toUrl (digit n) ≠ '.') n h

/-- A text consists of digits and padding. -/
lemma digit_of_mem_strip {bytes : List UInt8} {c : Char} (h : c ∈ strip (encode bytes)) :
    ∃ n < 64, c = digit n := by
  obtain ⟨hmem, hpad⟩ := List.mem_filter.mp h
  have hpad : c ≠ '=' := of_decide_eq_true hpad
  clear h
  fun_induction encode bytes with
  | case1 => cases hmem
  | case2 a n =>
      have ha := a.toNat_lt
      simp only [List.mem_cons, List.not_mem_nil, or_false] at hmem
      rcases hmem with h | h | h | h
      · exact ⟨_, by omega, h⟩
      · exact ⟨_, by omega, h⟩
      · exact absurd h hpad
      · exact absurd h hpad
  | case3 a b n =>
      have ha := a.toNat_lt
      have hb := b.toNat_lt
      simp only [List.mem_cons, List.not_mem_nil, or_false] at hmem
      rcases hmem with h | h | h | h
      · exact ⟨_, by omega, h⟩
      · exact ⟨_, by omega, h⟩
      · exact ⟨_, by omega, h⟩
      · exact absurd h hpad
  | case4 a b c' rest n ih =>
      have ha := a.toNat_lt
      have hb := b.toNat_lt
      have hc := c'.toNat_lt
      simp only [List.mem_cons] at hmem
      rcases hmem with h | h | h | h | h
      · exact ⟨_, by omega, h⟩
      · exact ⟨_, by omega, h⟩
      · exact ⟨_, by omega, h⟩
      · exact ⟨_, by omega, h⟩
      · exact ih h

lemma strip_cons {c : Char} (h : c ≠ '=') (cs : List Char) : strip (c :: cs) = c :: strip cs := by
  rw [strip, List.filter_cons_of_pos (by simpa using h)]
  rfl

lemma pad_group (w x y z : Char) (cs : List Char) :
    pad (w :: x :: y :: z :: cs) = w :: x :: y :: z :: pad cs := by
  have hlength : (w :: x :: y :: z :: cs).length % 4 = cs.length % 4 := by
    simp only [List.length_cons]
    omega
  rw [pad, pad, hlength]
  rfl

/-- The padding can be told from the length. -/
lemma pad_strip (bytes : List UInt8) : pad (strip (encode bytes)) = encode bytes := by
  fun_induction encode bytes with
  | case1 => rfl
  | case2 a n =>
      have ha := a.toNat_lt
      rw [strip_cons (digit_ne_pad (by omega)), strip_cons (digit_ne_pad (by omega))]
      rfl
  | case3 a b n =>
      have ha := a.toNat_lt
      have hb := b.toNat_lt
      rw [strip_cons (digit_ne_pad (by omega)), strip_cons (digit_ne_pad (by omega)),
        strip_cons (digit_ne_pad (by omega))]
      rfl
  | case4 a b c rest n ih =>
      have ha := a.toNat_lt
      have hb := b.toNat_lt
      have hc := c.toNat_lt
      rw [strip_cons (digit_ne_pad (by omega)), strip_cons (digit_ne_pad (by omega)),
        strip_cons (digit_ne_pad (by omega)), strip_cons (digit_ne_pad (by omega)), pad_group, ih]

lemma mapM_ofUrl {cs : List Char} (h : ∀ c ∈ cs, ∃ n < 64, c = digit n) :
    (cs.map toUrl).mapM ofUrl = some cs := by
  induction cs with
  | nil => rfl
  | cons c cs ih =>
      obtain ⟨n, hn, rfl⟩ := h c List.mem_cons_self
      rw [List.map_cons, List.mapM_cons, ofUrl_toUrl hn,
        ih fun c hc => h c (List.mem_cons_of_mem _ hc)]
      rfl

theorem decodeUrl_encodeUrl (bytes : List UInt8) : decodeUrl (encodeUrl bytes) = some bytes := by
  have hdigits : (encodeUrl bytes).mapM ofUrl = some (strip (encode bytes)) :=
    mapM_ofUrl fun c => digit_of_mem_strip
  rw [decodeUrl, hdigits]
  simp only [Option.bind_eq_bind, Option.bind_some, pad_strip, decode_encode, if_true]

theorem isUrlDigit_of_mem_encodeUrl {bytes : List UInt8} {c : Char} (h : c ∈ encodeUrl bytes) :
    IsUrlDigit c := by
  obtain ⟨d, hd, rfl⟩ := List.mem_map.mp h
  obtain ⟨n, hn, rfl⟩ := digit_of_mem_strip hd
  exact ⟨n, hn, rfl⟩

def urlSafe : UrlCodec where
  encode bytes := String.ofList (encodeUrl bytes)
  decode s := (decodeUrl s.toList).elim (.error "Invalid symbol or padding") .ok

theorem dot_not_mem_encodeUrl (bytes : List UInt8) : '.' ∉ encodeUrl bytes := by
  intro h
  obtain ⟨n, hn, hdot⟩ := isUrlDigit_of_mem_encodeUrl h
  exact toUrl_ne_dot hn hdot.symm

theorem urlSafe_lawful : urlSafe.Lawful where
  decode_encode bytes := by simp [urlSafe, decodeUrl_encodeUrl]
  noDot bytes := by simpa [urlSafe] using dot_not_mem_encodeUrl bytes

lemma urlSafe_alphabet : Alphabet urlSafe := fun _ _ h =>
  isUrlDigit_of_mem_encodeUrl (by simpa [urlSafe] using h)

end Base64
