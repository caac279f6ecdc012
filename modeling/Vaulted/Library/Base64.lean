import Mathlib.Data.List.Basic
import Mathlib.Data.Nat.Notation

/-!
# Base64

The standard alphabet, with padding: `encode` and `decode` on characters, the round trip
`decode_encode`, and how long a text is (`length_of_decode`).  Three bytes are one number below
`2 ^ 24`, read as four digits to base 64; the two short groups at the end are its leading digits.
-/

namespace Base64

/-- The digit of a value below 64. -/
def digit (n : ℕ) : Char :=
  if n < 26 then Char.ofNat (65 + n)
  else if n < 52 then Char.ofNat (97 + (n - 26))
  else if n < 62 then Char.ofNat (48 + (n - 52))
  else if n = 62 then '+'
  else '/'

/-- The value of a digit. -/
def value (c : Char) : Option ℕ :=
  let n := c.toNat
  if 65 ≤ n ∧ n ≤ 90 then some (n - 65)
  else if 97 ≤ n ∧ n ≤ 122 then some (n - 97 + 26)
  else if 48 ≤ n ∧ n ≤ 57 then some (n - 48 + 52)
  else if n = 43 then some 62
  else if n = 47 then some 63
  else none

lemma value_digit {n : ℕ} (h : n < 64) : value (digit n) = some n :=
  (by decide : ∀ n < 64, value (digit n) = some n) n h

lemma digit_ne_pad {n : ℕ} (h : n < 64) : digit n ≠ '=' :=
  (by decide : ∀ n < 64, digit n ≠ '=') n h

/-- Bytes to base64 characters. -/
def encode : List UInt8 → List Char
  | [] => []
  | [a] =>
      let n := a.toNat * 65536
      [digit (n / 262144), digit (n / 4096 % 64), '=', '=']
  | [a, b] =>
      let n := a.toNat * 65536 + b.toNat * 256
      [digit (n / 262144), digit (n / 4096 % 64), digit (n / 64 % 64), '=']
  | a :: b :: c :: rest =>
      let n := a.toNat * 65536 + b.toNat * 256 + c.toNat
      digit (n / 262144) :: digit (n / 4096 % 64) :: digit (n / 64 % 64) :: digit (n % 64)
        :: encode rest

/-- Base64 characters to bytes. -/
def decode : List Char → Option (List UInt8)
  | [] => some []
  | w :: x :: y :: z :: rest =>
      if z = '=' then
        if rest ≠ [] then none
        else if y = '=' then do
          let n := (← value w) * 262144 + (← value x) * 4096
          some [UInt8.ofNat (n / 65536)]
        else do
          let n := (← value w) * 262144 + (← value x) * 4096 + (← value y) * 64
          some [UInt8.ofNat (n / 65536), UInt8.ofNat (n / 256)]
      else do
        let n := (← value w) * 262144 + (← value x) * 4096 + (← value y) * 64 + (← value z)
        let bytes ← decode rest
        some (UInt8.ofNat (n / 65536) :: UInt8.ofNat (n / 256) :: UInt8.ofNat n :: bytes)
  | _ => none

lemma ofNat_eq {n : ℕ} {b : UInt8} (h : n % 256 = b.toNat) : UInt8.ofNat n = b := by
  apply UInt8.toNat_inj.mp
  rw [UInt8.toNat_ofNat']
  exact h

theorem decode_encode (bytes : List UInt8) : decode (encode bytes) = some bytes := by
  fun_induction encode bytes with
  | case1 => rfl
  | case2 a n =>
      have ha := a.toNat_lt
      have h₁ : n / 262144 < 64 := by omega
      have h₂ : n / 4096 % 64 < 64 := by omega
      simp only [decode, if_true, value_digit h₁, value_digit h₂]
      simp only [ne_eq, not_true_eq_false, if_false, Option.bind_eq_bind, Option.bind_some,
        Option.some.injEq, List.cons.injEq, and_true]
      exact ofNat_eq (by omega)
  | case3 a b n =>
      have ha := a.toNat_lt
      have hb := b.toNat_lt
      have h₁ : n / 262144 < 64 := by omega
      have h₂ : n / 4096 % 64 < 64 := by omega
      have h₃ : n / 64 % 64 < 64 := by omega
      simp only [decode, if_true, digit_ne_pad h₃, value_digit h₁, value_digit h₂, value_digit h₃]
      simp only [ne_eq, not_true_eq_false, if_false, Option.bind_eq_bind, Option.bind_some,
        Option.some.injEq, List.cons.injEq, and_true]
      exact ⟨ofNat_eq (by omega), ofNat_eq (by omega)⟩
  | case4 a b c rest n ih =>
      have ha := a.toNat_lt
      have hb := b.toNat_lt
      have hc := c.toNat_lt
      have h₁ : n / 262144 < 64 := by omega
      have h₂ : n / 4096 % 64 < 64 := by omega
      have h₃ : n / 64 % 64 < 64 := by omega
      have h₄ : n % 64 < 64 := by omega
      simp only [decode, digit_ne_pad h₄, if_false, value_digit h₁, value_digit h₂,
        value_digit h₃, value_digit h₄, ih]
      simp only [Option.bind_eq_bind, Option.bind_some, Option.some.injEq, List.cons.injEq,
        and_true]
      exact ⟨ofNat_eq (by omega), ofNat_eq (by omega), ofNat_eq (by omega)⟩

/-- Every group of three bytes takes four characters. -/
lemma length_of_decode {cs : List Char} {bytes : List UInt8} (h : decode cs = some bytes) :
    cs.length = 4 * ((bytes.length + 2) / 3) := by
  fun_induction decode cs generalizing bytes with
  | case1 =>
      obtain rfl := Option.some.inj h
      rfl
  | case2 => cases h
  | case3 w x rest hrest =>
      obtain rfl : rest = [] := not_not.mp hrest
      obtain ⟨_, -, h⟩ := Option.bind_eq_some_iff.mp h
      obtain ⟨_, -, h⟩ := Option.bind_eq_some_iff.mp h
      obtain rfl := Option.some.inj h
      simp only [List.length_cons, List.length_nil]
  | case4 w x y rest hrest _ =>
      obtain rfl : rest = [] := not_not.mp hrest
      obtain ⟨_, -, h⟩ := Option.bind_eq_some_iff.mp h
      obtain ⟨_, -, h⟩ := Option.bind_eq_some_iff.mp h
      obtain ⟨_, -, h⟩ := Option.bind_eq_some_iff.mp h
      obtain rfl := Option.some.inj h
      simp only [List.length_cons, List.length_nil]
  | case5 w x y z rest _ ih =>
      obtain ⟨_, -, h⟩ := Option.bind_eq_some_iff.mp h
      obtain ⟨_, -, h⟩ := Option.bind_eq_some_iff.mp h
      obtain ⟨_, -, h⟩ := Option.bind_eq_some_iff.mp h
      obtain ⟨_, -, h⟩ := Option.bind_eq_some_iff.mp h
      obtain ⟨bytes', hrest, h⟩ := Option.bind_eq_some_iff.mp h
      obtain rfl := Option.some.inj h
      simp only [List.length_cons, ih hrest]
      omega
  | case6 => cases h

lemma length_encode (bytes : List UInt8) :
    (encode bytes).length = 4 * ((bytes.length + 2) / 3) :=
  length_of_decode (decode_encode bytes)

end Base64
