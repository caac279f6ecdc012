import Mathlib.Data.Nat.Digits.Lemmas

/-!
# Numbers, most significant digit first

* `value` — the number of a list of digits.  Lists of one length are ordered like their numbers
  (`value_cons_lt`).
* `ofBytes` — the number of bytes.
* `convert` — from one base to another, with as many leading zeros as before.  That is undone by
  the conversion back (`convert_convert`).
-/

namespace BigEndian

variable {b : ℕ}

/-! ## The value of digits -/

def value (b : ℕ) (digits : List ℕ) : ℕ := Nat.ofDigits b digits.reverse

@[simp] lemma value_nil : value b [] = 0 := rfl

lemma value_cons (d : ℕ) (ds : List ℕ) : value b (d :: ds) = d * b ^ ds.length + value b ds := by
  rw [value, Nat.ofDigits_reverse_cons, value, mul_comm, add_comm]

lemma value_lt (hb : 1 < b) {ds : List ℕ} (hds : ∀ d ∈ ds, d < b) :
    value b ds < b ^ ds.length := by
  have hlt := Nat.ofDigits_lt_base_pow_length hb (l := ds.reverse) (by simpa using hds)
  rwa [List.length_reverse] at hlt

/-- The first digit decides. -/
lemma value_cons_lt (hb : 1 < b) {d e : ℕ} {ds es : List ℕ} (hlength : ds.length = es.length)
    (hds : ∀ d ∈ ds, d < b) (h : d < e) : value b (d :: ds) < value b (e :: es) := by
  have hlt := value_lt hb hds
  rw [value_cons, value_cons, ← hlength]
  calc d * b ^ ds.length + value b ds < d * b ^ ds.length + b ^ ds.length := by omega
    _ = (d + 1) * b ^ ds.length := by ring
    _ ≤ e * b ^ ds.length := Nat.mul_le_mul_right _ h
    _ ≤ e * b ^ ds.length + value b es := Nat.le_add_right _ _

/-! ## Bytes -/

def ofBytes (bytes : List UInt8) : ℕ := value 256 (bytes.map UInt8.toNat)

lemma digits_lt (bytes : List UInt8) : ∀ d ∈ bytes.map UInt8.toNat, d < 256 := by
  intro d hd
  obtain ⟨a, -, rfl⟩ := List.mem_map.mp hd
  exact a.toNat_lt

@[simp] lemma ofBytes_nil : ofBytes [] = 0 := rfl

lemma ofBytes_cons (a : UInt8) (bytes : List UInt8) :
    ofBytes (a :: bytes) = a.toNat * 256 ^ bytes.length + ofBytes bytes := by
  rw [ofBytes, List.map_cons, value_cons, List.length_map]
  rfl

lemma ofBytes_lt (bytes : List UInt8) : ofBytes bytes < 256 ^ bytes.length := by
  have hlt := value_lt (by decide) (digits_lt bytes)
  rwa [List.length_map] at hlt

lemma ofBytes_cons_lt {a a' : UInt8} {bytes bytes' : List UInt8}
    (hlength : bytes.length = bytes'.length) (h : a < a') :
    ofBytes (a :: bytes) < ofBytes (a' :: bytes') :=
  value_cons_lt (by decide) (by simpa using hlength) (digits_lt bytes) (UInt8.lt_iff_toNat_lt.mp h)

/-- Zero is zero bytes. -/
lemma ofBytes_eq_zero {bytes : List UInt8} : ofBytes bytes = 0 ↔ ∀ a ∈ bytes, a = 0 := by
  induction bytes with
  | nil => simp
  | cons a bytes ih =>
      have hpow : 256 ^ bytes.length ≠ 0 := pow_ne_zero _ (by decide)
      rw [ofBytes_cons, Nat.add_eq_zero_iff, ih, Nat.mul_eq_zero, List.forall_mem_cons,
        or_iff_left hpow, ← UInt8.toNat_inj]
      rfl

lemma foldl_eq (bytes : List UInt8) (n : ℕ) :
    bytes.foldl (fun n a => n * 256 + a.toNat) n = n * 256 ^ bytes.length + ofBytes bytes := by
  induction bytes generalizing n with
  | nil => simp
  | cons a bytes ih =>
      rw [List.foldl_cons, ih, ofBytes_cons, List.length_cons]
      ring

/-! ## Another base -/

/-- The digits of a number after some zeros. -/
def ofValue (b zeros n : ℕ) : List ℕ := List.replicate zeros 0 ++ (Nat.digits b n).reverse

def leadingZeros (ds : List ℕ) : ℕ := (ds.takeWhile (· == 0)).length

/-- From the base `b` to the base `b'`. -/
def convert (b b' : ℕ) (ds : List ℕ) : List ℕ := ofValue b' (leadingZeros ds) (value b ds)

lemma lt_of_mem_ofValue (hb : 1 < b) {zeros n d : ℕ} (h : d ∈ ofValue b zeros n) : d < b := by
  rcases List.mem_append.mp h with h | h
  · rw [List.eq_of_mem_replicate h]
    omega
  · exact Nat.digits_lt_base hb (List.mem_reverse.mp h)

lemma value_ofValue (zeros n : ℕ) : value b (ofValue b zeros n) = n := by
  rw [value, ofValue, List.reverse_append, List.reverse_reverse, List.reverse_replicate,
    Nat.ofDigits_append_replicate_zero, Nat.ofDigits_digits]

/-- No number begins with a zero. -/
lemma head?_digits (b n : ℕ) : (Nat.digits b n).reverse.head? ≠ some 0 := by
  rw [List.head?_reverse]
  by_cases hn : n = 0
  · simp [hn]
  · rw [List.getLast?_eq_some_getLast (Nat.digits_ne_nil_iff_ne_zero.mpr hn)]
    exact fun h => Nat.getLast_digit_ne_zero b hn (Option.some.inj h)

lemma leadingZeros_append {zeros : ℕ} {ds : List ℕ} (h : ds.head? ≠ some 0) :
    leadingZeros (List.replicate zeros 0 ++ ds) = zeros := by
  induction zeros with
  | zero =>
      cases ds with
      | nil => rfl
      | cons d ds =>
          have hd : d ≠ 0 := fun hd => h (by rw [hd]; rfl)
          simp [leadingZeros, hd]
  | succ n ih =>
      rw [List.replicate_succ, List.cons_append]
      exact congrArg (· + 1) ih

lemma leadingZeros_ofValue (zeros n : ℕ) : leadingZeros (ofValue b zeros n) = zeros :=
  leadingZeros_append (head?_digits b n)

/-- Digits are determined by their number and by the zeros in front. -/
lemma ofValue_value (hb : 1 < b) {ds : List ℕ} (hds : ∀ d ∈ ds, d < b) :
    ofValue b (leadingZeros ds) (value b ds) = ds := by
  induction ds with
  | nil => simp [ofValue, leadingZeros]
  | cons d ds ih =>
      by_cases hd : d = 0
      · subst hd
        have hzeros : leadingZeros (0 :: ds) = leadingZeros ds + 1 := rfl
        have hvalue : value b (0 :: ds) = value b ds := by rw [value_cons]; omega
        rw [hzeros, hvalue, ofValue, List.replicate_succ, List.cons_append, ← ofValue,
          ih fun d hd => hds d (List.mem_cons_of_mem _ hd)]
      · have hzeros : leadingZeros (d :: ds) = 0 := by simp [leadingZeros, hd]
        rw [hzeros, ofValue, List.replicate_zero, List.nil_append, value,
          Nat.digits_ofDigits b hb (d :: ds).reverse (fun d' hd' => hds d' (List.mem_reverse.mp hd'))
            (by simpa using hd),
          List.reverse_reverse]

/-- **There and back**, from digits to the base `b`. -/
theorem convert_convert {b' : ℕ} (hb : 1 < b) {ds : List ℕ} (hds : ∀ d ∈ ds, d < b) :
    convert b' b (convert b b' ds) = ds := by
  rw [convert, convert, leadingZeros_ofValue, value_ofValue, ofValue_value hb hds]

end BigEndian
