import Vaulted.Library.Text

/-!
# Texts of IP addresses

What the standard library's `"…".parse::<IpAddr>()` accepts.  A reader takes the characters it
accepts from the front and returns the rest; where it fails, nothing has been read.

* `readNumber`, `readIpv4`, `readIpv6` — the readers.
* `isIpAddr` — a whole text is an address.
* `forall_isIpChar` — such a text has no other characters than digits, dots and colons.
-/

namespace IpAddr

/-- `char::to_digit`. -/
def toDigit (radix : Nat) (c : Char) : Option Nat :=
  let n := c.toNat
  let digit :=
    if 48 ≤ n ∧ n ≤ 57 then some (n - 48)
    else if 97 ≤ n ∧ n ≤ 102 then some (n - 87)
    else if 65 ≤ n ∧ n ≤ 70 then some (n - 55)
    else none
  digit.filter fun d => decide (d < radix)

def readChar (c : Char) : List Char → Option (List Char)
  | [] => none
  | c' :: cs => if c' = c then some cs else none

/-- As many digits as there are, at most `maxDigits`, that make a number below `bound`. -/
def readNumber (radix maxDigits bound : Nat) (allowZeroPrefix : Bool) (cs : List Char) :
    Option (List Char) :=
  let digits := cs.takeWhile fun c => (toDigit radix c).isSome
  let value := digits.foldl (fun n c => n * radix + (toDigit radix c).getD 0) 0
  if digits = [] ∨ maxDigits < digits.length ∨ bound ≤ value then none
  else if allowZeroPrefix = false ∧ digits.head? = some '0' ∧ 1 < digits.length then none
  else some (cs.drop digits.length)

/-- A part, after the separator unless it is the first one. -/
def readSeparated (sep : Char) (index : Nat) (inner : List Char → Option (List Char))
    (cs : List Char) : Option (List Char) :=
  if 0 < index then (readChar sep cs).bind inner else inner cs

def readOctet (index : Nat) (cs : List Char) : Option (List Char) :=
  readSeparated '.' index (readNumber 10 3 256 false) cs

def readIpv4 (cs : List Char) : Option (List Char) :=
  (((readOctet 0 cs).bind (readOctet 1)).bind (readOctet 2)).bind (readOctet 3)

/-- The groups between colons, up to `limit` of them: how many were read, whether the last two
were an IPv4 address, and the rest. -/
def readGroups (limit : Nat) : Nat → Nat → List Char → Nat × Bool × List Char
  | 0, i, cs => (i, false, cs)
  | n + 1, i, cs =>
      match if i < limit - 1 then readSeparated ':' i readIpv4 cs else none with
      | some rest => (i + 2, true, rest)
      | none =>
          match readSeparated ':' i (readNumber 16 4 65536 true) cs with
          | some rest => readGroups limit n (i + 1) rest
          | none => (i, false, cs)

def readIpv6 (cs : List Char) : Option (List Char) :=
  let (size, ipv4, rest) := readGroups 8 8 0 cs
  if size = 8 then some rest
  -- an IPv4 part is not allowed before `::`
  else if ipv4 = true then none
  else ((readChar ':' rest).bind (readChar ':')).map fun rest =>
    (readGroups (7 - size) (7 - size) 0 rest).2.2

def isIpAddr (s : String) : Bool :=
  match readIpv4 s.toList with
  | some rest => rest.isEmpty
  | none => readIpv6 s.toList == some []

example : ["127.0.0.1", "::1", "fe80::1:2", "::ffff:10.0.0.1", "1:2:3:4:5:6:7::"].all isIpAddr
    ∧ ["", "01.2.3.4", "1.2.3", "256.0.0.1", "1.2.3.4 ", ":::", "12345::", "1::2::3"].all
      fun s => !isIpAddr s := by decide +kernel

/-! ## The characters of an address -/

def isIpChar (c : Char) : Bool := (toDigit 16 c).isSome || c == '.' || c == ':'

/-- What has been read is of these characters. -/
def Reads (cs rest : List Char) : Prop := ∃ front, cs = front ++ rest ∧ front.all isIpChar = true

lemma Reads.refl (cs : List Char) : Reads cs cs := ⟨[], rfl, rfl⟩

lemma Reads.trans {cs cs' rest : List Char} (h : Reads cs cs') (h' : Reads cs' rest) :
    Reads cs rest := by
  obtain ⟨front, rfl, hfront⟩ := h
  obtain ⟨back, rfl, hback⟩ := h'
  exact ⟨front ++ back, (List.append_assoc ..).symm, by rw [List.all_append, hfront, hback]; rfl⟩

lemma reads_readChar {c : Char} (hc : isIpChar c = true) {cs rest : List Char}
    (h : readChar c cs = some rest) : Reads cs rest := by
  cases cs with
  | nil => cases h
  | cons c' cs =>
      rw [readChar] at h
      split_ifs at h with heq
      obtain rfl := Option.some.inj h
      exact ⟨[c'], rfl, by rw [heq, List.all_cons, hc]; rfl⟩

lemma isIpChar_of_digit {radix : Nat} (hradix : radix ≤ 16) {c : Char}
    (h : (toDigit radix c).isSome = true) : isIpChar c = true := by
  obtain ⟨d, hd⟩ := Option.isSome_iff_exists.mp h
  obtain ⟨hdigit, hlt⟩ := Option.filter_eq_some_iff.mp hd
  have h16 : toDigit 16 c = some d := by
    refine Option.filter_eq_some_iff.mpr ⟨hdigit, decide_eq_true ?_⟩
    exact Nat.lt_of_lt_of_le (of_decide_eq_true hlt) hradix
  rw [isIpChar, h16]
  rfl

lemma reads_readNumber {radix maxDigits bound : Nat} (hradix : radix ≤ 16)
    {allowZeroPrefix : Bool} {cs rest : List Char}
    (h : readNumber radix maxDigits bound allowZeroPrefix cs = some rest) : Reads cs rest := by
  rw [readNumber] at h
  split_ifs at h
  have hrest := Option.some.inj h
  refine ⟨cs.takeWhile fun c => (toDigit radix c).isSome, ?_, ?_⟩
  · rw [← hrest]
    exact List.prefix_iff_eq_append.mp (List.takeWhile_prefix _) |>.symm
  · exact List.all_eq_true.mpr fun c hc => isIpChar_of_digit hradix
      (List.mem_takeWhile_imp (p := fun c => (toDigit radix c).isSome) hc)

lemma reads_readSeparated {sep : Char} (hsep : isIpChar sep = true) {index : Nat}
    {inner : List Char → Option (List Char)}
    (hinner : ∀ {cs rest}, inner cs = some rest → Reads cs rest) {cs rest : List Char}
    (h : readSeparated sep index inner cs = some rest) : Reads cs rest := by
  rw [readSeparated] at h
  split_ifs at h
  · obtain ⟨mid, hmid, hrest⟩ := Option.bind_eq_some_iff.mp h
    exact (reads_readChar hsep hmid).trans (hinner hrest)
  · exact hinner h

lemma reads_readOctet {index : Nat} {cs rest : List Char} (h : readOctet index cs = some rest) :
    Reads cs rest :=
  reads_readSeparated (by decide) (reads_readNumber (by decide)) h

lemma reads_readIpv4 {cs rest : List Char} (h : readIpv4 cs = some rest) : Reads cs rest := by
  rw [readIpv4] at h
  obtain ⟨cs₃, h, h₃⟩ := Option.bind_eq_some_iff.mp h
  obtain ⟨cs₂, h, h₂⟩ := Option.bind_eq_some_iff.mp h
  obtain ⟨cs₁, h₀, h₁⟩ := Option.bind_eq_some_iff.mp h
  exact (((reads_readOctet h₀).trans (reads_readOctet h₁)).trans (reads_readOctet h₂)).trans
    (reads_readOctet h₃)

lemma reads_readGroups (limit n i : Nat) (cs : List Char) :
    Reads cs (readGroups limit n i cs).2.2 := by
  induction n generalizing i cs with
  | zero => exact .refl cs
  | succ n ih =>
      rw [readGroups]
      split
      · next rest hrest =>
          split_ifs at hrest
          exact reads_readSeparated (by decide) reads_readIpv4 hrest
      · split
        · next rest hrest =>
            exact (reads_readSeparated (by decide) (reads_readNumber (by decide)) hrest).trans
              (ih (i + 1) rest)
        · exact .refl cs

lemma reads_readIpv6 {cs rest : List Char} (h : readIpv6 cs = some rest) : Reads cs rest := by
  rw [readIpv6] at h
  have hhead := reads_readGroups 8 8 0 cs
  generalize readGroups 8 8 0 cs = groups at h hhead
  obtain ⟨size, ipv4, mid⟩ := groups
  dsimp only at h hhead
  split_ifs at h
  · exact Option.some.inj h ▸ hhead
  · obtain ⟨tail, htail, rfl⟩ := Option.map_eq_some_iff.mp h
    obtain ⟨mid', hmid, htail⟩ := Option.bind_eq_some_iff.mp htail
    exact ((hhead.trans (reads_readChar (by decide) hmid)).trans
      (reads_readChar (by decide) htail)).trans (reads_readGroups _ _ 0 tail)

/-- **An address has only digits, dots and colons.** -/
theorem forall_isIpChar {s : String} (h : isIpAddr s = true) : ∀ c ∈ s.toList, isIpChar c = true := by
  have hreads : Reads s.toList [] := by
    rw [isIpAddr] at h
    split at h
    · next rest hrest => exact List.isEmpty_iff.mp h ▸ reads_readIpv4 hrest
    · exact reads_readIpv6 (beq_iff_eq.mp h)
  obtain ⟨front, heq, hall⟩ := hreads
  rw [heq, List.append_nil]
  exact List.all_eq_true.mp hall

end IpAddr
