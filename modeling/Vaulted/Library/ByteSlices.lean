import Mathlib.Tactic.SplitIfs
import Vaulted.Library.Text

/-!
# Strings by byte offsets

What the standard library does with a byte offset of a string: it has to fall between two
characters, or the program panics.

* `byteLen` — the length of characters in bytes.
* `splitAtByte` — the characters before an offset and those from it on; `none` is a panic.
* `slice`, `truncate` — `&s[i..j]` and `String::truncate`.
* `stripPrefix` — `str::strip_prefix`, which cuts where a prefix ends.
* `splitAtByte_eq_some`, `splitAtByte_eq_none` — an offset splits a string in at most one way, and
  in none if it is within a character.
-/

namespace Text

def byteLen : List Char → ℕ
  | [] => 0
  | c :: cs => c.utf8Size + byteLen cs

def splitAtByte : List Char → ℕ → Option (List Char × List Char)
  | cs, 0 => some ([], cs)
  | [], _ + 1 => none
  | c :: cs, n + 1 =>
      if n + 1 < c.utf8Size then none
      else (splitAtByte cs (n + 1 - c.utf8Size)).map fun p => (c :: p.1, p.2)

/-- `&s[i..j]`. -/
def slice (s : String) (i j : ℕ) : Option String :=
  (splitAtByte s.toList j).bind fun p => (splitAtByte p.1 i).map fun q => String.ofList q.2

/-- `String::truncate`, which leaves a shorter string as it is. -/
def truncate (s : String) (n : ℕ) : Option String :=
  if n ≤ len s then (splitAtByte s.toList n).map fun p => String.ofList p.1
  else some s

/-- `str::strip_prefix`. -/
def stripPrefix (s p : String) : Option String :=
  if startsWith s p then some (String.ofList (s.toList.drop p.toList.length)) else none

lemma stripPrefix_append (p s : String) : stripPrefix (p ++ s) p = some s := by
  have hpre : startsWith (p ++ s) p = true := by simp [startsWith]
  rw [stripPrefix, if_pos hpre, String.toList_append, List.drop_left, String.ofList_toList]

@[simp] lemma byteLen_nil : byteLen [] = 0 := rfl

@[simp] lemma byteLen_cons (c : Char) (cs : List Char) :
    byteLen (c :: cs) = c.utf8Size + byteLen cs := rfl

@[simp] lemma byteLen_append (cs ds : List Char) :
    byteLen (cs ++ ds) = byteLen cs + byteLen ds := by
  induction cs with
  | nil => simp
  | cons c cs ih => rw [List.cons_append, byteLen_cons, byteLen_cons, ih, Nat.add_assoc]

lemma len_eq_byteLen (s : String) : len s = byteLen s.toList := by
  rw [len, utf8]
  induction s.toList with
  | nil => rfl
  | cons c cs ih =>
      rw [List.flatMap_cons, List.length_append, ih, String.length_utf8EncodeChar, byteLen_cons]

lemma len_ofList (cs : List Char) : len (String.ofList cs) = byteLen cs := by
  rw [len_eq_byteLen, String.toList_ofList]

lemma byteLen_eq_zero {cs : List Char} (h : byteLen cs = 0) : cs = [] := by
  cases cs with
  | nil => rfl
  | cons c cs =>
      have hpos := c.utf8Size_pos
      rw [byteLen_cons] at h
      omega

lemma splitAtByte_append (front back : List Char) :
    splitAtByte (front ++ back) (byteLen front) = some (front, back) := by
  induction front with
  | nil =>
      rw [List.nil_append, byteLen_nil, splitAtByte]
  | cons c front ih =>
      have hpos := c.utf8Size_pos
      obtain ⟨n, hn⟩ : ∃ n, c.utf8Size + byteLen front = n + 1 :=
        ⟨c.utf8Size + byteLen front - 1, by omega⟩
      have hrest : n + 1 - c.utf8Size = byteLen front := by omega
      rw [List.cons_append, byteLen_cons, hn, splitAtByte, if_neg (by omega), hrest, ih]
      rfl

/-- **An offset splits a string in at most one way.** -/
theorem splitAtByte_eq_some {cs front back : List Char} {n : ℕ} :
    splitAtByte cs n = some (front, back) ↔ cs = front ++ back ∧ byteLen front = n := by
  constructor
  · intro h
    induction cs generalizing front n with
    | nil =>
        cases n with
        | zero =>
            obtain ⟨rfl, rfl⟩ := Prod.mk.inj (Option.some.inj h)
            exact ⟨rfl, rfl⟩
        | succ n => cases h
    | cons c cs ih =>
        cases n with
        | zero =>
            obtain ⟨rfl, rfl⟩ := Prod.mk.inj (Option.some.inj h)
            exact ⟨rfl, rfl⟩
        | succ n =>
            rw [splitAtByte] at h
            split_ifs at h with hcut
            obtain ⟨⟨front', back'⟩, hrest, heq⟩ := Option.map_eq_some_iff.mp h
            obtain ⟨rfl, rfl⟩ := Prod.mk.inj heq
            obtain ⟨rfl, hlen⟩ := ih hrest
            refine ⟨rfl, ?_⟩
            rw [byteLen_cons, hlen]
            omega
  · rintro ⟨rfl, rfl⟩
    exact splitAtByte_append front back

/-- A slice from between two characters on. -/
lemma slice_of_split {s : String} {front rest : List Char} (h : s.toList = front ++ rest) (n : ℕ) :
    slice s (byteLen front) (byteLen front + n)
      = (splitAtByte rest n).map fun p => String.ofList p.1 := by
  rw [slice, h]
  cases hrest : splitAtByte rest n with
  | some p =>
      obtain ⟨part, back⟩ := p
      obtain ⟨rfl, rfl⟩ := splitAtByte_eq_some.mp hrest
      have hsplit : splitAtByte (front ++ (part ++ back)) (byteLen front + byteLen part)
          = some (front ++ part, back) :=
        splitAtByte_eq_some.mpr ⟨(List.append_assoc ..).symm, byteLen_append ..⟩
      rw [hsplit, Option.bind_some, splitAtByte_append, Option.map_some, Option.map_some]
  | none =>
      rw [Option.map_none, Option.bind_eq_none_iff]
      rintro ⟨whole, back⟩ hsplit
      obtain ⟨hwhole, hlen⟩ := splitAtByte_eq_some.mp hsplit
      rw [Option.map_eq_none_iff, Option.eq_none_iff_forall_ne_some]
      rintro ⟨front', part⟩ hpart
      obtain ⟨rfl, hfront⟩ := splitAtByte_eq_some.mp hpart
      rw [List.append_assoc] at hwhole
      -- both fronts have the same length in bytes
      have hboth := splitAtByte_append front' (part ++ back)
      rw [← hwhole, hfront, splitAtByte_append front rest] at hboth
      obtain ⟨-, rfl⟩ := Prod.mk.inj (Option.some.inj hboth)
      rw [byteLen_append, hfront] at hlen
      have hcut : splitAtByte (part ++ back) n = some (part, back) :=
        splitAtByte_eq_some.mpr ⟨rfl, by omega⟩
      rw [hcut] at hrest
      cases hrest

/-- **An offset that splits no string** is beyond its end, or within a character. -/
theorem splitAtByte_eq_none {cs : List Char} {n : ℕ} : splitAtByte cs n = none ↔
    byteLen cs < n ∨ ∃ front c back, cs = front ++ c :: back ∧ byteLen front < n
      ∧ n < byteLen front + c.utf8Size := by
  induction cs generalizing n with
  | nil =>
      cases n with
      | zero => simp [splitAtByte]
      | succ n => simp [splitAtByte]
  | cons c cs ih =>
      cases n with
      | zero => simp [splitAtByte]
      | succ n =>
          rw [splitAtByte]
          split_ifs with hcut
          · exact iff_of_true rfl (.inr ⟨[], c, cs, rfl, Nat.succ_pos n, by simpa using hcut⟩)
          · rw [Option.map_eq_none_iff, ih, byteLen_cons]
            constructor
            · rintro (hlen | ⟨front, d, back, rfl, hlt, hgt⟩)
              · exact .inl (by omega)
              · exact .inr ⟨c :: front, d, back, rfl, by rw [byteLen_cons]; omega,
                  by rw [byteLen_cons]; omega⟩
            · rintro (hlen | ⟨front, d, back, heq, hlt, hgt⟩)
              · exact .inl (by omega)
              · cases front with
                | nil =>
                    obtain ⟨rfl, rfl⟩ := List.cons.inj heq
                    rw [byteLen_nil] at hgt
                    omega
                | cons e front =>
                    obtain ⟨rfl, rfl⟩ := List.cons.inj heq
                    rw [byteLen_cons] at hlt hgt
                    exact .inr ⟨front, d, back, rfl, by omega, by omega⟩

/-- Of two beginnings of a text, the shorter one begins the other. -/
lemma prefix_of_byteLen_le {cs front front' : List Char} (h : front <+: cs) (h' : front' <+: cs)
    (hlen : byteLen front ≤ byteLen front') : front <+: front' := by
  rcases List.prefix_or_prefix_of_prefix h h' with hpre | hpre
  · exact hpre
  · obtain ⟨rest, rfl⟩ := hpre
    rw [byteLen_append] at hlen
    rw [byteLen_eq_zero (show byteLen rest = 0 by omega), List.append_nil]

end Text
