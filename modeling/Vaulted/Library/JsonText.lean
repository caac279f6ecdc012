import Vaulted.Library.Base64
import Vaulted.Library.TextCodec

/-!
# The compact text of JSON

`print` writes a value without white space, members in order, strings with the short escapes;
`parse` reads that text back (`parse_print`).  With `Base64` this is a `TextCodec` that keeps
its promises (`compact_lawful`).
-/

namespace JsonText

open Json

/-! ## Numbers -/

def decimalDigit (n : Nat) : Char := Char.ofNat (48 + n)

/-- Decimal digits of a number below `10 ^ fuel`. -/
def decimal : Nat → Nat → List Char
  | 0, _ => []
  | fuel + 1, n =>
      if n < 10 then [decimalDigit n] else decimal fuel (n / 10) ++ [decimalDigit (n % 10)]

def isDigit (c : Char) : Bool := 48 ≤ c.toNat && c.toNat ≤ 57

def ofDecimal (cs : List Char) : Nat := cs.foldl (fun n c => 10 * n + (c.toNat - 48)) 0

lemma toNat_decimalDigit {n : Nat} (h : n < 10) : (decimalDigit n).toNat = 48 + n :=
  (by decide : ∀ n < 10, (decimalDigit n).toNat = 48 + n) n h

lemma isDigit_decimalDigit {n : Nat} (h : n < 10) : isDigit (decimalDigit n) = true :=
  (by decide : ∀ n < 10, isDigit (decimalDigit n) = true) n h

lemma isDigit_of_mem_decimal {fuel n : Nat} {c : Char} (h : c ∈ decimal fuel n) :
    isDigit c = true := by
  induction fuel generalizing n with
  | zero => simp [decimal] at h
  | succ fuel ih =>
      unfold decimal at h
      split_ifs at h with hn
      · rw [List.mem_singleton.mp h]; exact isDigit_decimalDigit hn
      · rcases List.mem_append.mp h with h | h
        · exact ih h
        · rw [List.mem_singleton.mp h]; exact isDigit_decimalDigit (Nat.mod_lt _ (by decide))

lemma ofDecimal_decimal {fuel n : Nat} (h : n < 10 ^ fuel) : ofDecimal (decimal fuel n) = n := by
  induction fuel generalizing n with
  | zero => simp at h; subst h; rfl
  | succ fuel ih =>
      unfold decimal
      split_ifs with hn
      · simp [ofDecimal, toNat_decimalDigit hn]
      · have hdiv : n / 10 < 10 ^ fuel := by rw [Nat.pow_succ] at h; omega
        have hlast := toNat_decimalDigit (Nat.mod_lt n (show 0 < 10 by decide))
        have hinit := ih hdiv
        simp only [ofDecimal, List.foldl_append, List.foldl_cons, List.foldl_nil] at hinit ⊢
        rw [hinit, hlast]
        omega

lemma decimal_ne_nil (fuel n : Nat) : decimal (fuel + 1) n ≠ [] := by
  unfold decimal
  split_ifs <;> simp

/-! ## Strings -/

/-- A character inside a string literal. -/
def escape (c : Char) : List Char :=
  if c = '"' then ['\\', '"']
  else if c = '\\' then ['\\', '\\']
  else if c.toNat < 32 then
    if c = '\n' then ['\\', 'n']
    else if c = '\t' then ['\\', 't']
    else if c = '\r' then ['\\', 'r']
    else if c.toNat = 8 then ['\\', 'b']
    else if c.toNat = 12 then ['\\', 'f']
    else ['\\', 'u', '0', '0', Text.hexDigit (c.toNat / 16), Text.hexDigit (c.toNat % 16)]
  else [c]

def unescape : Char → Option Char
  | '"' => some '"'
  | '\\' => some '\\'
  | 'n' => some '\n'
  | 't' => some '\t'
  | 'r' => some '\r'
  | 'b' => some (Char.ofNat 8)
  | 'f' => some (Char.ofNat 12)
  | _ => none

def hexNibble (c : Char) : Option Nat := (Text.hexValue (UInt8.ofNat c.toNat)).map UInt8.toNat

/-- The rest of a string literal, up to its closing quote. -/
def parseString : List Char → Option (List Char × List Char)
  | [] => none
  | c :: cs =>
      if c = '"' then some ([], cs)
      else if c = '\\' then
        match cs with
        | 'u' :: '0' :: '0' :: hi :: lo :: rest => do
            let n := 16 * (← hexNibble hi) + (← hexNibble lo)
            let (s, rest) ← parseString rest
            some (Char.ofNat n :: s, rest)
        | e :: rest => do
            let c ← unescape e
            let (s, rest) ← parseString rest
            some (c :: s, rest)
        | [] => none
      else do
        let (s, rest) ← parseString cs
        some (c :: s, rest)

lemma parseString_quote (rest : List Char) : parseString ('"' :: rest) = some ([], rest) := by
  rw [parseString.eq_def]
  simp

lemma parseString_plain {c : Char} {rest : List Char} (hquote : c ≠ '"') (hback : c ≠ '\\') :
    parseString (c :: rest) = (parseString rest).map fun p => (c :: p.1, p.2) := by
  rw [parseString.eq_def]
  simp only [hquote, hback, if_false]
  cases parseString rest <;> rfl

lemma parseString_escape (c : Char) (rest : List Char) :
    parseString (escape c ++ rest) = (parseString rest).map fun p => (c :: p.1, p.2) := by
  have hmap : ∀ (d : Char) (o : Option (List Char × List Char)),
      (do let (s, rest) ← o; some (d :: s, rest)) = o.map fun p => (d :: p.1, p.2) := by
    intro d o; cases o <;> rfl
  unfold escape
  split_ifs with hquote hback hctl hn ht hr hb hf
  · subst hquote; simp [parseString, unescape, hmap]
  · subst hback; simp [parseString, unescape, hmap]
  · subst hn; simp [parseString, unescape, hmap]
  · subst ht; simp [parseString, unescape, hmap]
  · subst hr; simp [parseString, unescape, hmap]
  · have hc : c = Char.ofNat 8 := by rw [← hb, Char.ofNat_toNat]
    subst hc; simp [parseString, unescape, hmap]
  · have hc : c = Char.ofNat 12 := by rw [← hf, Char.ofNat_toNat]
    subst hc; simp [parseString, unescape, hmap]
  · have hnib : ∀ n < 16, hexNibble (Text.hexDigit n) = some n := by decide
    have hc : Char.ofNat (16 * (c.toNat / 16) + c.toNat % 16) = c := by
      rw [Nat.div_add_mod, Char.ofNat_toNat]
    simp [parseString, hnib (c.toNat / 16) (by omega), hnib (c.toNat % 16) (by omega), hmap, hc]
  · exact parseString_plain hquote hback

lemma parseString_flatMap (cs rest : List Char) :
    parseString (cs.flatMap escape ++ '"' :: rest) = some (cs, rest) := by
  induction cs with
  | nil => exact parseString_quote rest
  | cons c cs ih =>
      rw [List.flatMap_cons, List.append_assoc, parseString_escape, ih]
      rfl

/-! ## Values -/

def printString (s : String) : List Char := '"' :: s.toList.flatMap escape ++ ['"']

mutual

def print : Json → List Char
  | .Null => "null".toList
  | .Boolean true => "true".toList
  | .Boolean false => "false".toList
  | .Num (.Nat n) => decimal 20 n
  | .Num (.Neg n) => '-' :: decimal 20 n
  | .Num (.Float text) => text.toList
  | .Str s => printString s
  | .Arr items => '[' :: printItems items
  | .Obj members => '{' :: printMembers members

def printItems : List Json → List Char
  | [] => [']']
  | [j] => print j ++ [']']
  | j :: js => print j ++ ',' :: printItems js

def printMembers : List (String × Json) → List Char
  | [] => ['}']
  | [(k, j)] => printString k ++ ':' :: print j ++ ['}']
  | (k, j) :: ms => printString k ++ ':' :: print j ++ ',' :: printMembers ms

end

mutual

def parseValue : Nat → List Char → Option (Json × List Char)
  | 0, _ => none
  | _ + 1, 'n' :: 'u' :: 'l' :: 'l' :: rest => some (.Null, rest)
  | _ + 1, 't' :: 'r' :: 'u' :: 'e' :: rest => some (.Boolean true, rest)
  | _ + 1, 'f' :: 'a' :: 'l' :: 's' :: 'e' :: rest => some (.Boolean false, rest)
  | _ + 1, '"' :: rest => (parseString rest).map fun p => (.Str (String.ofList p.1), p.2)
  | _ + 1, '[' :: ']' :: rest => some (.Arr [], rest)
  | fuel + 1, '[' :: rest => (parseItems fuel rest).map fun p => (.Arr p.1, p.2)
  | _ + 1, '{' :: '}' :: rest => some (.Obj [], rest)
  | fuel + 1, '{' :: rest => (parseMembers fuel rest).map fun p => (.Obj p.1, p.2)
  | _ + 1, '-' :: cs =>
      if (cs.takeWhile isDigit).isEmpty then none
      else some (.Num (.Neg (ofDecimal (cs.takeWhile isDigit))), cs.dropWhile isDigit)
  | _ + 1, cs =>
      if (cs.takeWhile isDigit).isEmpty then none
      else some (.Num (.Nat (ofDecimal (cs.takeWhile isDigit))), cs.dropWhile isDigit)

def parseItems : Nat → List Char → Option (List Json × List Char)
  | 0, _ => none
  | fuel + 1, cs =>
      match parseValue fuel cs with
      | some (j, ',' :: rest) => (parseItems fuel rest).map fun p => (j :: p.1, p.2)
      | some (j, ']' :: rest) => some ([j], rest)
      | _ => none

def parseMembers : Nat → List Char → Option (List (String × Json) × List Char)
  | 0, _ => none
  | fuel + 1, '"' :: cs =>
      match parseString cs with
      | some (k, ':' :: cs) =>
          match parseValue fuel cs with
          | some (j, ',' :: rest) =>
              (parseMembers fuel rest).map fun p => ((String.ofList k, j) :: p.1, p.2)
          | some (j, '}' :: rest) => some ([(String.ofList k, j)], rest)
          | _ => none
      | _ => none
  | _ + 1, _ => none

end

/-! ## Reading back -/

/-- What follows a number does not continue it. -/
def NoDigit (rest : List Char) : Prop := ∀ c cs, rest = c :: cs → isDigit c = false

lemma noDigit_cons {c : Char} {cs : List Char} (h : isDigit c = false) : NoDigit (c :: cs) := by
  intro c' cs' heq
  rw [← (List.cons.inj heq).1]
  exact h

lemma takeWhile_digits {ds rest : List Char} (hds : ∀ c ∈ ds, isDigit c = true)
    (hrest : NoDigit rest) : (ds ++ rest).takeWhile isDigit = ds := by
  rw [List.takeWhile_append_of_pos hds]
  cases rest with
  | nil => simp
  | cons c cs => simp [hrest c cs rfl]

lemma dropWhile_digits {ds rest : List Char} (hds : ∀ c ∈ ds, isDigit c = true)
    (hrest : NoDigit rest) : (ds ++ rest).dropWhile isDigit = rest := by
  rw [List.dropWhile_append_of_pos hds]
  cases rest with
  | nil => rfl
  | cons c cs => simp [hrest c cs rfl]

lemma parseValue_minus {fuel : Nat} {ds rest : List Char} (hne : ds ≠ [])
    (hds : ∀ c ∈ ds, isDigit c = true) (hrest : NoDigit rest) :
    parseValue (fuel + 1) ('-' :: ds ++ rest) = some (.Num (.Neg (ofDecimal ds)), rest) := by
  have hsome : ds.isEmpty = false := by simpa using hne
  rw [List.cons_append, parseValue, takeWhile_digits hds hrest, dropWhile_digits hds hrest, hsome,
    if_neg Bool.false_ne_true]

lemma parseValue_digits {fuel : Nat} {ds rest : List Char} (hne : ds ≠ [])
    (hds : ∀ c ∈ ds, isDigit c = true) (hrest : NoDigit rest) :
    parseValue (fuel + 1) (ds ++ rest) = some (.Num (.Nat (ofDecimal ds)), rest) := by
  have htake := takeWhile_digits hds hrest
  have hdrop := dropWhile_digits hds hrest
  obtain ⟨d, ds', rfl⟩ := List.exists_cons_of_ne_nil hne
  have hd : isDigit d = true := hds d (by simp)
  -- a digit opens no other kind of value
  have hother : ∀ c : Char, isDigit c = false → d ≠ c := by
    rintro c hc rfl
    rw [hd] at hc
    cases hc
  have hn := hother 'n' (by decide)
  have ht := hother 't' (by decide)
  have hf := hother 'f' (by decide)
  have hq := hother '"' (by decide)
  have hb := hother '[' (by decide)
  have hc := hother '{' (by decide)
  have hm := hother '-' (by decide)
  rw [List.cons_append] at htake hdrop ⊢
  unfold parseValue
  split
  case h_11 =>
    rw [htake, hdrop]
    rfl
  all_goals
    exfalso
    simp_all only [List.cons.injEq, Nat.succ_eq_add_one, reduceCtorEq, ne_eq, false_and]

lemma parseString_printString (s : String) (rest : List Char) :
    parseString (s.toList.flatMap escape ++ '"' :: rest) = some (s.toList, rest) :=
  parseString_flatMap s.toList rest

/-- No value starts with the bracket that ends a sequence. -/
lemma print_head {j : Json} (hj : j.Integral) : ∃ c cs, print j = c :: cs ∧ c ≠ ']' := by
  cases hj with
  | Null => exact ⟨_, _, rfl, by decide⟩
  | Boolean b => cases b <;> exact ⟨_, _, rfl, by decide⟩
  | Neg n _ _ => exact ⟨_, _, rfl, by decide⟩
  | Nat n _ =>
      obtain ⟨c, cs, hcs⟩ := List.exists_cons_of_ne_nil (decimal_ne_nil 19 n)
      refine ⟨c, cs, by rw [print, hcs], ?_⟩
      rintro rfl
      have hc : isDigit ']' = true := isDigit_of_mem_decimal (by rw [hcs]; simp)
      exact absurd hc (by decide)
  | Str s => exact ⟨_, _, rfl, by decide⟩
  | Arr items _ => exact ⟨_, _, rfl, by decide⟩
  | Obj members _ => exact ⟨_, _, rfl, by decide⟩

lemma printItems_head {j : Json} (js : List Json) (hj : j.Integral) :
    ∃ c cs, printItems (j :: js) = c :: cs ∧ c ≠ ']' := by
  obtain ⟨c, cs, hcs, hc⟩ := print_head hj
  cases js with
  | nil => exact ⟨c, _, by rw [printItems, hcs, List.cons_append], hc⟩
  | cons k js => exact ⟨c, cs ++ ',' :: printItems (k :: js), by simp [printItems, hcs], hc⟩

lemma parseValue_bracket {fuel : Nat} {c : Char} {cs : List Char} (hc : c ≠ ']') :
    parseValue (fuel + 1) ('[' :: c :: cs)
      = (parseItems fuel (c :: cs)).map fun p => (.Arr p.1, p.2) := by
  unfold parseValue
  split <;> simp_all

lemma parseValue_brace (fuel : Nat) (cs : List Char) :
    parseValue (fuel + 1) ('{' :: '"' :: cs)
      = (parseMembers fuel ('"' :: cs)).map fun p => (.Obj p.1, p.2) := by
  unfold parseValue
  split <;> simp_all

mutual

/-- The text of a value is read back as that value, whatever follows it. -/
lemma parseValue_print : ∀ (j : Json), j.Integral → ∀ (fuel : Nat) (rest : List Char),
    (print j).length ≤ fuel → NoDigit rest →
    parseValue (fuel + 1) (print j ++ rest) = some (j, rest)
  | .Null, _, fuel, rest, _, _ => by simp [print, parseValue]
  | .Boolean true, _, fuel, rest, _, _ => by simp [print, parseValue]
  | .Boolean false, _, fuel, rest, _, _ => by simp [print, parseValue]
  | .Num (.Nat n), hp, fuel, rest, _, hrest => by
      cases hp with
      | Nat _ hn =>
          have hlt : n < 10 ^ 20 := lt_of_lt_of_le hn (by decide)
          rw [print, parseValue_digits (decimal_ne_nil 19 n) (fun _ => isDigit_of_mem_decimal) hrest,
            ofDecimal_decimal hlt]
  | .Num (.Neg n), hp, fuel, rest, _, hrest => by
      cases hp with
      | Neg _ _ hn =>
          have hlt : n < 10 ^ 20 := lt_of_le_of_lt hn (by decide)
          rw [print, parseValue_minus (decimal_ne_nil 19 n) (fun _ => isDigit_of_mem_decimal) hrest,
            ofDecimal_decimal hlt]
  | .Num (.Float text), hp, _, _, _, _ => nomatch hp
  | .Str s, _, fuel, rest, _, _ => by
      simp [print, printString, parseValue, parseString_printString]
  | .Arr [], _, fuel, rest, _, _ => by simp [print, printItems, parseValue]
  | .Arr (j :: js), hp, fuel, rest, hlen, _ => by
      cases hp with
      | Arr _ hitems =>
          have hlen' : (printItems (j :: js)).length + 1 ≤ fuel := by simpa [print] using hlen
          have hparse := parseItems_print j js (hitems j (by simp))
            (fun k hk => hitems k (by simp [hk])) fuel rest hlen'
          rw [print, List.cons_append]
          obtain ⟨c, cs, hcs, hc⟩ := printItems_head js (hitems j (by simp))
          rw [hcs] at hparse ⊢
          rw [List.cons_append] at hparse ⊢
          rw [parseValue_bracket hc, hparse]
          rfl
  | .Obj [], _, fuel, rest, _, _ => by simp [print, printMembers, parseValue]
  | .Obj (m :: ms), hp, fuel, rest, hlen, _ => by
      cases hp with
      | Obj _ hmembers =>
          have hlen' : (printMembers (m :: ms)).length + 1 ≤ fuel := by simpa [print] using hlen
          have hparse := parseMembers_print m ms (hmembers m (by simp))
            (fun k hk => hmembers k (by simp [hk])) fuel rest hlen'
          obtain ⟨cs, hcs⟩ : ∃ cs, printMembers (m :: ms) = '"' :: cs := by
            cases ms <;> exact ⟨_, rfl⟩
          rw [print, List.cons_append]
          rw [hcs, List.cons_append] at hparse ⊢
          rw [parseValue_brace, hparse]
          rfl

lemma parseItems_print : ∀ (j : Json) (js : List Json), j.Integral → (∀ k ∈ js, k.Integral) →
    ∀ (fuel : Nat) (rest : List Char), (printItems (j :: js)).length + 1 ≤ fuel →
    parseItems fuel (printItems (j :: js) ++ rest) = some (j :: js, rest)
  | j, [], hj, _, fuel, rest, hlen => by
      obtain ⟨fuel, rfl⟩ : ∃ f, fuel = f + 2 := ⟨fuel - 2, by simp [printItems] at hlen; omega⟩
      have hval := parseValue_print j hj fuel (']' :: rest)
        (by simp [printItems] at hlen; omega) (noDigit_cons (by decide))
      simp only [printItems, List.append_assoc, List.singleton_append, parseItems, hval]
  | j, k :: js, hj, hjs, fuel, rest, hlen => by
      obtain ⟨fuel, rfl⟩ : ∃ f, fuel = f + 2 := ⟨fuel - 2, by simp [printItems] at hlen; omega⟩
      simp only [printItems, List.length_append, List.length_cons] at hlen
      have hval := parseValue_print j hj fuel (',' :: (printItems (k :: js) ++ rest)) (by omega)
        (noDigit_cons (by decide))
      have htail := parseItems_print k js (hjs k (by simp)) (fun x hx => hjs x (by simp [hx]))
        (fuel + 1) rest (by omega)
      simp only [printItems, List.append_assoc, List.cons_append]
      rw [parseItems, hval]
      simp only [htail, Option.map_some]

lemma parseMembers_print : ∀ (m : String × Json) (ms : List (String × Json)), m.2.Integral →
    (∀ k ∈ ms, k.2.Integral) →
    ∀ (fuel : Nat) (rest : List Char), (printMembers (m :: ms)).length + 1 ≤ fuel →
    parseMembers fuel (printMembers (m :: ms) ++ rest) = some (m :: ms, rest)
  | (key, j), [], hj, _, fuel, rest, hlen => by
      obtain ⟨fuel, rfl⟩ : ∃ f, fuel = f + 2 :=
        ⟨fuel - 2, by simp [printMembers, printString] at hlen; omega⟩
      have hval := parseValue_print j hj fuel ('}' :: rest)
        (by simp [printMembers, printString] at hlen; omega) (noDigit_cons (by decide))
      simp only [printMembers, printString, List.cons_append, List.append_assoc, List.nil_append,
        parseMembers, parseString_printString, hval, String.ofList_toList]
  | (key, j), k :: ms, hj, hms, fuel, rest, hlen => by
      obtain ⟨fuel, rfl⟩ : ∃ f, fuel = f + 2 :=
        ⟨fuel - 2, by simp [printMembers, printString] at hlen; omega⟩
      simp only [printMembers, printString, List.length_append, List.length_cons,
        List.cons_append] at hlen
      have hval := parseValue_print j hj fuel (',' :: (printMembers (k :: ms) ++ rest)) (by omega)
        (noDigit_cons (by decide))
      have htail := parseMembers_print k ms (hms k (by simp)) (fun x hx => hms x (by simp [hx]))
        (fuel + 1) rest (by omega)
      simp only [printMembers, printString, List.cons_append, List.append_assoc, List.nil_append]
      rw [parseMembers, parseString_printString]
      simp only [hval, htail, Option.map_some, String.ofList_toList]

end

/-- A whole text. -/
def parse (cs : List Char) : Option Json :=
  match parseValue (cs.length + 1) cs with
  | some (j, []) => some j
  | _ => none

theorem parse_print {j : Json} (hj : j.Integral) : parse (print j) = some j := by
  have h := parseValue_print j hj (print j).length [] (le_refl _) (fun _ _ h => nomatch h)
  rw [List.append_nil] at h
  rw [parse, h]

/-! ## The codec -/

def compact : TextCodec where
  base64Encode bytes := String.ofList (Base64.encode bytes)
  base64Decode s := (Base64.decode s.toList).elim (.error "Invalid padding or symbol") .ok
  jsonToString j := String.ofList (print j)
  jsonFromStr s := (parse s.toList).elim (.error "expected value") .ok

lemma utf8_ne_nil (c : Char) (cs : List Char) : Text.utf8 (String.ofList (c :: cs)) ≠ [] := by
  rw [Text.utf8, String.toList_ofList, List.flatMap_cons]
  intro h
  have hc : String.utf8EncodeChar c = [] := (List.append_eq_nil_iff.mp h).1
  exact absurd (congrArg List.length hc) (by simpa using (Char.utf8Size_pos c).ne')

lemma encode_ne_nil {bytes : List UInt8} (h : bytes ≠ []) : Base64.encode bytes ≠ [] := by
  rcases bytes with _ | ⟨a, _ | ⟨b, _ | ⟨c, rest⟩⟩⟩ <;> simp [Base64.encode] at h ⊢

/-- Base64 has no white space. -/
lemma isWhitespace_of_mem_encode {c : Char} {bytes : List UInt8} (h : c ∈ Base64.encode bytes) :
    Text.isWhitespace c = false := by
  have hdigit : ∀ n < 64, Text.isWhitespace (Base64.digit n) = false := by decide
  fun_induction Base64.encode bytes with
  | case1 => cases h
  | case2 a n =>
      have ha := a.toNat_lt
      simp only [List.mem_cons, List.not_mem_nil, or_false] at h
      rcases h with rfl | rfl | rfl | rfl
      · exact hdigit _ (by omega)
      · exact hdigit _ (by omega)
      · rfl
      · rfl
  | case3 a b n =>
      have ha := a.toNat_lt
      have hb := b.toNat_lt
      simp only [List.mem_cons, List.not_mem_nil, or_false] at h
      rcases h with rfl | rfl | rfl | rfl
      · exact hdigit _ (by omega)
      · exact hdigit _ (by omega)
      · exact hdigit _ (by omega)
      · rfl
  | case4 a b c' rest n ih =>
      have ha := a.toNat_lt
      have hb := b.toNat_lt
      have hc := c'.toNat_lt
      simp only [List.mem_cons] at h
      rcases h with rfl | rfl | rfl | rfl | h
      · exact hdigit _ (by omega)
      · exact hdigit _ (by omega)
      · exact hdigit _ (by omega)
      · exact hdigit _ (by omega)
      · exact ih h

lemma trim_compact (bytes : List UInt8) :
    Text.trim (compact.base64Encode bytes) = compact.base64Encode bytes := by
  refine Text.trim_eq_self fun c hc => isWhitespace_of_mem_encode (?_ : c ∈ Base64.encode bytes)
  rwa [compact, String.toList_ofList] at hc

theorem compact_lawful : compact.Lawful where
  base64 bytes := by simp [compact, Base64.decode_encode]
  json j hj _ := by simp [compact, parse_print hj.integral]
  nonempty j hj := by
    obtain ⟨c, cs, hcs, -⟩ := print_head hj.integral
    have hbytes := encode_ne_nil (utf8_ne_nil c cs)
    simpa [compact, Text.isEmpty, hcs] using hbytes

/-- Values without floating point numbers are read back, however deep they are nested. -/
lemma compact_reads {j : Json} (hj : j.Integral) :
    compact.jsonFromStr (compact.jsonToString j) = .ok j := by
  simp [compact, parse_print hj]

theorem compact_readsIntegers : compact.ReadsIntegers := fun _ hj _ => compact_reads hj

end JsonText
