import Vaulted.Library.JsonText

/-!
# One text for one value

Different values have different compact texts.

* `Json.Value` — values as a JSON library holds them: integers of 64 bits, the texts of floating
  point numbers for all others, and no member name twice in an object.
* `print_append_inj` — where a value ends in a text is determined, and so is the value.
* **`print_injective`** — two values with one text are one value.
-/

/-- An integer in its range, or the text of a number with a fraction or an exponent. -/
def JsonNumber.Valid : JsonNumber → Prop
  | .Nat n => n < 2 ^ 64
  | .Neg n => 0 < n ∧ n ≤ 2 ^ 63
  | .Float text => (∀ c ∈ text.toList, c ∈ "0123456789+-.e".toList)
      ∧ ('.' ∈ text.toList ∨ 'e' ∈ text.toList)

namespace Json

inductive Value : Json → Prop
  | Null : Value .Null
  | Boolean (b : Bool) : Value (.Boolean b)
  | Num (n : JsonNumber) : n.Valid → Value (.Num n)
  | Str (s : String) : Value (.Str s)
  | Arr (items : List Json) : (∀ j ∈ items, Value j) → Value (.Arr items)
  | Obj (members : List (String × Json)) : (members.map Prod.fst).Nodup →
      (∀ m ∈ members, Value m.2) → Value (.Obj members)

end Json

namespace JsonText

open Json

/-! ## Numbers -/

def isNumberChar (c : Char) : Bool := "0123456789+-.e".toList.contains c

lemma isNumberChar_of_isDigit {c : Char} (h : isDigit c = true) : isNumberChar c = true := by
  rw [isDigit, Bool.and_eq_true_iff, decide_eq_true_eq, decide_eq_true_eq] at h
  have hall : ∀ n < 58, 48 ≤ n → isNumberChar (Char.ofNat n) = true := by decide +kernel
  rw [← Char.ofNat_toNat c]
  exact hall c.toNat (by omega) h.1

/-- The text of a number has these characters, and at least one. -/
lemma print_num {n : JsonNumber} (h : n.Valid) :
    (∀ c ∈ print (.Num n), isNumberChar c = true) ∧ print (.Num n) ≠ [] := by
  cases n with
  | Nat n =>
      rw [print]
      exact ⟨fun c hc => isNumberChar_of_isDigit (isDigit_of_mem_decimal hc), decimal_ne_nil 19 n⟩
  | Neg n =>
      rw [print]
      refine ⟨List.forall_mem_cons.mpr ⟨by decide +kernel, fun c hc => ?_⟩, List.cons_ne_nil _ _⟩
      exact isNumberChar_of_isDigit (isDigit_of_mem_decimal hc)
  | Float text =>
      rw [print]
      refine ⟨fun c hc => List.contains_iff_mem.mpr (h.1 c hc), fun hnil => ?_⟩
      rcases h.2 with hmem | hmem
      all_goals
        rw [hnil] at hmem
        cases hmem

/-- The text of a fraction is not the text of an integer. -/
lemma not_float_decimal {text : String} (h : (JsonNumber.Float text).Valid) {n : Nat} :
    text.toList ≠ decimal 20 n ∧ text.toList ≠ '-' :: decimal 20 n := by
  have hdigits : ∀ c ∈ decimal 20 n, c ≠ '.' ∧ c ≠ 'e' ∧ c ≠ '-' := by
    intro c hc
    have hdigit := isDigit_of_mem_decimal hc
    refine ⟨?_, ?_, ?_⟩
    all_goals
      rintro rfl
      exact absurd hdigit (by decide)
  constructor
  · intro heq
    rw [JsonNumber.Valid, heq] at h
    rcases h.2 with hmem | hmem
    · exact (hdigits _ hmem).1 rfl
    · exact (hdigits _ hmem).2.1 rfl
  · intro heq
    rw [JsonNumber.Valid, heq] at h
    rcases h.2 with hmem | hmem
    · exact (hdigits _ ((List.mem_cons.mp hmem).resolve_left (by decide))).1 rfl
    · exact (hdigits _ ((List.mem_cons.mp hmem).resolve_left (by decide))).2.1 rfl

lemma decimal_inj {n n' : Nat} (hn : n < 2 ^ 64) (hn' : n' < 2 ^ 64)
    (h : decimal 20 n = decimal 20 n') : n = n' := by
  have heq := congrArg ofDecimal h
  rwa [ofDecimal_decimal (Nat.lt_trans hn (by decide)),
    ofDecimal_decimal (Nat.lt_trans hn' (by decide))] at heq

lemma decimal_ne_minus {n n' : Nat} : decimal 20 n ≠ '-' :: decimal 20 n' := by
  intro h
  have hminus : isDigit '-' = true :=
    @isDigit_of_mem_decimal 20 n '-' (by rw [h]; exact List.mem_cons_self)
  exact absurd hminus (by decide)

lemma print_num_inj {n n' : JsonNumber} (hn : n.Valid) (hn' : n'.Valid)
    (h : print (.Num n) = print (.Num n')) : n = n' := by
  cases n with
  | Nat n =>
      cases n' with
      | Nat n' =>
          rw [print, print] at h
          rw [decimal_inj hn hn' h]
      | Neg n' =>
          rw [print, print] at h
          exact absurd h decimal_ne_minus
      | Float text' =>
          rw [print, print] at h
          exact absurd h.symm (not_float_decimal hn').1
  | Neg n =>
      cases n' with
      | Nat n' =>
          rw [print, print] at h
          exact absurd h.symm decimal_ne_minus
      | Neg n' =>
          rw [print, print] at h
          have hlt : n < 2 ^ 64 := Nat.lt_of_le_of_lt hn.2 (by decide)
          have hlt' : n' < 2 ^ 64 := Nat.lt_of_le_of_lt hn'.2 (by decide)
          rw [decimal_inj hlt hlt' (List.cons.inj h).2]
      | Float text' =>
          rw [print, print] at h
          exact absurd h.symm (not_float_decimal hn').2
  | Float text =>
      cases n' with
      | Nat n' =>
          rw [print, print] at h
          exact absurd h (not_float_decimal hn).1
      | Neg n' =>
          rw [print, print] at h
          exact absurd h (not_float_decimal hn).2
      | Float text' =>
          rw [print, print] at h
          rw [String.toList_injective h]

/-! ## The kind of a value -/

inductive Kind
  | Null
  | True
  | False
  | Number
  | Text
  | Items
  | Members
  deriving DecidableEq

/-- What a first character begins. -/
def kind (c : Char) : Option Kind :=
  if isNumberChar c then some .Number
  else if c = 'n' then some .Null
  else if c = 't' then some .True
  else if c = 'f' then some .False
  else if c = '"' then some .Text
  else if c = '[' then some .Items
  else if c = '{' then some .Members
  else none

def tag : Json → Kind
  | .Null => .Null
  | .Boolean true => .True
  | .Boolean false => .False
  | .Num _ => .Number
  | .Str _ => .Text
  | .Arr _ => .Items
  | .Obj _ => .Members

lemma print_kind {j : Json} (hj : j.Value) : ∃ c cs, print j = c :: cs ∧ kind c = some (tag j) := by
  cases hj with
  | Null => exact ⟨_, _, rfl, by decide +kernel⟩
  | Boolean b => cases b <;> exact ⟨_, _, rfl, by decide +kernel⟩
  | Num n hn =>
      obtain ⟨hchars, hne⟩ := print_num hn
      obtain ⟨c, cs, hcs⟩ := List.exists_cons_of_ne_nil hne
      exact ⟨c, cs, hcs, if_pos (hchars c (by rw [hcs]; exact List.mem_cons_self))⟩
  | Str s => exact ⟨_, _, rfl, (by decide +kernel : kind '"' = some .Text)⟩
  | Arr items _ => exact ⟨_, _, rfl, (by decide +kernel : kind '[' = some .Items)⟩
  | Obj members _ _ => exact ⟨_, _, rfl, (by decide +kernel : kind '{' = some .Members)⟩

lemma tag_eq {j j' : Json} (hj : j.Value) (hj' : j'.Value) {rest rest' : List Char}
    (h : print j ++ rest = print j' ++ rest') : tag j = tag j' := by
  obtain ⟨c, cs, hcs, hc⟩ := print_kind hj
  obtain ⟨c', cs', hcs', hc'⟩ := print_kind hj'
  rw [hcs, hcs', List.cons_append, List.cons_append] at h
  refine Option.some.inj ?_
  rw [← hc, ← hc', (List.cons.inj h).1]

/-- No value begins as a sequence ends, or as members do. -/
lemma print_ne_bracket {j : Json} (hj : j.Value) {rest cs : List Char} :
    print j ++ rest ≠ ']' :: cs := by
  obtain ⟨c, cs', hcs, hc⟩ := print_kind hj
  intro h
  rw [hcs, List.cons_append] at h
  rw [(List.cons.inj h).1, (by decide +kernel : kind ']' = none)] at hc
  cases hc

/-! ## Where a value ends -/

/-- What follows a value does not continue a number. -/
def Ends (rest : List Char) : Prop := ∀ c cs, rest = c :: cs → isNumberChar c = false

lemma ends_cons {c : Char} {cs : List Char} (h : isNumberChar c = false) : Ends (c :: cs) := by
  intro c' cs' heq
  rw [← (List.cons.inj heq).1]
  exact h

lemma takeWhile_number {cs rest : List Char} (hcs : ∀ c ∈ cs, isNumberChar c = true)
    (hrest : Ends rest) : (cs ++ rest).takeWhile isNumberChar = cs := by
  rw [List.takeWhile_append_of_pos hcs]
  cases rest with
  | nil => simp
  | cons c cs => simp [hrest c cs rfl]

lemma num_append_inj {n n' : JsonNumber} (hn : n.Valid) (hn' : n'.Valid) {rest rest' : List Char}
    (hrest : Ends rest) (hrest' : Ends rest')
    (h : print (.Num n) ++ rest = print (.Num n') ++ rest') : n = n' ∧ rest = rest' := by
  have htext := congrArg (List.takeWhile isNumberChar) h
  rw [takeWhile_number (print_num hn).1 hrest, takeWhile_number (print_num hn').1 hrest'] at htext
  rw [htext] at h
  exact ⟨print_num_inj hn hn' htext, List.append_cancel_left h⟩

lemma str_append_inj {s s' : String} {rest rest' : List Char}
    (h : printString s ++ rest = printString s' ++ rest') : s = s' ∧ rest = rest' := by
  rw [printString, printString, List.cons_append, List.cons_append, List.cons_append,
    List.cons_append, List.append_assoc, List.append_assoc] at h
  have hread := congrArg parseString (List.cons.inj h).2
  rw [List.singleton_append, List.singleton_append, parseString_printString,
    parseString_printString] at hread
  have hpair := Option.some.inj hread
  exact ⟨String.toList_injective (congrArg Prod.fst hpair), congrArg Prod.snd hpair⟩

/-- What follows an item. -/
def itemsTail : List Json → List Char
  | [] => [']']
  | k :: js => ',' :: printItems (k :: js)

lemma printItems_cons (j : Json) (js : List Json) :
    printItems (j :: js) = print j ++ itemsTail js := by
  cases js <;> rfl

lemma ends_itemsTail (js : List Json) (rest : List Char) : Ends (itemsTail js ++ rest) := by
  cases js <;> exact ends_cons (by decide +kernel)

/-- What follows a member. -/
def membersTail : List (String × Json) → List Char
  | [] => ['}']
  | m :: ms => ',' :: printMembers (m :: ms)

lemma printMembers_cons (k : String) (j : Json) (ms : List (String × Json)) :
    printMembers ((k, j) :: ms) = printString k ++ ':' :: (print j ++ membersTail ms) := by
  cases ms <;> simp [printMembers, membersTail]

lemma ends_membersTail (ms : List (String × Json)) (rest : List Char) :
    Ends (membersTail ms ++ rest) := by
  cases ms <;> exact ends_cons (by decide +kernel)

mutual

/-- **Where a value ends is determined**, and so is the value. -/
lemma print_append_inj : ∀ (j : Json), j.Value → ∀ (j' : Json), j'.Value →
    ∀ (rest rest' : List Char), Ends rest → Ends rest' → print j ++ rest = print j' ++ rest' →
    j = j' ∧ rest = rest'
  | .Null, hj, j', hj', rest, rest', _, _, h => by
      have htag := tag_eq hj hj' h
      cases hj' with
      | Null => exact ⟨rfl, List.append_cancel_left h⟩
      | Boolean b => cases b <;> cases htag
      | _ => cases htag
  | .Boolean b, hj, j', hj', rest, rest', _, _, h => by
      have htag := tag_eq hj hj' h
      cases hj' with
      | Boolean b' =>
          obtain rfl : b = b' := by
            cases b <;> cases b' <;> first | rfl | cases htag
          exact ⟨rfl, List.append_cancel_left h⟩
      | _ => cases b <;> cases htag
  | .Num n, hj, j', hj', rest, rest', hrest, hrest', h => by
      have htag := tag_eq hj hj' h
      cases hj' with
      | Num n' hn' =>
          cases hj with
          | Num _ hn =>
              obtain ⟨rfl, hrest⟩ := num_append_inj hn hn' hrest hrest' h
              exact ⟨rfl, hrest⟩
      | Boolean b => cases b <;> cases htag
      | _ => cases htag
  | .Str s, hj, j', hj', rest, rest', _, _, h => by
      have htag := tag_eq hj hj' h
      cases hj' with
      | Str s' =>
          obtain ⟨rfl, hrest⟩ := str_append_inj h
          exact ⟨rfl, hrest⟩
      | Boolean b => cases b <;> cases htag
      | _ => cases htag
  | .Arr items, hj, j', hj', rest, rest', _, _, h => by
      have htag := tag_eq hj hj' h
      cases hj' with
      | Arr items' hitems' =>
          cases hj with
          | Arr _ hitems =>
              rw [print, print, List.cons_append, List.cons_append] at h
              obtain ⟨rfl, hrest⟩ := printItems_append_inj items hitems items' hitems' rest rest'
                (List.cons.inj h).2
              exact ⟨rfl, hrest⟩
      | Boolean b => cases b <;> cases htag
      | _ => cases htag
  | .Obj members, hj, j', hj', rest, rest', _, _, h => by
      have htag := tag_eq hj hj' h
      cases hj' with
      | Obj members' _ hmembers' =>
          cases hj with
          | Obj _ _ hmembers =>
              rw [print, print, List.cons_append, List.cons_append] at h
              obtain ⟨rfl, hrest⟩ := printMembers_append_inj members hmembers members' hmembers'
                rest rest' (List.cons.inj h).2
              exact ⟨rfl, hrest⟩
      | Boolean b => cases b <;> cases htag
      | _ => cases htag

lemma printItems_append_inj : ∀ (js : List Json), (∀ j ∈ js, j.Value) →
    ∀ (js' : List Json), (∀ j ∈ js', j.Value) → ∀ (rest rest' : List Char),
    printItems js ++ rest = printItems js' ++ rest' → js = js' ∧ rest = rest'
  | [], _, [], _, rest, rest', h => ⟨rfl, List.append_cancel_left h⟩
  | [], _, j' :: js', hjs', rest, rest', h => by
      rw [printItems_cons, List.append_assoc] at h
      exact absurd h.symm (print_ne_bracket (hjs' j' (by simp)))
  | j :: js, hjs, [], _, rest, rest', h => by
      rw [printItems_cons, List.append_assoc] at h
      exact absurd h (print_ne_bracket (hjs j (by simp)))
  | j :: js, hjs, j' :: js', hjs', rest, rest', h => by
      rw [printItems_cons, printItems_cons, List.append_assoc, List.append_assoc] at h
      obtain ⟨rfl, htail⟩ := print_append_inj j (hjs j (by simp)) j' (hjs' j' (by simp)) _ _
        (ends_itemsTail js rest) (ends_itemsTail js' rest') h
      cases js with
      | nil =>
          cases js' with
          | nil => exact ⟨rfl, (List.cons.inj htail).2⟩
          | cons k' js' => exact absurd (List.cons.inj htail).1 (by decide)
      | cons k js =>
          cases js' with
          | nil => exact absurd (List.cons.inj htail).1 (by decide)
          | cons k' js' =>
              obtain ⟨heq, hrest⟩ := printItems_append_inj (k :: js)
                (fun x hx => hjs x (List.mem_cons_of_mem _ hx)) (k' :: js')
                (fun x hx => hjs' x (List.mem_cons_of_mem _ hx)) rest rest' (List.cons.inj htail).2
              exact ⟨congrArg _ heq, hrest⟩

lemma printMembers_append_inj : ∀ (ms : List (String × Json)), (∀ m ∈ ms, m.2.Value) →
    ∀ (ms' : List (String × Json)), (∀ m ∈ ms', m.2.Value) → ∀ (rest rest' : List Char),
    printMembers ms ++ rest = printMembers ms' ++ rest' → ms = ms' ∧ rest = rest'
  | [], _, [], _, rest, rest', h => ⟨rfl, List.append_cancel_left h⟩
  | [], _, (k', j') :: ms', _, rest, rest', h => by
      rw [printMembers_cons] at h
      exact absurd (List.cons.inj h).1 (by decide)
  | (k, j) :: ms, _, [], _, rest, rest', h => by
      rw [printMembers_cons] at h
      exact absurd (List.cons.inj h).1 (by decide)
  | (k, j) :: ms, hms, (k', j') :: ms', hms', rest, rest', h => by
      rw [printMembers_cons, printMembers_cons, List.append_assoc, List.append_assoc] at h
      obtain ⟨rfl, hvalue⟩ := str_append_inj h
      rw [List.cons_append, List.cons_append, List.append_assoc, List.append_assoc] at hvalue
      have hvalue := (List.cons.inj hvalue).2
      obtain ⟨rfl, htail⟩ := print_append_inj j (hms (k, j) (by simp)) j' (hms' (k, j') (by simp))
        _ _ (ends_membersTail ms rest) (ends_membersTail ms' rest') hvalue
      cases ms with
      | nil =>
          cases ms' with
          | nil => exact ⟨rfl, (List.cons.inj htail).2⟩
          | cons m' ms' => exact absurd (List.cons.inj htail).1 (by decide)
      | cons m ms =>
          cases ms' with
          | nil => exact absurd (List.cons.inj htail).1 (by decide)
          | cons m' ms' =>
              obtain ⟨heq, hrest⟩ := printMembers_append_inj (m :: ms)
                (fun x hx => hms x (List.mem_cons_of_mem _ hx)) (m' :: ms')
                (fun x hx => hms' x (List.mem_cons_of_mem _ hx)) rest rest' (List.cons.inj htail).2
              exact ⟨congrArg _ heq, hrest⟩

end

/-- **Two values with one text are one value.** -/
theorem print_injective {j j' : Json} (hj : j.Value) (hj' : j'.Value)
    (h : print j = print j') : j = j' := by
  have hends : Ends [] := by
    intro c cs heq
    cases heq
  exact (print_append_inj j hj j' hj' [] [] hends hends (by rw [h])).1

end JsonText
