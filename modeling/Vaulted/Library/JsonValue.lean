import Mathlib.Data.String.Basic
import Vaulted.Library.JsonInjective

/-!
# Values that are kept

A JSON value of a text, kept as a value of its own: an object becomes a map, ordered by its names,
in which the last member of a name counts.

* `hold` — what is kept of a value; `none` if it has a number that cannot be.
* `HeldValue` — the values that are kept as they are.
* **`hold_held`** — what is kept is such a value.
* `present`, `record` — the members of a record, and the fields that are read of one.
* `ReadsExact`, `OneText` — what a codec promises of texts: values are read back, as far as their
  floating point numbers are, and different values have different texts.
-/

namespace Json

/-- Give a map a member, unless it has one of that name. -/
def insertMissing (m : String × Json) : List (String × Json) → List (String × Json)
  | [] => [m]
  | m' :: ms =>
      if m.1 < m'.1 then m :: m' :: ms
      else if m.1 = m'.1 then m' :: ms
      else m' :: insertMissing m ms

def holdNumber : JsonNumber → Option JsonNumber
  | .Nat n => if n < 2 ^ 64 then some (.Nat n) else none
  | .Neg n => if 0 < n ∧ n ≤ 2 ^ 63 then some (.Neg n) else none
  | .Float text =>
      if text.toList.all (fun c => "0123456789+-.e".toList.contains c)
          && (text.toList.contains '.' || text.toList.contains 'e') then some (.Float text)
      else none

mutual

def hold : Json → Option Json
  | .Num n => (holdNumber n).map .Num
  | .Arr items => (holdItems items).map .Arr
  | .Obj members => (holdMembers members).map .Obj
  | .Null => some .Null
  | .Boolean b => some (.Boolean b)
  | .Str s => some (.Str s)

def holdItems : List Json → Option (List Json)
  | [] => some []
  | j :: js => do
      let v ← hold j
      let vs ← holdItems js
      return v :: vs

/-- The later members come first into the map. -/
def holdMembers : List (String × Json) → Option (List (String × Json))
  | [] => some []
  | (k, j) :: ms => do
      let v ← hold j
      let vs ← holdMembers ms
      return insertMissing (k, v) vs

end

/-- A value that is kept as it is. -/
def Held (j : Json) : Prop := hold j = some j

abbrev HeldValue := { j : Json // j.Held }

/-! ## Maps -/

/-- The names, in order. -/
def Sorted (members : List (String × Json)) : Prop := members.Pairwise fun a b => a.1 < b.1

lemma mem_insertMissing {m x : String × Json} {ms : List (String × Json)}
    (h : x ∈ insertMissing m ms) : x = m ∨ x ∈ ms := by
  induction ms with
  | nil => exact .inl (List.mem_singleton.mp h)
  | cons m' ms ih =>
      rw [insertMissing] at h
      split_ifs at h with hlt heq
      · rcases List.mem_cons.mp h with rfl | h
        · exact .inl rfl
        · exact .inr h
      · exact .inr h
      · rcases List.mem_cons.mp h with rfl | h
        · exact .inr List.mem_cons_self
        · exact (ih h).imp_right (List.mem_cons_of_mem m')

lemma sorted_insertMissing {m : String × Json} {ms : List (String × Json)} (h : Sorted ms) :
    Sorted (insertMissing m ms) := by
  induction ms with
  | nil => exact List.pairwise_singleton _ _
  | cons m' ms ih =>
      obtain ⟨hhead, htail⟩ := List.pairwise_cons.mp h
      rw [insertMissing]
      split_ifs with hlt heq
      · refine List.pairwise_cons.mpr ⟨fun x hx => ?_, h⟩
        rcases List.mem_cons.mp hx with rfl | hx
        · exact hlt
        · exact lt_trans hlt (hhead x hx)
      · exact h
      · refine List.pairwise_cons.mpr ⟨fun x hx => ?_, ih htail⟩
        rcases mem_insertMissing hx with rfl | hx
        · exact lt_of_le_of_ne (not_lt.mp hlt) (Ne.symm heq)
        · exact hhead x hx

/-- Before all members, a member goes to the front. -/
lemma insertMissing_eq_cons {m : String × Json} {ms : List (String × Json)}
    (h : ∀ x ∈ ms, m.1 < x.1) : insertMissing m ms = m :: ms := by
  cases ms with
  | nil => rfl
  | cons m' ms => rw [insertMissing, if_pos (h m' List.mem_cons_self)]

lemma nodup_of_sorted {ms : List (String × Json)} (h : Sorted ms) : (ms.map Prod.fst).Nodup :=
  List.pairwise_map.mpr (h.imp fun hlt => ne_of_lt hlt)

/-! ## What is kept -/

lemma holdNumber_spec {n n' : JsonNumber} (h : holdNumber n = some n') : n' = n ∧ n.Valid := by
  cases n with
  | Nat n =>
      rw [holdNumber] at h
      split_ifs at h with hn
      exact ⟨(Option.some.inj h).symm, hn⟩
  | Neg n =>
      rw [holdNumber] at h
      split_ifs at h with hn
      exact ⟨(Option.some.inj h).symm, hn⟩
  | Float text =>
      rw [holdNumber] at h
      split_ifs at h with htext
      refine ⟨(Option.some.inj h).symm, ?_⟩
      simpa [JsonNumber.Valid] using htext

/-- A map of values that are kept is kept. -/
lemma holdMembers_of_sorted {ms : List (String × Json)} (hsorted : Sorted ms)
    (h : ∀ m ∈ ms, m.2.Held) : holdMembers ms = some ms := by
  induction ms with
  | nil => rfl
  | cons m ms ih =>
      obtain ⟨hhead, htail⟩ := List.pairwise_cons.mp hsorted
      have hfirst : hold m.2 = some m.2 := h m List.mem_cons_self
      have hrest := ih htail fun x hx => h x (List.mem_cons_of_mem m hx)
      rw [holdMembers, hfirst, hrest]
      exact congrArg some (insertMissing_eq_cons hhead)

lemma holdItems_of_held {js : List Json} (h : ∀ j ∈ js, j.Held) : holdItems js = some js := by
  induction js with
  | nil => rfl
  | cons j js ih =>
      have hfirst : hold j = some j := h j List.mem_cons_self
      rw [holdItems, hfirst, ih fun x hx => h x (List.mem_cons_of_mem j hx)]
      rfl

mutual

/-- **What is kept is kept as it is**, and is a value of its own. -/
theorem hold_held : ∀ (j v : Json), hold j = some v → v.Held ∧ v.Value
  | .Null, _, h => by
      obtain rfl := Option.some.inj h
      exact ⟨rfl, .Null⟩
  | .Boolean b, _, h => by
      obtain rfl := Option.some.inj h
      exact ⟨rfl, .Boolean b⟩
  | .Str s, _, h => by
      obtain rfl := Option.some.inj h
      exact ⟨rfl, .Str s⟩
  | .Num n, _, h => by
      obtain ⟨n', hn, rfl⟩ := Option.map_eq_some_iff.mp h
      obtain ⟨rfl, hvalid⟩ := holdNumber_spec hn
      exact ⟨h, .Num _ hvalid⟩
  | .Arr items, _, h => by
      obtain ⟨vs, hvs, rfl⟩ := Option.map_eq_some_iff.mp h
      have hall := holdItems_held items vs hvs
      exact ⟨by rw [Held, hold, holdItems_of_held fun v hv => (hall v hv).1]; rfl,
        .Arr vs fun v hv => (hall v hv).2⟩
  | .Obj members, _, h => by
      obtain ⟨vs, hvs, rfl⟩ := Option.map_eq_some_iff.mp h
      obtain ⟨hsorted, hall⟩ := holdMembers_held members vs hvs
      exact ⟨by rw [Held, hold, holdMembers_of_sorted hsorted fun m hm => (hall m hm).1]; rfl,
        .Obj vs (nodup_of_sorted hsorted) fun m hm => (hall m hm).2⟩

lemma holdItems_held : ∀ (js vs : List Json), holdItems js = some vs →
    ∀ v ∈ vs, v.Held ∧ v.Value
  | [], _, h => by
      obtain rfl := Option.some.inj h
      simp
  | j :: js, _, h => by
      obtain ⟨v, hv, h⟩ := Option.bind_eq_some_iff.mp h
      obtain ⟨vs, hvs, h⟩ := Option.bind_eq_some_iff.mp h
      obtain rfl := Option.some.inj h
      exact List.forall_mem_cons.mpr ⟨hold_held j v hv, holdItems_held js vs hvs⟩

lemma holdMembers_held : ∀ (ms vs : List (String × Json)), holdMembers ms = some vs →
    Sorted vs ∧ ∀ m ∈ vs, m.2.Held ∧ m.2.Value
  | [], _, h => by
      obtain rfl := Option.some.inj h
      exact ⟨.nil, by simp⟩
  | (k, j) :: ms, _, h => by
      obtain ⟨v, hv, h⟩ := Option.bind_eq_some_iff.mp h
      obtain ⟨vs, hvs, h⟩ := Option.bind_eq_some_iff.mp h
      obtain rfl := Option.some.inj h
      obtain ⟨hsorted, hall⟩ := holdMembers_held ms vs hvs
      refine ⟨sorted_insertMissing hsorted, fun m hm => ?_⟩
      rcases mem_insertMissing hm with rfl | hm
      · exact hold_held j v hv
      · exact hall m hm

end

lemma isNull_of_hold {j v : Json} (h : hold j = some v) : v.isNull = j.isNull := by
  cases j with
  | Num n =>
      obtain ⟨_, -, rfl⟩ := Option.map_eq_some_iff.mp h
      rfl
  | Arr items =>
      obtain ⟨_, -, rfl⟩ := Option.map_eq_some_iff.mp h
      rfl
  | Obj members =>
      obtain ⟨_, -, rfl⟩ := Option.map_eq_some_iff.mp h
      rfl
  | _ =>
      obtain rfl := Option.some.inj h
      rfl

/-! ## Records -/

/-- The members that there are, of the fields of a record. -/
def present (fields : List (String × Option Json)) : List (String × Json) :=
  fields.filterMap fun f => f.2.map fun j => (f.1, j)

lemma mem_present {fields : List (String × Option Json)} {m : String × Json} :
    m ∈ present fields ↔ (m.1, some m.2) ∈ fields := by
  obtain ⟨k, j⟩ := m
  simp only [present, List.mem_filterMap, Option.map_eq_some_iff, Prod.mk.injEq]
  constructor
  · rintro ⟨⟨k', v⟩, hmem, j', hv, rfl, rfl⟩
    rwa [← hv]
  · exact fun h => ⟨(k, some j), h, j, rfl, rfl, rfl⟩

lemma names_present_sublist (fields : List (String × Option Json)) :
    ((present fields).map Prod.fst).Sublist (fields.map Prod.fst) := by
  induction fields with
  | nil => exact .slnil
  | cons f fields ih =>
      obtain ⟨k, v⟩ := f
      cases v with
      | none => exact ih.cons k
      | some j => exact ih.cons_cons k

lemma filter_present {fields : List (String × Option Json)}
    (hnodup : (fields.map Prod.fst).Nodup) {k : String} {v : Option Json} (h : (k, v) ∈ fields) :
    ((present fields).filter fun m => decide (m.1 = k)) = (v.map fun j => (k, j)).toList := by
  induction fields with
  | nil => cases h
  | cons f fields ih =>
      obtain ⟨k', v'⟩ := f
      obtain ⟨hnot, hnodup⟩ := List.nodup_cons.mp hnodup
      have hcons : present ((k', v') :: fields)
          = (v'.map fun j => (k', j)).toList ++ present fields := by
        cases v' <;> rfl
      rw [hcons, List.filter_append]
      rcases List.mem_cons.mp h with heq | h
      · obtain ⟨rfl, rfl⟩ := Prod.mk.inj heq
        -- no other field has that name
        have hrest : ((present fields).filter fun m => decide (m.1 = k)) = [] := by
          refine List.filter_eq_nil_iff.mpr fun m hm hk => hnot ?_
          rw [← of_decide_eq_true hk]
          exact List.mem_map.mpr ⟨_, mem_present.mp hm, rfl⟩
        rw [hrest, List.append_nil]
        cases v <;> simp
      · have hne : k' ≠ k := fun hk => hnot (hk ▸ List.mem_map.mpr ⟨_, h, rfl⟩)
        rw [ih hnodup h]
        cases v' <;> simp [hne]

section

variable {α : Type} {fields : List (String × Option Json)} {k : String}
  {decode : Json → Except String α}

lemma field_present (hnodup : (fields.map Prod.fst).Nodup) {j : Json}
    (h : (k, some j) ∈ fields) : (Obj (present fields)).field k decode = decode j := by
  rw [field, filter_present hnodup h]
  rfl

lemma optionalField_present_none (hnodup : (fields.map Prod.fst).Nodup)
    (h : (k, none) ∈ fields) : (Obj (present fields)).optionalField k decode = .ok none := by
  rw [optionalField, filter_present hnodup h]
  rfl

lemma optionalField_present (hnodup : (fields.map Prod.fst).Nodup) {j : Json}
    (h : (k, some j) ∈ fields) : (Obj (present fields)).optionalField k decode
      = if j.isNull then .ok none else (decode j).map some := by
  rw [optionalField, filter_present hnodup h]
  rfl

/-- A member that is never null is read as it was written. -/
lemma optionalField_map (hnodup : (fields.map Prod.fst).Nodup) {a : Option α} {write : α → Json}
    (h : (k, a.map write) ∈ fields) (hwrite : ∀ x, (write x).isNull = false)
    (hdecode : ∀ x, decode (write x) = .ok x) :
    (Obj (present fields)).optionalField k decode = .ok a := by
  cases a with
  | none => exact optionalField_present_none hnodup h
  | some x =>
      rw [optionalField_present hnodup (j := write x) h, hwrite, hdecode]
      rfl

end

end Json

/-! ## Texts -/

/-- Values whose floating point numbers are all among `exact`. -/
inductive Json.Exact (exact : String → Prop) : Json → Prop
  | Null : Exact exact .Null
  | Boolean (b : Bool) : Exact exact (.Boolean b)
  | Nat (n : Nat) : n < 2 ^ 64 → Exact exact (.Num (.Nat n))
  | Neg (n : Nat) : 0 < n → n ≤ 2 ^ 63 → Exact exact (.Num (.Neg n))
  | Float (text : String) : exact text → Exact exact (.Num (.Float text))
  | Str (s : String) : Exact exact (.Str s)
  | Arr (items : List Json) : (∀ j ∈ items, Exact exact j) → Exact exact (.Arr items)
  | Obj (members : List (String × Json)) :
      (∀ m ∈ members, Exact exact m.2) → Exact exact (.Obj members)

/-- Values are read back that are not nested too deep, and whose floating point numbers are. -/
def TextCodec.ReadsExact (c : TextCodec) (exact : String → Prop) : Prop :=
  ∀ j : Json, j.Exact exact → j.depth ≤ 127 → c.jsonFromStr (c.jsonToString j) = .ok j

/-- Without floating point numbers, all numbers are integers. -/
lemma Json.Exact.integral {j : Json} (h : j.Exact fun _ => False) : j.Integral := by
  induction h with
  | Null => exact .Null
  | Boolean b => exact .Boolean b
  | Nat n hn => exact .Nat n hn
  | Neg n hpos hn => exact .Neg n hpos hn
  | Float text hfalse => exact hfalse.elim
  | Str s => exact .Str s
  | Arr items _ ih => exact .Arr items ih
  | Obj members _ ih => exact .Obj members ih

/-- Two values with one text are one value. -/
def TextCodec.OneText (c : TextCodec) : Prop :=
  ∀ j j' : Json, j.Value → j'.Value → c.jsonToString j = c.jsonToString j' → j = j'

lemma JsonText.compact_oneText : JsonText.compact.OneText := fun j j' hj hj' h => by
  have hchars := congrArg String.toList h
  simp only [compact, String.toList_ofList] at hchars
  exact print_injective hj hj' hchars
