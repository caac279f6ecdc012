import Mathlib.Algebra.Group.Nat.Defs
import Mathlib.Algebra.Group.Int.Defs
import Mathlib.Data.Int.Notation
import Mathlib.Data.List.Nodup
import Mathlib.Data.Nat.Notation
import Mathlib.Data.Option.Basic

/-!
# JSON values

`Json` is a JSON value as a parser reads it: objects keep their members in the order of the
text, repetitions included.  The two ways of consuming one differ exactly there.

* The *value* view (`get`, `index`, `pointer`, `asStr`, …) looks a key up in the map the
  members are inserted into, so the last member of a name counts.
* The *record* view (`field`) reads a member into a field of a record: unknown members are
  skipped, a missing one is an error, and so is a repeated one.

`concat` and `set?` are the two updates a relational store offers on a JSON column.
-/

/-- A number: a natural, a negative integer, or the text of anything else. -/
inductive JsonNumber
  | Nat (n : ℕ)
  | Neg (n : ℕ)
  | Float (text : String)
  deriving DecidableEq, Repr

inductive Json
  | Null
  | Boolean (b : Bool)
  | Num (n : JsonNumber)
  | Str (s : String)
  | Arr (items : List Json)
  | Obj (members : List (String × Json))

namespace Json

/-! ## The value view -/

/-- The member `k`, if the value is an object that has one; the last one counts. -/
def get : Json → String → Option Json
  | .Obj members, k => (members.reverse.find? fun m => decide (m.1 = k)).map Prod.snd
  | _, _ => none

/-- The member `k`, or null. -/
def index (j : Json) (k : String) : Json := (j.get k).getD .Null

/-- The value at a path of member names. -/
def pointer (j : Json) : List String → Option Json
  | [] => some j
  | k :: ks => (j.get k).bind fun j' => j'.pointer ks

def asStr : Json → Option String
  | .Str s => some s
  | _ => none

def asBool : Json → Option Bool
  | .Boolean b => some b
  | _ => none

/-- A non-negative integer that fits 64 bits. -/
def asU64 : Json → Option ℕ
  | .Num (.Nat n) => if n < 2 ^ 64 then some n else none
  | _ => none

def asArray : Json → Option (List Json)
  | .Arr items => some items
  | _ => none

def isObject : Json → Bool
  | .Obj _ => true
  | _ => false

def isNull : Json → Bool
  | .Null => true
  | _ => false

/-- The text at a path, as a store extracts it; the paths read this way hold text. -/
def textAt (j : Json) (path : List String) : Option String := (j.pointer path).bind asStr

/-! ## The record view -/

/-- The one member `k` of an object, read by `decode`. -/
def field {α : Type} (j : Json) (k : String) (decode : Json → Except String α) :
    Except String α :=
  match j with
  | .Obj members =>
      match members.filter fun m => decide (m.1 = k) with
      | [] => .error ("missing field `" ++ k ++ "`")
      | [m] => decode m.2
      | _ => .error ("duplicate field `" ++ k ++ "`")
  | _ => .error "invalid type, expected a record"

/-- A member that may be absent or null. -/
def optionalField {α : Type} (j : Json) (k : String) (decode : Json → Except String α) :
    Except String (Option α) :=
  match j with
  | .Obj members =>
      match members.filter fun m => decide (m.1 = k) with
      | [] => .ok none
      | [m] => if m.2.isNull then .ok none else (decode m.2).map some
      | _ => .error ("duplicate field `" ++ k ++ "`")
  | _ => .error "invalid type, expected a record"

/-- A record is also read from an array of all its fields. -/
def record (names : List String) : Json → Json
  | .Arr items => if items.length = names.length then .Obj (names.zip items) else .Arr items
  | j => j

lemma record_of_isObject {j : Json} (h : j.isObject = true) (names : List String) :
    j.record names = j := by
  cases j with
  | Obj members => rfl
  | _ => cases h

def decodeStr : Json → Except String String
  | .Str s => .ok s
  | _ => .error "invalid type, expected a string"

def decodeNat (bits : ℕ) : Json → Except String ℕ
  | .Num (.Nat n) => if n < 2 ^ bits then .ok n else .error "invalid value, out of range"
  | _ => .error "invalid type, expected an integer"

/-- A signed 64-bit integer. -/
def decodeI64 : Json → Except String ℤ
  | .Num (.Nat n) => if n < 2 ^ 63 then .ok n else .error "invalid value, out of range"
  | .Num (.Neg n) => if n ≤ 2 ^ 63 then .ok (-n) else .error "invalid value, out of range"
  | _ => .error "invalid type, expected an integer"

def decodeByte (j : Json) : Except String UInt8 := (decodeNat 8 j).map UInt8.ofNat

def decodeList {α : Type} (decode : Json → Except String α) : Json → Except String (List α)
  | .Arr items => items.mapM decode
  | _ => .error "invalid type, expected a sequence"

/-- A byte vector is an array of numbers. -/
def ofBytes (bytes : List UInt8) : Json := .Arr (bytes.map fun b => .Num (.Nat b.toNat))

def decodeBytes : Json → Except String (List UInt8) := decodeList decodeByte

@[simp] lemma isNull_ofBytes (bytes : List UInt8) : (ofBytes bytes).isNull = false := rfl

lemma decodeByte_ofByte (b : UInt8) : decodeByte (.Num (.Nat b.toNat)) = .ok b := by
  have hb : b.toNat < 2 ^ 8 := b.toNat_lt
  simp only [decodeByte, decodeNat]
  rw [if_pos hb]
  exact congrArg Except.ok UInt8.ofNat_toNat

@[simp] lemma decodeBytes_ofBytes (bytes : List UInt8) :
    decodeBytes (ofBytes bytes) = .ok bytes := by
  simp only [decodeBytes, ofBytes, decodeList]
  induction bytes with
  | nil => rfl
  | cons b bytes ih =>
      rw [List.map_cons, List.mapM_cons, decodeByte_ofByte, ih]
      rfl

/-- A field that was read is what the value view sees. -/
lemma decode_index_of_field {α : Type} {j : Json} {k : String} {decode : Json → Except String α}
    {a : α} (h : j.field k decode = .ok a) : decode (j.index k) = .ok a := by
  unfold field at h
  split at h
  · next members =>
      split at h
      · cases h
      · next m hm =>
          have hfind : (members.reverse.find? fun m => decide (m.1 = k)) = some m := by
            rw [← List.head?_filter, List.filter_reverse, hm]
            rfl
          rw [index, get, hfind]
          exact h
      · cases h
  · cases h

lemma eq_str_of_decodeStr {j : Json} {s : String} (h : decodeStr j = .ok s) : j = .Str s := by
  cases j <;> simp [decodeStr] at h
  rw [h]

/-- The elements of a sequence that was read are read from its items. -/
lemma exists_of_mem_decodeList {α : Type} {decode : Json → Except String α} {j : Json}
    {as : List α} (h : decodeList decode j = .ok as) {a : α} (ha : a ∈ as) :
    ∃ items, j.asArray = some items ∧ ∃ item ∈ items, decode item = .ok a := by
  cases j with
  | Arr items =>
      refine ⟨items, rfl, ?_⟩
      rw [decodeList] at h
      induction items generalizing as with
      | nil =>
          cases h
          cases ha
      | cons item items ih =>
          rw [List.mapM_cons] at h
          cases hitem : decode item with
          | error e => rw [hitem] at h; cases h
          | ok b =>
              cases hrest : items.mapM decode with
              | error e => rw [hitem, hrest] at h; cases h
              | ok bs =>
                  rw [hitem, hrest] at h
                  cases h
                  rcases List.mem_cons.mp ha with rfl | ha
                  · exact ⟨item, List.mem_cons_self, hitem⟩
                  · obtain ⟨item', hmem, hread⟩ := ih ha hrest
                    exact ⟨item', List.mem_cons_of_mem _ hmem, hread⟩
  | _ => cases h

lemma asArray_index {j : Json} {k : String} {items : List Json}
    (h : (j.index k).asArray = some items) : (j.get k).bind asArray = some items := by
  cases hget : j.get k with
  | none => rw [index, hget] at h; cases h
  | some v => rw [index, hget] at h; exact h

/-! ## Updates of a JSON column -/

/-- The items of an array; any other value counts as one item. -/
def items : Json → List Json
  | .Arr items => items
  | j => [j]

/-- `a || b`: the union of two objects, in which the right one wins; anything else is
concatenated as arrays. -/
def concat : Json → Json → Json
  | .Obj a, .Obj b => .Obj (a.filter (fun m => !b.any fun m' => decide (m'.1 = m.1)) ++ b)
  | a, b => .Arr (a.items ++ b.items)

/-- Set one member of an object; other values have no members to set. -/
def set? (j : Json) (k : String) (v : Json) : Option Json :=
  match j with
  | .Obj members => some (.Obj (members.filter (fun m => !decide (m.1 = k)) ++ [(k, v)]))
  | _ => none

/-- Give a value a member; null becomes an object. -/
def assign? (j : Json) (k : String) (v : Json) : Option Json :=
  match j with
  | .Null => some (.Obj [(k, v)])
  | j => j.set? k v

lemma get_append (a b : List (String × Json)) (k : String) :
    get (.Obj (a ++ b)) k = (get (.Obj b) k).or (get (.Obj a) k) := by
  simp only [get, List.reverse_append, List.find?_append]
  cases List.find? (fun m => decide (m.1 = k)) b.reverse <;> simp

lemma get_set_self {j j' : Json} {k : String} {v : Json} (h : j.set? k v = some j') :
    j'.get k = some v := by
  unfold set? at h
  split at h
  · rw [← Option.some.inj h, get_append]
    simp [get]
  · cases h

lemma isObject_of_set {j j' : Json} {k : String} {v : Json} (h : j.set? k v = some j') :
    j'.isObject = true := by
  unfold set? at h
  split at h
  · rw [← Option.some.inj h]
    rfl
  · cases h

lemma set_of_isObject {j : Json} (h : j.isObject = true) (k : String) (v : Json) :
    ∃ j', j.set? k v = some j' := by
  cases j with
  | Obj members => exact ⟨_, rfl⟩
  | _ => cases h

/-! ## Objects as maps -/

lemma isSome_get {members : List (String × Json)} {k : String} :
    ((Obj members).get k).isSome = true ↔ k ∈ members.map Prod.fst := by
  simp [get]

lemma get_eq_some_of_mem {members : List (String × Json)} {k : String} {v : Json}
    (hnodup : (members.map Prod.fst).Nodup) (hmem : (k, v) ∈ members) :
    (Obj members).get k = some v := by
  have hk : k ∈ members.map Prod.fst := List.mem_map.mpr ⟨(k, v), hmem, rfl⟩
  obtain ⟨v', hget⟩ := Option.isSome_iff_exists.mp (isSome_get.mpr hk)
  obtain ⟨m, hfind, rfl⟩ := Option.map_eq_some_iff.mp hget
  have hm : m ∈ members := List.mem_reverse.mp (List.mem_of_find?_eq_some hfind)
  have hkey : m.1 = k := by simpa using List.find?_some hfind
  have hsame : m = (k, v) := List.inj_on_of_nodup_map hnodup hm hmem hkey
  rw [hget, hsame]

/-- Two objects with the same members. -/
def SameMembers (j j' : Json) : Prop :=
  j.isObject = true ∧ j'.isObject = true ∧ ∀ k, j.get k = j'.get k

/-- An object has the given members if it has no other and each of them. -/
lemma sameMembers_obj_iff {j : Json} {members : List (String × Json)}
    (hnodup : (members.map Prod.fst).Nodup) :
    j.SameMembers (.Obj members) ↔ j.isObject = true
      ∧ (∀ k, (j.get k).isSome = true → k ∈ members.map Prod.fst)
      ∧ ∀ m ∈ members, j.get m.1 = some m.2 := by
  constructor
  · rintro ⟨hobject, -, hget⟩
    refine ⟨hobject, fun k hk => ?_, fun m hm => ?_⟩
    · rw [hget] at hk
      exact isSome_get.mp hk
    · rw [hget]
      exact get_eq_some_of_mem hnodup hm
  · rintro ⟨hobject, hkeys, hmembers⟩
    refine ⟨hobject, rfl, fun k => ?_⟩
    by_cases hk : k ∈ members.map Prod.fst
    · obtain ⟨m, hm, rfl⟩ := List.mem_map.mp hk
      rw [hmembers m hm, get_eq_some_of_mem hnodup hm]
    · have hj : j.get k = none := by
        rw [← Option.not_isSome_iff_eq_none]
        exact fun h => hk (hkeys k h)
      have hobj : (Obj members).get k = none := by
        rw [← Option.not_isSome_iff_eq_none]
        exact fun h => hk (isSome_get.mp h)
      rw [hj, hobj]

lemma asStr_eq_some {j : Json} {s : String} : j.asStr = some s ↔ j = .Str s := by
  cases j <;> simp [asStr]

lemma asU64_eq_some {j : Json} {n : ℕ} : j.asU64 = some n ↔ j = .Num (.Nat n) ∧ n < 2 ^ 64 := by
  constructor
  · intro h
    unfold asU64 at h
    split at h
    · next m =>
        split at h
        · next hm =>
            obtain rfl := Option.some.inj h
            exact ⟨rfl, hm⟩
        · cases h
    · cases h
  · rintro ⟨rfl, hn⟩
    exact if_pos hn

/-! ## The order of members -/

/-- The same value, up to the order of the members of its objects. -/
inductive Reordered : Json → Json → Prop
  | Refl (j : Json) : Reordered j j
  | Symm {j k : Json} : Reordered j k → Reordered k j
  | Trans {j k l : Json} : Reordered j k → Reordered k l → Reordered j l
  | Arr {items items' : List Json} :
      List.Forall₂ Reordered items items' → Reordered (.Arr items) (.Arr items')
  | Obj {members members' : List (String × Json)} :
      members.map Prod.fst = members'.map Prod.fst →
      List.Forall₂ Reordered (members.map Prod.snd) (members'.map Prod.snd) →
      Reordered (.Obj members) (.Obj members')
  | Perm {members members' : List (String × Json)} :
      members.Perm members' → Reordered (.Obj members) (.Obj members')

end Json
