import Vaulted.Library.JsonInjective
import Vaulted.Vault.GrantBinding

/-!
# What the canonical form of JSON forgets

Permissions and envelopes are hashed in their canonical form.

* `JsonValue` — values as the JSON library holds them; `toVec` — their bytes.
* `canonicalJson_idem` — the canonical form is its own canonical form.
* `oneForm_of_reordered` — it does not depend on the order of members, at any depth.
* **`canonical_iff`** — bytes and hashes of two values agree exactly if the values differ in the order
  of members at most.
-/

namespace Vaulted.VaultObjects

abbrev JsonValue := { j : Json // j.Value }

/-- `serde_json::to_vec`. -/
def toVec (j : Json) : List UInt8 := Text.utf8 (JsonText.compact.jsonToString j)

instance : Std.Total fun a b : String × Json => a.1 ≤ b.1 := ⟨fun a b => String.le_total a.1 b.1⟩

instance : IsTrans (String × Json) fun a b => a.1 ≤ b.1 := ⟨fun _ _ _ => String.le_trans⟩

/-! ## The canonical form -/

lemma keys_sorted (members : List (String × Json)) :
    ((members.insertionSort fun a b => a.1 ≤ b.1).map Prod.fst).Perm (members.map Prod.fst) :=
  (List.perm_insertionSort _ members).map _

lemma value_canonicalJson {j : Json} (h : j.Value) : (canonicalJson j).Value := by
  induction j using canonicalJson.induct with
  | case1 items ih =>
      cases h with
      | Arr _ hitems =>
          rw [canonicalJson_arr]
          refine .Arr _ fun k hk => ?_
          obtain ⟨j, hj, rfl⟩ := List.mem_map.mp hk
          exact ih j hj (hitems j hj)
  | case2 members ih =>
      cases h with
      | Obj _ hnodup hmembers =>
          rw [canonicalJson_obj]
          refine .Obj _ ?_ fun m hm => ?_
          · rw [(keys_sorted _).nodup_iff, List.map_map]
            exact hnodup
          · obtain ⟨m', hm', rfl⟩ := List.mem_map.mp ((List.mem_insertionSort _).mp hm)
            exact ih m' hm' (hmembers m' hm')
  | case3 j harr hobj =>
      rw [canonicalJson]
      · exact h
      · exact harr
      · exact hobj

/-- **The canonical form is its own canonical form.** -/
theorem canonicalJson_idem (j : Json) : canonicalJson (canonicalJson j) = canonicalJson j := by
  induction j using canonicalJson.induct with
  | case1 items ih =>
      rw [canonicalJson_arr, canonicalJson_arr, List.map_map]
      exact congrArg _ (List.map_congr_left ih)
  | case2 members ih =>
      rw [canonicalJson_obj, canonicalJson_obj]
      -- the members are canonical already, and stay in order
      have hfixed : ∀ m ∈ (members.map fun m => (m.1, canonicalJson m.2)).insertionSort
          fun a b => a.1 ≤ b.1, (m.1, canonicalJson m.2) = m := by
        intro m hm
        obtain ⟨m', hm', rfl⟩ := List.mem_map.mp ((List.mem_insertionSort _).mp hm)
        exact congrArg (Prod.mk m'.1) (ih m' hm')
      rw [List.map_congr_left hfixed, List.map_id',
        (List.pairwise_insertionSort _ _).insertionSort_eq]
  | case3 j harr hobj =>
      have hleaf : canonicalJson j = j := by
        rw [canonicalJson]
        · exact harr
        · exact hobj
      rw [hleaf, hleaf]

/-! ## The order of members -/

/-- Values with one canonical form. By induction they are the same up to the order of members. -/
def OneForm (j k : Json) : Prop :=
  (j.Value ↔ k.Value) ∧ (j.Value → canonicalJson j = canonicalJson k)

lemma value_arr_iff {items : List Json} : (Json.Arr items).Value ↔ ∀ j ∈ items, j.Value := by
  constructor
  · rintro (_ | _ | _ | _ | ⟨_, h⟩ | _)
    exact h
  · exact .Arr items

lemma value_obj_iff {members : List (String × Json)} : (Json.Obj members).Value
    ↔ (members.map Prod.fst).Nodup ∧ ∀ j ∈ members.map Prod.snd, j.Value := by
  rw [List.forall_mem_map]
  constructor
  · rintro (_ | _ | _ | _ | _ | ⟨_, hnodup, h⟩)
    exact ⟨hnodup, h⟩
  · rintro ⟨hnodup, h⟩
    exact .Obj members hnodup h

/-- Lists of values with one canonical form each. -/
lemma oneForm_items {items items' : List Json} (h : List.Forall₂ OneForm items items') :
    ((∀ j ∈ items, j.Value) ↔ ∀ j ∈ items', j.Value)
      ∧ ((∀ j ∈ items, j.Value) → items.map canonicalJson = items'.map canonicalJson) := by
  induction h with
  | nil => exact ⟨Iff.rfl, fun _ => rfl⟩
  | cons hhead _ ih =>
      simp only [List.forall_mem_cons, List.map_cons]
      refine ⟨and_congr hhead.1 ih.1, fun ⟨hvalue, hvalues⟩ => ?_⟩
      rw [hhead.2 hvalue, ih.2 hvalues]

lemma oneForm_arr {items items' : List Json} (h : List.Forall₂ OneForm items items') :
    OneForm (.Arr items) (.Arr items') := by
  obtain ⟨hvalues, hforms⟩ := oneForm_items h
  refine ⟨value_arr_iff.trans (hvalues.trans value_arr_iff.symm), fun hvalue => ?_⟩
  rw [canonicalJson_arr, canonicalJson_arr, hforms (value_arr_iff.mp hvalue)]

lemma map_members (members : List (String × Json)) :
    (members.map fun m => (m.1, canonicalJson m.2))
      = (members.map Prod.fst).zip ((members.map Prod.snd).map canonicalJson) := by
  rw [List.map_map, List.zip_map']
  rfl

lemma oneForm_obj {members members' : List (String × Json)}
    (hkeys : members.map Prod.fst = members'.map Prod.fst)
    (h : List.Forall₂ OneForm (members.map Prod.snd) (members'.map Prod.snd)) :
    OneForm (.Obj members) (.Obj members') := by
  obtain ⟨hvalues, hforms⟩ := oneForm_items h
  refine ⟨value_obj_iff.trans (Iff.trans ?_ value_obj_iff.symm), fun hvalue => ?_⟩
  · rw [hkeys, hvalues]
  · rw [canonicalJson_obj, canonicalJson_obj, map_members, map_members, hkeys,
      hforms (value_obj_iff.mp hvalue).2]

/-- Sorting by different names forgets the order. -/
lemma oneForm_perm {members members' : List (String × Json)} (h : members.Perm members') :
    OneForm (.Obj members) (.Obj members') := by
  constructor
  · rw [value_obj_iff, value_obj_iff, (h.map _).nodup_iff]
    exact and_congr_right' (forall_congr' fun j => by rw [(h.map _).mem_iff])
  · intro hvalue
    have hmap := h.map fun m : String × Json => (m.1, canonicalJson m.2)
    have hnodup : ((members.map fun m => (m.1, canonicalJson m.2)).map Prod.fst).Nodup := by
      rw [List.map_map]
      exact (value_obj_iff.mp hvalue).1
    rw [canonicalJson_obj, canonicalJson_obj]
    refine congrArg _ (List.Perm.eq_of_pairwise (fun a b ha hb hab hba => ?_)
      (List.pairwise_insertionSort _ _) (List.pairwise_insertionSort _ _)
      (((List.perm_insertionSort _ _).trans hmap).trans (List.perm_insertionSort _ _).symm))
    have ha' := (List.mem_insertionSort _).mp ha
    have hb' := hmap.mem_iff.mpr ((List.mem_insertionSort _).mp hb)
    exact List.inj_on_of_nodup_map hnodup ha' hb' (String.le_antisymm hab hba)

/-- **The canonical form does not depend on the order of members**, at any depth. -/
theorem oneForm_of_reordered {j k : Json} (h : j.Reordered k) : OneForm j k := by
  refine @Json.Reordered.rec (fun j k _ => OneForm j k)
    (fun items items' _ => List.Forall₂ OneForm items items') ?_ ?_ ?_ ?_ ?_ ?_ ?_ ?_ j k h
  · exact fun j => ⟨Iff.rfl, fun _ => rfl⟩
  · exact fun _ h => ⟨h.1.symm, fun hvalue => (h.2 (h.1.mpr hvalue)).symm⟩
  · exact fun _ _ h h' => ⟨h.1.trans h'.1, fun hvalue => (h.2 hvalue).trans (h'.2 (h.1.mp hvalue))⟩
  · exact fun _ h => oneForm_arr h
  · exact fun hkeys _ h => oneForm_obj hkeys h
  · exact oneForm_perm
  · exact .nil
  · exact fun _ _ hhead htail => .cons hhead htail

/-! ## Bytes and hashes -/

/-- The canonical forms have the same bytes exactly if the values are the same up to the order of
members. -/
lemma toVec_canonicalJson_iff (j k : JsonValue) :
    toVec (canonicalJson j.val) = toVec (canonicalJson k.val) ↔ j.val.Reordered k.val := by
  constructor
  · intro h
    have htext : JsonText.print (canonicalJson j.val) = JsonText.print (canonicalJson k.val) := by
      have hstring := congrArg String.toList (Text.utf8_injective h)
      rwa [JsonText.compact, String.toList_ofList, String.toList_ofList] at hstring
    have heq := JsonText.print_injective (value_canonicalJson j.2) (value_canonicalJson k.2) htext
    exact (reordered_canonicalJson j.val).Trans (heq ▸ (reordered_canonicalJson k.val).Symm)
  · intro h
    rw [(oneForm_of_reordered h).2 j.2]

/-- **The canonical form identifies values exactly up to the order of members**: it is idempotent,
and its bytes and its hash are those of no other value. By induction over the value, with the
members of an object sorted by their keys at every depth. -/
theorem canonical_iff (state : AppState)
    (hsha : ∀ bytes bytes', state.sha256 bytes = state.sha256 bytes' → bytes = bytes') :
    (∀ j, canonicalJson (canonicalJson j) = canonicalJson j)
      ∧ ∀ j k : JsonValue,
        (toVec (canonicalJson j.val) = toVec (canonicalJson k.val) ↔ j.val.Reordered k.val)
        ∧ (stableJsonSha256Hex state JsonText.compact j.val
            = stableJsonSha256Hex state JsonText.compact k.val ↔ j.val.Reordered k.val) := by
  refine ⟨canonicalJson_idem, fun j k => ⟨toVec_canonicalJson_iff j k, ?_⟩⟩
  rw [← toVec_canonicalJson_iff j k]
  constructor
  · exact fun h => hsha _ _ (Text.hexEncode_injective h)
  · exact fun h => congrArg (fun bytes => Text.hexEncode (state.sha256 bytes)) h

namespace Sample

/-- With a hash that has the digests of two values. -/
theorem canonical_hashing : (∀ j, canonicalJson (canonicalJson j) = canonicalJson j)
    ∧ ∀ j k : JsonValue,
      (toVec (canonicalJson j.val) = toVec (canonicalJson k.val) ↔ j.val.Reordered k.val)
      ∧ (stableJsonSha256Hex hashing JsonText.compact j.val
          = stableJsonSha256Hex hashing JsonText.compact k.val ↔ j.val.Reordered k.val) :=
  canonical_iff hashing sha256_injective

end Sample

end Vaulted.VaultObjects
