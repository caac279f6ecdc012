import Vaulted.Library.Checks
import Vaulted.Oracle.PublicMetadata

/-!
# What public metadata may say

* `HasKey` — a key of an object, at any depth.
* `Names` — a key contains a term, in whatever case its ASCII letters are.
* `rejectSensitive_iff` — the keys are searched at every depth.
* `Safe` — what is asked of metadata, with the empty text for a missing one.
* **`passes_iff_safe`** — exactly safe metadata passes.  So metadata without an address passes where
  the address is the empty text, which `publishVaultMetadata` refuses before.
-/

namespace Vaulted.Vaults

/-! ## Keys -/

/-- A key of an object somewhere in a value. -/
inductive HasKey (key : String) : Json → Prop
  | Member {members : List (String × Json)} (j : Json) :
      (key, j) ∈ members → HasKey key (.Obj members)
  | InMember {members : List (String × Json)} (m : String × Json) :
      m ∈ members → HasKey key m.2 → HasKey key (.Obj members)
  | InItem {items : List Json} (j : Json) : j ∈ items → HasKey key j → HasKey key (.Arr items)

/-- Part of a key is the term, up to the case of ASCII letters. -/
def Names (key term : String) : Prop :=
  ∃ part, part.toList <:+: key.toList ∧ Text.eqIgnoreAsciiCase part term = true

lemma lower_forbiddenKeys : ∀ term ∈ forbiddenKeys, term.toList.map Char.toLower = term.toList := by
  have hall : (forbiddenKeys.all fun term => term.toList.map Char.toLower == term.toList) = true := by
    decide +kernel
  exact fun term hterm => beq_iff_eq.mp (List.all_eq_true.mp hall term hterm)

lemma infix_map_iff {f : Char → Char} {part cs : List Char} :
    part <:+: cs.map f ↔ ∃ part', part' <:+: cs ∧ part'.map f = part := by
  constructor
  · rintro ⟨front, back, h⟩
    obtain ⟨cs₁, cs₂, rfl, h₁, rfl⟩ := List.map_eq_append_iff.mp h.symm
    obtain ⟨cs₃, part', rfl, rfl, rfl⟩ := List.map_eq_append_iff.mp h₁
    exact ⟨part', ⟨cs₃, cs₂, rfl⟩, rfl⟩
  · rintro ⟨part', h, rfl⟩
    exact h.map f

lemma isForbidden_iff {key : String} :
    isForbidden key = true ↔ ∃ term ∈ forbiddenKeys, Names key term := by
  rw [isForbidden, List.any_eq_true]
  refine exists_congr fun term => and_congr_right fun hterm => ?_
  rw [Text.contains_iff, Text.toAsciiLowercase, String.toList_ofList, infix_map_iff]
  constructor
  · rintro ⟨part, hpart, heq⟩
    refine ⟨String.ofList part, by rwa [String.toList_ofList], ?_⟩
    rw [Text.eqIgnoreAsciiCase, String.toList_ofList, heq, lower_forbiddenKeys term hterm]
    exact decide_eq_true rfl
  · rintro ⟨part, hpart, heq⟩
    exact ⟨part.toList, hpart, (of_decide_eq_true heq).trans (lower_forbiddenKeys term hterm)⟩

lemma require_bind_eq_ok_iff {p : Prop} [Decidable p] {e : ApiError}
    {rest : Except ApiError Unit} :
    (do
      if p then
        Except.error e
      rest) = .ok () ↔ ¬p ∧ rest = .ok () := by
  split_ifs with hp
  · refine iff_of_false (fun h => ?_) fun h => h.1 hp
    cases h
  · exact ⟨fun h => ⟨hp, h⟩, fun h => h.2⟩

mutual

/-- **Every key is looked at**, at every depth. -/
lemma rejectSensitive_iff : ∀ j : Json, rejectSensitivePublicMetadataKeys j = .ok ()
    ↔ ∀ key, HasKey key j → isForbidden key = false
  | .Null | .Boolean _ | .Num _ | .Str _ => by
      rw [rejectSensitivePublicMetadataKeys]
      · refine iff_of_true rfl fun key h => ?_
        cases h
      all_goals simp
  | .Arr items => by
      rw [rejectSensitivePublicMetadataKeys, rejectSensitiveItems_iff items]
      constructor
      · rintro h key (_ | _ | ⟨j, hj, hkey⟩)
        exact h j hj key hkey
      · exact fun h j hj key hkey => h key (.InItem j hj hkey)
  | .Obj members => by
      rw [rejectSensitivePublicMetadataKeys, rejectSensitiveMembers_iff members]
      constructor
      · rintro h key (⟨j, hmem⟩ | ⟨m, hm, hkey⟩ | _)
        · exact (h _ hmem).1
        · exact (h m hm).2 key hkey
      · exact fun h m hm => ⟨h m.1 (.Member m.2 hm), fun key hkey => h key (.InMember m hm hkey)⟩

lemma rejectSensitiveItems_iff : ∀ items : List Json, rejectSensitiveItems items = .ok ()
    ↔ ∀ j ∈ items, ∀ key, HasKey key j → isForbidden key = false
  | [] => by simp [rejectSensitiveItems]
  | j :: items => by
      rw [rejectSensitiveItems, List.forall_mem_cons, ← rejectSensitive_iff j,
        ← rejectSensitiveItems_iff items, Checks.bind_eq_ok_iff]
      exact ⟨fun ⟨_, hj, hitems⟩ => ⟨hj, hitems⟩, fun ⟨hj, hitems⟩ => ⟨(), hj, hitems⟩⟩

lemma rejectSensitiveMembers_iff : ∀ members : List (String × Json),
    rejectSensitiveMembers members = .ok () ↔ ∀ m ∈ members, isForbidden m.1 = false
      ∧ ∀ key, HasKey key m.2 → isForbidden key = false
  | [] => by simp [rejectSensitiveMembers]
  | (key, j) :: members => by
      rw [rejectSensitiveMembers, List.forall_mem_cons, ← rejectSensitive_iff j,
        ← rejectSensitiveMembers_iff members, require_bind_eq_ok_iff, Bool.not_eq_true, and_assoc]
      refine and_congr_right fun _ => Checks.bind_eq_ok_iff.trans ?_
      exact ⟨fun ⟨_, hj, hmembers⟩ => ⟨hj, hmembers⟩, fun ⟨hj, hmembers⟩ => ⟨(), hj, hmembers⟩⟩

end

/-! ## Metadata -/

/-- The text at a path, and the empty one where there is none. -/
structure Safe (metadata : Json) (manifestHash metadataUri : String) : Prop where
  isObject : metadata.isObject = true
  name : ∃ s, metadata.get "name" = some (.Str s) ∧ s ≠ ""
  image : ∃ s, metadata.get "image" = some (.Str s) ∧ s ≠ ""
  externalUrl : ((metadata.get "external_url").bind Json.asStr).getD "" = metadataUri
  manifestHash : (((metadata.get "properties").bind fun properties =>
    properties.get "manifest_hash").bind Json.asStr).getD "" = manifestHash
  keys : ∀ key, HasKey key metadata → ∀ term ∈ forbiddenKeys, ¬Names key term

lemma metadataText_singleton {metadata : Json} {name : String} :
    metadataText metadata [name] = ((metadata.get name).bind Json.asStr).getD "" := by
  simp [metadataText, Json.textAt, Json.pointer]

lemma metadataText_pair {metadata : Json} {outer inner : String} :
    metadataText metadata [outer, inner]
      = (((metadata.get outer).bind fun j => j.get inner).bind Json.asStr).getD "" := by
  simp [metadataText, Json.textAt, Json.pointer]

lemma metadataText_filled_iff {metadata : Json} {name : String} :
    ¬Text.isEmpty (metadataText metadata [name]) = true
      ↔ ∃ s, metadata.get name = some (.Str s) ∧ s ≠ "" := by
  rw [Text.isEmpty_iff, metadataText_singleton]
  constructor
  · intro h
    cases hget : metadata.get name with
    | none => exact absurd (by rw [hget]; rfl) h
    | some j =>
        cases j with
        | Str s =>
            refine ⟨s, rfl, fun hs => h ?_⟩
            rw [hget, hs]
            rfl
        | Null | Boolean _ | Num _ | Arr _ | Obj _ => exact absurd (by rw [hget]; rfl) h
  · rintro ⟨s, hget, hs⟩ hempty
    rw [hget] at hempty
    exact hs hempty

/-- **Exactly safe metadata passes.** -/
theorem passes_iff_safe (metadata : Json) (manifestHash metadataUri : String) :
    validatePublicMetadataSafety metadata manifestHash metadataUri = .ok ()
      ↔ Safe metadata manifestHash metadataUri := by
  have hkeys : (∀ key, HasKey key metadata → isForbidden key = false)
      ↔ ∀ key, HasKey key metadata → ∀ term ∈ forbiddenKeys, ¬Names key term := by
    refine forall_congr' fun key => imp_congr_right fun _ => ?_
    rw [← Bool.not_eq_true, isForbidden_iff]
    exact ⟨fun h term hterm hnames => h ⟨term, hterm, hnames⟩,
      fun h ⟨term, hterm, hnames⟩ => h term hterm hnames⟩
  rw [validatePublicMetadataSafety, require_bind_eq_ok_iff, require_bind_eq_ok_iff,
    require_bind_eq_ok_iff, require_bind_eq_ok_iff, require_bind_eq_ok_iff,
    metadataText_filled_iff, metadataText_filled_iff, rejectSensitive_iff, hkeys, Bool.not_eq_true',
    not_not, not_not, Bool.not_eq_false, metadataText_singleton, metadataText_pair]
  constructor
  · rintro ⟨isObject, name, image, externalUrl, manifestHash, keys⟩
    exact ⟨isObject, name, image, externalUrl, manifestHash, keys⟩
  · rintro ⟨isObject, name, image, externalUrl, manifestHash, keys⟩
    exact ⟨isObject, name, image, externalUrl, manifestHash, keys⟩

/-! ## A sample -/

namespace Sample

/-- Metadata that leads nowhere. -/
def nowhere : Json :=
  .Obj [("name", .Str "Vault"), ("image", .Str "ipfs://cover"),
    ("properties", .Obj [("manifest_hash", .Str "ab12")])]

/-- Metadata without an address passes for the empty one. -/
theorem passes_without_address :
    ¬∀ (metadata : Json) (manifestHash metadataUri : String),
      validatePublicMetadataSafety metadata manifestHash metadataUri = .ok () ↔
        metadata.isObject = true
        ∧ (∃ s, metadata.get "name" = some (.Str s) ∧ s ≠ "")
        ∧ (∃ s, metadata.get "image" = some (.Str s) ∧ s ≠ "")
        ∧ metadata.get "external_url" = some (.Str metadataUri)
        ∧ (metadata.get "properties").bind (fun properties => properties.get "manifest_hash")
            = some (.Str manifestHash)
        ∧ ∀ key, HasKey key metadata → ∀ term ∈ forbiddenKeys, ¬Names key term := by
  intro h
  have hpasses : validatePublicMetadataSafety nowhere "ab12" "" = .ok () := by decide +kernel
  have hurl : nowhere.get "external_url" = none := by decide +kernel
  obtain ⟨-, -, -, hfound, -⟩ := (h nowhere "ab12" "").mp hpasses
  rw [hurl] at hfound
  cases hfound

end Sample

end Vaulted.Vaults
