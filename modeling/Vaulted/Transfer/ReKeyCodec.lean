import Vaulted.Crypto.Symbolic
import Vaulted.Library.Checks
import Vaulted.Library.JsonText
import Vaulted.Oracle.Transfers

/-!
# Re-encryption keys as texts

The client writes a re-encryption key as base64 of JSON, and the Oracle reads it.

* `deserializeReKey_serialized` — a key that is written is read as it was.
* `deserializeReKey_eq_ok_iff` — reading, said once: the arrays have to be there, and that is all.
* `Strict` — what is read has bytes only; `strict_iff` — which texts are read strictly.
-/

namespace Vaulted.Transfers

variable {u : Umbral} {codec : TextCodec}

/-! ## There and back -/

lemma bytesOf_ofBytes (bytes : List UInt8) :
    bytesOf (bytes.map fun b => .Num (.Nat b.toNat)) = bytes := by
  induction bytes with
  | nil => rfl
  | cons b bytes ih =>
      have hb : b.toNat < 2 ^ 64 := lt_of_lt_of_le b.toNat_lt (by decide)
      simp only [bytesOf, List.map_cons, List.filterMap_cons, Json.asU64, if_pos hb,
        Option.map_some, UInt8.ofNat_toNat]
      exact congrArg _ ih

/-- What a client writes. -/
def serialized (kfrags : List u.KeyFrag) (sender : Pre.PreKeyPair u) : ReKeyData where
  kfrags := kfrags.map u.keyFragToBytes
  senderPk := u.publicKeyToBytes sender.publicKey
  senderVerifyingKey := some sender.exportVerifyingKeyBytes

lemma plain_serialized (kfrags : List u.KeyFrag) (sender : Pre.PreKeyPair u) : Json.Plain (.Obj
    [("kfrags", .Arr (kfrags.map fun k => .ofBytes (u.keyFragToBytes k))),
     ("sender_pk", .ofBytes (u.publicKeyToBytes sender.publicKey)),
     ("sender_verifying_key", .ofBytes sender.exportVerifyingKeyBytes)]) := by
  refine .Obj _ fun m hm => ?_
  simp only [List.mem_cons, List.not_mem_nil, or_false] at hm
  rcases hm with rfl | rfl | rfl
  · refine .Arr _ fun j hj => ?_
    obtain ⟨k, -, rfl⟩ := List.mem_map.mp hj
    exact Json.plain_ofBytes _
  · exact Json.plain_ofBytes _
  · exact Json.plain_ofBytes _

lemma depth_serialized (kfrags : List u.KeyFrag) (sender : Pre.PreKeyPair u) : (Json.Obj
    [("kfrags", .Arr (kfrags.map fun k => .ofBytes (u.keyFragToBytes k))),
     ("sender_pk", .ofBytes (u.publicKeyToBytes sender.publicKey)),
     ("sender_verifying_key", .ofBytes sender.exportVerifyingKeyBytes)]).depth ≤ 127 := by
  refine Json.depth_obj.mpr fun m hm => ?_
  simp only [List.mem_cons, List.not_mem_nil, or_false] at hm
  rcases hm with rfl | rfl | rfl
  · refine Json.depth_arr.mpr fun j hj => ?_
    obtain ⟨k, -, rfl⟩ := List.mem_map.mp hj
    exact (Json.depth_ofBytes _).trans (by decide)
  · exact (Json.depth_ofBytes _).trans (by decide)
  · exact (Json.depth_ofBytes _).trans (by decide)

/-! ## Reading -/

/-- The JSON value in a text. -/
def Parses (codec : TextCodec) (base64Data : String) (json : Json) : Prop :=
  ∃ bytes, codec.base64Decode base64Data = .ok bytes ∧ codec.jsonFromSlice bytes = .ok json

/-- The arrays that a key is read from. -/
structure Shaped (json : Json) (kfrags : List (List Json)) (senderPk : List Json) : Prop where
  kfrags : json.index "kfrags" = .Arr (kfrags.map .Arr)
  senderPk : json.index "sender_pk" = .Arr senderPk

lemma elim_asArray_eq_ok_iff {α : Type} {j : Json} {e : String} {f : List Json → Except String α}
    {a : α} : j.asArray.elim (.error e) f = .ok a ↔ ∃ items, j = .Arr items ∧ f items = .ok a := by
  cases j <;> simp [Json.asArray]

/-- The entries of `kfrags` are arrays, and what is read of each one is its bytes. -/
lemma forall₂_kfrags_iff {values : List Json} {out : List (List UInt8)} :
    List.Forall₂ (fun v o => ∃ items, v = Json.Arr items ∧ bytesOf items = o) values out
      ↔ ∃ kfrags : List (List Json), values = kfrags.map .Arr ∧ out = kfrags.map bytesOf := by
  constructor
  · intro h
    induction h with
    | nil => exact ⟨[], rfl, rfl⟩
    | cons hv _ ih =>
        obtain ⟨items, rfl, rfl⟩ := hv
        obtain ⟨kfrags, rfl, rfl⟩ := ih
        exact ⟨items :: kfrags, rfl, rfl⟩
  · rintro ⟨kfrags, rfl, rfl⟩
    rw [List.forall₂_map_left_iff, List.forall₂_map_right_iff]
    exact List.forall₂_same.mpr fun items _ => ⟨items, rfl, rfl⟩

/-- **Reading, said once**: the arrays have to be there. -/
theorem deserializeReKey_eq_ok_iff {base64Data : String} {d : ReKeyData} :
    deserializeReKey codec base64Data = .ok d ↔ ∃ json kfrags senderPk,
      Parses codec base64Data json ∧ Shaped json kfrags senderPk
        ∧ d = { kfrags := kfrags.map bytesOf
                senderPk := bytesOf senderPk
                senderVerifyingKey := (json.index "sender_verifying_key").asArray.map bytesOf } := by
  simp only [deserializeReKey, Checks.bind_eq_ok_iff, Pre.mapErr_eq_ok_iff,
    elim_asArray_eq_ok_iff, Checks.mapM_eq_ok_iff, forall₂_kfrags_iff, Except.ok.injEq]
  constructor
  · rintro ⟨bytes, hbytes, json, hjson, _, ⟨values, hvalues, rfl⟩, _, ⟨kfrags, rfl, rfl⟩, _,
      ⟨senderPk, hsenderPk, rfl⟩, rfl⟩
    exact ⟨json, kfrags, senderPk, ⟨bytes, hbytes, hjson⟩, ⟨hvalues, hsenderPk⟩, rfl⟩
  · rintro ⟨json, kfrags, senderPk, ⟨bytes, hbytes, hjson⟩, ⟨hvalues, hsenderPk⟩, rfl⟩
    exact ⟨bytes, hbytes, json, hjson, _, ⟨_, hvalues, rfl⟩, _, ⟨kfrags, rfl, rfl⟩, _,
      ⟨senderPk, hsenderPk, rfl⟩, rfl⟩

/-- **A key that is written is read as it was.** -/
theorem deserializeReKey_serialized (hc : codec.Lawful) (kfrags : List u.KeyFrag)
    (sender : Pre.PreKeyPair u) :
    deserializeReKey codec (Pre.reKeyToBase64Verified codec kfrags sender)
      = .ok (serialized kfrags sender) := by
  refine deserializeReKey_eq_ok_iff.mpr ⟨_, kfrags.map fun k =>
    (u.keyFragToBytes k).map fun b => .Num (.Nat b.toNat), _,
    ⟨_, hc.base64 _, hc.jsonFromSlice (plain_serialized kfrags sender)
      (depth_serialized kfrags sender)⟩, ⟨?_, rfl⟩, ?_⟩
  · rw [List.map_map]
    rfl
  · have hbytes : bytesOf ∘ (fun k => (u.keyFragToBytes k).map fun b => Json.Num (.Nat b.toNat))
        = u.keyFragToBytes := funext fun k => bytesOf_ofBytes _
    rw [List.map_map, hbytes, bytesOf_ofBytes]
    exact congrArg (ReKeyData.mk _ _) (congrArg some (bytesOf_ofBytes _).symm)

/-! ## Strictness -/

/-- An integer of 0 to 255. -/
def IsByte (j : Json) : Prop := ∃ n ≤ 255, j = .Num (.Nat n)

/-- The arrays of a key contain bytes only. -/
structure BytesOnly (json : Json) : Prop where
  kfrags : ∀ values, json.index "kfrags" = .Arr values →
    ∀ items, .Arr items ∈ values → ∀ j ∈ items, IsByte j
  senderPk : ∀ items, json.index "sender_pk" = .Arr items → ∀ j ∈ items, IsByte j
  senderVerifyingKey : ∀ items, json.index "sender_verifying_key" = .Arr items →
    ∀ j ∈ items, IsByte j

/-- A text is read only if it contains nothing but bytes. -/
def Strict (codec : TextCodec) (base64Data : String) : Prop :=
  ∀ d, deserializeReKey codec base64Data = .ok d →
    ∀ json, Parses codec base64Data json → BytesOnly json

/-- A text without the arrays, which is refused, or with nothing but bytes, of which nothing is
lost. -/
def Harmless (codec : TextCodec) (base64Data : String) : Prop :=
  ∀ json, Parses codec base64Data json →
    (∀ kfrags senderPk, ¬Shaped json kfrags senderPk) ∨ BytesOnly json

lemma Parses.unique {base64Data : String} {json json' : Json} (h : Parses codec base64Data json)
    (h' : Parses codec base64Data json') : json = json' := by
  obtain ⟨bytes, hbytes, hjson⟩ := h
  obtain ⟨bytes', hbytes', hjson'⟩ := h'
  obtain rfl := Except.ok.inj (hbytes.symm.trans hbytes')
  exact Except.ok.inj (hjson.symm.trans hjson')

/-- **Keys are read exactly, and a text is read strictly if and only if** it is harmless: the arrays
have to be there, but no check looks at their elements. A number is cut to its low byte, and what is
no number is dropped. -/
theorem reKeys_iff (hc : codec.Lawful) :
    (∀ (kfrags : List u.KeyFrag) sender,
      deserializeReKey codec (Pre.reKeyToBase64Verified codec kfrags sender)
        = .ok (serialized kfrags sender))
    ∧ ∀ base64Data, Strict codec base64Data ↔ Harmless codec base64Data := by
  refine ⟨deserializeReKey_serialized hc, fun base64Data => ⟨fun hstrict json hjson => ?_,
    fun hharmless d hd json hjson => ?_⟩⟩
  · refine or_iff_not_imp_left.mpr fun hshaped => ?_
    push Not at hshaped
    obtain ⟨kfrags, senderPk, hshaped⟩ := hshaped
    exact hstrict _ (deserializeReKey_eq_ok_iff.mpr ⟨json, kfrags, senderPk, hjson, hshaped, rfl⟩)
      json hjson
  · obtain ⟨json', kfrags, senderPk, hjson', hshaped, -⟩ := deserializeReKey_eq_ok_iff.mp hd
    obtain rfl := hjson.unique hjson'
    exact (hharmless json hjson).resolve_left fun hno => hno kfrags senderPk hshaped

namespace Sample

/-- One fragment with a number that is no byte, and a key with a text in it. -/
def malformed : Json :=
  .Obj [("kfrags", .Arr [.Arr [.Num (.Nat 256)]]), ("sender_pk", .Arr [.Str "7"])]

lemma plain_malformed : malformed.Plain := by
  refine .Obj _ (List.forall_mem_cons.mpr ⟨.Arr _ (List.forall_mem_singleton.mpr ?_),
    List.forall_mem_singleton.mpr ?_⟩)
  · exact .Arr _ (List.forall_mem_singleton.mpr (.Num 256 (by decide)))
  · exact .Arr _ (List.forall_mem_singleton.mpr (.Str "7"))

lemma parses_malformed :
    Parses JsonText.compact (JsonText.compact.toBase64 malformed) malformed :=
  ⟨_, JsonText.compact_lawful.base64 _, JsonText.compact_lawful.jsonFromSlice plain_malformed
    (by decide)⟩

theorem reKeys_compact :
    (∀ (kfrags : List Umbral.symbolic.KeyFrag) sender,
      deserializeReKey JsonText.compact
          (Pre.reKeyToBase64Verified JsonText.compact kfrags sender)
        = .ok (serialized kfrags sender))
    ∧ ∀ base64Data, Strict JsonText.compact base64Data ↔ Harmless JsonText.compact base64Data :=
  reKeys_iff JsonText.compact_lawful

/-- **A number that is no byte is cut down to one, and a text is dropped.** -/
theorem not_strict : ¬∀ base64Data, Strict JsonText.compact base64Data := by
  intro h
  have hread : deserializeReKey JsonText.compact (JsonText.compact.toBase64 malformed)
      = .ok { kfrags := [[0]], senderPk := [], senderVerifyingKey := none } :=
    deserializeReKey_eq_ok_iff.mpr ⟨malformed, [[.Num (.Nat 256)]], [.Str "7"], parses_malformed,
      ⟨rfl, rfl⟩, rfl⟩
  obtain ⟨n, -, hn⟩ := (h _ _ hread malformed parses_malformed).senderPk _ rfl (.Str "7")
    (List.mem_singleton_self _)
  cases hn

end Sample

end Vaulted.Transfers
