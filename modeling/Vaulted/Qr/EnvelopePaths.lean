import Vaulted.Crypto.Envelope
import Vaulted.Library.Checks
import Vaulted.Oracle.QrApproval

/-!
# One envelope on two paths

A grant is made directly or through a QR approval, and its envelope is opened by the client.

* `Accepted` — what both paths ask of an envelope that is sent with a grant.
* `same_result` — both accept the same inputs, with the same result.
* `stored_of_ok` — the envelope is stored as it was sent, for its recipient and with the key that
  is returned.
* `Usable` — the client reads the envelope, with this recipient and this key.
* `SnakeCase` — its members have the names that the client reads.
* **`agrees_iff`** — the two paths always agree; what they accept is usable exactly if it
  is in snake case, which they do not ask for.
-/

namespace Vaulted.EnvelopePaths

open VaultObjects QrApproval

/-! ## What is accepted -/

/-- An envelope for the recipient, and the text of the file key in it. -/
structure Accepted (value : Json) (recipientIdentityId key : String) : Prop where
  isObject : value.isObject = true
  validated : validateRecipientKeyEnvelope value recipientIdentityId = .ok ()
  key : ((getEither value "encrypted_file_key" "encryptedFileKey").bind Json.asStr).filter isFilled
    = some key

lemma okOr_eq_ok_iff {α : Type} {o : Option α} {e : ApiError} {a : α} :
    okOr o e = .ok a ↔ o = some a := by
  constructor
  · exact okOr_eq_ok
  · rintro rfl
    rfl

lemma ensure_eq_ok_iff {c : Bool} {e : ApiError} {r : Unit} : ensure c e = .ok r ↔ c = true := by
  constructor
  · exact ensure_eq_ok
  · rintro rfl
    rfl

/-- The three checks that both paths make of an envelope, with their errors. -/
lemma checks_eq_ok_iff {value : Json} {recipientIdentityId : String} {e e' : ApiError}
    {p : String → Bool} (hp : p = isFilled) {out : Json × String} :
    (do
      ensure value.isObject e
      validateRecipientKeyEnvelope value recipientIdentityId
      let encrypted ← okOr (((getEither value "encrypted_file_key" "encryptedFileKey").bind
        Json.asStr).filter p) e'
      Except.ok (value, encrypted)) = Except.ok out
      ↔ Accepted value recipientIdentityId out.2 ∧ out.1 = value := by
  subst hp
  simp only [Checks.bind_eq_ok_iff, ensure_eq_ok_iff, okOr_eq_ok_iff]
  constructor
  · rintro ⟨_, hobject, _, hvalid, key, hkey, hout⟩
    cases hout
    exact ⟨⟨hobject, hvalid, hkey⟩, rfl⟩
  · rintro ⟨⟨hobject, hvalid, hkey⟩, hout⟩
    exact ⟨(), hobject, (), hvalid, out.2, hkey, by rw [← hout]⟩

lemma normalizeGrant_some {value : Json} {encryptedFileKey? : Option String}
    {recipientIdentityId : String} {out : Json × String} :
    normalizeGrantKeyEnvelope (some value) encryptedFileKey? recipientIdentityId = .ok out
      ↔ Accepted value recipientIdentityId out.2 ∧ out.1 = value :=
  checks_eq_ok_iff rfl

lemma normalizeQrGrant_some {value : Json} {encryptedFileKey? : Option String}
    {recipientIdentityId : String} {out : Json × String} :
    normalizeQrGrantKeyEnvelope (some value) encryptedFileKey? recipientIdentityId = .ok out
      ↔ Accepted value recipientIdentityId out.2 ∧ out.1 = value :=
  checks_eq_ok_iff rfl

/-- The envelope that is made of a bare file key. -/
def legacyEnvelope (recipientIdentityId key : String) : Json :=
  .Obj [("protocol", .Str "vaulted-key-envelope-v1"), ("alg", .Str "legacy-pre-aes-key"),
    ("recipient_type", .Str "grant-recipient"),
    ("recipient_identity_id", .Str recipientIdentityId), ("encrypted_file_key", .Str key)]

lemma legacy_eq_ok_iff {encryptedFileKey? : Option String} {recipientIdentityId : String}
    {e : ApiError} {p : String → Bool} (hp : p = isFilled) {out : Json × String} :
    (do
      let encrypted ← okOr (encryptedFileKey?.filter p) e
      Except.ok (legacyEnvelope recipientIdentityId encrypted, encrypted)) = Except.ok out
      ↔ encryptedFileKey?.filter isFilled = some out.2
        ∧ out.1 = legacyEnvelope recipientIdentityId out.2 := by
  subst hp
  simp only [Checks.bind_eq_ok_iff, okOr_eq_ok_iff]
  constructor
  · rintro ⟨key, hkey, hout⟩
    cases hout
    exact ⟨hkey, rfl⟩
  · rintro ⟨hkey, hout⟩
    exact ⟨out.2, hkey, by rw [← hout]⟩

lemma normalizeGrant_none {encryptedFileKey? : Option String} {recipientIdentityId : String}
    {out : Json × String} :
    normalizeGrantKeyEnvelope none encryptedFileKey? recipientIdentityId = .ok out
      ↔ encryptedFileKey?.filter isFilled = some out.2
        ∧ out.1 = legacyEnvelope recipientIdentityId out.2 :=
  legacy_eq_ok_iff rfl

lemma normalizeQrGrant_none {encryptedFileKey? : Option String} {recipientIdentityId : String}
    {out : Json × String} :
    normalizeQrGrantKeyEnvelope none encryptedFileKey? recipientIdentityId = .ok out
      ↔ encryptedFileKey?.filter isFilled = some out.2
        ∧ out.1 = legacyEnvelope recipientIdentityId out.2 :=
  legacy_eq_ok_iff rfl

/-- **Both paths accept the same inputs, with the same result.** -/
lemma same_result (keyEnvelope? : Option Json) (encryptedFileKey? : Option String)
    (recipientIdentityId : String) (out : Json × String) :
    normalizeGrantKeyEnvelope keyEnvelope? encryptedFileKey? recipientIdentityId = .ok out
      ↔ normalizeQrGrantKeyEnvelope keyEnvelope? encryptedFileKey? recipientIdentityId
        = .ok out := by
  cases keyEnvelope? with
  | none => rw [normalizeGrant_none, normalizeQrGrant_none]
  | some value => rw [normalizeGrant_some, normalizeQrGrant_some]

/-! ## What the checks say -/

def IsX25519 (value : Json) : Prop := (value.get "alg").bind Json.asStr = some envelopeAlg

lemma validated_iff {value : Json} {recipientIdentityId : String} :
    validateRecipientKeyEnvelope value recipientIdentityId = .ok ()
      ↔ (getEither value "recipient_identity_id" "recipientIdentityId").bind Json.asStr
          = some recipientIdentityId
        ∧ ((value.get "alg").bind Json.asStr).isSome = true
        ∧ (IsX25519 value → ∀ f ∈ envelopeFields,
          isFilledText (getEither value f.1 f.2) = true) := by
  rw [validateRecipientKeyEnvelope]
  simp only [Checks.bind_eq_ok_iff, ensure_eq_ok_iff, okOr_eq_ok_iff, decide_eq_true_eq, IsX25519,
    envelopeAlg]
  constructor
  · rintro ⟨recipient, hrecipient, _, rfl, alg, halg, hfields⟩
    refine ⟨hrecipient, by rw [halg]; rfl, fun hx => ?_⟩
    rw [if_pos (Option.some.inj (halg.symm.trans hx)), Checks.forM_eq_ok_iff] at hfields
    exact fun f hf => ensure_eq_ok_iff.mp (hfields f hf)
  · rintro ⟨hrecipient, halg, hfields⟩
    obtain ⟨alg, halg⟩ := Option.isSome_iff_exists.mp halg
    refine ⟨_, hrecipient, (), rfl, alg, halg, ?_⟩
    split_ifs with hx
    · rw [Checks.forM_eq_ok_iff]
      exact fun f hf => ensure_eq_ok_iff.mpr (hfields (by rw [halg, hx]) f hf)
    · rfl

/-- A member under its first name is the one that is checked. -/
lemma getEither_of_isSome {value : Json} {name camelName : String}
    (h : (value.get name).isSome = true) : getEither value name camelName = value.get name := by
  obtain ⟨j, hj⟩ := Option.isSome_iff_exists.mp h
  rw [getEither, hj, Option.some_or]

lemma exists_of_isFilledText {member : Option Json} (h : isFilledText member = true) :
    ∃ s, member.bind Json.asStr = some s ∧ isFilled s = true := by
  rw [isFilledText] at h
  cases hs : member.bind Json.asStr with
  | none =>
      rw [hs] at h
      cases h
  | some s =>
      rw [hs] at h
      exact ⟨s, rfl, h⟩

/-! ## What the client reads -/

lemma textMember_eq_ok_iff {j : Json} {name s : String} :
    KeyEnvelope.textMember j name = .ok s ↔ (j.get name).bind Json.asStr = some s := by
  rw [KeyEnvelope.textMember]
  cases j.get name with
  | none => simp
  | some member => cases member <;> simp [Json.asStr]

/-- An object is an envelope if its seven members are texts. -/
lemma ofJson_eq_ok_iff {value : Json} (hobject : value.isObject = true) {e : KeyEnvelope} :
    KeyEnvelope.ofJson value = .ok e
      ↔ (value.get "recipient_type").bind Json.asStr = some e.recipientType
        ∧ (value.get "recipient_identity_id").bind Json.asStr = some e.recipientIdentityId
        ∧ (value.get "recipient_public_key_id").bind Json.asStr = some e.recipientPublicKeyId
        ∧ (value.get "alg").bind Json.asStr = some e.alg
        ∧ (value.get "ephemeral_public_key").bind Json.asStr = some e.ephemeralPublicKey
        ∧ (value.get "nonce").bind Json.asStr = some e.nonce
        ∧ (value.get "encrypted_file_key").bind Json.asStr = some e.encryptedFileKey := by
  cases value with
  | Obj members =>
      rw [KeyEnvelope.ofJson]
      simp only [Checks.bind_eq_ok_iff, textMember_eq_ok_iff]
      constructor
      · rintro ⟨_, h₁, _, h₂, _, h₃, _, h₄, _, h₅, _, h₆, _, h₇, he⟩
        cases he
        exact ⟨h₁, h₂, h₃, h₄, h₅, h₆, h₇⟩
      · rintro ⟨h₁, h₂, h₃, h₄, h₅, h₆, h₇⟩
        exact ⟨_, h₁, _, h₂, _, h₃, _, h₄, _, h₅, _, h₆, _, h₇, rfl⟩
  | _ => cases hobject

/-- The client reads the envelope as one for this recipient, with this key. -/
def Usable (value : Json) (recipientIdentityId key : String) : Prop :=
  ∃ e, KeyEnvelope.ofJson value = .ok e ∧ e.recipientIdentityId = recipientIdentityId
    ∧ e.encryptedFileKey = key

/-- The type of the recipient is there, and the members that may have another name have the one that
the client reads. An envelope in camel case passes every check, and opens nowhere. -/
structure SnakeCase (value : Json) : Prop where
  recipientType : ((value.get "recipient_type").bind Json.asStr).isSome = true
  names : ∀ name ∈ ["recipient_identity_id", "recipient_public_key_id", "ephemeral_public_key",
    "encrypted_file_key"], (value.get name).isSome = true

lemma isSome_of_bind {member : Option Json} {s : String} (h : member.bind Json.asStr = some s) :
    member.isSome = true := by
  obtain ⟨j, rfl, -⟩ := Option.bind_eq_some_iff.mp h
  rfl

/-- **What is accepted is usable exactly if it is in snake case.** -/
lemma usable_iff {value : Json} {recipientIdentityId key : String}
    (h : Accepted value recipientIdentityId key) (hx : IsX25519 value) :
    Usable value recipientIdentityId key ↔ SnakeCase value := by
  obtain ⟨hrecipient, -, hfields⟩ := validated_iff.mp h.validated
  have hfields := hfields hx
  constructor
  · rintro ⟨e, he, -, -⟩
    obtain ⟨h₁, h₂, h₃, -, h₅, -, h₇⟩ := (ofJson_eq_ok_iff h.isObject).mp he
    refine ⟨by rw [h₁]; rfl, ?_⟩
    simp only [List.forall_mem_cons]
    exact ⟨isSome_of_bind h₂, isSome_of_bind h₃, isSome_of_bind h₅, isSome_of_bind h₇, by simp⟩
  · rintro ⟨htype, hnames⟩
    simp only [List.forall_mem_cons] at hnames
    obtain ⟨hid, hkeyId, hephemeral, hkey, -⟩ := hnames
    simp only [envelopeFields, List.forall_mem_cons] at hfields
    obtain ⟨hkeyIdText, hephemeralText, hnonceText, -, -⟩ := hfields
    rw [getEither_of_isSome hkeyId] at hkeyIdText
    rw [getEither_of_isSome hephemeral] at hephemeralText
    rw [getEither, Option.or_self] at hnonceText
    rw [getEither_of_isSome hid] at hrecipient
    obtain ⟨recipientType, htype⟩ := Option.isSome_iff_exists.mp htype
    obtain ⟨keyId, hkeyIdText, -⟩ := exists_of_isFilledText hkeyIdText
    obtain ⟨ephemeral, hephemeralText, -⟩ := exists_of_isFilledText hephemeralText
    obtain ⟨nonce, hnonceText, -⟩ := exists_of_isFilledText hnonceText
    have hkeyText := (Option.filter_eq_some_iff.mp h.key).1
    rw [getEither_of_isSome hkey] at hkeyText
    exact ⟨⟨recipientType, recipientIdentityId, keyId, envelopeAlg, ephemeral, nonce, key⟩,
      (ofJson_eq_ok_iff h.isObject).mpr ⟨htype, hrecipient, hkeyIdText, hx, hephemeralText,
        hnonceText, hkeyText⟩, rfl, rfl⟩

/-! ## The two paths -/

/-- Both paths accept the same envelopes and make the same of them; what is stored is what was sent
and is for the recipient; and the client can use it. -/
structure Agrees (keyEnvelope? : Option Json) (encryptedFileKey? : Option String)
    (recipientIdentityId : String) : Prop where
  same : ∀ out, normalizeGrantKeyEnvelope keyEnvelope? encryptedFileKey? recipientIdentityId
      = .ok out
    ↔ normalizeQrGrantKeyEnvelope keyEnvelope? encryptedFileKey? recipientIdentityId = .ok out
  stored : ∀ envelope key, normalizeGrantKeyEnvelope keyEnvelope? encryptedFileKey?
      recipientIdentityId = .ok (envelope, key) →
    (∀ value, keyEnvelope? = some value → envelope = value)
      ∧ (getEither envelope "recipient_identity_id" "recipientIdentityId").bind Json.asStr
        = some recipientIdentityId
      ∧ (getEither envelope "encrypted_file_key" "encryptedFileKey").bind Json.asStr = some key
  usable : ∀ envelope key, normalizeGrantKeyEnvelope keyEnvelope? encryptedFileKey?
      recipientIdentityId = .ok (envelope, key) →
    IsX25519 envelope → Usable envelope recipientIdentityId key

lemma stored_of_ok {keyEnvelope? : Option Json} {encryptedFileKey? : Option String}
    {recipientIdentityId key : String} {envelope : Json}
    (h : normalizeGrantKeyEnvelope keyEnvelope? encryptedFileKey? recipientIdentityId
      = .ok (envelope, key)) :
    (∀ value, keyEnvelope? = some value → envelope = value)
      ∧ (getEither envelope "recipient_identity_id" "recipientIdentityId").bind Json.asStr
        = some recipientIdentityId
      ∧ (getEither envelope "encrypted_file_key" "encryptedFileKey").bind Json.asStr
        = some key := by
  cases keyEnvelope? with
  | none =>
      obtain ⟨-, henvelope⟩ := normalizeGrant_none.mp h
      dsimp only at henvelope
      subst henvelope
      exact ⟨by rintro _ ⟨⟩, rfl, rfl⟩
  | some value =>
      obtain ⟨haccepted, rfl⟩ := normalizeGrant_some.mp h
      exact ⟨fun _ h => Option.some.inj h, (validated_iff.mp haccepted.validated).1,
        (Option.filter_eq_some_iff.mp haccepted.key).1⟩

/-- A validated envelope of this algorithm has a file key. -/
lemma accepted_of_validated {value : Json} {recipientIdentityId : String}
    (hobject : value.isObject = true)
    (hvalid : validateRecipientKeyEnvelope value recipientIdentityId = .ok ())
    (hx : IsX25519 value) : ∃ key, Accepted value recipientIdentityId key := by
  have hfields := (validated_iff.mp hvalid).2.2 hx
  obtain ⟨key, hkey, hfilled⟩ := exists_of_isFilledText
    (hfields ("encrypted_file_key", "encryptedFileKey") (by simp [envelopeFields]))
  exact ⟨key, hobject, hvalid, Option.filter_eq_some_iff.mpr ⟨hkey, hfilled⟩⟩

/-- **The two paths agree, and what they accept is usable exactly if it is in snake case.** Both
validators take either spelling of a name, and neither asks for the type of the recipient; the
client reads one spelling only, and needs it. -/
theorem agrees_iff (keyEnvelope? : Option Json) (encryptedFileKey? : Option String)
    (recipientIdentityId : String) :
    Agrees keyEnvelope? encryptedFileKey? recipientIdentityId
      ↔ ∀ value, keyEnvelope? = some value → value.isObject = true →
        validateRecipientKeyEnvelope value recipientIdentityId = .ok () → IsX25519 value →
        SnakeCase value := by
  constructor
  · rintro h value rfl hobject hvalid hx
    obtain ⟨key, haccepted⟩ := accepted_of_validated hobject hvalid hx
    exact (usable_iff haccepted hx).mp
      (h.usable value key (normalizeGrant_some.mpr ⟨haccepted, rfl⟩) hx)
  · intro h
    refine ⟨same_result _ _ _, fun _ _ => stored_of_ok, fun envelope key hok hx => ?_⟩
    cases keyEnvelope? with
    | none =>
        obtain ⟨-, henvelope⟩ := normalizeGrant_none.mp hok
        dsimp only at henvelope
        subst henvelope
        have hlegacy : some "legacy-pre-aes-key" = some envelopeAlg := hx
        exact absurd hlegacy (by decide)
    | some value =>
        obtain ⟨haccepted, rfl⟩ := normalizeGrant_some.mp hok
        exact (usable_iff haccepted hx).mpr
          (h _ rfl haccepted.isObject haccepted.validated hx)

/-! ## Camel case -/

namespace Sample

/-- An envelope with the other names of its members. -/
def camel : Json :=
  .Obj [("recipient_type", .Str "grant-recipient"), ("recipientIdentityId", .Str "bob"),
    ("recipientPublicKeyId", .Str "bob-1"), ("alg", .Str envelopeAlg),
    ("ephemeralPublicKey", .Str "00"), ("nonce", .Str "AAAA"), ("encryptedFileKey", .Str "BBBB")]

/-- It is accepted on both paths, and the client cannot read it. -/
theorem not_agrees :
    normalizeGrantKeyEnvelope (some camel) none "bob" = .ok (camel, "BBBB")
      ∧ normalizeQrGrantKeyEnvelope (some camel) none "bob" = .ok (camel, "BBBB")
      ∧ KeyEnvelope.ofJson camel = .error "missing field `recipient_identity_id`"
      ∧ ¬∀ keyEnvelope? encryptedFileKey? recipientIdentityId,
        Agrees keyEnvelope? encryptedFileKey? recipientIdentityId := by
  have hgrant : normalizeGrantKeyEnvelope (some camel) none "bob" = .ok (camel, "BBBB") := by rfl
  have hread : KeyEnvelope.ofJson camel = .error "missing field `recipient_identity_id`" := by rfl
  refine ⟨hgrant, by rfl, hread, fun h => ?_⟩
  obtain ⟨e, he, -⟩ := (h (some camel) none "bob").usable camel "BBBB" hgrant (by rfl)
  rw [hread] at he
  cases he

end Sample

end Vaulted.EnvelopePaths
