import Vaulted.Crypto.Manifest
import Vaulted.Library.JsonValue

/-!
# Signed QR payloads

`qr_payload.rs`: what a QR code asks for, signed by an identity.

* `VaultedQrPayloadBody` — what is asked for, its JSON, and what `validate` asks of it.
* `VaultedSignedQrPayload` — the body with its signer and the signature; `sign`, `verify`,
  `toQrJson`, `fromQrJsonVerified`.
* `Complete` — what is there in a body that passes; `validate_eq_ok_iff`.
* **`ofJson_toJson`** — a body is read as it was written, but for a transaction that is null.
* **`canonicalSigningBytes_inj`** — the bytes that are signed are those of one body.
-/

namespace Vaulted

/-- An identity, by the key that it signs with and its private key for encryption. -/
structure SigningIdentity where
  signingKey : SigningKey
  encryptionPrivate : List UInt8

/-- The keys that its id is made of. -/
def SigningIdentity.keys (identity : SigningIdentity) : VaultedIdentityKeys :=
  ⟨identity.signingKey.verifyingKey, identity.encryptionPrivate⟩

namespace QrPayload

/-! ## The body -/

def vaultedQrProtocol : String := "vaulted-qr-v1"

inductive VaultedQrIntent
  | Login
  | PairDevice
  | SignXrplTransaction
  | ApproveFileGrant
  deriving DecidableEq

namespace VaultedQrIntent

def text : VaultedQrIntent → String
  | .Login => "login"
  | .PairDevice => "pair_device"
  | .SignXrplTransaction => "sign_xrpl_transaction"
  | .ApproveFileGrant => "approve_file_grant"

def variant (s : String) : Except String VaultedQrIntent :=
  if s = "login" then .ok .Login
  else if s = "pair_device" then .ok .PairDevice
  else if s = "sign_xrpl_transaction" then .ok .SignXrplTransaction
  else if s = "approve_file_grant" then .ok .ApproveFileGrant
  else .error ("unknown variant `" ++ s ++ "`")

/-- A variant is also read from an object with null for its content. -/
def ofJson : Json → Except String VaultedQrIntent
  | .Str s => variant s
  | .Obj [(s, .Null)] => variant s
  | _ => .error "expected value"

end VaultedQrIntent

structure VaultedQrPayloadBody where
  protocol : String
  intent : VaultedQrIntent
  requestId : String
  challenge : String
  oracleUrl : String
  expiresAt : String
  identityId : Option String
  requesterDeviceId : Option String
  requesterDeviceName : Option String
  devicePublicKey : Option String
  xrplTxJson : Option Json.HeldValue
  expectedXrplAccount : Option String
  vaultObjectId : Option String
  grantId : Option String
  recipientIdentityId : Option String
  permissions : Option (List String)
  humanSummary : Option String

def requireSome {α : Type} (value : Option α) (name : String) : Except CryptoError Unit :=
  if value.isSome then .ok () else .error (.InvalidData ("QR payload missing " ++ name))

/-- Go on if `b` holds. -/
def requireData (b : Bool) (message : String) : Except CryptoError Unit :=
  if b then .ok () else .error (.InvalidData message)

def decodeValue (j : Json) : Except String Json.HeldValue :=
  match h : j.hold with
  | some v => .ok ⟨v, (Json.hold_held j v h).1⟩
  | none => .error "number out of range"

namespace VaultedQrPayloadBody

/-- Every field in its order; those without a value are not written. -/
def fields (b : VaultedQrPayloadBody) : List (String × Option Json) :=
  [("protocol", some (.Str b.protocol)),
    ("intent", some (.Str b.intent.text)),
    ("requestId", some (.Str b.requestId)),
    ("challenge", some (.Str b.challenge)),
    ("oracleUrl", some (.Str b.oracleUrl)),
    ("expiresAt", some (.Str b.expiresAt)),
    ("identityId", b.identityId.map .Str),
    ("requesterDeviceId", b.requesterDeviceId.map .Str),
    ("requesterDeviceName", b.requesterDeviceName.map .Str),
    ("devicePublicKey", b.devicePublicKey.map .Str),
    ("xrplTxJson", b.xrplTxJson.map Subtype.val),
    ("expectedXrplAccount", b.expectedXrplAccount.map .Str),
    ("vaultObjectId", b.vaultObjectId.map .Str),
    ("grantId", b.grantId.map .Str),
    ("recipientIdentityId", b.recipientIdentityId.map .Str),
    ("permissions", b.permissions.map fun ps => .Arr (ps.map .Str)),
    ("humanSummary", b.humanSummary.map .Str)]

def names : List String :=
  ["protocol", "intent", "requestId", "challenge", "oracleUrl", "expiresAt", "identityId",
    "requesterDeviceId", "requesterDeviceName", "devicePublicKey", "xrplTxJson",
    "expectedXrplAccount", "vaultObjectId", "grantId", "recipientIdentityId", "permissions",
    "humanSummary"]

def toJson (b : VaultedQrPayloadBody) : Json := .Obj (Json.present b.fields)

def ofJson (input : Json) : Except String VaultedQrPayloadBody := do
  let j := input.record names
  let protocol ← j.field "protocol" Json.decodeStr
  let intent ← j.field "intent" VaultedQrIntent.ofJson
  let requestId ← j.field "requestId" Json.decodeStr
  let challenge ← j.field "challenge" Json.decodeStr
  let oracleUrl ← j.field "oracleUrl" Json.decodeStr
  let expiresAt ← j.field "expiresAt" Json.decodeStr
  let identityId ← j.optionalField "identityId" Json.decodeStr
  let requesterDeviceId ← j.optionalField "requesterDeviceId" Json.decodeStr
  let requesterDeviceName ← j.optionalField "requesterDeviceName" Json.decodeStr
  let devicePublicKey ← j.optionalField "devicePublicKey" Json.decodeStr
  let xrplTxJson ← j.optionalField "xrplTxJson" decodeValue
  let expectedXrplAccount ← j.optionalField "expectedXrplAccount" Json.decodeStr
  let vaultObjectId ← j.optionalField "vaultObjectId" Json.decodeStr
  let grantId ← j.optionalField "grantId" Json.decodeStr
  let recipientIdentityId ← j.optionalField "recipientIdentityId" Json.decodeStr
  let permissions ← j.optionalField "permissions" (Json.decodeList Json.decodeStr)
  let humanSummary ← j.optionalField "humanSummary" Json.decodeStr
  .ok
    { protocol, intent, requestId, challenge, oracleUrl, expiresAt, identityId,
      requesterDeviceId, requesterDeviceName, devicePublicKey, xrplTxJson, expectedXrplAccount,
      vaultObjectId, grantId, recipientIdentityId, permissions, humanSummary }

def validate (b : VaultedQrPayloadBody) : Except CryptoError Unit := do
  requireData (decide (b.protocol = vaultedQrProtocol)) "Unsupported QR protocol"
  requireData (!(Text.isEmpty (Text.trim b.requestId) || Text.isEmpty (Text.trim b.challenge)
      || Text.isEmpty (Text.trim b.oracleUrl) || Text.isEmpty (Text.trim b.expiresAt)))
    "QR payload is missing required fields"
  match b.intent with
  | .Login => .ok ()
  | .PairDevice => do
      requireSome b.identityId "identity_id"
      requireSome b.devicePublicKey "device_public_key"
  | .SignXrplTransaction => do
      requireSome b.xrplTxJson "xrpl_tx_json"
      requireSome b.expectedXrplAccount "expected_xrpl_account"
  | .ApproveFileGrant => do
      requireSome b.vaultObjectId "vault_object_id"
      requireSome b.grantId "grant_id"
      requireSome b.recipientIdentityId "recipient_identity_id"
      let permissions ← b.permissions.elim
        (.error (.InvalidData "QR payload missing permissions")) .ok
      requireData (!permissions.isEmpty)
        "QR grant payload must include at least one permission"

def canonicalSigningBytes (codec : TextCodec) (b : VaultedQrPayloadBody) :
    Except CryptoError (List UInt8) := do
  b.validate
  .ok (Text.utf8 "Vaulted QR Payload v1\n" ++ Text.utf8 (codec.jsonToString b.toJson))

end VaultedQrPayloadBody

/-! ## The signed payload -/

structure VaultedSignedQrPayload where
  body : VaultedQrPayloadBody
  signerIdentityId : String
  signerPublicKey : String
  signature : String

namespace VaultedSignedQrPayload

def fields (p : VaultedSignedQrPayload) : List (String × Option Json) :=
  [("body", some p.body.toJson),
    ("signerIdentityId", some (.Str p.signerIdentityId)),
    ("signerPublicKey", some (.Str p.signerPublicKey)),
    ("signature", some (.Str p.signature))]

def names : List String := ["body", "signerIdentityId", "signerPublicKey", "signature"]

def toJson (p : VaultedSignedQrPayload) : Json := .Obj (Json.present p.fields)

def ofJson (input : Json) : Except String VaultedSignedQrPayload := do
  let j := input.record names
  let body ← j.field "body" VaultedQrPayloadBody.ofJson
  let signerIdentityId ← j.field "signerIdentityId" Json.decodeStr
  let signerPublicKey ← j.field "signerPublicKey" Json.decodeStr
  let signature ← j.field "signature" Json.decodeStr
  .ok { body, signerIdentityId, signerPublicKey, signature }

section

variable (c : EnvelopeCrypto) (codec : TextCodec) (ed : Ed25519)

def sign (body : VaultedQrPayloadBody) (identity : SigningIdentity) :
    Except CryptoError VaultedSignedQrPayload := do
  body.validate
  let bytes ← body.canonicalSigningBytes codec
  .ok
    { body
      signerIdentityId := identity.keys.identityIdHex c
      signerPublicKey := Text.hexEncode identity.signingKey.verifyingKey
      signature := Text.hexEncode (identity.signingKey.sign bytes) }

def verify (p : VaultedSignedQrPayload) : Except CryptoError Unit := do
  p.body.validate
  let publicKey ← Pre.mapErr (fun _ => .InvalidData "Invalid QR signer public key")
    (Text.hexDecode p.signerPublicKey)
  requireData (decide (publicKey.length = 32)) "Invalid QR signer public key length"
  requireData (ed.isKey publicKey) "Invalid QR signer public key"
  let signature ← Pre.mapErr (fun _ => .InvalidData "Invalid QR signature")
    (Text.hexDecode p.signature)
  requireData (decide (signature.length = 64)) "Invalid QR signature length"
  let bytes ← p.body.canonicalSigningBytes codec
  if ed.verify publicKey bytes signature then .ok () else .error .SignatureVerification

def toQrJson (p : VaultedSignedQrPayload) : String := codec.jsonToString p.toJson

def fromQrJsonVerified (input : String) : Except CryptoError VaultedSignedQrPayload := do
  let j ← Pre.mapErr .Deserialization (codec.jsonFromStr input)
  let payload ← Pre.mapErr .Deserialization (ofJson j)
  payload.verify codec ed
  .ok payload

end

end VaultedSignedQrPayload

/-! ## Validation -/

/-- What is there in a body that passes. -/
structure Complete (b : VaultedQrPayloadBody) : Prop where
  protocol : b.protocol = vaultedQrProtocol
  requestId : Text.isEmpty (Text.trim b.requestId) = false
  challenge : Text.isEmpty (Text.trim b.challenge) = false
  oracleUrl : Text.isEmpty (Text.trim b.oracleUrl) = false
  expiresAt : Text.isEmpty (Text.trim b.expiresAt) = false
  pairDevice : b.intent = .PairDevice → b.identityId.isSome ∧ b.devicePublicKey.isSome
  signXrplTransaction : b.intent = .SignXrplTransaction →
    b.xrplTxJson.isSome ∧ b.expectedXrplAccount.isSome
  approveFileGrant : b.intent = .ApproveFileGrant → b.vaultObjectId.isSome ∧ b.grantId.isSome
    ∧ b.recipientIdentityId.isSome ∧ ∃ ps, b.permissions = some ps ∧ ps ≠ []

lemma requireSome_eq_ok_iff {α : Type} {value : Option α} {name : String} {r : Unit} :
    requireSome value name = .ok r ↔ value.isSome := by
  cases value <;> simp [requireSome]

lemma requireData_eq_ok_iff {b : Bool} {message : String} {r : Unit} :
    requireData b message = .ok r ↔ b = true := by
  cases b <;> simp [requireData]

lemma elim_eq_ok_iff {α : Type} {value : Option α} {e : CryptoError} {a : α} :
    value.elim (.error e) .ok = (.ok a : Except CryptoError α) ↔ value = some a := by
  cases value <;> simp

lemma validate_eq_ok_iff {b : VaultedQrPayloadBody} {r : Unit} :
    b.validate = .ok r ↔ Complete b := by
  simp only [VaultedQrPayloadBody.validate, Checks.bind_eq_ok_iff, requireData_eq_ok_iff,
    decide_eq_true_eq, Bool.not_eq_true', Bool.or_eq_false_iff]
  constructor
  · rintro ⟨_, hprotocol, _, ⟨⟨⟨hrequest, hchallenge⟩, horacle⟩, hexpires⟩, hintent⟩
    refine ⟨hprotocol, hrequest, hchallenge, horacle, hexpires, fun h => ?_, fun h => ?_,
      fun h => ?_⟩
    · simpa [h, Checks.bind_eq_ok_iff, requireSome_eq_ok_iff] using hintent
    · simpa [h, Checks.bind_eq_ok_iff, requireSome_eq_ok_iff] using hintent
    · simpa [h, Checks.bind_eq_ok_iff, requireSome_eq_ok_iff, requireData_eq_ok_iff,
        elim_eq_ok_iff] using hintent
  · intro h
    refine ⟨(), h.protocol, (), ⟨⟨⟨h.requestId, h.challenge⟩, h.oracleUrl⟩, h.expiresAt⟩, ?_⟩
    cases hintent : b.intent with
    | Login => rfl
    | PairDevice =>
        simpa [Checks.bind_eq_ok_iff, requireSome_eq_ok_iff] using h.pairDevice hintent
    | SignXrplTransaction =>
        simpa [Checks.bind_eq_ok_iff, requireSome_eq_ok_iff] using h.signXrplTransaction hintent
    | ApproveFileGrant =>
        simpa [Checks.bind_eq_ok_iff, requireSome_eq_ok_iff, requireData_eq_ok_iff,
          elim_eq_ok_iff] using h.approveFileGrant hintent

/-! ## Reading what was written -/

@[simp] lemma VaultedQrIntent.ofJson_text (i : VaultedQrIntent) :
    VaultedQrIntent.ofJson (.Str i.text) = .ok i := by
  cases i <;> rfl

@[simp] lemma decodeValue_val (v : Json.HeldValue) : decodeValue v.1 = .ok v := by
  have hheld : v.1.hold = some v.1 := v.2
  unfold decodeValue
  split
  · next v' h =>
      rw [hheld] at h
      exact congrArg Except.ok (Subtype.ext (Option.some.inj h).symm)
  · next h =>
      rw [hheld] at h
      cases h

lemma decodeList_strings (ss : List String) :
    Json.decodeList Json.decodeStr (.Arr (ss.map .Str)) = .ok ss := by
  refine Checks.mapM_eq_ok_iff.mpr ?_
  induction ss with
  | nil => exact .nil
  | cons s ss ih => exact .cons rfl ih

namespace VaultedQrPayloadBody

variable {b b' : VaultedQrPayloadBody}

lemma nodup_names (b : VaultedQrPayloadBody) : (b.fields.map Prod.fst).Nodup := by
  have h : names.Nodup := by decide +kernel
  exact h

/-- A transaction that is null is no transaction to a reader. -/
def withoutNull (b : VaultedQrPayloadBody) : VaultedQrPayloadBody :=
  { b with xrplTxJson := b.xrplTxJson.filter fun v => !v.1.isNull }

lemma field_str {k s : String} (h : (k, some (.Str s)) ∈ b.fields) :
    b.toJson.field k Json.decodeStr = .ok s := Json.field_present b.nodup_names h

lemma optional_str {k : String} {value : Option String} (h : (k, value.map .Str) ∈ b.fields) :
    b.toJson.optionalField k Json.decodeStr = .ok value :=
  Json.optionalField_map b.nodup_names h (fun _ => rfl) fun _ => rfl

lemma optional_xrplTxJson : b.toJson.optionalField "xrplTxJson" decodeValue
    = .ok b.withoutNull.xrplTxJson := by
  have hmem : ("xrplTxJson", b.xrplTxJson.map Subtype.val) ∈ b.fields := by simp [fields]
  cases htx : b.xrplTxJson with
  | none =>
      rw [htx] at hmem
      rw [withoutNull, htx]
      exact Json.optionalField_present_none b.nodup_names hmem
  | some v =>
      rw [htx] at hmem
      rw [withoutNull, htx, toJson, Json.optionalField_present b.nodup_names (j := v.1) hmem,
        decodeValue_val]
      cases hnull : v.1.isNull <;> simp [Option.filter, hnull, Except.map]

lemma optional_permissions : b.toJson.optionalField "permissions" (Json.decodeList Json.decodeStr)
    = .ok b.permissions :=
  Json.optionalField_map b.nodup_names (a := b.permissions) (by simp [fields]) (fun _ => rfl)
    decodeList_strings

lemma field_intent : b.toJson.field "intent" VaultedQrIntent.ofJson = .ok b.intent := by
  have hmem : ("intent", some (.Str b.intent.text)) ∈ b.fields := by simp [fields]
  rw [toJson, Json.field_present b.nodup_names hmem, VaultedQrIntent.ofJson_text]

/-- **A body is read as it was written**, but for a transaction that is null. -/
theorem ofJson_toJson (b : VaultedQrPayloadBody) : ofJson b.toJson = .ok b.withoutNull := by
  have hprotocol : b.toJson.field "protocol" _ = .ok b.protocol := field_str (by simp [fields])
  have hrequest : b.toJson.field "requestId" _ = .ok b.requestId := field_str (by simp [fields])
  have hchallenge : b.toJson.field "challenge" _ = .ok b.challenge :=
    field_str (by simp [fields])
  have horacle : b.toJson.field "oracleUrl" _ = .ok b.oracleUrl := field_str (by simp [fields])
  have hexpires : b.toJson.field "expiresAt" _ = .ok b.expiresAt := field_str (by simp [fields])
  have hidentity : b.toJson.optionalField "identityId" _ = .ok b.identityId :=
    optional_str (by simp [fields])
  have hdevice : b.toJson.optionalField "requesterDeviceId" _ = .ok b.requesterDeviceId :=
    optional_str (by simp [fields])
  have hname : b.toJson.optionalField "requesterDeviceName" _ = .ok b.requesterDeviceName :=
    optional_str (by simp [fields])
  have hkey : b.toJson.optionalField "devicePublicKey" _ = .ok b.devicePublicKey :=
    optional_str (by simp [fields])
  have haccount : b.toJson.optionalField "expectedXrplAccount" _ = .ok b.expectedXrplAccount :=
    optional_str (by simp [fields])
  have hvault : b.toJson.optionalField "vaultObjectId" _ = .ok b.vaultObjectId :=
    optional_str (by simp [fields])
  have hgrant : b.toJson.optionalField "grantId" _ = .ok b.grantId :=
    optional_str (by simp [fields])
  have hrecipient : b.toJson.optionalField "recipientIdentityId" _ = .ok b.recipientIdentityId :=
    optional_str (by simp [fields])
  have hsummary : b.toJson.optionalField "humanSummary" _ = .ok b.humanSummary :=
    optional_str (by simp [fields])
  have hrecord : b.toJson.record names = b.toJson := rfl
  simp only [ofJson, hrecord, hprotocol, field_intent, hrequest, hchallenge, horacle, hexpires,
    hidentity, hdevice, hname, hkey, optional_xrplTxJson, haccount, hvault, hgrant, hrecipient,
    optional_permissions, hsummary, bind, Except.bind]
  rfl

/-- What a member of a body is. -/
lemma mem_fields {k : String} {j : Json} (h : (k, some j) ∈ b.fields) : (∃ s, j = .Str s)
    ∨ (∃ ps : List String, j = .Arr (ps.map .Str)) ∨ ∃ v, b.xrplTxJson = some v ∧ v.1 = j := by
  have hstr : ∀ value : Option String, some j = value.map Json.Str → ∃ s, j = .Str s := by
    rintro (_ | s) hs
    · cases hs
    · exact ⟨s, Option.some.inj hs⟩
  simp only [fields, List.mem_cons, List.not_mem_nil, or_false, Prod.mk.injEq,
    Option.some.injEq] at h
  rcases h with ⟨-, h⟩ | ⟨-, h⟩ | ⟨-, h⟩ | ⟨-, h⟩ | ⟨-, h⟩ | ⟨-, h⟩ | ⟨-, h⟩ | ⟨-, h⟩ | ⟨-, h⟩
    | ⟨-, h⟩ | ⟨-, h⟩ | ⟨-, h⟩ | ⟨-, h⟩ | ⟨-, h⟩ | ⟨-, h⟩ | ⟨-, h⟩ | ⟨-, h⟩
  case inr.inr.inr.inr.inr.inr.inr.inr.inr.inr.inl =>
    obtain ⟨v, hv, hj⟩ := Option.map_eq_some_iff.mp h.symm
    exact .inr (.inr ⟨v, hv, hj⟩)
  case inr.inr.inr.inr.inr.inr.inr.inr.inr.inr.inr.inr.inr.inr.inr.inl =>
    obtain ⟨ps, -, hj⟩ := Option.map_eq_some_iff.mp h.symm
    exact .inr (.inl ⟨ps, hj.symm⟩)
  all_goals first | exact .inl ⟨_, h⟩ | exact .inl (hstr _ h)

lemma value_toJson (b : VaultedQrPayloadBody) : b.toJson.Value := by
  refine .Obj _ (b.nodup_names.sublist (Json.names_present_sublist _)) fun m hm => ?_
  rcases mem_fields (Json.mem_present.mp hm) with ⟨s, hs⟩ | ⟨ps, hps⟩ | ⟨v, -, hv⟩
  · rw [hs]
    exact .Str s
  · rw [hps]
    refine .Arr _ fun j hj => ?_
    obtain ⟨s, -, rfl⟩ := List.mem_map.mp hj
    exact .Str s
  · rw [← hv]
    exact (Json.hold_held v.1 v.1 v.2).2

/-- A transaction that is read back: not null, with numbers that are read back, and not nested
too deep for a member of a member. -/
def Readable (exact : String → Prop) (b : VaultedQrPayloadBody) : Prop :=
  ∀ v, b.xrplTxJson = some v → v.1.isNull = false ∧ v.1.Exact exact ∧ v.1.depth ≤ 125

lemma exact_toJson {exact : String → Prop}
    (h : ∀ v, b.xrplTxJson = some v → v.1.Exact exact) : b.toJson.Exact exact := by
  refine .Obj _ fun m hm => ?_
  rcases mem_fields (Json.mem_present.mp hm) with ⟨s, hs⟩ | ⟨ps, hps⟩ | ⟨v, htx, hv⟩
  · rw [hs]
    exact .Str s
  · rw [hps]
    refine .Arr _ fun j hj => ?_
    obtain ⟨s, -, rfl⟩ := List.mem_map.mp hj
    exact .Str s
  · rw [← hv]
    exact h v htx

lemma depth_toJson (h : ∀ v, b.xrplTxJson = some v → v.1.depth ≤ 125) :
    b.toJson.depth ≤ 126 := by
  refine Json.depth_obj.mpr fun m hm => ?_
  rcases mem_fields (Json.mem_present.mp hm) with ⟨s, hs⟩ | ⟨ps, hps⟩ | ⟨v, htx, hv⟩
  · rw [hs]
    exact Nat.zero_le _
  · rw [hps]
    refine Json.depth_arr.mpr fun j hj => ?_
    obtain ⟨s, -, rfl⟩ := List.mem_map.mp hj
    exact Nat.zero_le _
  · rw [← hv]
    exact h v htx

lemma withoutNull_of_readable {exact : String → Prop} (h : b.Readable exact) :
    b.withoutNull = b := by
  have hfilter : b.xrplTxJson.filter (fun v => !v.1.isNull) = b.xrplTxJson := by
    cases htx : b.xrplTxJson with
    | none => rfl
    | some v => simp [Option.filter, (h v htx).1]
  rw [withoutNull, hfilter]

lemma canonicalSigningBytes_eq_ok_iff {codec : TextCodec} {bytes : List UInt8} :
    b.canonicalSigningBytes codec = .ok bytes ↔ Complete b ∧
      Text.utf8 "Vaulted QR Payload v1\n" ++ Text.utf8 (codec.jsonToString b.toJson) = bytes := by
  rw [canonicalSigningBytes, Checks.bind_eq_ok_iff]
  simp only [validate_eq_ok_iff, Except.ok.injEq, exists_const]

/-- **The bytes that are signed are those of one body**, as it is read. -/
theorem canonicalSigningBytes_inj {codec : TextCodec} (hone : codec.OneText) {bytes : List UInt8}
    (h : b.canonicalSigningBytes codec = .ok bytes)
    (h' : b'.canonicalSigningBytes codec = .ok bytes) : b.withoutNull = b'.withoutNull := by
  obtain ⟨-, hbytes⟩ := canonicalSigningBytes_eq_ok_iff.mp h
  obtain ⟨-, hbytes'⟩ := canonicalSigningBytes_eq_ok_iff.mp h'
  have htext := Text.utf8_injective (List.append_cancel_left (hbytes.trans hbytes'.symm))
  have hjson := congrArg ofJson (hone _ _ b.value_toJson b'.value_toJson htext)
  rw [ofJson_toJson, ofJson_toJson] at hjson
  exact Except.ok.inj hjson

lemma isNull_of_decodeValue {j : Json} {v : Json.HeldValue} (h : decodeValue j = .ok v) :
    v.1.isNull = j.isNull := by
  unfold decodeValue at h
  split at h
  · next v' hv =>
      obtain rfl := Except.ok.inj h
      exact Json.isNull_of_hold hv
  · cases h

lemma isNull_of_optionalField {j : Json} {k : String} {v : Json.HeldValue}
    (h : j.optionalField k decodeValue = .ok (some v)) : v.1.isNull = false := by
  unfold Json.optionalField at h
  split at h
  · split at h
    · cases h
    · next m _ =>
        split at h
        · cases h
        · next hnull =>
            cases hv : decodeValue m.2 with
            | error e =>
                rw [hv] at h
                cases h
            | ok v' =>
                rw [hv] at h
                obtain rfl : v' = v := Option.some.inj (Except.ok.inj h)
                rw [isNull_of_decodeValue hv, Bool.eq_false_of_not_eq_true hnull]
    · cases h
  · cases h

/-- A body that was read has no transaction that is null. -/
lemma withoutNull_of_ofJson {j : Json} (h : ofJson j = .ok b) : b.withoutNull = b := by
  simp only [ofJson, Checks.bind_eq_ok_iff] at h
  obtain ⟨_, -, _, -, _, -, _, -, _, -, _, -, _, -, _, -, _, -, _, -, tx, htx, _, -, _, -, _, -,
    _, -, _, -, _, -, hb⟩ := h
  obtain rfl := Except.ok.inj hb
  cases tx with
  | none => rfl
  | some v => simp [withoutNull, Option.filter, isNull_of_optionalField htx]

end VaultedQrPayloadBody

/-! ## Signing and verifying -/

namespace VaultedSignedQrPayload

variable {c : EnvelopeCrypto} {codec : TextCodec} {ed : Ed25519} {p : VaultedSignedQrPayload}

lemma nodup_names (p : VaultedSignedQrPayload) : (p.fields.map Prod.fst).Nodup := by
  have h : names.Nodup := by decide +kernel
  exact h

lemma field_str {k s : String} (h : (k, some (.Str s)) ∈ p.fields) :
    p.toJson.field k Json.decodeStr = .ok s := Json.field_present p.nodup_names h

lemma ofJson_toJson (p : VaultedSignedQrPayload) :
    ofJson p.toJson = .ok { p with body := p.body.withoutNull } := by
  have hbody : p.toJson.field "body" VaultedQrPayloadBody.ofJson = .ok p.body.withoutNull := by
    have hmem : ("body", some p.body.toJson) ∈ p.fields := by simp [fields]
    rw [toJson, Json.field_present p.nodup_names hmem, VaultedQrPayloadBody.ofJson_toJson]
  have hidentity : p.toJson.field "signerIdentityId" _ = .ok p.signerIdentityId :=
    field_str (by simp [fields])
  have hkey : p.toJson.field "signerPublicKey" _ = .ok p.signerPublicKey :=
    field_str (by simp [fields])
  have hsignature : p.toJson.field "signature" _ = .ok p.signature :=
    field_str (by simp [fields])
  have hrecord : p.toJson.record names = p.toJson := rfl
  simp only [ofJson, hrecord, hbody, hidentity, hkey, hsignature, bind, Except.bind]

lemma mem_fields {k : String} {j : Json} (h : (k, some j) ∈ p.fields) :
    j = p.body.toJson ∨ ∃ s, j = .Str s := by
  simp only [fields, List.mem_cons, List.not_mem_nil, or_false, Prod.mk.injEq,
    Option.some.injEq] at h
  rcases h with ⟨-, h⟩ | ⟨-, h⟩ | ⟨-, h⟩ | ⟨-, h⟩
  · exact .inl h
  all_goals exact .inr ⟨_, h⟩

lemma exact_toJson {exact : String → Prop}
    (h : ∀ v, p.body.xrplTxJson = some v → v.1.Exact exact) : p.toJson.Exact exact := by
  refine .Obj _ fun m hm => ?_
  rcases mem_fields (Json.mem_present.mp hm) with hbody | ⟨s, hs⟩
  · rw [hbody]
    exact VaultedQrPayloadBody.exact_toJson h
  · rw [hs]
    exact .Str s

lemma depth_toJson (h : ∀ v, p.body.xrplTxJson = some v → v.1.depth ≤ 125) :
    p.toJson.depth ≤ 127 := by
  refine Json.depth_obj.mpr fun m hm => ?_
  rcases mem_fields (Json.mem_present.mp hm) with hbody | ⟨s, hs⟩
  · rw [hbody]
    exact VaultedQrPayloadBody.depth_toJson h
  · rw [hs]
    exact Nat.zero_le _

/-- A body that passes is signed. -/
lemma sign_eq_ok {body : VaultedQrPayloadBody} {identity : SigningIdentity} {bytes : List UInt8}
    (h : body.canonicalSigningBytes codec = .ok bytes) :
    sign c codec body identity = .ok
      { body
        signerIdentityId := identity.keys.identityIdHex c
        signerPublicKey := Text.hexEncode identity.signingKey.verifyingKey
        signature := Text.hexEncode (identity.signingKey.sign bytes) } := by
  obtain ⟨hcomplete, -⟩ := VaultedQrPayloadBody.canonicalSigningBytes_eq_ok_iff.mp h
  exact Checks.bind_eq_ok_iff.mpr ⟨(), validate_eq_ok_iff.mpr hcomplete,
    Checks.bind_eq_ok_iff.mpr ⟨bytes, h, rfl⟩⟩

/-- The checks of a signature. -/
lemma verify_eq_ok_iff {r : Unit} : p.verify codec ed = .ok r ↔
    ∃ publicKey signature bytes, Text.hexDecode p.signerPublicKey = .ok publicKey
      ∧ publicKey.length = 32 ∧ ed.isKey publicKey = true
      ∧ Text.hexDecode p.signature = .ok signature ∧ signature.length = 64
      ∧ p.body.canonicalSigningBytes codec = .ok bytes
      ∧ ed.verify publicKey bytes signature = true := by
  simp only [verify, Checks.bind_eq_ok_iff, requireData_eq_ok_iff, Pre.mapErr_eq_ok_iff,
    decide_eq_true_eq]
  constructor
  · rintro ⟨_, -, publicKey, hkey, _, hlength, _, hisKey, signature, hsignature, _, hsigLength,
      bytes, hbytes, h⟩
    refine ⟨publicKey, signature, bytes, hkey, hlength, hisKey, hsignature, hsigLength, hbytes, ?_⟩
    cases hverify : ed.verify publicKey bytes signature with
    | false => simp [hverify] at h
    | true => rfl
  · rintro ⟨publicKey, signature, bytes, hkey, hlength, hisKey, hsignature, hsigLength, hbytes,
      hverify⟩
    obtain ⟨hcomplete, -⟩ := VaultedQrPayloadBody.canonicalSigningBytes_eq_ok_iff.mp hbytes
    exact ⟨(), validate_eq_ok_iff.mpr hcomplete, publicKey, hkey, (), hlength, (), hisKey,
      signature, hsignature, (), hsigLength, bytes, hbytes, if_pos hverify⟩

/-- What is read is what the text says, and verifies. -/
lemma fromQrJsonVerified_eq_ok_iff {input : String} :
    fromQrJsonVerified codec ed input = .ok p ↔ ∃ j, codec.jsonFromStr input = .ok j
      ∧ ofJson j = .ok p ∧ p.verify codec ed = .ok () := by
  simp only [fromQrJsonVerified, Checks.bind_eq_ok_iff, Pre.mapErr_eq_ok_iff, Except.ok.injEq]
  constructor
  · rintro ⟨j, hj, p', hp', _, hverify, rfl⟩
    exact ⟨j, hj, hp', hverify⟩
  · rintro ⟨j, hj, hp, hverify⟩
    exact ⟨j, hj, p, hp, (), hverify, rfl⟩

lemma withoutNull_of_ofJson {j : Json} (h : ofJson j = .ok p) : p.body.withoutNull = p.body := by
  simp only [ofJson, Checks.bind_eq_ok_iff] at h
  obtain ⟨body, hbody, _, -, _, -, _, -, hp⟩ := h
  obtain rfl := Except.ok.inj hp
  unfold Json.field at hbody
  split at hbody
  · split at hbody
    · cases hbody
    · exact VaultedQrPayloadBody.withoutNull_of_ofJson hbody
    · cases hbody
  · cases hbody

end VaultedSignedQrPayload

end QrPayload

end Vaulted
