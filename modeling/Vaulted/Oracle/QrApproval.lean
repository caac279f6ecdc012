import Mathlib.Logic.Function.Basic
import Vaulted.Oracle.QrLogin
import Vaulted.Oracle.VaultObjects

/-!
# QR approvals, statement by statement

The QR endpoints of `api/qr_auth.rs` other than the login: a desktop asks for a device to be
paired, an XRPL transaction to be signed or a file grant to be approved, and polls the status of
its request; a phone confirms it with a signature.  Each kind has a table of its own, and handlers
that differ in what is signed and in the row that is inserted before the request is marked as
approved.  As in the login, other calls may interleave.

* `Statement` — the queries and updates of the handlers.
* `pendingRequest`, `signer`, `markApproved`, `qrStatus` — what the handlers share.
* `confirmQrDevicePairing`, `confirmQrXrplSigning`, `confirmQrFileGrantApproval`, … — the handlers.
-/

namespace Vaulted.QrApproval

open Interleaving QrAuth QrLogin VaultObjects

/-! ## Statements -/

/-- Who has approved a request, with which signature, and the row that was created for it. -/
structure Approval where
  deviceId : String
  signingPublicKey : String
  signature : String
  created : Option Uuid
  deriving DecidableEq

inductive Statement
  | Insert (t : QrTable) (row : QrRequest t)
  | Load (t : QrTable) (id : Uuid)
  | Expire (t : QrTable) (id : Uuid)
  | LoadIdentity (identityId : String)
  | LoadVaultObject (vaultObjectId : String)
  | RegisterDevice (device : IdentityDevice)
  | InsertGrant (g : Grant)
  | Approve (t : QrTable) (id : Uuid) (approval : Approval)

/-- What a statement answers. -/
@[reducible] def Value : Statement → Type
  | .Insert _ _ => Unit
  | .Load t _ => Option (QrRequest t)
  | .Expire _ _ => Unit
  | .LoadIdentity _ => Option VaultedIdentity
  | .LoadVaultObject _ => Option VaultObject
  | .RegisterDevice _ => Uuid
  | .InsertGrant _ => Unit
  | .Approve _ _ _ => Unit

/-- The answer of a statement, or the text of its error. -/
abbrev Answer (s : Statement) : Type := Except String (Value s)

def tableName : QrTable → String
  | .DevicePairing => "qr_device_pairing_requests"
  | .XrplSigning => "qr_xrpl_signing_requests"
  | .FileGrant => "qr_file_grant_requests"

/-- The text of an error of the database. -/
def errorText : ApiError → String
  | .Database message => message
  | e => e.display

/-- The column of a new request that refers to a row that is not there. -/
def danglingColumn (db : Db) : {t : QrTable} → QrRequest t → Option String
  | .FileGrant, row =>
      if (db.identities.get? row.identityId).isNone then some "identity_id"
      else if (db.vaultObjects.get? row.columns.vaultObjectId).isNone then some "vault_object_id"
      else if (db.identities.get? row.columns.recipientIdentityId).isNone then
        some "recipient_identity_id"
      else none
  | .DevicePairing, row =>
      if (db.identities.get? row.identityId).isNone then some "identity_id" else none
  | .XrplSigning, row =>
      if (db.identities.get? row.identityId).isNone then some "identity_id" else none

/-- The columns that an approval sets, apart from those that all tables have. -/
def mark (approval : Approval) : (t : QrTable) → t.Columns → t.Columns
  | .DevicePairing, c => { c with pairedDeviceId := approval.created }
  | .XrplSigning, c =>
      { c with
        approvalSigningPublicKey := some approval.signingPublicKey
        approvalSignature := some approval.signature }
  | .FileGrant, c =>
      { c with
        approvalSigningPublicKey := some approval.signingPublicKey
        approvalSignature := some approval.signature
        createdGrantId := approval.created }

section Rows

variable {t : QrTable}

def expire (r : QrRequest t) : QrRequest t := { r with status := .Expired }

/-- The row after an approval. -/
def approve (approval : Approval) (now : Time) (r : QrRequest t) : QrRequest t :=
  { r with
    status := .Approved
    approvedByDeviceId := some approval.deviceId
    approvedAt := some now
    columns := mark approval t r.columns }

lemma expire_id (r : QrRequest t) : (expire r).id = r.id := rfl

lemma approve_id (approval : Approval) (now : Time) (r : QrRequest t) :
    (approve approval now r).id = r.id := rfl

end Rows

def withRequests (t : QrTable) (requests : Table (@QrRequest.id t)) (db : Db) : Db :=
  { db with qrRequests := Function.update db.qrRequests t requests }

/-- A statement that the database does not fail. -/
def effect (now : Time) : (s : Statement) → Db → Answer s × Db
  | .Insert t row, db =>
      match danglingColumn db row with
      | some column => (.error (errorText (.foreignKeyViolation (tableName t)
          (tableName t ++ "_" ++ column ++ "_fkey"))), db)
      | none =>
          match (db.qrRequests t).insert? row with
          | some requests => (.ok (), withRequests t requests db)
          | none => (.error (errorText (.uniqueViolation (tableName t ++ "_pkey"))), db)
  | .Load t id, db => (.ok ((db.qrRequests t).get? id), db)
  | .Expire t id, db => (.ok (), withRequests t ((db.qrRequests t).update id expire expire_id) db)
  | .LoadIdentity identityId, db => (.ok (Identity.activeIdentity identityId db), db)
  | .LoadVaultObject vaultObjectId, db =>
      (.ok ((db.vaultObjects.get? vaultObjectId).filter fun vo => decide (vo.status = .Active)), db)
  | .RegisterDevice device, db =>
      if (db.identities.get? device.identityId).isNone then
        (.error (errorText (.foreignKeyViolation "identity_devices"
          "identity_devices_identity_id_fkey")), db)
      else
        -- the row that is there keeps its id, which the statement returns
        let upserted := db.identityDevices.upsert? device
          (fun old => { old with deviceName := device.deviceName, revokedAt := none }) fun _ => rfl
        match upserted with
        | some identityDevices =>
            (.ok (((identityDevices.get? device.key).map (·.id)).getD device.id),
              { db with identityDevices })
        | none => (.error (errorText (.uniqueViolation "identity_devices_pkey")), db)
  | .InsertGrant g, db =>
      match upsertGrant g db with
      | .ok db' => (.ok (), db')
      | .error e => (.error (errorText e), db)
  | .Approve t id approval, db =>
      (.ok (), withRequests t
        ((db.qrRequests t).update id (approve approval now) (approve_id approval now)) db)

def exec (s : Statement) (m : Moment) (db : Db) : Answer s × Db :=
  match m.failure with
  | some e => (.error e, db)
  | none => effect m.now s db

/-! ## Messages -/

def pairDeviceSignatureMessage (pairingRequestId challenge oracleUrl desktopDevicePublicKey : String)
    (desktopDeviceName : Option String) (authorizingDeviceId : String) : String :=
  "Vaulted QR Pair Device v1\npairing_request_id:" ++ pairingRequestId
    ++ "\nchallenge:" ++ challenge
    ++ "\noracle_url:" ++ oracleUrl
    ++ "\ndesktop_device_public_key:" ++ desktopDevicePublicKey
    ++ "\ndesktop_device_name:" ++ desktopDeviceName.getD ""
    ++ "\nauthorizing_device_id:" ++ authorizingDeviceId

def xrplSigningApprovalMessage (signingRequestId challenge oracleUrl txJsonHash
    expectedXrplAccount : String) (requesterDeviceId requesterDeviceName : Option String)
    (authorizingDeviceId : String) : String :=
  "Vaulted QR XRPL Sign v1\nsigning_request_id:" ++ signingRequestId
    ++ "\nchallenge:" ++ challenge
    ++ "\noracle_url:" ++ oracleUrl
    ++ "\ntx_json_hash:" ++ txJsonHash
    ++ "\nexpected_xrpl_account:" ++ expectedXrplAccount
    ++ "\nrequester_device_id:" ++ requesterDeviceId.getD ""
    ++ "\nrequester_device_name:" ++ requesterDeviceName.getD ""
    ++ "\nauthorizing_device_id:" ++ authorizingDeviceId

def fileGrantApprovalMessage (grantRequestId challenge oracleUrl vaultObjectId grantId
    recipientIdentityId grantContextHash : String)
    (requesterDeviceId requesterDeviceName : Option String) (authorizingDeviceId : String) :
    String :=
  "Vaulted QR File Grant v1\ngrant_request_id:" ++ grantRequestId
    ++ "\nchallenge:" ++ challenge
    ++ "\noracle_url:" ++ oracleUrl
    ++ "\nvault_object_id:" ++ vaultObjectId
    ++ "\ngrant_id:" ++ grantId
    ++ "\nrecipient_identity_id:" ++ recipientIdentityId
    ++ "\ngrant_context_hash:" ++ grantContextHash
    ++ "\nrequester_device_id:" ++ requesterDeviceId.getD ""
    ++ "\nrequester_device_name:" ++ requesterDeviceName.getD ""
    ++ "\nauthorizing_device_id:" ++ authorizingDeviceId

/-! ## Checks -/

def validateHexPublicKey (value field : String) : Except ApiError Unit :=
  Identity.validateHexKey value 32 field

def isFilled (value : String) : Bool := !Text.isEmpty (Text.trim value)

/-- `stable_json_sha256_hex` of `qr_auth.rs`, which leaves the keys in their order. -/
def txJsonHash (state : AppState) (codec : TextCodec) (value : Json) : String :=
  Text.hexEncode (state.sha256 (Text.utf8 (codec.jsonToString value)))

def grantContextHash (state : AppState) (codec : TextCodec) (rfc3339 : DateTime → String)
    (ctx : GrantSignatureContext) : String :=
  Text.hexEncode (state.sha256 (Text.utf8 (grantSignatureMessage state codec rfc3339 ctx)))

/-- As `normalizeGrantKeyEnvelope`, with the names of the members as the QR requests have them. -/
def normalizeQrGrantKeyEnvelope (keyEnvelope : Option Json) (encryptedFileKey : Option String)
    (recipientIdentityId : String) : Except ApiError (Json × String) :=
  match keyEnvelope with
  | some value => do
      ensure value.isObject (.BadRequest "keyEnvelope must be a JSON object")
      validateRecipientKeyEnvelope value recipientIdentityId
      let encrypted ← okOr (((getEither value "encrypted_file_key" "encryptedFileKey").bind
        Json.asStr).filter isFilled) (.BadRequest "keyEnvelope.encryptedFileKey is required")
      .ok (value, encrypted)
  | none => do
      let encrypted ← okOr (encryptedFileKey.filter isFilled)
        (.BadRequest "keyEnvelope is required")
      .ok (.Obj [("protocol", .Str "vaulted-key-envelope-v1"), ("alg", .Str "legacy-pre-aes-key"),
        ("recipient_type", .Str "grant-recipient"),
        ("recipient_identity_id", .Str recipientIdentityId), ("encrypted_file_key", .Str encrypted)],
        encrypted)

/-! ## Requests and answers -/

structure QrPairDeviceStartRequest where
  identityId : String
  desktopDeviceName : Option String
  desktopDevicePublicKey : String

structure QrXrplSigningStartRequest where
  identityId : String
  xrplTxJson : Json
  expectedXrplAccount : String
  requesterDeviceId : Option String
  requesterDeviceName : Option String

structure QrFileGrantStartRequest where
  identityId : String
  vaultObjectId : String
  recipientIdentityId : String
  keyEnvelope : Option Json
  encryptedFileKey : Option String
  permissions : List String
  grantExpiresAt : Option DateTime
  requesterDeviceId : Option String
  requesterDeviceName : Option String

/-- The body of the three confirmations, in which the first member has a name of its own. -/
structure QrConfirmRequest where
  requestId : String
  identityId : String
  authorizingDeviceId : String
  signingPublicKey : String
  signature : String
  deriving DecidableEq

structure QrFileGrantStarted where
  grantId : String
  grantContextHash : String
  deriving DecidableEq

/-- What the answer to a start says besides; a signing request has the hash of its transaction. -/
@[reducible] def Started : QrTable → Type
  | .DevicePairing => Unit
  | .XrplSigning => String
  | .FileGrant => QrFileGrantStarted

structure QrStartResponse (t : QrTable) where
  requestId : String
  challenge : String
  oracleUrl : String
  expiresAt : Time
  details : Started t

/-- The answer to a confirmation; `subject` is the id of the paired device, the hash of the
transaction or the id of the grant. -/
structure QrConfirmResponse where
  approved : Bool
  status : QrRequestStatus
  subject : String
  deriving DecidableEq

structure QrXrplSigningStatus where
  txJsonHash : String
  expectedXrplAccount : String
  approvedByDeviceId : Option String
  approvalSignature : Option String
  deriving DecidableEq

structure QrFileGrantStatus where
  vaultObjectId : String
  grantId : String
  recipientIdentityId : String
  grantContextHash : String
  approvedByDeviceId : Option String
  approvalSignature : Option String
  createdGrantId : Option String
  deriving DecidableEq

/-- What the answer to a poll says besides; a pairing request has the id of the device. -/
@[reducible] def Details : QrTable → Type
  | .DevicePairing => Option String
  | .XrplSigning => QrXrplSigningStatus
  | .FileGrant => QrFileGrantStatus

structure QrStatusResponse (t : QrTable) where
  status : QrRequestStatus
  identityId : String
  approvedAt : Option Time
  details : Details t

inductive Call
  | StartPairing (req : QrPairDeviceStartRequest)
  | StartSigning (req : QrXrplSigningStartRequest)
  | StartFileGrant (req : QrFileGrantStartRequest)
  | Confirm (t : QrTable) (req : QrConfirmRequest)
  | Status (t : QrTable) (requestId : String)

inductive Reply
  | Started (t : QrTable) (answer : Except ApiError (QrStartResponse t))
  | Confirmed (t : QrTable) (answer : Except ApiError QrConfirmResponse)
  | Status (t : QrTable) (answer : Except ApiError (QrStatusResponse t))

/-- A handler under way. -/
abbrev Handling := Proc Answer Moment Reply

/-! ## What the handlers share -/

/-- The texts in which the handlers of a table differ. -/
structure Texts where
  invalidId : String
  request : String
  mismatch : String
  approve : String
  status : String

def texts : QrTable → Texts
  | .DevicePairing =>
      { invalidId := "Invalid pairing_request_id"
        request := "QR device pairing request"
        mismatch := "Pairing identity mismatch"
        approve := "Failed to approve device pairing: "
        status := "QR device pairing status" }
  | .XrplSigning =>
      { invalidId := "Invalid signing_request_id"
        request := "QR XRPL signing request"
        mismatch := "XRPL signing identity mismatch"
        approve := "Failed to approve QR XRPL signing: "
        status := "QR XRPL signing status" }
  | .FileGrant =>
      { invalidId := "Invalid grant_request_id"
        request := "QR file grant request"
        mismatch := "File grant identity mismatch"
        approve := "Failed to approve QR file grant: "
        status := "QR file grant status" }

def invalidId (t : QrTable) : ApiError := .BadRequest (texts t).invalidId

def notFound (t : QrTable) : ApiError := .NotFound ((texts t).request ++ " not found")

def notPending (t : QrTable) (status : QrRequestStatus) : ApiError :=
  .BadRequest ((texts t).request ++ " is " ++ status.text)

def requestExpired (t : QrTable) : ApiError := .Unauthorized ((texts t).request ++ " expired")

section Shared

variable (t : QrTable)

/-- A new request of a table. -/
def newRequest (m : Moment) (identityId : String) (minutes : Nat) (columns : t.Columns) :
    QrRequest t where
  id := m.uuid 0
  identityId := identityId
  challenge := Text.hexEncode m.nonce
  status := .Pending
  approvedByDeviceId := none
  expiresAt := m.now + minutes * 60000000
  approvedAt := none
  columns := columns

def storeRequest (state : AppState) (row : QrRequest t) (details : Started t) : Handling :=
  .Exec (.Insert t row) fun inserted _ =>
  .check (.Started t) (loaded ("Failed to create " ++ (texts t).request ++ ": ") inserted) fun _ =>
  .Done (.Started t (.ok
    { requestId := row.id.text
      challenge := row.challenge
      oracleUrl := oracleUrl state
      expiresAt := row.expiresAt
      details }))

/-- The request of a confirmation, as long as it is pending. -/
def pendingRequest (req : QrConfirmRequest) (k : Uuid → QrRequest t → Moment → Handling) :
    Handling :=
  .check (.Confirmed t) (okOr (parseUuid req.requestId) (invalidId t)) fun id =>
  .Exec (.Load t id) fun row? m =>
  .check (.Confirmed t) (loaded ("Failed to load " ++ (texts t).request ++ ": ") row?) fun row? =>
  .check (.Confirmed t) (okOr row? (notFound t)) fun row =>
  .check (.Confirmed t) (ensure (decide (row.identityId = req.identityId))
    (.Unauthorized (texts t).mismatch)) fun _ =>
  .check (.Confirmed t) (ensure (decide (row.status = .Pending)) (notPending t row.status)) fun _ =>
  if row.expiresAt < m.now then
    .Exec (.Expire t id) fun _ _ => .Done (.Confirmed t (.error (requestExpired t)))
  else k id row m

/-- The identity of a confirmation signs with the key of the request. -/
def signer (req : QrConfirmRequest) (k : Moment → Handling) : Handling :=
  .Exec (.LoadIdentity req.identityId) fun identity? m =>
  .check (.Confirmed t) (loaded "Failed to load identity: " identity?) fun identity? =>
  .check (.Confirmed t) (okOr identity? (.Unauthorized "Unknown Vaulted identity")) fun identity =>
  .check (.Confirmed t) (ensure (decide (identity.signingPublicKey = req.signingPublicKey))
    (.Unauthorized "Signing public key does not match identity")) fun _ =>
  k m

/-- The last statement of a confirmation. -/
def markApproved (req : QrConfirmRequest) (id : Uuid) (created : Option Uuid) (subject : String) :
    Handling :=
  .Exec (.Approve t id
    { deviceId := req.authorizingDeviceId
      signingPublicKey := req.signingPublicKey
      signature := req.signature
      created }) fun approved _ =>
  .check (.Confirmed t) (loaded (texts t).approve approved) fun _ =>
  .Done (.Confirmed t (.ok { approved := true, status := .Approved, subject }))

def statusResponse (status : QrRequestStatus) (row : QrRequest t) (details : Details t) :
    QrStatusResponse t where
  status := status
  identityId := row.identityId
  approvedAt := row.approvedAt
  details := details

def qrStatus (requestId : String) (details : QrRequest t → Details t) : Handling :=
  .check (.Status t) (okOr (parseUuid requestId) (invalidId t)) fun id =>
  .Exec (.Load t id) fun row? m =>
  .check (.Status t) (loaded ("Failed to load " ++ (texts t).status ++ ": ") row?) fun row? =>
  .check (.Status t) (okOr row? (notFound t)) fun row =>
  if row.status = .Pending ∧ row.expiresAt < m.now then
    .Exec (.Expire t id) fun _ _ =>
    .Done (.Status t (.ok (statusResponse t .Expired row (details row))))
  else .Done (.Status t (.ok (statusResponse t row.status row (details row))))

end Shared

/-! ## Pairing a device -/

def startQrDevicePairing (state : AppState) (req : QrPairDeviceStartRequest) : Handling :=
  .check (.Started .DevicePairing)
    (validateHexPublicKey req.desktopDevicePublicKey "desktop_device_public_key") fun _ =>
  .Exec (.LoadIdentity req.identityId) fun identity? m =>
  .check (.Started .DevicePairing) (loaded "Failed to load identity: " identity?) fun identity? =>
  .check (.Started .DevicePairing)
    (okOr identity? (.Unauthorized "Unknown Vaulted identity")) fun _ =>
  storeRequest .DevicePairing state
    (newRequest .DevicePairing m req.identityId 5
      { desktopDeviceName := req.desktopDeviceName
        desktopDevicePublicKey := req.desktopDevicePublicKey
        pairedDeviceId := none }) ()

/-- The row of a paired device. -/
def pairedDevice (m : Moment) (req : QrConfirmRequest) (c : QrDevicePairing) : IdentityDevice where
  id := m.uuid 0
  identityId := req.identityId
  devicePublicKey := c.desktopDevicePublicKey
  deviceName := some (c.desktopDeviceName.getD "paired device")
  revokedAt := none

def confirmQrDevicePairing (ed : Ed25519) (state : AppState) (req : QrConfirmRequest) : Handling :=
  pendingRequest .DevicePairing req fun id row _ =>
  signer .DevicePairing req fun m =>
  .check (.Confirmed .DevicePairing) (verifyEd25519Hex ed req.signingPublicKey (Text.utf8
    (pairDeviceSignatureMessage req.requestId row.challenge (oracleUrl state)
      row.columns.desktopDevicePublicKey row.columns.desktopDeviceName req.authorizingDeviceId))
    req.signature) fun _ =>
  .Exec (.RegisterDevice (pairedDevice m req row.columns)) fun deviceId? _ =>
  .check (.Confirmed .DevicePairing)
    (loaded "Failed to register paired device: " deviceId?) fun deviceId =>
  markApproved .DevicePairing req id (some deviceId) deviceId.text

def qrDevicePairingStatus (requestId : String) : Handling :=
  qrStatus .DevicePairing requestId fun row => row.columns.pairedDeviceId.map Uuid.text

/-! ## Signing an XRPL transaction -/

def startQrXrplSigning (codec : TextCodec) (state : AppState) (req : QrXrplSigningStartRequest) :
    Handling :=
  .check (.Started .XrplSigning) (ensure (isFilled req.identityId)
    (.BadRequest "identity_id is required")) fun _ =>
  .check (.Started .XrplSigning) (ensure (isFilled req.expectedXrplAccount)
    (.BadRequest "expected_xrpl_account is required")) fun _ =>
  .check (.Started .XrplSigning) (ensure (!req.xrplTxJson.isNull)
    (.BadRequest "xrpl_tx_json is required")) fun _ =>
  .Exec (.LoadIdentity req.identityId) fun identity? m =>
  .check (.Started .XrplSigning) (loaded "Failed to load identity: " identity?) fun identity? =>
  .check (.Started .XrplSigning)
    (okOr identity? (.Unauthorized "Unknown Vaulted identity")) fun _ =>
  storeRequest .XrplSigning state
    (newRequest .XrplSigning m req.identityId 2
      { xrplTxHash := txJsonHash state codec req.xrplTxJson
        expectedXrplAccount := req.expectedXrplAccount
        requesterDeviceId := req.requesterDeviceId
        requesterDeviceName := req.requesterDeviceName
        approvalSigningPublicKey := none
        approvalSignature := none }) (txJsonHash state codec req.xrplTxJson)

def confirmQrXrplSigning (ed : Ed25519) (state : AppState) (req : QrConfirmRequest) : Handling :=
  pendingRequest .XrplSigning req fun id row _ =>
  signer .XrplSigning req fun _ =>
  .check (.Confirmed .XrplSigning) (verifyEd25519Hex ed req.signingPublicKey (Text.utf8
    (xrplSigningApprovalMessage req.requestId row.challenge (oracleUrl state)
      row.columns.xrplTxHash row.columns.expectedXrplAccount row.columns.requesterDeviceId
      row.columns.requesterDeviceName req.authorizingDeviceId)) req.signature) fun _ =>
  markApproved .XrplSigning req id none row.columns.xrplTxHash

def qrXrplSigningStatus (requestId : String) : Handling :=
  qrStatus .XrplSigning requestId fun row =>
    { txJsonHash := row.columns.xrplTxHash
      expectedXrplAccount := row.columns.expectedXrplAccount
      approvedByDeviceId := row.approvedByDeviceId
      approvalSignature := row.columns.approvalSignature }

/-! ## Approving a file grant -/

/-- What the owner of a vault object approves, as it is hashed. -/
def qrGrantContext (identityId : String) (vo : VaultObject) (c : QrFileGrant)
    (expiresAt : Option DateTime) : GrantSignatureContext where
  action := "create"
  grantId := c.grantId
  vaultObjectId := c.vaultObjectId
  nftTokenId := vo.nftTokenId
  ownerIdentityId := identityId
  recipientIdentityId := c.recipientIdentityId
  permissions := .Arr (c.permissions.map Json.Str)
  expiresAt := expiresAt
  keyEnvelope := c.keyEnvelope

/-- The columns of a new request, up to the hash. -/
def requestedGrant (m : Moment) (req : QrFileGrantStartRequest) (keyEnvelope : Json)
    (encryptedFileKey : String) (grantContextHash : String) : QrFileGrant where
  vaultObjectId := req.vaultObjectId
  grantId := m.uuid 1
  recipientIdentityId := req.recipientIdentityId
  encryptedFileKey := encryptedFileKey
  keyEnvelope := keyEnvelope
  permissions := req.permissions
  grantExpiresAt := req.grantExpiresAt.map DateTime.stored
  grantContextHash := grantContextHash
  requesterDeviceId := req.requesterDeviceId
  requesterDeviceName := req.requesterDeviceName
  approvalSigningPublicKey := none
  approvalSignature := none
  createdGrantId := none

def startQrFileGrantApproval (codec : TextCodec) (rfc3339 : DateTime → String) (state : AppState)
    (req : QrFileGrantStartRequest) : Handling :=
  .check (.Started .FileGrant) (ensure (isFilled req.identityId)
    (.BadRequest "identity_id is required")) fun _ =>
  .check (.Started .FileGrant) (ensure (isFilled req.vaultObjectId)
    (.BadRequest "vault_object_id is required")) fun _ =>
  .check (.Started .FileGrant) (ensure (isFilled req.recipientIdentityId)
    (.BadRequest "recipient_identity_id is required")) fun _ =>
  .check (.Started .FileGrant) (ensure (!req.permissions.isEmpty)
    (.BadRequest "permissions must not be empty")) fun _ =>
  .Exec (.LoadVaultObject req.vaultObjectId) fun vo? _ =>
  .check (.Started .FileGrant) (loaded "Failed to load vault object: " vo?) fun vo? =>
  .check (.Started .FileGrant) (okOr vo? (.NotFound "Vault object not found")) fun vo =>
  .check (.Started .FileGrant) (ensure (decide (vo.ownerIdentityId = req.identityId))
    (.Unauthorized "Vault object is not owned by this identity")) fun _ =>
  .Exec (.LoadIdentity req.recipientIdentityId) fun recipient? m =>
  .check (.Started .FileGrant)
    (loaded "Failed to load recipient identity: " recipient?) fun recipient? =>
  .check (.Started .FileGrant)
    (okOr recipient? (.BadRequest "Unknown recipient identity")) fun _ =>
  .check (.Started .FileGrant)
    (ensure (req.grantExpiresAt.all fun expiresAt => decide (m.now.dateTime < expiresAt))
      (.BadRequest "grant expiration must be in the future")) fun _ =>
  .check (.Started .FileGrant) (normalizeQrGrantKeyEnvelope req.keyEnvelope req.encryptedFileKey
    req.recipientIdentityId) fun (keyEnvelope, encryptedFileKey) =>
  let hash := grantContextHash state codec rfc3339 (qrGrantContext req.identityId vo
    (requestedGrant m req keyEnvelope encryptedFileKey "") req.grantExpiresAt)
  storeRequest .FileGrant state
    (newRequest .FileGrant m req.identityId 5
      (requestedGrant m req keyEnvelope encryptedFileKey hash))
    { grantId := (m.uuid 1).text, grantContextHash := hash }

/-- The grant of an approved request. -/
def approvedGrant (req : QrConfirmRequest) (c : QrFileGrant) : Grant where
  id := c.grantId
  vaultObjectId := c.vaultObjectId
  recipientIdentityId := c.recipientIdentityId
  encryptedFileKey := c.encryptedFileKey
  keyEnvelope := c.keyEnvelope
  permissions := c.permissions
  expiresAt := c.grantExpiresAt
  ownerSignature := req.signature
  status := .Active

def grantExpirationPassed : ApiError := .Unauthorized "requested grant expiration has passed"

def confirmQrFileGrantApproval (ed : Ed25519) (codec : TextCodec) (rfc3339 : DateTime → String)
    (state : AppState) (req : QrConfirmRequest) : Handling :=
  pendingRequest .FileGrant req fun id row m =>
  if row.columns.grantExpiresAt.any fun expiresAt => decide (expiresAt ≤ m.now) then
    .Exec (.Expire .FileGrant id) fun _ _ =>
    .Done (.Confirmed .FileGrant (.error grantExpirationPassed))
  else
    signer .FileGrant req fun _ =>
    .Exec (.LoadVaultObject row.columns.vaultObjectId) fun vo? _ =>
    .check (.Confirmed .FileGrant) (loaded "Failed to load vault object: " vo?) fun vo? =>
    .check (.Confirmed .FileGrant) (okOr vo? (.NotFound "Vault object not found")) fun vo =>
    .check (.Confirmed .FileGrant) (ensure (decide (vo.ownerIdentityId = row.identityId))
      (.Unauthorized "Vault object owner changed before grant approval")) fun _ =>
    .check (.Confirmed .FileGrant)
      (ensure (decide (grantContextHash state codec rfc3339 (qrGrantContext row.identityId vo
        row.columns (row.columns.grantExpiresAt.map Time.dateTime)) = row.columns.grantContextHash))
      (.Unauthorized "File grant context mismatch")) fun _ =>
    .check (.Confirmed .FileGrant) (verifyEd25519Hex ed req.signingPublicKey (Text.utf8
      (fileGrantApprovalMessage req.requestId row.challenge (oracleUrl state)
        row.columns.vaultObjectId row.columns.grantId.text row.columns.recipientIdentityId
        row.columns.grantContextHash row.columns.requesterDeviceId row.columns.requesterDeviceName
        req.authorizingDeviceId)) req.signature) fun _ =>
    .Exec (.InsertGrant (approvedGrant req row.columns)) fun inserted _ =>
    .check (.Confirmed .FileGrant)
      (loaded "Failed to create approved file grant: " inserted) fun _ =>
    markApproved .FileGrant req id (some row.columns.grantId) row.columns.grantId.text

def qrFileGrantApprovalStatus (requestId : String) : Handling :=
  qrStatus .FileGrant requestId fun row =>
    { vaultObjectId := row.columns.vaultObjectId
      grantId := row.columns.grantId.text
      recipientIdentityId := row.columns.recipientIdentityId
      grantContextHash := row.columns.grantContextHash
      approvedByDeviceId := row.approvedByDeviceId
      approvalSignature := row.columns.approvalSignature
      createdGrantId := row.columns.createdGrantId.map Uuid.text }

def handle (ed : Ed25519) (codec : TextCodec) (rfc3339 : DateTime → String) (state : AppState) :
    Call → Moment → Handling
  | .StartPairing req, _ => startQrDevicePairing state req
  | .StartSigning req, _ => startQrXrplSigning codec state req
  | .StartFileGrant req, _ => startQrFileGrantApproval codec rfc3339 state req
  | .Confirm .DevicePairing req, _ => confirmQrDevicePairing ed state req
  | .Confirm .XrplSigning req, _ => confirmQrXrplSigning ed state req
  | .Confirm .FileGrant req, _ => confirmQrFileGrantApproval ed codec rfc3339 state req
  | .Status .DevicePairing requestId, _ => qrDevicePairingStatus requestId
  | .Status .XrplSigning requestId, _ => qrXrplSigningStatus requestId
  | .Status .FileGrant requestId, _ => qrFileGrantApprovalStatus requestId

end Vaulted.QrApproval
