import Vaulted.Crypto.Envelope
import Vaulted.Desktop.ClientError
import Vaulted.Library.Interleaving
import Vaulted.Oracle.Schema

/-!
# Commands that grant files

`start_vaulted_file_grant_approval` and `start_vaulted_file_grant_for_nft` of `commands.rs`, and
the envelope that both put into a request; `open_grant_file_key` is the other end.

* `Statement` — what a command asks of the local keys and the Oracle, one request at a time;
  `Answer` — what it gets.
* `sealedEnvelope` — a file key in an envelope for a recipient.
* `startVaultedFileGrantApproval`, `startVaultedFileGrantForNft` — the commands.
* `openGrantFileKey` — the file key of a grant.
-/

namespace Vaulted.GrantCommands

open Interleaving

/-! ## Requests -/

/-- The body of a request to the Oracle. -/
structure QrFileGrantStartRequest where
  identityId : String
  vaultObjectId : String
  recipientIdentityId : String
  keyEnvelope : Json
  encryptedFileKey : Option String
  permissions : List String
  grantExpiresAt : Option DateTime
  requesterDeviceId : Option String
  requesterDeviceName : Option String
  humanSummary : Option String

structure QrFileGrantStartApiResponse where
  grantRequestId : String
  grantId : String
  challenge : String
  oracleUrl : String
  expiresAt : String
  grantContextHash : String
  qrPayload : Json

structure FileAccess where
  encryptedAesKey : String
  isReEncrypted : Bool

/-- The lookup of an identity answers with its encryption key, the one of the trust in a key with
whether it is trusted, and the one of a vault object with its id. -/
inductive Statement
  | GetVaultedIdentity
  | GetKeypair
  | NewOracleClient
  | RequestFileAccess (nftTokenId : String)
  | GetVaultObjectByNft (nftTokenId : String)
  | GetVaultedIdentityPublic (identityId : String)
  | RecipientKeyTrustStatus (ownerIdentityId recipientIdentityId fingerprint : String)
  | DrawRandom
  | StartQrFileGrantApproval (request : QrFileGrantStartRequest)

abbrev Answer (u : Umbral) : Statement → Type
  | .GetVaultedIdentity => Except ClientError VaultedIdentityKeys
  | .GetKeypair => Except ClientError (Pre.PreKeyPair u)
  | .NewOracleClient => Except ClientError Unit
  | .RequestFileAccess _ => Except ClientError FileAccess
  | .GetVaultObjectByNft _ => Except ClientError String
  | .GetVaultedIdentityPublic _ => Except ClientError String
  | .RecipientKeyTrustStatus _ _ _ => Except ClientError Bool
  | .DrawRandom => SealRandom
  | .StartQrFileGrantApproval _ => Except ClientError QrFileGrantStartApiResponse

/-- What a command goes on with. -/
abbrev Program (u : Umbral) (α : Type) := Proc (Answer u) Unit (Except ClientError α)

/-- What a command knows besides: the primitives, how a time is read, and the device. -/
structure Client where
  crypto : EnvelopeCrypto
  codec : TextCodec
  parseRfc3339 : String → Except String DateTime
  deviceFingerprint : String
  hostname : Option String

/-- `filter(|v| !v.trim().is_empty())`. -/
def isFilled (value : String) : Bool := !Text.isEmpty (Text.trim value)

/-! ## Envelopes -/

def grantEnvelopeAad (vaultObjectId recipientIdentityId : String) : String :=
  "vaulted-grant-envelope-v1:" ++ vaultObjectId ++ ":" ++ recipientIdentityId

def recipientPublicKeyId (c : EnvelopeCrypto) (recipientPublicKeyHex : String) : String :=
  Text.hexEncode (c.sha256 (Text.utf8 "Vaulted v1 recipient encryption public key id"
    ++ Text.utf8 recipientPublicKeyHex))

/-- A file key, in base64, in an envelope for the key of a recipient. -/
def sealedEnvelope (c : EnvelopeCrypto) (codec : TextCodec) (rng : SealRandom)
    (vaultObjectId recipientIdentityId fileKeyBase64 recipientPublicKey : String) :
    Except ClientError KeyEnvelope := do
  let fileKey ← Pre.mapErr (fun e => .InvalidData ("Invalid file_key_base64: " ++ e))
    (codec.base64Decode (Text.trim fileKeyBase64))
  if fileKey.isEmpty then .error (.InvalidData "file_key_base64 decoded to an empty key")
  else
    Pre.mapErr .Crypto (sealKeyForRecipientHex c codec rng fileKey recipientPublicKey
      recipientIdentityId (recipientPublicKeyId c recipientPublicKey) "grant-recipient"
      (Text.utf8 (grantEnvelopeAad vaultObjectId recipientIdentityId)))

/-- The envelope around a file key that is encrypted otherwise. -/
def legacyEnvelope (recipientIdentityId compatibilityEncryptedFileKey : String) : Json :=
  .Obj [("protocol", .Str "vaulted-key-envelope-v1"), ("alg", .Str "legacy-pre-aes-key"),
    ("recipient_type", .Str "grant-recipient"), ("recipient_identity_id", .Str recipientIdentityId),
    ("encrypted_file_key", .Str compatibilityEncryptedFileKey)]

structure GrantResponse where
  vaultObjectId : String
  recipientIdentityId : String
  keyEnvelope : Json

def openGrantFileKey (c : EnvelopeCrypto) (codec : TextCodec) (identity : VaultedIdentityKeys)
    (grant : GrantResponse) : Except ClientError (List UInt8) :=
  if grant.recipientIdentityId ≠ identity.identityIdHex c then
    .error (.Auth "Grant is not addressed to this Vaulted identity")
  else do
    let envelope ← Pre.mapErr (fun e => .Config ("Invalid grant key envelope: " ++ e))
      (KeyEnvelope.ofJson grant.keyEnvelope)
    if envelope.recipientIdentityId ≠ grant.recipientIdentityId then
      .error (.Auth "Grant key envelope recipient mismatch")
    else
      Pre.mapErr .Crypto (openKeyEnvelope c codec envelope identity.encryptionPrivate
        (Text.utf8 (grantEnvelopeAad grant.vaultObjectId grant.recipientIdentityId)))

/-! ## The commands -/

section Programs

variable {u : Umbral} {α : Type} (client : Client)

/-- The given key, or the one that the Oracle has for an identity. -/
def recipientKey (recipientIdentityId : String) (given : Option String)
    (k : String → Program u α) : Program u α :=
  match given.filter isFilled with
  | some pk => k pk
  | none =>
      .Exec (.GetVaultedIdentityPublic recipientIdentityId) fun answer _ => .check id answer k

def buildRecipientKeyEnvelope
    (vaultObjectId recipientIdentityId compatibilityEncryptedFileKey : String)
    (fileKeyBase64 recipientEncryptionPublicKey : Option String) (k : Json → Program u α) :
    Program u α :=
  match fileKeyBase64.filter isFilled with
  | some fileKeyBase64 =>
      recipientKey recipientIdentityId recipientEncryptionPublicKey fun recipientPublicKey =>
      .Exec .DrawRandom fun rng _ =>
      .check id (sealedEnvelope client.crypto client.codec rng vaultObjectId recipientIdentityId
        fileKeyBase64 recipientPublicKey) fun envelope => k envelope.toJson
  | none => k (legacyEnvelope recipientIdentityId compatibilityEncryptedFileKey)

/-- Only a key that the Oracle reports as trusted will do. -/
def requireTrusted (identity : VaultedIdentityKeys) (recipientIdentityId recipientPublicKey : String)
    (k : Program u α) : Program u α :=
  .check id (Pre.mapErr .Crypto
    (encryptionPublicKeyFingerprintHex client.crypto recipientPublicKey)) fun fingerprint =>
  .Exec (.RecipientKeyTrustStatus (identity.identityIdHex client.crypto) recipientIdentityId
    fingerprint) fun trust _ =>
  .check id trust fun trusted =>
  if trusted = false then
    .Done (.error (.InvalidData ("Recipient encryption key is not trusted. Verify fingerprint "
      ++ formatFingerprintGroups fingerprint ++ " before granting access.")))
  else k

/-- The expiry of a grant, unless it is left blank. -/
def parseExpiresAt (grantExpiresAt : Option String) : Except ClientError (Option DateTime) :=
  match grantExpiresAt.filter isFilled with
  | some ts => (Pre.mapErr (fun e => ClientError.Config ("Invalid grant expiration: " ++ e))
      (client.parseRfc3339 ts)).map some
  | none => .ok none

/-- What a command answers, with members of its own in front of the payload. -/
def startedAnswer (members : List (String × Json)) (response : QrFileGrantStartApiResponse) :
    Json :=
  .Obj ([("grantRequestId", .Str response.grantRequestId), ("grantId", .Str response.grantId),
    ("challenge", .Str response.challenge), ("oracleUrl", .Str response.oracleUrl),
    ("expiresAt", .Str response.expiresAt), ("grantContextHash", .Str response.grantContextHash)]
    ++ members ++ [("qrPayload", response.qrPayload)])

/-- What both commands end with. -/
def startGrant (identity : VaultedIdentityKeys) (vaultObjectId recipientIdentityId : String)
    (keyEnvelope : Json) (permissions : List String) (grantExpiresAt : Option DateTime)
    (humanSummary : Option String) (members : List (String × Json)) : Program u Json :=
  .Exec (.StartQrFileGrantApproval
    { identityId := identity.identityIdHex client.crypto
      vaultObjectId
      recipientIdentityId
      keyEnvelope
      encryptedFileKey := none
      permissions
      grantExpiresAt
      requesterDeviceId := some client.deviceFingerprint
      requesterDeviceName := client.hostname
      humanSummary }) fun response _ =>
  .Done (response.map (startedAnswer members))

/-- The arguments of `start_vaulted_file_grant_approval`. -/
structure FileGrantApproval where
  vaultObjectId : String
  recipientIdentityId : String
  encryptedFileKey : String
  permissions : List String
  grantExpiresAt : Option String
  humanSummary : Option String
  fileKeyBase64 : Option String
  recipientEncryptionPublicKey : Option String
  requireTrustedRecipient : Option Bool

def startVaultedFileGrantApproval (args : FileGrantApproval) : Program u Json :=
  .Exec .GetVaultedIdentity fun identity _ =>
  .check id identity fun identity =>
  .check id (parseExpiresAt client args.grantExpiresAt) fun expiresAt =>
  .Exec .NewOracleClient fun oracle _ =>
  .check id oracle fun _ =>
  let approved : Program u Json :=
    buildRecipientKeyEnvelope client args.vaultObjectId args.recipientIdentityId
      args.encryptedFileKey args.fileKeyBase64 args.recipientEncryptionPublicKey fun keyEnvelope =>
    startGrant client identity args.vaultObjectId args.recipientIdentityId keyEnvelope
      args.permissions expiresAt args.humanSummary []
  if args.requireTrustedRecipient.getD false && (args.fileKeyBase64.any isFilled) then
    recipientKey args.recipientIdentityId args.recipientEncryptionPublicKey
      fun recipientPublicKey =>
    requireTrusted client identity args.recipientIdentityId recipientPublicKey approved
  else approved

/-- The arguments of `start_vaulted_file_grant_for_nft`. -/
structure FileGrantForNft where
  nftTokenId : String
  recipientIdentityId : String
  permissions : Option (List String)
  grantExpiresAt : Option String
  humanSummary : Option String
  requireTrustedRecipient : Option Bool

def startVaultedFileGrantForNft (args : FileGrantForNft) : Program u Json :=
  .Exec .GetVaultedIdentity fun identity _ =>
  .check id identity fun identity =>
  .Exec .NewOracleClient fun oracle _ =>
  .check id oracle fun _ =>
  .Exec (.RequestFileAccess args.nftTokenId) fun access _ =>
  .check id access fun access =>
  .Exec .GetKeypair fun keypair _ =>
  .check id keypair fun keypair =>
  .check id (Pre.mapErr .Crypto (Pre.unwrapFileKey client.codec keypair access.encryptedAesKey
    access.isReEncrypted)) fun fileKey =>
  .Exec (.GetVaultObjectByNft args.nftTokenId) fun vaultObjectId _ =>
  .check id vaultObjectId fun vaultObjectId =>
  .check id (parseExpiresAt client args.grantExpiresAt) fun expiresAt =>
  .Exec (.GetVaultedIdentityPublic args.recipientIdentityId) fun recipientPublicKey _ =>
  .check id recipientPublicKey fun recipientPublicKey =>
  let trusted : Program u Json :=
    buildRecipientKeyEnvelope client vaultObjectId args.recipientIdentityId access.encryptedAesKey
      (some (client.codec.base64Encode fileKey)) (some recipientPublicKey) fun keyEnvelope =>
    startGrant client identity vaultObjectId args.recipientIdentityId keyEnvelope
      (args.permissions.getD ["read"]) expiresAt args.humanSummary
      [("vaultObjectId", .Str vaultObjectId),
        ("recipientIdentityId", .Str args.recipientIdentityId)]
  if args.requireTrustedRecipient.getD true then
    requireTrusted client identity args.recipientIdentityId recipientPublicKey trusted
  else trusted

end Programs

end Vaulted.GrantCommands
