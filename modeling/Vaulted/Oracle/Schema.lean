import Vaulted.Library.Autocommit
import Vaulted.Library.Json
import Vaulted.Library.Table
import Vaulted.Library.Text
import Vaulted.Oracle.Claims
import Vaulted.Oracle.Error
import Vaulted.Oracle.StorageToken

/-!
# The database of the Oracle

The tables as the embedded migrations leave them, one row type per table, restricted to the
columns that the modelled handlers read.  Primary keys and second unique columns are part of
the table types, and a `CHECK` constraint is part of the type of its column (`Checked`), so
that no state of the model holds a row that the database would have refused.

A status type lists every literal that the code writes or a constraint names.  Whether a
literal is admitted is decided by `…StatusCheck`, which follows the *last* migration to touch
the constraint: `transfer_requests_status_check` is replaced by `002_escrow_transfers.sql`.
-/

namespace Vaulted

/-! ## Status columns -/

inductive NftStatus
  | Active
  | Transferring
  | Archived
  | PendingClaim
  | Claimed
  | Burned
  deriving DecidableEq, Repr

/-- `nft_metadata_status_check` (`003_vault_fields.sql`). -/
def nftStatusCheck : NftStatus → Bool
  | .Active | .Transferring | .Archived | .PendingClaim | .Claimed => true
  | .Burned => false

namespace NftStatus

def active : Checked nftStatusCheck := ⟨.Active, rfl⟩
def transferring : Checked nftStatusCheck := ⟨.Transferring, rfl⟩
def archived : Checked nftStatusCheck := ⟨.Archived, rfl⟩
def pendingClaim : Checked nftStatusCheck := ⟨.PendingClaim, rfl⟩

end NftStatus

inductive TransferStatus
  | PendingEscrow
  | PendingReKey
  | PendingNftOffer
  | PendingNftAccept
  | PendingEscrowFinish
  | Completed
  | CancelledTimeout
  | CancelledBySeller
  | CancelledByBuyer
  | Failed
  | Pending
  | Processing
  | Cancelled
  deriving DecidableEq, Repr

def TransferStatus.text : TransferStatus → String
  | .PendingEscrow => "pending_escrow"
  | .PendingReKey => "pending_re_key"
  | .PendingNftOffer => "pending_nft_offer"
  | .PendingNftAccept => "pending_nft_accept"
  | .PendingEscrowFinish => "pending_escrow_finish"
  | .Completed => "completed"
  | .CancelledTimeout => "cancelled_timeout"
  | .CancelledBySeller => "cancelled_by_seller"
  | .CancelledByBuyer => "cancelled_by_buyer"
  | .Failed => "failed"
  | .Pending => "pending"
  | .Processing => "processing"
  | .Cancelled => "cancelled"

/-- `transfer_requests_status_check` (`002_escrow_transfers.sql`). -/
def transferStatusCheck : TransferStatus → Bool
  | .Cancelled => false
  | _ => true

def TransferStatus.pending : Checked transferStatusCheck := ⟨.Pending, rfl⟩
def TransferStatus.completed : Checked transferStatusCheck := ⟨.Completed, rfl⟩

/-- The statuses that read as a cancellation, admitted by the constraint or not. -/
def TransferStatus.isCancelled : TransferStatus → Bool
  | .CancelledTimeout | .CancelledBySeller | .CancelledByBuyer | .Cancelled => true
  | _ => false

/-- `vault_objects.status`, a text column without a constraint. -/
inductive VaultObjectStatus
  | Active
  | Deleted
  deriving DecidableEq, Repr

/-- `grants.status`, a text column without a constraint. -/
inductive GrantStatus
  | Active
  | Revoked
  deriving DecidableEq, Repr

/-- `vaulted_identities.status`; the handlers write and look for `'active'` only. -/
inductive IdentityStatus
  | Active
  | Inactive
  deriving DecidableEq, Repr

inductive ReplicaStatus
  | Pending
  | Uploading
  | Active
  | Failed
  | Deleted
  | Missing
  deriving DecidableEq, Repr

/-- The `CHECK` of `file_replicas.status` (`005_replication.sql`). -/
def replicaStatusCheck : ReplicaStatus → Bool
  | .Missing => false
  | _ => true

def ReplicaStatus.active : Checked replicaStatusCheck := ⟨.Active, rfl⟩
def ReplicaStatus.deleted : Checked replicaStatusCheck := ⟨.Deleted, rfl⟩

/-- `qr_login_requests.status`; the constraint admits all of them. -/
inductive QrLoginStatus
  | Pending
  | Approved
  | Rejected
  | Expired
  | Consumed
  deriving DecidableEq, Repr

def QrLoginStatus.text : QrLoginStatus → String
  | .Pending => "pending"
  | .Approved => "approved"
  | .Rejected => "rejected"
  | .Expired => "expired"
  | .Consumed => "consumed"

/-- The status of the other QR requests. -/
inductive QrRequestStatus
  | Pending
  | Approved
  | Rejected
  | Expired
  deriving DecidableEq, Repr

def QrRequestStatus.text : QrRequestStatus → String
  | .Pending => "pending"
  | .Approved => "approved"
  | .Rejected => "rejected"
  | .Expired => "expired"

inductive NodeStatus
  | Active
  | Maintenance
  | Offline
  deriving DecidableEq, Repr

/-! ## Rows -/

structure User where
  id : Uuid
  walletAddress : String
  prePublicKey : String
  role : String := "user"
  deriving DecidableEq

structure NftMetadata where
  id : Uuid
  nftTokenId : String
  ownerId : Uuid
  encryptedAesKey : String
  metadataHash : String
  status : Checked nftStatusCheck
  isReEncrypted : Bool := false
  offerIndex : Option String := none
  manifest : Option Json := none

section Unchanged

variable (nm : NftMetadata)

lemma nftId_unchanged : (id nm).id = nm.id := rfl

lemma nftTokenId_unchanged : (id nm).nftTokenId = nm.nftTokenId := rfl

end Unchanged

structure TransferRequest where
  id : Uuid
  nftMetadataId : Uuid
  fromUserId : Uuid
  toUserId : Uuid
  reEncryptedAesKey : Option String
  status : Checked transferStatusCheck
  createdAt : Time
  nftOfferIndex : Option String := none
  xrplTxHash : Option String := none
  deriving DecidableEq

structure VaultObject where
  id : String
  ownerIdentityId : String
  manifestUri : String
  manifestHash : String
  nftChain : Option String
  nftTokenId : Option String
  status : VaultObjectStatus
  deriving DecidableEq

structure Grant where
  id : Uuid
  vaultObjectId : String
  recipientIdentityId : String
  encryptedFileKey : String
  keyEnvelope : Json
  permissions : List String
  expiresAt : Option Time
  ownerSignature : String
  status : GrantStatus

lemma Grant.id_revoked (g : Grant) : ({ g with status := .Revoked } : Grant).id = g.id := rfl

structure VaultedIdentity where
  id : String
  signingPublicKey : String
  encryptionPublicKey : String
  protocolVersion : String
  status : IdentityStatus
  deriving DecidableEq

/-- `linked_wallets`, by its `UNIQUE(identity_id, chain, address)`. -/
structure LinkedWallet where
  identityId : String
  chain : String
  address : String
  proofSignature : Option String
  createdAt : Time
  revokedAt : Option Time
  deriving DecidableEq

def LinkedWallet.key (l : LinkedWallet) : String × String × String :=
  (l.identityId, l.chain, l.address)

/-- `qr_login_requests`; a stored token is the claims it carries. -/
structure QrLoginRequest where
  id : Uuid
  challenge : String
  status : QrLoginStatus
  desktopDeviceName : Option String
  desktopDevicePublicKey : Option String
  identityId : Option String
  approvedByDeviceId : Option String
  accessToken : Option Claims
  refreshToken : Option Claims
  expiresAt : Time
  deriving DecidableEq

/-- `identity_devices`, by its `UNIQUE(identity_id, device_public_key)`. -/
structure IdentityDevice where
  id : Uuid
  identityId : String
  devicePublicKey : String
  deviceName : Option String
  revokedAt : Option Time
  deriving DecidableEq

def IdentityDevice.key (d : IdentityDevice) : String × String := (d.identityId, d.devicePublicKey)

/-- The tables of the QR requests other than logins. -/
inductive QrTable
  | DevicePairing
  | XrplSigning
  | FileGrant
  deriving DecidableEq, Repr

/-- The columns that only `qr_device_pairing_requests` has. -/
structure QrDevicePairing where
  desktopDeviceName : Option String
  desktopDevicePublicKey : String
  pairedDeviceId : Option Uuid
  deriving DecidableEq

/-- The columns that only `qr_xrpl_signing_requests` has. -/
structure QrXrplSigning where
  xrplTxHash : String
  expectedXrplAccount : String
  requesterDeviceId : Option String
  requesterDeviceName : Option String
  approvalSigningPublicKey : Option String
  approvalSignature : Option String
  deriving DecidableEq

/-- The columns that only `qr_file_grant_requests` has.  The envelope is never null since
`015_key_envelope_grants.sql`. -/
structure QrFileGrant where
  vaultObjectId : String
  grantId : Uuid
  recipientIdentityId : String
  encryptedFileKey : String
  keyEnvelope : Json
  permissions : List String
  grantExpiresAt : Option Time
  grantContextHash : String
  requesterDeviceId : Option String
  requesterDeviceName : Option String
  approvalSigningPublicKey : Option String
  approvalSignature : Option String
  createdGrantId : Option Uuid

@[reducible] def QrTable.Columns : QrTable → Type
  | .DevicePairing => QrDevicePairing
  | .XrplSigning => QrXrplSigning
  | .FileGrant => QrFileGrant

/-- A row of one of these tables. -/
structure QrRequest (t : QrTable) where
  id : Uuid
  identityId : String
  challenge : String
  status : QrRequestStatus
  approvedByDeviceId : Option String
  expiresAt : Time
  approvedAt : Option Time
  columns : t.Columns

structure FileManifestRow where
  id : Uuid
  nftMetadataId : Uuid
  encryptedFilename : String
  originalSize : Int
  mimeType : String
  originalHash : String
  fragmentCount : Int
  deriving DecidableEq

/-- `file_fragments`, by its `UNIQUE(manifest_id, fragment_index)`. -/
structure FileFragment where
  manifestId : Uuid
  fragmentIndex : Int
  fragmentSize : Int
  encryptedHash : String
  storageNodeId : String
  storageKey : String
  replicationCount : Int
  deriving DecidableEq

def FileFragment.key (f : FileFragment) : Uuid × Int := (f.manifestId, f.fragmentIndex)

/-- `file_replicas`, by its `UNIQUE(nft_token_id, storage_node_id)`. -/
structure FileReplica where
  nftTokenId : String
  storageNodeId : String
  storageKey : String
  sizeBytes : Int
  status : Checked replicaStatusCheck
  deriving DecidableEq

def FileReplica.key (r : FileReplica) : String × String := (r.nftTokenId, r.storageNodeId)

structure StorageNode where
  id : String
  endpointUrl : String
  region : String
  status : NodeStatus
  totalSpaceBytes : Int
  usedSpaceBytes : Int
  healthCheckFailures : Int
  deriving DecidableEq

/-! ## The database -/

/-- The tables, and the requests to storage nodes that the Oracle has made so far, oldest
first.  No handler reads the requests back. -/
structure Db where
  users : Indexed User.walletAddress User.id
  nftMetadata : Indexed NftMetadata.id NftMetadata.nftTokenId
  transferRequests : Table TransferRequest.id
  vaultObjects : Table VaultObject.id
  grants : Table Grant.id
  identities : Table VaultedIdentity.id
  linkedWallets : Table LinkedWallet.key
  qrLoginRequests : Table QrLoginRequest.id
  identityDevices : Indexed IdentityDevice.key IdentityDevice.id
  qrRequests : (t : QrTable) → Table (@QrRequest.id t)
  fileManifests : Table FileManifestRow.id
  fileFragments : Table FileFragment.key
  fileReplicas : Table FileReplica.key
  storageNodes : Table StorageNode.id
  storageRequests : List StorageRequest
  deriving Inhabited

/-- `UPDATE nft_metadata … WHERE id = $1`, of columns that are not unique. -/
def Db.withNft (db : Db) (id : Uuid) (f : NftMetadata → NftMetadata)
    (hid : ∀ nm, (f nm).id = nm.id := by intro _; rfl)
    (htoken : ∀ nm, (f nm).nftTokenId = nm.nftTokenId := by intro _; rfl) : Db :=
  { db with nftMetadata := db.nftMetadata.update id f hid htoken }

/-- `UPDATE transfer_requests … WHERE id = $1`. -/
def Db.withTransfer (db : Db) (id : Uuid) (f : TransferRequest → TransferRequest)
    (hid : ∀ t, (f t).id = t.id := by intro _; rfl) : Db :=
  { db with transferRequests := db.transferRequests.update id f hid }

/-! ## Statements -/

/-- A request handler: statements against the database, each of which commits by itself. -/
abbrev Handler (α : Type) := Autocommit.Prog Db ApiError α

/-- Send a request to a storage node. -/
def sendToStorage (r : StorageRequest) : Handler Unit :=
  Autocommit.Prog.write fun db => .ok { db with storageRequests := db.storageRequests ++ [r] }

/-- A value for a `VARCHAR(n)` column. -/
def varchar (n : Nat) (s : String) : Except ApiError String :=
  match Text.varchar n s with
  | some s => .ok s
  | none => .error (.valueTooLong (toString n))

lemma varchar_of_le {n : Nat} {s : String} (hs : s.toList.length ≤ n) : varchar n s = .ok s := by
  rw [varchar, Text.varchar_of_le hs]

/-- `UPDATE nft_metadata SET status = …, … WHERE id = $1`. -/
def Db.updateNft (db : Db) (id : Uuid) (status : NftStatus) (f : NftMetadata → NftMetadata)
    (hid : ∀ nm, (f nm).id = nm.id := by intro _; rfl)
    (htoken : ∀ nm, (f nm).nftTokenId = nm.nftTokenId := by intro _; rfl) :
    Except ApiError Db :=
  if h : nftStatusCheck status = true then
    .ok (db.withNft id (fun nm => { f nm with status := ⟨status, h⟩ }) hid htoken)
  else if (db.nftMetadata.get? id).isNone then .ok db
  else .error (.checkViolation "nft_metadata" "nft_metadata_status_check")

/-- `UPDATE transfer_requests SET status = …, … WHERE id = $1`. -/
def Db.updateTransfer (db : Db) (id : Uuid) (status : TransferStatus)
    (f : TransferRequest → TransferRequest)
    (hid : ∀ t, (f t).id = t.id := by intro _; rfl) : Except ApiError Db :=
  if h : transferStatusCheck status = true then
    .ok (db.withTransfer id (fun t => { f t with status := ⟨status, h⟩ }) hid)
  else if (db.transferRequests.get? id).isNone then .ok db
  else .error (.checkViolation "transfer_requests" "transfer_requests_status_check")

/-- The wallet of a user, as `SELECT wallet_address FROM users WHERE id = $1` finds it. -/
def Db.walletOf (db : Db) (id : Uuid) : Option String :=
  (db.users.find? id).map User.walletAddress

/-- The user with a wallet address. -/
def Db.userOf (db : Db) (wallet : String) : Option User := db.users.get? wallet

lemma Db.walletOf_of_userOf {db : Db} {wallet : String} {user : User}
    (h : db.userOf wallet = some user) : db.walletOf user.id = some user.walletAddress :=
  congrArg (Option.map User.walletAddress) (Indexed.find?_of_get? h)

/-! ## What the statements change -/

section Effects

variable (db : Db) (id : Uuid)

@[simp] lemma withTransfer_users {f : TransferRequest → TransferRequest} {hid} :
    (db.withTransfer id f hid).users = db.users := rfl

@[simp] lemma withTransfer_nftMetadata {f : TransferRequest → TransferRequest} {hid} :
    (db.withTransfer id f hid).nftMetadata = db.nftMetadata := rfl

@[simp] lemma withTransfer_vaultObjects {f : TransferRequest → TransferRequest} {hid} :
    (db.withTransfer id f hid).vaultObjects = db.vaultObjects := rfl

@[simp] lemma withNft_users {f : NftMetadata → NftMetadata} {hid htoken} :
    (db.withNft id f hid htoken).users = db.users := rfl

@[simp] lemma withNft_transferRequests {f : NftMetadata → NftMetadata} {hid htoken} :
    (db.withNft id f hid htoken).transferRequests = db.transferRequests := rfl

@[simp] lemma withNft_vaultObjects {f : NftMetadata → NftMetadata} {hid htoken} :
    (db.withNft id f hid htoken).vaultObjects = db.vaultObjects := rfl

lemma get?_withTransfer {f : TransferRequest → TransferRequest} {hid} (j : Uuid) :
    (db.withTransfer id f hid).transferRequests.get? j
      = if j = id then (db.transferRequests.get? id).map f else db.transferRequests.get? j :=
  Table.get?_update db.transferRequests id f hid j

lemma get?_withNft {f : NftMetadata → NftMetadata} {hid htoken} (j : Uuid) :
    (db.withNft id f hid htoken).nftMetadata.get? j
      = if j = id then (db.nftMetadata.get? id).map f else db.nftMetadata.get? j :=
  Indexed.get?_update db.nftMetadata id f hid htoken j

variable {db id} in
/-- A row after an update is the row before, or what `f` makes of it. -/
lemma get?_withNft_cases {j : Uuid} {f : NftMetadata → NftMetadata} {hf hf'} {nm : NftMetadata}
    (h : (db.withNft id f hf hf').nftMetadata.get? j = some nm) :
    (j ≠ id ∧ db.nftMetadata.get? j = some nm)
      ∨ j = id ∧ ∃ o, db.nftMetadata.get? id = some o ∧ nm = f o := by
  rw [get?_withNft] at h
  split_ifs at h with hj
  · obtain ⟨o, ho, rfl⟩ := Option.map_eq_some_iff.mp h
    exact .inr ⟨hj, o, ho, rfl⟩
  · exact .inl ⟨hj, h⟩

end Effects

end Vaulted
