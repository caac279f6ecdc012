import Vaulted.Oracle.Ownership
import Vaulted.Oracle.VaultObjects

/-!
# Access to a file

What a client gets of a manifest, and where it finds the fragments: `grant_file_access` of
`api/vault_objects.rs` and `request_access` of `api/files.rs`.

* `FileAccessResponse` — the answer, less the time of creation.
* `fileAccess` — a manifest, read leniently, with one URL per fragment.
* `grantFileAccess` — the handler for the recipient of a grant; `requestAccess` — the one for the
  owner, who is also told whether the file key is likely to be somebody else's (`preKeyMismatch`).
-/

namespace Vaulted.FileAccess

open Autocommit.Prog Identity

structure FragmentDownloadInfo where
  index : UInt32
  url : String
  size : UInt64
  hash : String
  deriving DecidableEq

structure FileFragmentDto where
  index : UInt32
  size : UInt64
  encryptedHash : String
  storageId : String
  storageKey : String
  deriving DecidableEq

structure FileManifestDto where
  encryptedFilename : String
  originalSize : UInt64
  mimeType : String
  originalHash : String
  fragments : List FileFragmentDto
  deriving DecidableEq

structure FileAccessResponse where
  nftTokenId : String
  encryptedAesKey : String
  isReEncrypted : Bool
  manifest : FileManifestDto
  fragmentUrls : List FragmentDownloadInfo
  preKeyMismatch : Option Bool
  preKeyOwner : Option String
  onchainOwner : Option String
  deriving DecidableEq

/-! ## A manifest, read leniently -/

def textOr (j : Json) (name default : String) : String := (j.index name).asStr.getD default

def numberOrZero (j : Json) (name : String) : Nat := (j.index name).asU64.getD 0

/-- The node of a fragment, as far as it is known. -/
def nodeEndpoint (nodes : List StorageNode) (storageNodeId : String) : String :=
  if storageNodeId = "" then "http://localhost:9001"
  else ((nodes.find? fun node => decide (node.id = storageNodeId)).map
    StorageNode.endpointUrl).getD "http://localhost:9001"

def fragmentDto (frag : Json) : FileFragmentDto where
  index := .ofNat (numberOrZero frag "index")
  size := .ofNat (numberOrZero frag "size")
  encryptedHash := textOr frag "encrypted_hash" ""
  storageId := textOr frag "storage_node_id" ""
  storageKey := textOr frag "storage_key" ""

/-- Where a fragment is, without a token. -/
def fragmentUrl (nodes : List StorageNode) (dto : FileFragmentDto) : String :=
  nodeEndpoint nodes dto.storageId ++ "/fragments/" ++ dto.storageKey

def downloadInfo (nodes : List StorageNode) (dto : FileFragmentDto) : FragmentDownloadInfo where
  index := dto.index
  url := fragmentUrl nodes dto
  size := dto.size
  hash := dto.encryptedHash

def fragmentDtos (manifest : Json) : List FileFragmentDto :=
  ((manifest.index "fragments").asArray.getD []).map fragmentDto

def manifestDto (manifest : Json) : FileManifestDto where
  encryptedFilename := textOr manifest "encrypted_filename" "unknown"
  originalSize := .ofNat (numberOrZero manifest "original_size")
  mimeType := textOr manifest "mime_type" "application/octet-stream"
  originalHash := textOr manifest "original_hash" ""
  fragments := fragmentDtos manifest

def fileAccess (nodes : List StorageNode) (nftTokenId encryptedAesKey : String)
    (isReEncrypted : Bool) (manifest : Json) (preKeyMismatch : Option Bool)
    (preKeyOwner : Option String) : FileAccessResponse where
  nftTokenId := nftTokenId
  encryptedAesKey := encryptedAesKey
  isReEncrypted := isReEncrypted
  manifest := manifestDto manifest
  fragmentUrls := (fragmentDtos manifest).map (downloadInfo nodes)
  preKeyMismatch := preKeyMismatch
  preKeyOwner := preKeyOwner
  onchainOwner := none

/-! ## GET /api/v1/grants/:id/access -/

/-- A file can be read while its NFT is registered or about to be claimed. -/
def isReadable (nm : NftMetadata) : Bool :=
  decide (nm.status.val = .Active) || decide (nm.status.val = .PendingClaim)

/-- An active grant on an active vault object, with the file. -/
def activeGrant (now : Time) (grantId : Uuid) (db : Db) : Option (Grant × NftMetadata) := do
  let g ← (db.grants.get? grantId).filter fun g =>
    decide (g.status = .Active) && g.expiresAt.all fun expiresAt => decide (now < expiresAt)
  let vo ← (db.vaultObjects.get? g.vaultObjectId).filter fun vo => decide (vo.status = .Active)
  let nftTokenId ← vo.nftTokenId
  let nm ← (db.nftMetadata.find? nftTokenId).filter isReadable
  return (g, nm)

def grantFileAccess (env : Env) (auth : AuthenticatedUser) (grantId : Uuid)
    (identityId : Option String) : Handler FileAccessResponse := do
  let callerIdentityId ← authenticatedIdentityForRequest auth identityId "identity_id"
  let row? ← read (activeGrant env.now grantId)
  let (g, nm) ← expect row? (.NotFound ("active grant not found: " ++ grantId.text))
  require (decide (g.recipientIdentityId = callerIdentityId))
    (.Forbidden "grant recipient identity mismatch")
  let nodes ← read fun db => db.storageNodes.rows
  pure (fileAccess nodes nm.nftTokenId g.encryptedFileKey false (nm.manifest.getD (.Obj [])) none
    none)

/-! ## GET /api/v1/files/:nft_token_id/access -/

/-- The owner has been the recipient of a transfer whose offer has been signed.  The other status
that the query asks for, `'finalized'`, is not one. -/
def hasProperTransfer (nftId ownerId : Uuid) (db : Db) : Bool :=
  db.transferRequests.rows.any fun t => decide (t.nftMetadataId = nftId)
    && decide (t.toUserId = ownerId) && decide (t.status.val = .Completed)

/-- There are no transfer requests for the NFT. -/
def isOriginalCreator (nftId : Uuid) (db : Db) : Bool :=
  !db.transferRequests.rows.any fun t => decide (t.nftMetadataId = nftId)

def preKeyMismatch (nftTokenId : String) (db : Db) : Bool :=
  match db.nftMetadata.find? nftTokenId with
  | none => false
  | some nm => !isOriginalCreator nm.id db && !hasProperTransfer nm.id nm.ownerId db

/-- The manifest that the column `encrypted_manifest` decrypts to, or the plain one. -/
def decryptedManifest (codec : TextCodec) (decrypted : Option String) (nm : NftMetadata) : Json :=
  match decrypted with
  | some text => (codec.jsonFromStr text).toOption.getD (nm.manifest.getD (.Obj []))
  | none => nm.manifest.getD (.Obj [])

def finalManifest (codec : TextCodec) (state : AppState) (decrypted : Option String)
    (nm : NftMetadata) : Json :=
  match state.dbEncryptionKey, decryptedManifest codec decrypted nm with
  | none, _ => nm.manifest.getD (.Obj [])
  | some _, .Obj [] => nm.manifest.getD (.Obj [])
  | some _, manifest => manifest

/-- `decrypt` is what the database makes of `vault_decrypt(encrypted_manifest, …)`. -/
def requestAccess (codec : TextCodec) (state : AppState) (env : Env)
    (decrypt : NftMetadata → Except ApiError (Option String)) (auth : AuthenticatedUser)
    (nftTokenId : String) : Handler FileAccessResponse := do
  let nftOwnerWallet ← Ownership.requireVerifiedNftOwner env nftTokenId auth.walletAddress
    "Only the NFT owner can access this file"
  let row? ← read fun db => (db.nftMetadata.find? nftTokenId).filter isReadable
  let nm ← expect row? (.NftNotFound nftTokenId)
  let decrypted ← lift (if state.dbEncryptionKey.isSome then decrypt nm else .ok none)
  let nodes ← read fun db => db.storageNodes.rows
  let mismatch ← read (preKeyMismatch nftTokenId)
  pure (fileAccess nodes nftTokenId nm.encryptedAesKey nm.isReEncrypted
    (finalManifest codec state decrypted nm) (some mismatch) (some nftOwnerWallet))

/-- What the owner is told about the file key. -/
lemma requestAccess_mismatch (codec : TextCodec) (state : AppState) (env : Env)
    (decrypt : NftMetadata → Except ApiError (Option String)) (auth : AuthenticatedUser)
    (nftTokenId : String) (db : Db) :
    wp (requestAccess codec state env decrypt auth nftTokenId) (fun answer _ =>
      ∀ response, answer = .ok response →
        response.preKeyMismatch = some (preKeyMismatch nftTokenId db)) db := by
  refine wp_bind (wp_mono (Ownership.requireVerifiedNftOwner_spec _ _ _ _ _) ?_)
  rintro (e | wallet) db' ⟨rfl, -⟩
  · exact fun _ h => by cases h
  refine wp_read_bind (wp_expect_bind (fun _ _ h => by cases h) fun nm _ => ?_)
  refine wp_lift_bind (fun _ _ _ h => by cases h) fun decrypted _ => ?_
  refine wp_read_bind (wp_read_bind (wp_pure fun response h => ?_))
  obtain rfl := Except.ok.inj h
  rfl

/-! ## What a call can answer -/

/-- The recipient of an active grant gets the file. -/
inductive Accesses (env : Env) (auth : AuthenticatedUser) (grantId : Uuid)
    (identityId : Option String) (db : Db) : Except ApiError FileAccessResponse → Db → Prop
  | Refused (e : ApiError) : Accesses env auth grantId identityId db (.error e) db
  | Granted (g : Grant) (nm : NftMetadata) :
      activeGrant env.now grantId db = some (g, nm) →
      Resolves auth identityId "identity_id" db g.recipientIdentityId →
      Accesses env auth grantId identityId db
        (.ok (fileAccess db.storageNodes.rows nm.nftTokenId g.encryptedFileKey false
          (nm.manifest.getD (.Obj [])) none none)) db

theorem grantFileAccess_spec (env : Env) (auth : AuthenticatedUser) (grantId : Uuid)
    (identityId : Option String) (db : Db) :
    wp (grantFileAccess env auth grantId identityId) (Accesses env auth grantId identityId db)
      db := by
  refine wp_resolve_bind (fun _ _ => .Refused _) fun caller hcaller => ?_
  refine wp_read_bind (wp_expect_bind (fun _ => .Refused _) fun (g, nm) hrow => ?_)
  refine wp_require_bind (fun _ => .Refused _) fun hrecipient => ?_
  obtain rfl : g.recipientIdentityId = caller := of_decide_eq_true hrecipient
  exact wp_read_bind (wp_pure (.Granted g nm hrow hcaller))

end Vaulted.FileAccess
