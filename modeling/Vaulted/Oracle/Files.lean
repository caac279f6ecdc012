import Vaulted.Oracle.FileProxy

/-!
# Registered files

`register_file` of `api/files.rs`, the older way to bring an NFT into the Oracle: the NFT already
exists, and the caller becomes its owner.  The ledger is not asked.  Where a fragment is stored is
recorded later, by `confirm_upload`.
-/

namespace Vaulted.Files

open Autocommit.Prog

/-! ## Statements -/

structure FileFragmentDto where
  index : UInt32
  size : UInt64
  encryptedHash : String

structure FileManifestDto where
  encryptedFilename : String
  originalSize : UInt64
  mimeType : String
  originalHash : String
  fragments : List FileFragmentDto

def insertManifest (row : FileManifestRow) (db : Db) : Except ApiError Db :=
  match db.fileManifests.insert? row with
  | some fileManifests => .ok { db with fileManifests }
  | none => .error (.uniqueViolation "file_manifests_pkey")

def insertFragment (row : FileFragment) (db : Db) : Except ApiError Db :=
  match db.fileFragments.insert? row with
  | some fileFragments => .ok { db with fileFragments }
  | none => .error (.uniqueViolation "file_fragments_manifest_id_fragment_index_key")

/-- Create fragment records, without storage info. -/
def insertFragments (manifestId : Uuid) : List FileFragmentDto → Handler Unit
  | [] => pure ()
  | fragment :: fragments => do
      let encryptedHash ← lift (varchar 71 fragment.encryptedHash)
      write (insertFragment
        { manifestId
          fragmentIndex := fragment.index.toInt32.toInt
          fragmentSize := fragment.size.toInt64.toInt
          encryptedHash
          storageNodeId := ""
          storageKey := ""
          replicationCount := 1 })
      insertFragments manifestId fragments

/-! ## POST /api/v1/files/register -/

structure RegisterFileRequest where
  nftTokenId : String
  encryptedAesKey : String
  manifest : FileManifestDto
  metadataHash : String

structure RegisterFileResponse where
  fileId : Uuid
  nftTokenId : String
  fragmentsCount : UInt32
  deriving DecidableEq

/-- The row of a registered NFT; `'active'` is the default of the column. -/
def registeredNft (env : Env) (request : RegisterFileRequest) (ownerId : Uuid)
    (metadataHash : String) : NftMetadata where
  id := env.uuid 0
  nftTokenId := request.nftTokenId
  ownerId := ownerId
  encryptedAesKey := request.encryptedAesKey
  metadataHash := metadataHash
  status := NftStatus.active

def registerFile (env : Env) (auth : AuthenticatedUser) (request : RegisterFileRequest) :
    Handler RegisterFileResponse := do
  require (Text.isHexOfLen 64 request.nftTokenId) (.Validation "Invalid NFT Token ID")
  let existing ← read fun db => (db.nftMetadata.find? request.nftTokenId).isSome
  require (!existing) (.Conflict ("NFT " ++ request.nftTokenId ++ " already registered"))
  let owner? ← read fun db => db.userOf auth.walletAddress
  let owner ← expect owner? (.NotFound "Authenticated user not found in database")
  transaction do
    let metadataHash ← lift (varchar 71 request.metadataHash)
    write (Vaults.insertNft (registeredNft env request owner.id metadataHash))
    let encryptedFilename ← lift (varchar 512 request.manifest.encryptedFilename)
    let mimeType ← lift (varchar 127 request.manifest.mimeType)
    let originalHash ← lift (varchar 71 request.manifest.originalHash)
    write (insertManifest
      { id := env.uuid 1
        nftMetadataId := env.uuid 0
        encryptedFilename
        originalSize := request.manifest.originalSize.toInt64.toInt
        mimeType
        originalHash
        fragmentCount := (Int32.ofNat request.manifest.fragments.length).toInt })
    insertFragments (env.uuid 1) request.manifest.fragments
  pure
    { fileId := env.uuid 1
      nftTokenId := request.nftTokenId
      fragmentsCount := UInt32.ofNat request.manifest.fragments.length }

/-! ## POST /api/v1/files/fragments/confirm -/

structure ConfirmUploadRequest where
  fileId : Uuid
  fragmentIndex : UInt32
  storageNodeId : String
  storageKey : String

/-- The fragment that a request names. -/
def ConfirmUploadRequest.key (request : ConfirmUploadRequest) : Uuid × Int :=
  (request.fileId, request.fragmentIndex.toInt32.toInt)

/-- Where the request says that the fragment is stored. -/
def confirmedFragment (request : ConfirmUploadRequest) (f : FileFragment) : FileFragment :=
  { f with
    storageNodeId := request.storageNodeId
    storageKey := request.storageKey
    replicationCount := 1 }

/-- `UPDATE file_fragments SET … WHERE manifest_id = $3 AND fragment_index = $4`. -/
def confirmFragment (request : ConfirmUploadRequest) (db : Db) : Except ApiError Db := do
  let storageNodeId ← varchar 64 request.storageNodeId
  let storageKey ← varchar 255 request.storageKey
  .ok { db with
    fileFragments := db.fileFragments.update request.key
      (confirmedFragment { request with storageNodeId, storageKey }) (fun _ => rfl) }

/-- The caller is authenticated, and not looked at. -/
def confirmUpload (_auth : AuthenticatedUser) (request : ConfirmUploadRequest) : Handler Unit := do
  let updated ← read fun db => (db.fileFragments.get? request.key).isSome
  write (confirmFragment request)
  require updated (.NotFound "Fragment not found")
  write (FileProxy.addUsedSpace 1048576 request.storageNodeId)

/-! ## What a call can do -/

/-- The fragments of a file touch no other table. -/
lemma insertFragments_spec (manifestId : Uuid) (fragments : List FileFragmentDto) (db : Db) :
    wp (insertFragments manifestId fragments)
      (fun _ db' => ∃ fileFragments, db' = { db with fileFragments }) db := by
  induction fragments generalizing db with
  | nil => exact wp_pure ⟨_, rfl⟩
  | cons fragment fragments ih =>
      refine wp_lift_bind (fun _ _ => ⟨_, rfl⟩) fun hash _ => ?_
      refine wp_write_bind (fun _ _ => ⟨_, rfl⟩) fun db₁ hdb₁ => ?_
      unfold insertFragment at hdb₁
      split at hdb₁
      · cases hdb₁
        exact ih _
      · cases hdb₁

inductive Registers (env : Env) (auth : AuthenticatedUser) (request : RegisterFileRequest)
    (db : Db) : Except ApiError RegisterFileResponse → Db → Prop
  | Refused (e : ApiError) : Registers env auth request db (.error e) db
  | Registered (owner : User) (metadataHash : String) (answer : RegisterFileResponse) (db₁ : Db)
      (fileManifests : Table FileManifestRow.id) (fileFragments : Table FileFragment.key) :
      Text.isHexOfLen 64 request.nftTokenId = true →
      db.nftMetadata.find? request.nftTokenId = none → db.userOf auth.walletAddress = some owner →
      Vaults.insertNft (registeredNft env request owner.id metadataHash) db = .ok db₁ →
      Registers env auth request db (.ok answer) { db₁ with fileManifests, fileFragments }

theorem registerFile_spec (env : Env) (auth : AuthenticatedUser) (request : RegisterFileRequest)
    (db : Db) : wp (registerFile env auth request) (Registers env auth request db) db := by
  refine wp_require_bind (fun _ => .Refused _) fun hhex => ?_
  refine wp_read_bind (wp_require_bind (fun _ => .Refused _) fun hnew => ?_)
  refine wp_read_bind (wp_expect_bind (fun _ => .Refused _) fun owner howner => ?_)
  have hnew : db.nftMetadata.find? request.nftTokenId = none := by simpa using hnew
  refine wp_bind (wp_transaction ?_)
  refine wp_lift_bind (fun _ _ => .Refused _) fun hash _ => ?_
  refine wp_write_bind (fun _ _ => .Refused _) fun db₁ hins => ?_
  refine wp_lift_bind (fun _ _ => .Refused _) fun _ _ => ?_
  refine wp_lift_bind (fun _ _ => .Refused _) fun _ _ => ?_
  refine wp_lift_bind (fun _ _ => .Refused _) fun _ _ => ?_
  refine wp_write_bind (fun _ _ => .Refused _) fun db₂ hdb₂ => ?_
  unfold insertManifest at hdb₂
  split at hdb₂
  · cases hdb₂
    refine wp_mono (insertFragments_spec _ _ _) ?_
    rintro (e | _) _ ⟨fileFragments, rfl⟩
    · exact .Refused e
    · exact wp_pure (.Registered owner hash _ db₁ _ _ hhex hnew howner hins)
  · cases hdb₂

end Vaulted.Files
