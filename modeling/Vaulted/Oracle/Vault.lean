import Vaulted.Crypto.Pre
import Vaulted.Oracle.Xrpl

/-!
# Vaults

`api/vault.rs`: a vault is prepared by `createVault`, made `active` by `finalizeVaultMint` once
its NFT is minted, and tombstoned by `deleteVault` once the NFT is burned.

* the manifest, which names the stored fragments;
* the handlers, statement by statement;
* one lemma per handler that says everything a call can do to the database.

The audit log is left out, and so is `encrypted_manifest`, which none of these handlers reads:
with column encryption the manifest column is null.
-/

namespace Vaulted.Vaults

open Autocommit.Prog

/-! ## The manifest -/

structure FragmentInfo where
  index : UInt32
  storageNodeId : String
  storageKey : String
  encryptedHash : String
  size : UInt64
  deriving DecidableEq

/-- File manifest (metadata), as the client writes it. -/
structure VaultManifest where
  encryptedFilename : String
  originalSize : UInt64
  mimeType : String
  originalHash : String
  fragments : List FragmentInfo
  deriving DecidableEq

def FragmentInfo.toJson (f : FragmentInfo) : Json :=
  .Obj [("index", .Num (.Nat f.index.toNat)), ("storage_node_id", .Str f.storageNodeId),
    ("storage_key", .Str f.storageKey), ("encrypted_hash", .Str f.encryptedHash),
    ("size", .Num (.Nat f.size.toNat))]

def FragmentInfo.fromJson (input : Json) : Except String FragmentInfo := do
  let j := input.record ["index", "storage_node_id", "storage_key", "encrypted_hash", "size"]
  let index ← j.field "index" (Json.decodeNat 32)
  let storageNodeId ← j.field "storage_node_id" Json.decodeStr
  let storageKey ← j.field "storage_key" Json.decodeStr
  let encryptedHash ← j.field "encrypted_hash" Json.decodeStr
  let size ← j.field "size" (Json.decodeNat 64)
  .ok { index := .ofNat index, storageNodeId, storageKey, encryptedHash, size := .ofNat size }

def VaultManifest.toJson (m : VaultManifest) : Json :=
  .Obj [("encrypted_filename", .Str m.encryptedFilename),
    ("original_size", .Num (.Nat m.originalSize.toNat)), ("mime_type", .Str m.mimeType),
    ("original_hash", .Str m.originalHash),
    ("fragments", .Arr (m.fragments.map FragmentInfo.toJson))]

def VaultManifest.fromJson (input : Json) : Except String VaultManifest := do
  let j := input.record
    ["encrypted_filename", "original_size", "mime_type", "original_hash", "fragments"]
  let encryptedFilename ← j.field "encrypted_filename" Json.decodeStr
  let originalSize ← j.field "original_size" (Json.decodeNat 64)
  let mimeType ← j.field "mime_type" Json.decodeStr
  let originalHash ← j.field "original_hash" Json.decodeStr
  let fragments ← j.field "fragments" (Json.decodeList FragmentInfo.fromJson)
  .ok { encryptedFilename, originalSize := .ofNat originalSize, mimeType, originalHash, fragments }

/-- The fragments of a manifest that was read are items of its `fragments`, where these and the
manifest are objects. -/
lemma exists_of_mem_fragments {j : Json} {manifest : VaultManifest}
    (h : VaultManifest.fromJson j = .ok manifest) (hobject : j.isObject = true)
    (hitems : ∀ frags, (j.get "fragments").bind Json.asArray = some frags →
      ∀ frag ∈ frags, frag.isObject = true)
    {f : FragmentInfo} (hf : f ∈ manifest.fragments) :
    ∃ frags, (j.get "fragments").bind Json.asArray = some frags
      ∧ ∃ frag ∈ frags, (frag.index "storage_node_id").asStr = some f.storageNodeId
        ∧ (frag.index "storage_key").asStr = some f.storageKey := by
  simp only [VaultManifest.fromJson, Json.record_of_isObject hobject] at h
  obtain ⟨_, -, h⟩ := bind_eq_ok h
  obtain ⟨_, -, h⟩ := bind_eq_ok h
  obtain ⟨_, -, h⟩ := bind_eq_ok h
  obtain ⟨_, -, h⟩ := bind_eq_ok h
  obtain ⟨fragments, hfragments, h⟩ := bind_eq_ok h
  cases h
  obtain ⟨frags, hfrags, frag, hmem, hfrag⟩ :=
    Json.exists_of_mem_decodeList (Json.decode_index_of_field hfragments) hf
  have hlisted := Json.asArray_index hfrags
  refine ⟨frags, hlisted, frag, hmem, ?_⟩
  simp only [FragmentInfo.fromJson, Json.record_of_isObject (hitems frags hlisted frag hmem)] at hfrag
  obtain ⟨_, -, hfrag⟩ := bind_eq_ok hfrag
  obtain ⟨nodeId, hnode, hfrag⟩ := bind_eq_ok hfrag
  obtain ⟨key, hkey, hfrag⟩ := bind_eq_ok hfrag
  obtain ⟨_, -, hfrag⟩ := bind_eq_ok hfrag
  obtain ⟨_, -, hfrag⟩ := bind_eq_ok hfrag
  cases hfrag
  rw [Json.eq_str_of_decodeStr (Json.decode_index_of_field hnode),
    Json.eq_str_of_decodeStr (Json.decode_index_of_field hkey)]
  exact ⟨rfl, rfl⟩

/-! ## Statements -/

def insertUser (user : User) (db : Db) : Except ApiError Db :=
  match db.users.insert? user with
  | some users => .ok { db with users }
  | none => .error (.uniqueViolation
      (if (db.users.find? user.id).isSome then "users_pkey" else "users_wallet_address_key"))

def insertNft (nm : NftMetadata) (db : Db) : Except ApiError Db :=
  match db.nftMetadata.insert? nm with
  | some nftMetadata => .ok { db with nftMetadata }
  | none => .error (.uniqueViolation (if (db.nftMetadata.get? nm.id).isSome
      then "nft_metadata_pkey" else "nft_metadata_nft_token_id_key"))

lemma insertNft_eq_ok {nm : NftMetadata} {db db' : Db} (h : insertNft nm db = .ok db') :
    ∃ nftMetadata, db.nftMetadata.insert? nm = some nftMetadata ∧ db' = { db with nftMetadata } := by
  unfold insertNft at h
  split at h
  · next nftMetadata hins => exact ⟨nftMetadata, hins, (Except.ok.inj h).symm⟩
  · cases h

/-- A row after an insertion was there before, or is the new one. -/
lemma get?_insertNft {nm nm' : NftMetadata} {db db' : Db} (h : insertNft nm db = .ok db')
    {id : Uuid} (hget : db'.nftMetadata.get? id = some nm') :
    db.nftMetadata.get? id = some nm' ∨ db.nftMetadata.get? id = none ∧ nm' = nm := by
  obtain ⟨nfts, hins, rfl⟩ := insertNft_eq_ok h
  rw [Indexed.get?_insert hins] at hget
  split_ifs at hget with hid
  · rw [hid]
    exact .inr ⟨Indexed.get?_insert_self hins, (Option.some.inj hget).symm⟩
  · exact .inl hget

/-- An NFT with the wallet of its owner. -/
def nftWithOwner (id : Uuid) (db : Db) : Option (NftMetadata × String) :=
  (db.nftMetadata.get? id).bind fun nm => (db.walletOf nm.ownerId).map fun w => (nm, w)

lemma nftWithOwner_eq_some {id : Uuid} {db : Db} {nm : NftMetadata} {w : String}
    (h : nftWithOwner id db = some (nm, w)) :
    db.nftMetadata.get? id = some nm ∧ db.walletOf nm.ownerId = some w := by
  obtain ⟨nm', hnm, hw⟩ := Option.bind_eq_some_iff.mp h
  obtain ⟨w', hw', heq⟩ := Option.map_eq_some_iff.mp hw
  obtain ⟨rfl, rfl⟩ := Prod.mk.inj heq
  exact ⟨hnm, hw'⟩

/-- `get_or_create_user`. -/
def getOrCreateUser (env : Env) (wallet preKey : String) : Handler Uuid := do
  let user? ← read fun db => db.userOf wallet
  match user? with
  | some user => pure user.id
  | none => do
      let walletAddress ← lift (varchar 35 wallet)
      let prePublicKey ← lift (varchar 130 preKey)
      write (insertUser { id := env.uuid 0, walletAddress, prePublicKey })
      pure (env.uuid 0)

/-! ## POST /api/v1/vault/create -/

structure CreateVaultRequest where
  walletAddress : String
  prePublicKey : String
  encryptedAesKey : String
  metadataHash : String
  manifest : VaultManifest

structure CreateVaultResponse where
  vaultId : Uuid
  nftTokenId : String
  offerIndex : String
  signingRequestUri : String
  nftUri : String
  deriving DecidableEq

/-- A string without its trailing slashes. -/
def trimEndSlashes (s : String) : String :=
  String.ofList ((s.toList.reverse.dropWhile (· == '/')).reverse)

def publicMetadataUri (state : AppState) (manifestHash : String) : String :=
  match state.publicUrl with
  | some publicUrl => trimEndSlashes publicUrl ++ "/nft/" ++ manifestHash ++ "/metadata.json"
  | none => "vaulted://" ++ manifestHash

def pendingTokenIdForVault (state : AppState) (vaultId : Uuid) : String :=
  Text.hexEncode (state.sha256 (Text.utf8 ("vaulted-pending-nft:" ++ vaultId.text)))

/-- The row of a prepared vault. -/
def preparedVault (state : AppState) (env : Env) (req : CreateVaultRequest) (userId : Uuid)
    (metadataHash : String) : NftMetadata where
  id := env.uuid 1
  nftTokenId := pendingTokenIdForVault state (env.uuid 1)
  ownerId := userId
  encryptedAesKey := req.encryptedAesKey
  metadataHash := metadataHash
  status := NftStatus.pendingClaim
  manifest := if state.dbEncryptionKey.isSome then none else some req.manifest.toJson

def createVault (state : AppState) (env : Env) (auth : AuthenticatedUser)
    (req : CreateVaultRequest) : Handler CreateVaultResponse := do
  require (Text.eqIgnoreAsciiCase auth.walletAddress req.walletAddress)
    (.Forbidden "Cannot create vault for different wallet")
  require (Text.startsWith req.walletAddress "r") (.Validation "Invalid XRPL address")
  require (!Text.isEmpty req.encryptedAesKey) (.Validation "encrypted_aes_key required")
  require (!Text.isEmpty req.metadataHash) (.Validation "metadata_hash required")
  let userId ← getOrCreateUser env req.walletAddress req.prePublicKey
  let metadataHash ← lift (varchar 71 req.metadataHash)
  write (insertNft (preparedVault state env req userId metadataHash))
  pure
    { vaultId := env.uuid 1
      nftTokenId := pendingTokenIdForVault state (env.uuid 1)
      offerIndex := ""
      signingRequestUri := ""
      nftUri := publicMetadataUri state req.metadataHash }

/-! ## POST /api/v1/vault/finalize-mint -/

structure FinalizeVaultMintRequest where
  vaultId : Uuid
  nftTokenId : String
  txHash : String
  manifestUri : String
  manifestHash : String
  ownerIdentityId : String

structure FinalizeVaultMintResponse where
  vaultId : Uuid
  nftTokenId : String
  status : NftStatus
  deriving DecidableEq

/-- What the manifest records about the mint. -/
def mintPatch (req : FinalizeVaultMintRequest) (v : Xrpl.LocalMintVerification) : Json :=
  .Obj [("manifest_uri", .Str req.manifestUri), ("manifest_hash", .Str req.manifestHash),
    ("xrpl_tx_hash", .Str req.txHash), ("mint_authority", .Str "client_local_vaulted_wallet"),
    ("ledger_verified", .Boolean true), ("ledger_owner", .Str v.owner), ("ledger_uri", .Str v.uri)]

/-- A vault with its minted NFT. -/
def mintedVault (req : FinalizeVaultMintRequest) (v : Xrpl.LocalMintVerification)
    (metadataHash : String) (nm : NftMetadata) : NftMetadata :=
  { nm with
    nftTokenId := req.nftTokenId, metadataHash := metadataHash, offerIndex := none,
    status := NftStatus.active,
    manifest := some ((nm.manifest.getD (.Obj [])).concat (mintPatch req v)) }

def updateMinted (req : FinalizeVaultMintRequest) (v : Xrpl.LocalMintVerification)
    (metadataHash : String) (db : Db) : Except ApiError Db :=
  match db.nftMetadata.replace? req.vaultId (mintedVault req v metadataHash) (fun _ => rfl) with
  | some nftMetadata => .ok { db with nftMetadata }
  | none => .error (.uniqueViolation "nft_metadata_nft_token_id_key")

lemma updateMinted_eq_ok {req : FinalizeVaultMintRequest} {v : Xrpl.LocalMintVerification}
    {metadataHash : String} {db db' : Db} (h : updateMinted req v metadataHash db = .ok db') :
    ∃ nftMetadata, db.nftMetadata.replace? req.vaultId (mintedVault req v metadataHash) (fun _ => rfl)
        = some nftMetadata ∧ db' = { db with nftMetadata } := by
  unfold updateMinted at h
  split at h
  · next nftMetadata hnfts => exact ⟨nftMetadata, hnfts, (Except.ok.inj h).symm⟩
  · cases h

/-- The replicas of a vault follow its token id.  The handler drops an error of this statement,
but the transaction does not: it refuses the next one. -/
def renameReplicas (previousTokenId nftTokenId : String) (db : Db) : Except ApiError Db :=
  match db.fileReplicas.replaceWhere? (fun r => decide (r.nftTokenId = previousTokenId))
      fun r => { r with nftTokenId } with
  | some fileReplicas => .ok { db with fileReplicas }
  | none => .error .transactionAborted

lemma renameReplicas_eq_ok {previousTokenId nftTokenId : String} {db db' : Db}
    (h : renameReplicas previousTokenId nftTokenId db = .ok db') :
    ∃ fileReplicas, db.fileReplicas.replaceWhere?
        (fun r => decide (r.nftTokenId = previousTokenId)) (fun r => { r with nftTokenId })
        = some fileReplicas ∧ db' = { db with fileReplicas } := by
  unfold renameReplicas at h
  split at h
  · next fileReplicas hreplicas => exact ⟨fileReplicas, hreplicas, (Except.ok.inj h).symm⟩
  · cases h

/-- The vault object that belongs to a minted NFT. -/
def linkedObject (req : FinalizeVaultMintRequest) (id : String) : VaultObject where
  id := id
  ownerIdentityId := req.ownerIdentityId
  manifestUri := req.manifestUri
  manifestHash := req.manifestHash
  nftChain := some "xrpl:testnet"
  nftTokenId := some req.nftTokenId
  status := .Active

/-- `finalize_vault_object_link_sql`. -/
def linkVaultObject (req : FinalizeVaultMintRequest) (db : Db) : Except ApiError Db :=
  if (db.identities.get? req.ownerIdentityId).isSome then
    .ok { db with
      vaultObjects := db.vaultObjects.upsert (linkedObject req req.vaultId.text)
        (fun vo => linkedObject req vo.id) (fun _ => rfl) }
  else .error (.foreignKeyViolation "vault_objects" "vault_objects_owner_identity_id_fkey")

lemma linkVaultObject_eq_ok {req : FinalizeVaultMintRequest} {db db' : Db}
    (h : linkVaultObject req db = .ok db') : db' =
      { db with
        vaultObjects := db.vaultObjects.upsert (linkedObject req req.vaultId.text)
          (fun vo => linkedObject req vo.id) (fun _ => rfl) } := by
  unfold linkVaultObject at h
  split_ifs at h
  exact (Except.ok.inj h).symm

/-- An identity that is registered and active. -/
def isActiveIdentity (id : String) (db : Db) : Bool :=
  (db.identities.get? id).any fun i => decide (i.status = .Active)

/-- The URI under which the metadata of a vault has been published. -/
def publishedMetadataUri (nm : NftMetadata) : Option String :=
  nm.manifest.bind fun manifest => manifest.textAt ["public_metadata", "metadata_uri"]

def finalizeVaultMint (env : Env) (auth : AuthenticatedUser) (req : FinalizeVaultMintRequest) :
    Handler FinalizeVaultMintResponse := do
  require (Text.isHexOfLen 64 req.nftTokenId) (.Validation "Invalid minted NFTokenID")
  require (Text.isHexOfLen 64 req.txHash) (.Validation "Invalid XRPL transaction hash")
  require (!(Text.isEmpty req.manifestHash || Text.isEmpty req.manifestUri))
    (.Validation "manifest_uri and manifest_hash are required")
  require (!Text.isEmpty (Text.trim req.ownerIdentityId))
    (.Validation "owner_identity_id is required")
  let row? ← read (nftWithOwner req.vaultId)
  let (nm, ownerWallet) ← expect row? (.NotFound ("Vault " ++ req.vaultId.text ++ " not found"))
  require (Text.eqIgnoreAsciiCase auth.walletAddress ownerWallet)
    (.Forbidden "Only the vault owner can finalize mint")
  let identityExists ← read (isActiveIdentity req.ownerIdentityId)
  require identityExists (.Validation "owner_identity_id is not an active Vaulted identity")
  let existing ← read fun db =>
    (db.nftMetadata.find? req.nftTokenId).any fun other => decide (other.id ≠ req.vaultId)
  require (!existing) (.Conflict ("NFT " ++ req.nftTokenId ++ " is already registered"))
  require (decide (publishedMetadataUri nm = some req.manifestUri))
    (.Validation "Public metadata must be published before finalize-mint")
  let verification ← lift
    (Xrpl.verifyLocalNftMint env req.txHash req.nftTokenId ownerWallet req.manifestUri)
  transaction do
    let metadataHash ← lift (varchar 71 req.manifestHash)
    write (updateMinted req verification metadataHash)
    write (renameReplicas nm.nftTokenId req.nftTokenId)
    write (linkVaultObject req)
  pure { vaultId := req.vaultId, nftTokenId := req.nftTokenId, status := .Active }

/-! ## DELETE /api/v1/vault/:nft_token_id -/

structure DeleteVaultRequest where
  walletAddress : String
  burnTxHash : Option String

structure DeleteVaultResponse where
  success : Bool
  overallStatus : String
  message : String
  deletedFragments : Nat
  totalFragments : Nat
  storageDeleted : Bool
  oracleDeleted : Bool
  failures : List String
  deriving DecidableEq

/-- The URL of a fragment's node. -/
def fragmentEndpoint (state : AppState) (nodes : List StorageNode) (fragment : FragmentInfo) :
    String :=
  if fragment.storageNodeId = "" then state.storageNodeUrl.getD "http://localhost:9001"
  else ((nodes.find? fun node => decide (node.id = fragment.storageNodeId)).map
    StorageNode.endpointUrl).getD "http://localhost:9001"

/-- The `n`-th request of a deletion. -/
def deleteRequest (state : AppState) (env : Env) (nodes : List StorageNode) (nftTokenId : String)
    (n : Nat) (fragment : FragmentInfo) : StorageRequest where
  token := .newScoped env.now (env.uuid n) nftTokenId fragment.storageKey .Delete 5
    (some (storageNodeScope fragment.storageNodeId)) (some fragment.encryptedHash)
  nodeId := fragment.storageNodeId
  endpointUrl := fragmentEndpoint state nodes fragment
  answer := env.storage n

/-- The counters of the deletion loop. -/
structure Cleanup where
  deletedFragments : Nat
  failures : List String

def Cleanup.record (c : Cleanup) (fragment : FragmentInfo) (answer : NodeAnswer) : Cleanup :=
  if answer.isSuccess || answer.isNotFound then
    { c with deletedFragments := c.deletedFragments + 1 }
  else match answer with
    | .Status code _ =>
        { c with failures := c.failures ++ ["storage_delete_http_" ++ toString code ++ "_fragment_"
          ++ toString fragment.index.toNat] }
    | .TransportError =>
        { c with failures := c.failures ++ ["storage_delete_error_fragment_"
          ++ toString fragment.index.toNat] }

/-- Ask the nodes to delete the fragments, one by one. -/
def deleteFragments (state : AppState) (env : Env) (nodes : List StorageNode)
    (nftTokenId : String) : Nat → List FragmentInfo → Cleanup → Handler Cleanup
  | _, [], c => pure c
  | n, fragment :: fragments, c => do
      let request := deleteRequest state env nodes nftTokenId n fragment
      sendToStorage request
      deleteFragments state env nodes nftTokenId (n + 1) fragments
        (c.record fragment request.answer)

def revokeGrants (vaultObjectId : String) (db : Db) : Db :=
  { db with
    grants := db.grants.modify
      (fun g => decide (g.vaultObjectId = vaultObjectId) && decide (g.status = .Active))
      (fun g => { g with status := .Revoked }) Grant.id_revoked }

def deleteVaultObject (id : String) (db : Db) : Db :=
  { db with
    vaultObjects := db.vaultObjects.update id (fun vo => { vo with status := .Deleted })
      (fun _ => rfl) }

def deleteReplicas (nftTokenId : String) (db : Db) : Db :=
  { db with
    fileReplicas := db.fileReplicas.modify (fun r => decide (r.nftTokenId = nftTokenId))
      (fun r => { r with status := ReplicaStatus.deleted }) (fun _ => rfl) }

def deleteVault (state : AppState) (env : Env) (auth : AuthenticatedUser) (nftTokenId : String)
    (request : DeleteVaultRequest) : Handler DeleteVaultResponse := do
  require (Text.eqIgnoreAsciiCase auth.walletAddress request.walletAddress)
    (.Forbidden "Cannot delete vault for different wallet")
  let vault? ← read fun db => db.nftMetadata.find? nftTokenId
  let vault ← expect vault? (.NotFound ("Vault with NFT " ++ nftTokenId ++ " not found"))
  let manifestJson ← expect vault.manifest (.unexpectedNull "3")
  let ownerWallet? ← read fun db => db.walletOf vault.ownerId
  let ownerWallet ← expect ownerWallet? .rowNotFound
  require (Text.eqIgnoreAsciiCase ownerWallet request.walletAddress)
    (.Forbidden "Only the owner can delete vault")
  let burnTxHash ← expect request.burnTxHash (.BadRequest "burn_tx_hash is required")
  lift (Xrpl.verifyLocalNftBurn env burnTxHash nftTokenId auth.walletAddress)
  require (decide (vault.status.val ≠ .Transferring))
    (.BadRequest "Cannot delete vault while transfer is in progress")
  let manifest ← lift (Pre.mapErr (fun e => .Internal ("Failed to parse manifest: " ++ e))
    (VaultManifest.fromJson manifestJson))
  let fragmentCount := manifest.fragments.length
  let nodes ← read fun db => db.storageNodes.rows
  let cleanup ← deleteFragments state env nodes nftTokenId 0 manifest.fragments ⟨0, []⟩
  let storageDeleted := decide (cleanup.deletedFragments = fragmentCount)
  write fun db => .ok (revokeGrants vault.id.text db)
  write fun db => .ok (deleteVaultObject vault.id.text db)
  write fun db => .ok (if storageDeleted then deleteReplicas nftTokenId db else db)
  write fun db => db.updateNft vault.id .Archived id nftId_unchanged nftTokenId_unchanged
  let failures :=
    if storageDeleted then cleanup.failures else cleanup.failures ++ ["storage_delete_partial"]
  let success := storageDeleted && failures.isEmpty
  let removed := toString cleanup.deletedFragments ++ " of " ++ toString fragmentCount
    ++ " fragments removed"
  pure
    { success
      overallStatus := if success then "deleted" else "partial"
      message :=
        if success then "Vault tombstoned. " ++ removed ++ " from storage."
        else "Vault tombstoned after NFT burn, but storage cleanup is partial: " ++ removed ++ "."
      deletedFragments := cleanup.deletedFragments
      totalFragments := fragmentCount
      storageDeleted
      oracleDeleted := true
      failures }

/-! ## POST /api/vault/cancel-offer -/

structure CancelOfferRequest where
  nftTokenId : String
  offerIndex : String
  walletAddress : String

structure CancelOfferResponse where
  success : Bool
  message : String
  deriving DecidableEq

/-- `burned` is what becomes of the burn; whether the offer could be cancelled has no effect. -/
def cancelOffer (state : AppState) (env : Env) (burned : Except ApiError Unit)
    (auth : AuthenticatedUser) (req : CancelOfferRequest) : Handler CancelOfferResponse := do
  require (Text.eqIgnoreAsciiCase auth.walletAddress req.walletAddress)
    (.Forbidden "Cannot cancel offer for different wallet")
  let ownerWallet? ← read fun db =>
    (db.nftMetadata.find? req.nftTokenId).bind fun nm => db.walletOf nm.ownerId
  let ownerWallet ← expect ownerWallet? (.NotFound "NFT not found")
  require (Text.eqIgnoreAsciiCase ownerWallet req.walletAddress)
    (.Forbidden "Only the intended recipient can cancel this offer")
  match Xrpl.checkNftOnOracle env 0 state.oracleAddress req.nftTokenId with
  | .error _ => pure { success := true, message := "NFT not found (already burned or claimed)" }
  | .ok false => pure { success := false, message := "NFT already claimed or burned" }
  | .ok true =>
      match burned with
      | .error e => fail (.Internal ("Failed to burn NFT: " ++ e.display))
      | .ok _ => do
          -- the constraint does not list 'burned', and the handler drops the error
          ignore (write fun db => match db.nftMetadata.find? req.nftTokenId with
            | some nm => db.updateNft nm.id .Burned id nftId_unchanged nftTokenId_unchanged
            | none => .ok db)
          pure { success := true, message := "Offer cancelled and NFT burned" }

/-! ## What a call can do -/

/-- What `getOrCreateUser` answers and leaves. -/
inductive Joins (env : Env) (wallet preKey : String) (db : Db) :
    Except ApiError Uuid → Db → Prop
  | Known (user : User) : db.userOf wallet = some user → Joins env wallet preKey db (.ok user.id) db
  | Refused (e : ApiError) : Joins env wallet preKey db (.error e) db
  | Registered (walletAddress prePublicKey : String) (db' : Db) : db.userOf wallet = none →
      varchar 35 wallet = .ok walletAddress → varchar 130 preKey = .ok prePublicKey →
      insertUser { id := env.uuid 0, walletAddress, prePublicKey } db = .ok db' →
      Joins env wallet preKey db (.ok (env.uuid 0)) db'

lemma getOrCreateUser_spec (env : Env) (wallet preKey : String) (db : Db) :
    wp (getOrCreateUser env wallet preKey) (Joins env wallet preKey db) db := by
  refine wp_read_bind ?_
  cases huser : db.userOf wallet with
  | some user => exact .Known user huser
  | none =>
      refine wp_lift_bind (fun _ _ => .Refused _) fun w hw => ?_
      refine wp_lift_bind (fun _ _ => .Refused _) fun key hkey => ?_
      refine wp_write_bind (fun _ _ => .Refused _) fun db' hdb' => wp_pure ?_
      exact .Registered w key db' huser hw hkey hdb'

/-- Only the users can change. -/
lemma Joins.frame {env : Env} {wallet preKey : String} {db db' : Db} {r : Except ApiError Uuid}
    (h : Joins env wallet preKey db r db') : ∃ users, db' = { db with users } := by
  cases h with
  | Known => exact ⟨_, rfl⟩
  | Refused => exact ⟨_, rfl⟩
  | Registered _ _ _ _ _ _ hins =>
      unfold insertUser at hins
      split at hins
      · exact ⟨_, (Except.ok.inj hins).symm⟩
      · cases hins

inductive Creates (state : AppState) (env : Env) (auth : AuthenticatedUser)
    (req : CreateVaultRequest) (db : Db) : Except ApiError CreateVaultResponse → Db → Prop
  | Refused (e : ApiError) : Creates state env auth req db (.error e) db
  | Unprepared (userId : Uuid) (e : ApiError) (db' : Db) :
      Text.eqIgnoreAsciiCase auth.walletAddress req.walletAddress = true →
      Joins env req.walletAddress req.prePublicKey db (.ok userId) db' →
      Creates state env auth req db (.error e) db'
  | Prepared (userId : Uuid) (metadataHash : String) (answer : CreateVaultResponse) (db₁ db' : Db) :
      Text.eqIgnoreAsciiCase auth.walletAddress req.walletAddress = true →
      Joins env req.walletAddress req.prePublicKey db (.ok userId) db₁ →
      insertNft (preparedVault state env req userId metadataHash) db₁ = .ok db' →
      Creates state env auth req db (.ok answer) db'

theorem createVault_spec (state : AppState) (env : Env) (auth : AuthenticatedUser)
    (req : CreateVaultRequest) (db : Db) :
    wp (createVault state env auth req) (Creates state env auth req db) db := by
  refine wp_require_bind (fun _ => .Refused _) fun hauth => ?_
  refine wp_require_bind (fun _ => .Refused _) fun _ => ?_
  refine wp_require_bind (fun _ => .Refused _) fun _ => ?_
  refine wp_require_bind (fun _ => .Refused _) fun _ => ?_
  refine wp_bind (wp_mono (getOrCreateUser_spec _ _ _ _) fun r db₁ hjoin => ?_)
  cases r with
  | error e =>
      cases hjoin
      exact .Refused e
  | ok userId =>
      refine wp_lift_bind (fun e _ => .Unprepared userId e db₁ hauth hjoin) fun hash _ => ?_
      refine wp_write_bind (fun e _ => .Unprepared userId e db₁ hauth hjoin) fun db' hins => ?_
      exact wp_pure (.Prepared userId hash _ db₁ db' hauth hjoin hins)

/-- What `finalizeVaultMint` asks of a vault: the caller owns it, its metadata is published under
the URI of the request, and the ledger has seen an NFT with that URI minted by the caller. -/
structure Finalizable (env : Env) (auth : AuthenticatedUser) (req : FinalizeVaultMintRequest)
    (db : Db) (nm : NftMetadata) (wallet : String) (v : Xrpl.LocalMintVerification) : Prop where
  found : db.nftMetadata.get? req.vaultId = some nm
  owner : db.walletOf nm.ownerId = some wallet
  caller : Text.eqIgnoreAsciiCase auth.walletAddress wallet = true
  identity : isActiveIdentity req.ownerIdentityId db = true
  unregistered : ∀ other, db.nftMetadata.find? req.nftTokenId = some other →
    other.id = req.vaultId
  published : publishedMetadataUri nm = some req.manifestUri
  minted : Xrpl.verifyLocalNftMint env req.txHash req.nftTokenId wallet req.manifestUri = .ok v

inductive Finalizes (env : Env) (auth : AuthenticatedUser) (req : FinalizeVaultMintRequest)
    (db : Db) : Except ApiError FinalizeVaultMintResponse → Db → Prop
  | Refused (e : ApiError) : Finalizes env auth req db (.error e) db
  | Finalized (nm : NftMetadata) (wallet : String) (v : Xrpl.LocalMintVerification)
      (metadataHash : String) (answer : FinalizeVaultMintResponse) (db₁ db₂ db₃ : Db) :
      Finalizable env auth req db nm wallet v →
      updateMinted req v metadataHash db = .ok db₁ →
      renameReplicas nm.nftTokenId req.nftTokenId db₁ = .ok db₂ →
      linkVaultObject req db₂ = .ok db₃ →
      Finalizes env auth req db (.ok answer) db₃

theorem finalizeVaultMint_spec (env : Env) (auth : AuthenticatedUser)
    (req : FinalizeVaultMintRequest) (db : Db) :
    wp (finalizeVaultMint env auth req) (Finalizes env auth req db) db := by
  refine wp_require_bind (fun _ => .Refused _) fun _ => ?_
  refine wp_require_bind (fun _ => .Refused _) fun _ => ?_
  refine wp_require_bind (fun _ => .Refused _) fun _ => ?_
  refine wp_require_bind (fun _ => .Refused _) fun _ => ?_
  refine wp_read_bind (wp_expect_bind (fun _ => .Refused _) fun (nm, w) hrow => ?_)
  obtain ⟨hnm, hw⟩ := nftWithOwner_eq_some hrow
  refine wp_require_bind (fun _ => .Refused _) fun hauth => ?_
  refine wp_read_bind (wp_require_bind (fun _ => .Refused _) fun hidentity => ?_)
  refine wp_read_bind (wp_require_bind (fun _ => .Refused _) fun hnew => ?_)
  refine wp_require_bind (fun _ => .Refused _) fun huri => ?_
  refine wp_lift_bind (fun _ _ => .Refused _) fun v hv => ?_
  have hfinal : Finalizable env auth req db nm w v :=
    { found := hnm
      owner := hw
      caller := hauth
      identity := hidentity
      unregistered := fun other hother => by simpa [hother] using hnew
      published := of_decide_eq_true huri
      minted := hv }
  refine wp_bind (wp_transaction ?_)
  refine wp_lift_bind (fun _ _ => .Refused _) fun hash _ => ?_
  refine wp_write_bind (fun _ _ => .Refused _) fun db₁ h₁ => ?_
  refine wp_write_bind (fun _ _ => .Refused _) fun db₂ h₂ => ?_
  refine wp_write (fun _ _ => .Refused _) fun db₃ h₃ => wp_pure ?_
  exact .Finalized nm w v hash _ db₁ db₂ db₃ hfinal h₁ h₂ h₃

/-- The requests of a deletion. -/
def deleteRequests (state : AppState) (env : Env) (nodes : List StorageNode)
    (nftTokenId : String) : Nat → List FragmentInfo → List StorageRequest
  | _, [] => []
  | n, fragment :: fragments =>
      deleteRequest state env nodes nftTokenId n fragment
        :: deleteRequests state env nodes nftTokenId (n + 1) fragments

lemma mem_deleteRequests {state : AppState} {env : Env} {nodes : List StorageNode}
    {nftTokenId : String} {n : Nat} {fragments : List FragmentInfo} {r : StorageRequest}
    (h : r ∈ deleteRequests state env nodes nftTokenId n fragments) :
    ∃ i, ∃ f ∈ fragments, r = deleteRequest state env nodes nftTokenId i f := by
  induction fragments generalizing n with
  | nil => cases h
  | cons fragment fragments ih =>
      rcases List.mem_cons.mp h with rfl | h
      · exact ⟨n, fragment, List.mem_cons_self, rfl⟩
      · obtain ⟨i, f, hf, hr⟩ := ih h
        exact ⟨i, f, List.mem_cons_of_mem _ hf, hr⟩

/-- The loop sends its requests and touches nothing else. -/
lemma deleteFragments_spec (state : AppState) (env : Env) (nodes : List StorageNode)
    (nftTokenId : String) (n : Nat) (fragments : List FragmentInfo) (c : Cleanup) (db : Db) :
    wp (deleteFragments state env nodes nftTokenId n fragments c) (fun r db' => (∃ c', r = .ok c')
      ∧ db' = { db with storageRequests := db.storageRequests
          ++ deleteRequests state env nodes nftTokenId n fragments }) db := by
  induction fragments generalizing n c db with
  | nil => exact wp_pure ⟨⟨c, rfl⟩, by simp [deleteRequests]⟩
  | cons fragment fragments ih =>
      refine wp_write_bind (fun _ h => nomatch h) fun db₁ hdb₁ => ?_
      cases hdb₁
      refine wp_mono (ih _ _ _) fun r db' h => ⟨h.1, ?_⟩
      rw [h.2, deleteRequests]
      simp

/-- What a deletion leaves, once the nodes have answered. -/
def tombstoned (nm : NftMetadata) (storageDeleted : Bool) (db : Db) : Db :=
  let db := deleteVaultObject nm.id.text (revokeGrants nm.id.text db)
  let db := if storageDeleted then deleteReplicas nm.nftTokenId db else db
  db.withNft nm.id fun nm => { nm with status := NftStatus.archived }

/-- What `deleteVault` asks of a vault, up to the manifest it goes through. -/
structure Deletable (env : Env) (auth : AuthenticatedUser) (nftTokenId : String)
    (request : DeleteVaultRequest) (db : Db) (nm : NftMetadata) (manifest : VaultManifest) :
    Prop where
  caller : Text.eqIgnoreAsciiCase auth.walletAddress request.walletAddress = true
  found : db.nftMetadata.find? nftTokenId = some nm
  owner : ∃ w, db.walletOf nm.ownerId = some w ∧ Text.eqIgnoreAsciiCase auth.walletAddress w = true
  burned : ∃ txHash, request.burnTxHash = some txHash
    ∧ Xrpl.verifyLocalNftBurn env txHash nftTokenId auth.walletAddress = .ok ()
  untransferred : nm.status.val ≠ .Transferring
  listed : ∃ j, nm.manifest = some j ∧ VaultManifest.fromJson j = .ok manifest

/-- There is one row and one manifest for a token. -/
lemma Deletable.unique {env : Env} {auth : AuthenticatedUser} {nftTokenId : String}
    {request : DeleteVaultRequest} {db : Db} {nm nm' : NftMetadata}
    {manifest manifest' : VaultManifest} {j : Json}
    (h : Deletable env auth nftTokenId request db nm manifest)
    (hfound : db.nftMetadata.find? nftTokenId = some nm') (hj : nm'.manifest = some j)
    (hmanifest : VaultManifest.fromJson j = .ok manifest') :
    nm' = nm ∧ manifest' = manifest := by
  obtain rfl : nm' = nm := Option.some.inj (hfound.symm.trans h.found)
  obtain ⟨j', hj', hmanifest'⟩ := h.listed
  obtain rfl : j = j' := Option.some.inj (hj.symm.trans hj')
  exact ⟨rfl, Except.ok.inj (hmanifest.symm.trans hmanifest')⟩

inductive Deletes (state : AppState) (env : Env) (auth : AuthenticatedUser) (nftTokenId : String)
    (request : DeleteVaultRequest) (db : Db) : Except ApiError DeleteVaultResponse → Db → Prop
  | Refused (e : ApiError) : Deletes state env auth nftTokenId request db (.error e) db
  | Deleted (nm : NftMetadata) (manifest : VaultManifest) (storageDeleted : Bool)
      (answer : DeleteVaultResponse) : Deletable env auth nftTokenId request db nm manifest →
      Deletes state env auth nftTokenId request db (.ok answer) (tombstoned nm storageDeleted
        { db with storageRequests := db.storageRequests
            ++ deleteRequests state env db.storageNodes.rows nftTokenId 0 manifest.fragments })

theorem deleteVault_spec (state : AppState) (env : Env) (auth : AuthenticatedUser)
    (nftTokenId : String) (request : DeleteVaultRequest) (db : Db) :
    wp (deleteVault state env auth nftTokenId request)
      (Deletes state env auth nftTokenId request db) db := by
  refine wp_require_bind (fun _ => .Refused _) fun hauth => ?_
  refine wp_read_bind (wp_expect_bind (fun _ => .Refused _) fun nm hnm => ?_)
  refine wp_expect_bind (fun _ => .Refused _) fun j hj => ?_
  refine wp_read_bind (wp_expect_bind (fun _ => .Refused _) fun w hw => ?_)
  refine wp_require_bind (fun _ => .Refused _) fun howner => ?_
  refine wp_expect_bind (fun _ => .Refused _) fun txHash hhash => ?_
  refine wp_lift_bind (fun _ _ => .Refused _) fun _ hburn => ?_
  refine wp_require_bind (fun _ => .Refused _) fun hstatus => ?_
  refine wp_lift_bind (fun _ _ => .Refused _) fun manifest hmanifest => ?_
  have hdelete : Deletable env auth nftTokenId request db nm manifest :=
    { caller := hauth
      found := hnm
      owner := ⟨w, hw, Text.eqIgnoreAsciiCase_trans hauth (Text.eqIgnoreAsciiCase_symm howner)⟩
      burned := ⟨txHash, hhash, hburn⟩
      untransferred := of_decide_eq_true hstatus
      listed := ⟨j, hj, Pre.eq_ok_of_mapErr hmanifest⟩ }
  refine wp_read_bind (wp_bind (wp_mono (deleteFragments_spec _ _ _ _ _ _ _ _) ?_))
  rintro _ db₁ ⟨⟨cleanup, rfl⟩, rfl⟩
  refine wp_write_bind (fun _ h => nomatch h) fun db₂ h₂ => ?_
  cases h₂
  refine wp_write_bind (fun _ h => nomatch h) fun db₃ h₃ => ?_
  cases h₃
  refine wp_write_bind (fun _ h => nomatch h) fun db₄ h₄ => ?_
  cases h₄
  refine wp_write_bind (fun _ h => nomatch h) fun db₅ h₅ => ?_
  cases h₅
  rw [← (Indexed.find?_eq_some.mp hnm).2] at hdelete ⊢
  exact wp_pure (.Deleted nm manifest _ _ hdelete)

/-- The nodes have confirmed the requests from the `n`-th on. -/
def allConfirm (env : Env) (n len : Nat) : Bool :=
  (List.range' n len).all fun i => (env.storage i).confirmsDeletion

lemma Cleanup.record_of_confirms (c : Cleanup) (fragment : FragmentInfo) {answer : NodeAnswer}
    (h : answer.confirmsDeletion = true) :
    c.record fragment answer = { c with deletedFragments := c.deletedFragments + 1 } :=
  if_pos h

lemma Cleanup.record_of_not_confirms (c : Cleanup) (fragment : FragmentInfo) {answer : NodeAnswer}
    (h : answer.confirmsDeletion = false) :
    (c.record fragment answer).deletedFragments = c.deletedFragments := by
  have hneg : ¬(answer.isSuccess || answer.isNotFound) = true :=
    fun htrue => Bool.false_ne_true (h.symm.trans htrue)
  unfold record
  rw [if_neg hneg]
  cases answer <;> rfl

/-- The counter of the loop is full if and only if every node confirms, and no failure is added
then. -/
lemma deleteFragments_counts (state : AppState) (env : Env) (nodes : List StorageNode)
    (nftTokenId : String) (n : Nat) (fragments : List FragmentInfo) (c : Cleanup) (db : Db) :
    wp (deleteFragments state env nodes nftTokenId n fragments c) (fun r _ => ∃ c', r = .ok c'
      ∧ c'.deletedFragments ≤ c.deletedFragments + fragments.length
      ∧ (c'.deletedFragments = c.deletedFragments + fragments.length
        ↔ allConfirm env n fragments.length = true)
      ∧ (allConfirm env n fragments.length = true → c'.failures = c.failures)) db := by
  induction fragments generalizing n c db with
  | nil => exact wp_pure ⟨c, rfl, le_rfl, by simp [allConfirm], fun _ => rfl⟩
  | cons fragment fragments ih =>
      refine wp_write_bind (fun _ h => by cases h) fun db₁ _ => wp_mono (ih _ _ _) ?_
      rintro r db' ⟨c', rfl, hle, hfull, hfailures⟩
      have hall : allConfirm env n (fragments.length + 1) = ((env.storage n).confirmsDeletion
          && allConfirm env (n + 1) fragments.length) := by
        simp [allConfirm, List.range'_succ]
      rw [List.length_cons, hall]
      cases hconfirms : (env.storage n).confirmsDeletion with
      | true =>
          have hrecord : c.record fragment (deleteRequest state env nodes nftTokenId n
              fragment).answer = _ := c.record_of_confirms fragment hconfirms
          rw [hrecord] at hle hfull hfailures
          refine ⟨c', rfl, ?_, ?_, hfailures⟩
          · dsimp only at hle
            omega
          · rw [Bool.true_and, ← hfull]
            dsimp only
            omega
      | false =>
          have hrecord : (c.record fragment (deleteRequest state env nodes nftTokenId n
              fragment).answer).deletedFragments = c.deletedFragments :=
            c.record_of_not_confirms fragment hconfirms
          rw [hrecord] at hle
          refine ⟨c', rfl, by omega, ?_, fun h => by cases h⟩
          rw [Bool.false_and]
          refine ⟨fun heq => ?_, fun h => by cases h⟩
          omega

/-- A deletion that asks for nothing in vain is carried out, and reports a full success if and only
if every node confirms. -/
lemma deleteVault_of_deletable (state : AppState) {env : Env} {auth : AuthenticatedUser}
    {nftTokenId : String} {request : DeleteVaultRequest} {db : Db} {nm : NftMetadata}
    {manifest : VaultManifest} (h : Deletable env auth nftTokenId request db nm manifest) :
    wp (deleteVault state env auth nftTokenId request) (fun r db' => ∃ answer, r = .ok answer
      ∧ answer.success = allConfirm env 0 manifest.fragments.length
      ∧ db' = tombstoned nm answer.success
        { db with storageRequests := db.storageRequests
            ++ deleteRequests state env db.storageNodes.rows nftTokenId 0 manifest.fragments })
      db := by
  obtain ⟨w, hw, hauth⟩ := h.owner
  obtain ⟨txHash, hhash, hburn⟩ := h.burned
  obtain ⟨j, hj, hmanifest⟩ := h.listed
  have howner := Text.eqIgnoreAsciiCase_trans (Text.eqIgnoreAsciiCase_symm hauth) h.caller
  refine wp_require_true h.caller (wp_read_bind (wp_expect_some h.found ?_))
  refine wp_expect_some hj (wp_read_bind (wp_expect_some hw ?_))
  refine wp_require_true howner (wp_expect_some hhash (wp_lift_ok hburn ?_))
  refine wp_require_true (decide_eq_true h.untransferred) ?_
  refine wp_lift_ok (by rw [hmanifest]; rfl) ?_
  refine wp_read_bind (wp_bind (wp_mono
    (wp_and (deleteFragments_spec _ _ _ _ _ _ _ _) (deleteFragments_counts _ _ _ _ _ _ _ _)) ?_))
  rintro _ db₁ ⟨⟨-, rfl⟩, cleanup, rfl, -, hfull, hfailures⟩
  have hdeleted : decide (cleanup.deletedFragments = manifest.fragments.length)
      = allConfirm env 0 manifest.fragments.length := by
    rw [Bool.eq_iff_iff, decide_eq_true_eq, ← hfull, Nat.zero_add]
  dsimp only
  rw [hdeleted]
  refine wp_write_bind (fun _ h => by cases h) fun db₂ h₂ => ?_
  cases h₂
  refine wp_write_bind (fun _ h => by cases h) fun db₃ h₃ => ?_
  cases h₃
  refine wp_write_bind (fun _ h => by cases h) fun db₄ h₄ => ?_
  cases h₄
  refine wp_write_bind (fun _ h => by cases h) fun db₅ h₅ => wp_pure ?_
  cases h₅
  have hsuccess : (allConfirm env 0 manifest.fragments.length
      && (if allConfirm env 0 manifest.fragments.length then cleanup.failures
        else cleanup.failures ++ ["storage_delete_partial"]).isEmpty)
      = allConfirm env 0 manifest.fragments.length := by
    cases hall : allConfirm env 0 manifest.fragments.length with
    | false => rfl
    | true => rw [if_pos rfl, hfailures hall]; rfl
  refine ⟨_, rfl, hsuccess, ?_⟩
  dsimp only
  rw [hsuccess, ← (Indexed.find?_eq_some.mp h.found).2]
  rfl

/-- **A cancelled offer leaves the database as it is**: `'burned'` is not an admitted status. -/
theorem cancelOffer_spec (state : AppState) (env : Env) (burned : Except ApiError Unit)
    (auth : AuthenticatedUser) (req : CancelOfferRequest) (db : Db) :
    wp (cancelOffer state env burned auth req) (fun _ db' => db' = db) db := by
  refine wp_require_bind (fun _ => rfl) fun _ => ?_
  refine wp_read_bind (wp_expect_bind (fun _ => rfl) fun w hw => ?_)
  obtain ⟨nm, hnm, -⟩ := Option.bind_eq_some_iff.mp hw
  refine wp_require_bind (fun _ => rfl) fun _ => ?_
  split
  · exact wp_pure rfl
  · exact wp_pure rfl
  · cases burned with
    | error e => exact wp_fail rfl
    | ok _ =>
        refine wp_ignore_bind (wp_write (fun _ _ => wp_pure rfl) fun db' hdb' => ?_)
        rw [hnm] at hdb'
        simp [Db.updateNft, nftStatusCheck, Indexed.get?_of_find? hnm] at hdb'

end Vaulted.Vaults
