import Mathlib.Algebra.Group.Int.Defs
import Mathlib.Data.List.Sort
import Vaulted.Oracle.Ownership
import Vaulted.Oracle.Vault

/-!
# The file proxy

`api/file_proxy.rs`: the Oracle stores an encrypted file on several storage nodes and fetches it
from one of them, each time with a token it signs for the request.

* `uploadFile` — one request per selected node; the accepted ones become replicas and the
  fragments of the manifest.  Which of the candidate nodes are taken, and in which order, is the
  parameter `select`.
* `downloadFile` — from the recorded replicas or, where there are none, from the fragments that
  the manifest lists.
* `deleteFileStorage` — from every node with a recorded replica, and then the records.
* one lemma per handler that says everything a call can do to the database.
-/

namespace Vaulted.FileProxy

open Autocommit.Prog

/-! ## POST /api/v1/files/upload -/

structure ReplicaInfo where
  nodeId : String
  region : String
  status : ReplicaStatus
  deriving DecidableEq

structure UploadFileResponse where
  nftTokenId : String
  size : Nat
  replicas : List ReplicaInfo
  success : Bool
  deriving DecidableEq

def sha256FragmentHash (state : AppState) (bytes : List UInt8) : String :=
  "sha256:" ++ Text.hexEncode (state.sha256 bytes)

/-- The key under which the `n`-th replica of a file is stored. -/
def nodeStorageKey (nftTokenId : String) (n : Nat) : String :=
  "file_" ++ nftTokenId ++ "_r" ++ toString n

/-- The active nodes with room for a file. -/
def candidates (fileSize : Int) (db : Db) : List StorageNode :=
  db.storageNodes.rows.filter fun node => decide (node.status = .Active)
    && decide (fileSize < node.totalSpaceBytes - node.usedSpaceBytes)

/-- The request to the `n`-th selected node. -/
def uploadRequest (state : AppState) (env : Env) (nftTokenId : String) (body : List UInt8) (n : Nat)
    (node : StorageNode) : StorageRequest where
  token := .newScoped env.now (env.uuid n) nftTokenId (nodeStorageKey nftTokenId n) .Write 10
    (some node.id) (some (sha256FragmentHash state body))
  nodeId := node.id
  endpointUrl := node.endpointUrl
  answer := env.storage n

/-- What the manifest says about a stored replica. -/
def storedFragment (state : AppState) (nftTokenId : String) (body : List UInt8) (n : Nat)
    (node : StorageNode) : Json :=
  .Obj [("index", .Num (.Nat n)), ("storage_node_id", .Str node.id),
    ("storage_key", .Str (nodeStorageKey nftTokenId n)),
    ("encrypted_hash", .Str (sha256FragmentHash state body)),
    ("size", .Num (.Nat body.length))]

def recordReplica (r : FileReplica) (db : Db) : Except ApiError Db :=
  if (db.storageNodes.get? r.storageNodeId).isSome then
    .ok { db with
      fileReplicas := db.fileReplicas.upsert r
        (fun old => { old with
          storageKey := r.storageKey, sizeBytes := r.sizeBytes, status := r.status })
        (fun _ => rfl) }
  else .error (.foreignKeyViolation "file_replicas" "file_replicas_storage_node_id_fkey")

/-- A sum that leaves the range of the column is refused. -/
def addUsedSpace (fileSize : Int) (nodeId : String) (db : Db) : Except ApiError Db :=
  if ∀ node ∈ db.storageNodes.get? nodeId, node.usedSpaceBytes + fileSize < 2 ^ 63 then
    .ok { db with
      storageNodes := db.storageNodes.update nodeId
        (fun node => { node with usedSpaceBytes := node.usedSpaceBytes + fileSize })
        (fun _ => rfl) }
  else .error (.database "bigint out of range")

/-- The accumulators of the upload loop. -/
structure Uploads where
  successfulUploads : Nat
  fragmentInfos : List Json
  replicas : List ReplicaInfo

/-- Upload to each selected node; the two statements about a stored replica may fail. -/
def uploadReplicas (state : AppState) (env : Env) (nftTokenId : String) (body : List UInt8) :
    Nat → List StorageNode → Uploads → Handler Uploads
  | _, [], acc => pure acc
  | n, node :: nodes, acc => do
      let request := uploadRequest state env nftTokenId body n node
      sendToStorage request
      if request.answer.isSuccess then do
        ignore (write (recordReplica
          { nftTokenId
            storageNodeId := node.id
            storageKey := nodeStorageKey nftTokenId n
            sizeBytes := body.length
            status := ReplicaStatus.active }))
        ignore (write (addUsedSpace body.length node.id))
        uploadReplicas state env nftTokenId body (n + 1) nodes
          { successfulUploads := acc.successfulUploads + 1
            fragmentInfos := acc.fragmentInfos ++ [storedFragment state nftTokenId body n node]
            replicas := acc.replicas ++ [⟨node.id, node.region, .Active⟩] }
      else
        uploadReplicas state env nftTokenId body (n + 1) nodes
          { acc with replicas := acc.replicas ++ [⟨node.id, node.region, .Failed⟩] }

/-- The manifest with the size of the file and its stored fragments. -/
def uploadedManifest (fileSize : Nat) (fragments : List Json) (manifest : Option Json) :
    Option Json := do
  let sized ← (manifest.getD (.Obj [])).set? "file_size" (.Num (.Nat fileSize))
  sized.set? "fragments" (.Arr fragments)

/-- `UPDATE nft_metadata SET manifest = jsonb_set(…) WHERE nft_token_id = $2`. -/
def recordUpload (nftTokenId : String) (fileSize : Nat) (fragments : List Json) (db : Db) :
    Except ApiError Db :=
  match db.nftMetadata.find? nftTokenId with
  | none => .ok db
  | some nm =>
      match uploadedManifest fileSize fragments nm.manifest with
      | some manifest => .ok (db.withNft nm.id fun nm => { nm with manifest := some manifest })
      | none => .error (.database "cannot set path in scalar")

/-- A manifest that is an object, or missing, can be updated. -/
lemma uploadedManifest_of_isObject (fileSize : Nat) (fragments : List Json)
    {manifest : Option Json} (h : ∀ j, manifest = some j → j.isObject = true) :
    ∃ j, uploadedManifest fileSize fragments manifest = some j := by
  have hobject : (manifest.getD (.Obj [])).isObject = true := by
    cases manifest with
    | none => rfl
    | some j => exact h j rfl
  obtain ⟨sized, hsized⟩ := Json.set_of_isObject hobject "file_size" (.Num (.Nat fileSize))
  obtain ⟨j, hj⟩ := Json.set_of_isObject (Json.isObject_of_set hsized) "fragments" (.Arr fragments)
  exact ⟨j, Option.bind_eq_some_iff.mpr ⟨sized, hsized, hj⟩⟩

/-- An updated manifest is an object with the given fragments. -/
lemma uploadedManifest_eq_some {fileSize : Nat} {fragments : List Json} {manifest : Option Json}
    {j : Json} (h : uploadedManifest fileSize fragments manifest = some j) :
    j.isObject = true ∧ j.get "fragments" = some (.Arr fragments) := by
  obtain ⟨sized, -, hj⟩ := Option.bind_eq_some_iff.mp h
  exact ⟨Json.isObject_of_set hj, Json.get_set_self hj⟩

lemma recordUpload_eq_ok {nftTokenId : String} {fileSize : Nat} {fragments : List Json}
    {db db' : Db} {nm : NftMetadata} (hnm : db.nftMetadata.find? nftTokenId = some nm)
    (h : recordUpload nftTokenId fileSize fragments db = .ok db') :
    ∃ manifest, uploadedManifest fileSize fragments nm.manifest = some manifest
      ∧ db' = db.withNft nm.id fun nm => { nm with manifest := some manifest } := by
  unfold recordUpload at h
  rw [hnm] at h
  dsimp only at h
  split at h
  · next manifest hmanifest => exact ⟨manifest, hmanifest, (Except.ok.inj h).symm⟩
  · cases h

/-- The NFT with a token id, and the wallet of its owner. -/
def nftByToken (nftTokenId : String) (db : Db) : Option (NftMetadata × String) :=
  (db.nftMetadata.find? nftTokenId).bind fun nm => (db.walletOf nm.ownerId).map fun w => (nm, w)

def uploadFile (state : AppState) (select : List StorageNode → List StorageNode) (env : Env)
    (auth : AuthenticatedUser) (nftTokenId : String) (body : List UInt8) :
    Handler UploadFileResponse := do
  let nftOwner? ← read (nftByToken nftTokenId)
  let (_, ownerWallet) ← expect nftOwner? (.NotFound ("NFT not found: " ++ nftTokenId))
  require (Text.eqIgnoreAsciiCase auth.walletAddress ownerWallet)
    (.Forbidden "Only the NFT owner can upload files")
  let nodes ← read fun db => select (candidates body.length db)
  require (!nodes.isEmpty) (.Storage "No active storage nodes available")
  let uploads ← uploadReplicas state env nftTokenId body 0 nodes ⟨0, [], []⟩
  require (decide (uploads.successfulUploads ≠ 0))
    (.Storage "Failed to upload to any storage node")
  write (recordUpload nftTokenId body.length uploads.fragmentInfos)
  pure { nftTokenId, size := body.length, replicas := uploads.replicas, success := true }

/-! ## GET /api/v1/files/:nft_token_id/download -/

/-- Where a fragment may be fetched. -/
structure Location where
  nodeId : String
  storageKey : String
  endpointUrl : String
  deriving DecidableEq

/-- The active replicas on active nodes, the healthiest and emptiest node first. -/
def activeReplicas (nftTokenId : String) (db : Db) : List Location :=
  let found := db.fileReplicas.rows.filterMap fun r =>
    if r.nftTokenId = nftTokenId ∧ r.status.val = .Active then
      ((db.storageNodes.get? r.storageNodeId).filter fun node =>
        decide (node.status = .Active)).map fun node => (r, node)
    else none
  (found.insertionSort fun a b => a.2.healthCheckFailures < b.2.healthCheckFailures
    ∨ (a.2.healthCheckFailures = b.2.healthCheckFailures
      ∧ a.2.usedSpaceBytes ≤ b.2.usedSpaceBytes)).map fun (r, node) =>
        ⟨r.storageNodeId, r.storageKey, node.endpointUrl⟩

/-- A fragment of a manifest, unless it has no key. -/
def fragmentLocation (nodes : List StorageNode) (frag : Json) : Option Location :=
  let storageKey := ((frag.index "storage_key").asStr).getD ""
  let storageNodeId := ((frag.index "storage_node_id").asStr).getD ""
  if storageKey = "" then none
  else some
    { nodeId := storageNodeId
      storageKey
      endpointUrl :=
        if storageNodeId = "" then "http://localhost:9001"
        else ((nodes.find? fun node => decide (node.id = storageNodeId)).map
          StorageNode.endpointUrl).getD "http://localhost:9001" }

/-- The fragments that the manifest of an NFT lists. -/
def manifestFragments (nftTokenId : String) (db : Db) : List Json :=
  (((db.nftMetadata.find? nftTokenId).bind NftMetadata.manifest).bind fun manifest =>
    (manifest.get "fragments").bind Json.asArray).getD []

/-- The fallback for a file without replicas. -/
def manifestLocations (nftTokenId : String) (db : Db) : List Location :=
  (manifestFragments nftTokenId db).filterMap (fragmentLocation db.storageNodes.rows)

/-- Where a download looks for the file. -/
def locations (nftTokenId : String) (db : Db) : List Location :=
  if (activeReplicas nftTokenId db).isEmpty then manifestLocations nftTokenId db
  else activeReplicas nftTokenId db

/-- The `n`-th request of a download. -/
def readRequest (env : Env) (nftTokenId : String) (n : Nat) (l : Location) : StorageRequest where
  token := .newScoped env.now (env.uuid n) nftTokenId l.storageKey .Read 10
    (some (storageNodeScope l.nodeId)) none
  nodeId := l.nodeId
  endpointUrl := l.endpointUrl
  answer := env.storage n

/-- The constraint does not list `'missing'`: the statement fails where it finds a row. -/
def markMissing (nftTokenId nodeId : String) (db : Db) : Except ApiError Db :=
  if (db.fileReplicas.get? (nftTokenId, nodeId)).isNone then .ok db
  else .error (.checkViolation "file_replicas" "file_replicas_status_check")

/-- Try each location until one succeeds. -/
def fetchFragment (env : Env) (nftTokenId : String) : Nat → List Location → Handler (List UInt8)
  | _, [] => fail (.Storage ("File fragment missing from all storage nodes for NFT " ++ nftTokenId
      ++ ". The encrypted data may need to be re-uploaded."))
  | n, l :: ls => do
      let request := readRequest env nftTokenId n l
      sendToStorage request
      match request.answer with
      | .Status _ body =>
          if request.answer.isSuccess then
            lift (Pre.mapErr (fun e => .Storage ("Failed to read response: " ++ e)) body)
          else do
            if request.answer.isNotFound then ignore (write (markMissing nftTokenId l.nodeId))
            fetchFragment env nftTokenId (n + 1) ls
      | .TransportError => fetchFragment env nftTokenId (n + 1) ls

def downloadFile (env : Env) (auth : AuthenticatedUser) (nftTokenId : String) :
    Handler (List UInt8) := do
  let _ ← Ownership.requireVerifiedNftOwner env nftTokenId auth.walletAddress
    "Only the NFT owner can download this file"
  let replicas ← read (locations nftTokenId)
  require (!replicas.isEmpty) (.NotFound ("No file found for NFT: " ++ nftTokenId))
  fetchFragment env nftTokenId 0 replicas

/-! ## GET /api/v1/files/:nft_token_id/status -/

/-- The row of `replication_settings`, as far as it is read here. -/
structure ReplicationSettings where
  replicationFactor : Int
  minActiveReplicas : Int

structure FileStatusResponse where
  nftTokenId : String
  sizeBytes : Int
  replicas : List ReplicaInfo
  activeReplicas : Nat
  targetReplicas : Nat
  healthy : Bool
  deriving DecidableEq

/-- `i32 as usize`. -/
def asUsize (n : Int) : Nat := (n % 2 ^ 64).toNat

/-- The recorded replicas, each with its node. -/
def recordedReplicas (nftTokenId : String) (db : Db) : List (FileReplica × StorageNode) :=
  db.fileReplicas.rows.filterMap fun r =>
    if r.nftTokenId = nftTokenId then
      (db.storageNodes.get? r.storageNodeId).map fun node => (r, node)
    else none

def fileStatus (settings : ReplicationSettings) (nftTokenId : String)
    (replicas : List (FileReplica × StorageNode)) : FileStatusResponse where
  nftTokenId := nftTokenId
  sizeBytes := (replicas.head?.map fun r => r.1.sizeBytes).getD 0
  replicas := replicas.map fun r => ⟨r.1.storageNodeId, r.2.region, r.1.status.val⟩
  activeReplicas := (replicas.filter fun r => decide (r.1.status.val = .Active)).length
  targetReplicas := asUsize settings.replicationFactor
  healthy := decide (asUsize settings.minActiveReplicas
    ≤ (replicas.filter fun r => decide (r.1.status.val = .Active)).length)

/-- The settings are read after the replicas; without a row they have defaults. -/
def getFileStatus (settings : Except ApiError (Option ReplicationSettings)) (nftTokenId : String) :
    Handler FileStatusResponse := do
  let replicas ← read (recordedReplicas nftTokenId)
  let settings? ← lift settings
  pure (fileStatus (settings?.getD ⟨2, 1⟩) nftTokenId replicas)

/-! ## DELETE /api/v1/files/:nft_token_id/storage -/

structure DeleteFileResponse where
  nftTokenId : String
  deletedReplicas : Nat
  success : Bool
  deriving DecidableEq

/-- The recorded replicas, whatever their status, each with the URL of its node. -/
def replicaLocations (nftTokenId : String) (db : Db) : List Location :=
  db.fileReplicas.rows.filterMap fun r =>
    if r.nftTokenId = nftTokenId then
      (db.storageNodes.get? r.storageNodeId).map fun node =>
        ⟨r.storageNodeId, r.storageKey, node.endpointUrl⟩
    else none

/-- The `n`-th request of such a deletion. -/
def replicaDeletion (env : Env) (nftTokenId : String) (n : Nat) (l : Location) :
    StorageRequest where
  token := .newScoped env.now (env.uuid n) nftTokenId l.storageKey .Delete 10
    (some (storageNodeScope l.nodeId)) none
  nodeId := l.nodeId
  endpointUrl := l.endpointUrl
  answer := env.storage n

/-- Ask each node, and count the replicas that are gone. -/
def deleteReplicaFiles (env : Env) (nftTokenId : String) :
    Nat → List Location → Nat → Handler Nat
  | _, [], deletedCount => pure deletedCount
  | n, l :: ls, deletedCount => do
      let request := replicaDeletion env nftTokenId n l
      sendToStorage request
      deleteReplicaFiles env nftTokenId (n + 1) ls
        (if request.answer.confirmsDeletion then deletedCount + 1 else deletedCount)

/-- `DELETE FROM file_replicas WHERE nft_token_id = $1`. -/
def forgetReplicas (nftTokenId : String) (db : Db) : Db :=
  { db with
    fileReplicas := db.fileReplicas.deleteWhere fun r => decide (r.nftTokenId = nftTokenId) }

def deleteFileStorage (env : Env) (auth : AuthenticatedUser) (nftTokenId : String) :
    Handler DeleteFileResponse := do
  let _ ← Ownership.requireVerifiedNftOwner env nftTokenId auth.walletAddress
    "Only the NFT owner can delete files"
  let replicas ← read (replicaLocations nftTokenId)
  if replicas.isEmpty then
    pure { nftTokenId, deletedReplicas := 0, success := true }
  else do
    let deletedCount ← deleteReplicaFiles env nftTokenId 0 replicas 0
    write fun db => .ok (forgetReplicas nftTokenId db)
    pure { nftTokenId, deletedReplicas := deletedCount, success := true }

/-! ## What a call can do -/

/-- Some upload for an NFT was stored on a node under a key. -/
def StoredAt (log : List StorageRequest) (nftTokenId nodeId storageKey : String) : Prop :=
  ∃ w ∈ log, w.isStored = true ∧ w.token.nftTokenId = nftTokenId ∧ w.nodeId = nodeId
    ∧ w.token.storageKey = storageKey

lemma StoredAt.mono {log log' : List StorageRequest} (hsub : log ⊆ log')
    {nftTokenId nodeId storageKey : String} (h : StoredAt log nftTokenId nodeId storageKey) :
    StoredAt log' nftTokenId nodeId storageKey := by
  obtain ⟨w, hw, h⟩ := h
  exact ⟨w, hsub hw, h⟩

/-- The node and the key that a fragment of a manifest names. -/
def fragmentNode (frag : Json) : String := ((frag.index "storage_node_id").asStr).getD ""
def fragmentKey (frag : Json) : String := ((frag.index "storage_key").asStr).getD ""

/-- The requests of an upload. -/
def uploadRequests (state : AppState) (env : Env) (nftTokenId : String) (body : List UInt8) :
    Nat → List StorageNode → List StorageRequest
  | _, [] => []
  | n, node :: nodes => uploadRequest state env nftTokenId body n node
      :: uploadRequests state env nftTokenId body (n + 1) nodes

/-- What the upload loop has done, over the requests `log` that it has sent. -/
structure Uploaded (nftTokenId : String) (log : List StorageRequest) (acc acc' : Uploads)
    (db db' : Db) : Prop where
  tables : ∃ fileReplicas storageNodes, db' = { db with
    fileReplicas, storageNodes, storageRequests := db.storageRequests ++ log }
  replicas : ∀ r ∈ db'.fileReplicas.rows, r ∈ db.fileReplicas.rows
    ∨ StoredAt log r.nftTokenId r.storageNodeId r.storageKey
  fragments : ∀ j ∈ acc'.fragmentInfos, j ∈ acc.fragmentInfos
    ∨ j.isObject = true ∧ StoredAt log nftTokenId (fragmentNode j) (fragmentKey j)
  counted : acc.successfulUploads ≤ acc'.successfulUploads
    ∧ ((∃ w ∈ log, w.isStored = true) → acc.successfulUploads < acc'.successfulUploads)

lemma Uploaded.cons {nftTokenId : String} {r : StorageRequest} {log : List StorageRequest}
    {acc acc₁ acc₂ : Uploads} {db db₁ db₂ : Db} (h₁ : Uploaded nftTokenId [r] acc acc₁ db db₁)
    (h₂ : Uploaded nftTokenId log acc₁ acc₂ db₁ db₂) :
    Uploaded nftTokenId (r :: log) acc acc₂ db db₂ := by
  have hsub : log ⊆ r :: log := List.subset_cons_self r log
  have hhead : [r] ⊆ r :: log := by simp
  obtain ⟨replicas₁, nodes₁, rfl⟩ := h₁.tables
  obtain ⟨replicas₂, nodes₂, rfl⟩ := h₂.tables
  refine ⟨⟨replicas₂, nodes₂, by simp⟩, fun o ho => ?_, fun j hj => ?_, ?_, ?_⟩
  · rcases h₂.replicas o ho with ho | ho
    · exact (h₁.replicas o ho).imp_right (.mono hhead)
    · exact .inr (ho.mono hsub)
  · rcases h₂.fragments j hj with hj | hj
    · exact (h₁.fragments j hj).imp_right (.imp_right (.mono hhead))
    · exact .inr ⟨hj.1, hj.2.mono hsub⟩
  · exact h₁.counted.1.trans h₂.counted.1
  · rintro ⟨w, hw, hstored⟩
    rcases List.mem_cons.mp hw with rfl | hw
    · exact (h₁.counted.2 ⟨w, by simp, hstored⟩).trans_le h₂.counted.1
    · exact h₁.counted.1.trans_lt (h₂.counted.2 ⟨w, hw, hstored⟩)

/-- The statements about a stored replica. -/
lemma uploaded_stored (state : AppState) (env : Env) (nftTokenId : String) (body : List UInt8)
    (n : Nat) (node : StorageNode) (acc : Uploads) {db db₁ db₂ : Db}
    (hstored : (env.storage n).isSuccess = true)
    (h₁ : db₁ = { db with storageRequests :=
        db.storageRequests ++ [uploadRequest state env nftTokenId body n node] }
      ∨ recordReplica
          { nftTokenId
            storageNodeId := node.id
            storageKey := nodeStorageKey nftTokenId n
            sizeBytes := body.length
            status := ReplicaStatus.active }
        { db with storageRequests :=
          db.storageRequests ++ [uploadRequest state env nftTokenId body n node] } = .ok db₁)
    (h₂ : db₂ = db₁ ∨ addUsedSpace body.length node.id db₁ = .ok db₂) :
    Uploaded nftTokenId [uploadRequest state env nftTokenId body n node] acc
      { successfulUploads := acc.successfulUploads + 1
        fragmentInfos := acc.fragmentInfos ++ [storedFragment state nftTokenId body n node]
        replicas := acc.replicas ++ [⟨node.id, node.region, .Active⟩] } db db₂ := by
  have hreq : StoredAt [uploadRequest state env nftTokenId body n node] nftTokenId node.id
      (nodeStorageKey nftTokenId n) :=
    ⟨_, List.mem_singleton_self _, hstored, rfl, rfl, rfl⟩
  -- the first statement records the replica or does nothing, the second leaves replicas alone
  have htables₁ : (∃ fileReplicas, db₁ = { db with
        fileReplicas, storageRequests :=
          db.storageRequests ++ [uploadRequest state env nftTokenId body n node] })
      ∧ ∀ r ∈ db₁.fileReplicas.rows, r ∈ db.fileReplicas.rows
        ∨ StoredAt [uploadRequest state env nftTokenId body n node] r.nftTokenId r.storageNodeId
          r.storageKey := by
    rcases h₁ with rfl | h₁
    · exact ⟨⟨_, rfl⟩, fun r hr => .inl hr⟩
    · unfold recordReplica at h₁
      split_ifs at h₁
      cases h₁
      refine ⟨⟨_, rfl⟩, fun r hr => ?_⟩
      rcases Table.mem_upsert hr with hr | rfl | ⟨old, hold, rfl⟩
      · exact .inl hr
      · exact .inr hreq
      · have hkey : old.key = (nftTokenId, node.id) := Table.key_of_get? hold
        obtain ⟨htoken, hnode⟩ := Prod.mk.inj hkey
        simp only [htoken, hnode]
        exact .inr hreq
  obtain ⟨⟨replicas, rfl⟩, hreplicas⟩ := htables₁
  have htables₂ : ∃ storageNodes, db₂ = { db with
      fileReplicas := replicas, storageNodes, storageRequests :=
        db.storageRequests ++ [uploadRequest state env nftTokenId body n node] } := by
    rcases h₂ with rfl | h₂
    · exact ⟨_, rfl⟩
    · unfold addUsedSpace at h₂
      split_ifs at h₂
      cases h₂
      exact ⟨_, rfl⟩
  obtain ⟨nodes, rfl⟩ := htables₂
  refine ⟨⟨_, _, rfl⟩, hreplicas, fun j hj => ?_, by simp, fun _ => by simp⟩
  rcases List.mem_append.mp hj with hj | hj
  · exact .inl hj
  · rw [List.mem_singleton.mp hj]
    exact .inr ⟨rfl, hreq⟩

/-- Every recorded replica and every fragment of the answer was stored. -/
lemma uploadReplicas_spec (state : AppState) (env : Env) (nftTokenId : String)
    (body : List UInt8) (n : Nat) (nodes : List StorageNode) (acc : Uploads) (db : Db) :
    wp (uploadReplicas state env nftTokenId body n nodes acc) (fun r db' => ∃ acc', r = .ok acc'
      ∧ Uploaded nftTokenId (uploadRequests state env nftTokenId body n nodes) acc acc' db db')
      db := by
  induction nodes generalizing n acc db with
  | nil =>
      refine wp_pure ⟨acc, rfl, ⟨db.fileReplicas, db.storageNodes, ?_⟩, fun _ => .inl, fun _ => .inl,
        le_rfl, ?_⟩
      · simp [uploadRequests]
      · rintro ⟨w, hw, -⟩
        cases hw
  | cons node nodes ih =>
      refine wp_write_bind (fun _ h => nomatch h) fun db₀ hdb₀ => ?_
      cases hdb₀
      cases hanswer : (env.storage n).isSuccess with
      | true =>
          have hsucc : (uploadRequest state env nftTokenId body n node).answer.isSuccess = true :=
            hanswer
          rw [if_pos hsucc]
          refine wp_ignore_bind (wp_write (fun _ _ => ?_) fun db₁ hdb₁ => ?_)
          · refine wp_ignore_bind (wp_write (fun _ _ => ?_) fun db₂ hdb₂ => ?_)
            · refine wp_mono (ih _ _ _) fun r db' ⟨acc', hr, h⟩ => ⟨acc', hr, ?_⟩
              exact (uploaded_stored _ _ _ _ _ _ _ hanswer (.inl rfl) (.inl rfl)).cons h
            · refine wp_mono (ih _ _ _) fun r db' ⟨acc', hr, h⟩ => ⟨acc', hr, ?_⟩
              exact (uploaded_stored _ _ _ _ _ _ _ hanswer (.inl rfl) (.inr hdb₂)).cons h
          · refine wp_ignore_bind (wp_write (fun _ _ => ?_) fun db₂ hdb₂ => ?_)
            · refine wp_mono (ih _ _ _) fun r db' ⟨acc', hr, h⟩ => ⟨acc', hr, ?_⟩
              exact (uploaded_stored _ _ _ _ _ _ _ hanswer (.inr hdb₁) (.inl rfl)).cons h
            · refine wp_mono (ih _ _ _) fun r db' ⟨acc', hr, h⟩ => ⟨acc', hr, ?_⟩
              exact (uploaded_stored _ _ _ _ _ _ _ hanswer (.inr hdb₁) (.inr hdb₂)).cons h
      | false =>
          have hfail : ¬ (uploadRequest state env nftTokenId body n node).answer.isSuccess = true :=
            by simp [uploadRequest, hanswer]
          rw [if_neg hfail]
          refine wp_mono (ih _ _ _) fun r db' ⟨acc', hr, h⟩ => ⟨acc', hr, .cons ?_ h⟩
          refine ⟨⟨_, _, rfl⟩, fun _ => .inl, fun _ => .inl, le_rfl, ?_⟩
          rintro ⟨w, hw, hstored⟩
          rw [List.mem_singleton.mp hw] at hstored
          simp [StorageRequest.isStored, uploadRequest, hanswer] at hstored

lemma uploadRequests_eq (state : AppState) (env : Env) (nftTokenId : String) (body : List UInt8)
    (n : Nat) (nodes : List StorageNode) : uploadRequests state env nftTokenId body n nodes
      = (nodes.zipIdx n).map fun node => uploadRequest state env nftTokenId body node.2 node.1 := by
  induction nodes generalizing n with
  | nil => rfl
  | cons node nodes ih => rw [uploadRequests, ih, List.zipIdx_cons, List.map_cons]

lemma mem_uploadRequests {state : AppState} {env : Env} {nftTokenId : String}
    {body : List UInt8} {n : Nat} {nodes : List StorageNode} {w : StorageRequest}
    (h : w ∈ uploadRequests state env nftTokenId body n nodes) :
    ∃ i node, w = uploadRequest state env nftTokenId body i node := by
  rw [uploadRequests_eq] at h
  obtain ⟨node, -, rfl⟩ := List.mem_map.mp h
  exact ⟨node.2, node.1, rfl⟩

/-- An active replica is a row of the table. -/
lemma mem_activeReplicas {nftTokenId : String} {db : Db} {l : Location}
    (h : l ∈ activeReplicas nftTokenId db) : ∃ r ∈ db.fileReplicas.rows,
      r.nftTokenId = nftTokenId ∧ r.storageNodeId = l.nodeId ∧ r.storageKey = l.storageKey
        ∧ r.status.val = .Active := by
  obtain ⟨⟨r, node⟩, hmem, rfl⟩ := List.mem_map.mp h
  obtain ⟨r', hr', hfound⟩ := List.mem_filterMap.mp ((List.mem_insertionSort _).mp hmem)
  split_ifs at hfound with hr
  obtain ⟨node', -, heq⟩ := Option.map_eq_some_iff.mp hfound
  obtain ⟨rfl, -⟩ := Prod.mk.inj heq
  exact ⟨r', hr', hr.1, rfl, rfl, hr.2⟩

lemma fragmentLocation_eq_some {nodes : List StorageNode} {frag : Json} {l : Location}
    (h : fragmentLocation nodes frag = some l) :
    l.nodeId = fragmentNode frag ∧ l.storageKey = fragmentKey frag := by
  unfold fragmentLocation at h
  dsimp only at h
  split_ifs at h <;>
  · rw [← Option.some.inj h]
    exact ⟨rfl, rfl⟩

inductive UploadsFile (state : AppState) (env : Env) (nftTokenId : String) (body : List UInt8)
    (db : Db) : Except ApiError UploadFileResponse → Db → Prop
  | Refused (e : ApiError) : UploadsFile state env nftTokenId body db (.error e) db
  | Failed (e : ApiError) (nodes : List StorageNode) (acc : Uploads) (db' : Db) :
      Uploaded nftTokenId (uploadRequests state env nftTokenId body 0 nodes) ⟨0, [], []⟩ acc db
        db' → acc.successfulUploads = 0 →
      UploadsFile state env nftTokenId body db (.error e) db'
  | Unrecorded (e : ApiError) (nodes : List StorageNode) (acc : Uploads) (db' : Db) :
      Uploaded nftTokenId (uploadRequests state env nftTokenId body 0 nodes) ⟨0, [], []⟩ acc db
        db' → recordUpload nftTokenId body.length acc.fragmentInfos db' = .error e →
      UploadsFile state env nftTokenId body db (.error e) db'
  | Recorded (nm : NftMetadata) (nodes : List StorageNode) (acc : Uploads)
      (answer : UploadFileResponse) (db₁ db₂ : Db) : db.nftMetadata.find? nftTokenId = some nm →
      Uploaded nftTokenId (uploadRequests state env nftTokenId body 0 nodes) ⟨0, [], []⟩ acc db
        db₁ → recordUpload nftTokenId body.length acc.fragmentInfos db₁ = .ok db₂ →
      UploadsFile state env nftTokenId body db (.ok answer) db₂

theorem uploadFile_spec (state : AppState) (select : List StorageNode → List StorageNode)
    (env : Env) (auth : AuthenticatedUser) (nftTokenId : String) (body : List UInt8) (db : Db) :
    wp (uploadFile state select env auth nftTokenId body)
      (UploadsFile state env nftTokenId body db) db := by
  refine wp_read_bind (wp_expect_bind (fun _ => .Refused _) fun (nm, w) hrow => ?_)
  obtain ⟨nm', hnm, -⟩ := Option.bind_eq_some_iff.mp hrow
  refine wp_require_bind (fun _ => .Refused _) fun _ => ?_
  refine wp_read_bind (wp_require_bind (fun _ => .Refused _) fun _ => ?_)
  refine wp_bind (wp_mono (uploadReplicas_spec _ _ _ _ _ _ _ _) ?_)
  rintro _ db₁ ⟨acc, rfl, hup⟩
  refine wp_require_bind (fun hzero => .Failed _ _ acc db₁ hup ?_) fun _ => ?_
  · simpa using hzero
  refine wp_write_bind (fun e he => .Unrecorded e _ acc db₁ hup he) fun db₂ hdb₂ => wp_pure ?_
  exact .Recorded nm' _ acc _ db₁ db₂ hnm hup hdb₂

/-- The nodes that have stored an upload, with their places in the list of nodes. -/
def storedNodes (env : Env) (n : Nat) (nodes : List StorageNode) : List (StorageNode × Nat) :=
  (nodes.zipIdx n).filter fun node => (env.storage node.2).isSuccess

/-- The loop lists one fragment for each of them. -/
lemma uploadReplicas_stored (state : AppState) (env : Env) (nftTokenId : String)
    (body : List UInt8) (n : Nat) (nodes : List StorageNode) (acc : Uploads) (db : Db) :
    wp (uploadReplicas state env nftTokenId body n nodes acc) (fun r _ => ∃ acc', r = .ok acc'
      ∧ acc'.successfulUploads = acc.successfulUploads + (storedNodes env n nodes).length
      ∧ acc'.fragmentInfos = acc.fragmentInfos ++ (storedNodes env n nodes).map fun node =>
        storedFragment state nftTokenId body node.2 node.1) db := by
  induction nodes generalizing n acc db with
  | nil => exact wp_pure ⟨acc, rfl, by simp [storedNodes], by simp [storedNodes]⟩
  | cons node nodes ih =>
      refine wp_write_bind (fun _ h => by cases h) fun db₀ _ => ?_
      have hnodes : storedNodes env n (node :: nodes)
          = (if (env.storage n).isSuccess then [(node, n)] else [])
            ++ storedNodes env (n + 1) nodes := by
        rw [storedNodes, List.zipIdx_cons, List.filter_cons]
        split_ifs <;> rfl
      rw [hnodes]
      cases hanswer : (env.storage n).isSuccess with
      | true =>
          have hsuccess : (uploadRequest state env nftTokenId body n node).answer.isSuccess = true :=
            hanswer
          rw [if_pos hsuccess]
          -- the two statements about the replica may do what they want
          have hrest : ∀ db₁, wp (uploadReplicas state env nftTokenId body (n + 1) nodes
              { successfulUploads := acc.successfulUploads + 1
                fragmentInfos := acc.fragmentInfos ++ [storedFragment state nftTokenId body n node]
                replicas := acc.replicas ++ [⟨node.id, node.region, .Active⟩] })
              (fun r _ => ∃ acc', r = .ok acc'
                ∧ acc'.successfulUploads = acc.successfulUploads
                  + ([(node, n)] ++ storedNodes env (n + 1) nodes).length
                ∧ acc'.fragmentInfos = acc.fragmentInfos
                  ++ ([(node, n)] ++ storedNodes env (n + 1) nodes).map fun node =>
                    storedFragment state nftTokenId body node.2 node.1) db₁ := by
            intro db₁
            refine wp_mono (ih _ _ _) ?_
            rintro _ _ ⟨acc', rfl, hcount, hinfos⟩
            refine ⟨acc', rfl, ?_, ?_⟩
            · rw [hcount, List.length_append, List.length_singleton, Nat.add_assoc]
            · rw [hinfos, List.append_assoc, List.map_append]
              rfl
          refine wp_ignore_bind (wp_write (fun _ _ => ?_) fun db₁ _ => ?_)
          · exact wp_ignore_bind (wp_write (fun _ _ => hrest _) fun db₂ _ => hrest db₂)
          · exact wp_ignore_bind (wp_write (fun _ _ => hrest _) fun db₂ _ => hrest db₂)
      | false =>
          have hfailed : ¬(uploadRequest state env nftTokenId body n node).answer.isSuccess = true :=
            by simp [uploadRequest, hanswer]
          rw [if_neg hfailed]
          refine wp_mono (ih _ _ _) ?_
          rintro _ _ ⟨acc', rfl, hcount, hinfos⟩
          exact ⟨acc', rfl, by simpa using hcount, by simpa using hinfos⟩

/-- **What a successful upload leaves**: the manifest lists one fragment for every node that has
stored the file. -/
theorem uploadFile_stored (state : AppState) (select : List StorageNode → List StorageNode)
    (env : Env) (auth : AuthenticatedUser) (nftTokenId : String) (body : List UInt8) (db : Db) :
    wp (uploadFile state select env auth nftTokenId body) (fun r db' => ∀ answer, r = .ok answer →
      storedNodes env 0 (select (candidates body.length db)) ≠ []
      ∧ db'.storageRequests = db.storageRequests
        ++ uploadRequests state env nftTokenId body 0 (select (candidates body.length db))
      ∧ ∃ nm manifest, db'.nftMetadata.find? nftTokenId = some nm ∧ nm.manifest = some manifest
        ∧ manifest.get "fragments" = some (.Arr
          ((storedNodes env 0 (select (candidates body.length db))).map fun node =>
            storedFragment state nftTokenId body node.2 node.1))) db := by
  refine wp_read_bind (wp_expect_bind (fun _ _ h => by cases h) fun (nm, w) hrow => ?_)
  obtain ⟨nm', hnm, -⟩ := Option.bind_eq_some_iff.mp hrow
  refine wp_require_bind (fun _ _ h => by cases h) fun _ => ?_
  refine wp_read_bind (wp_require_bind (fun _ _ h => by cases h) fun _ => ?_)
  refine wp_bind (wp_mono (wp_and (uploadReplicas_spec _ _ _ _ _ _ _ _)
    (uploadReplicas_stored _ _ _ _ _ _ _ _)) ?_)
  rintro _ db₁ ⟨⟨acc, rfl, hup⟩, acc', heq, hcount, hinfos⟩
  obtain rfl := Except.ok.inj heq
  refine wp_require_bind (fun _ _ h => by cases h) fun hsome => ?_
  refine wp_write_bind (fun _ _ _ h => by cases h) fun db₂ hdb₂ => wp_pure fun _ _ => ?_
  obtain ⟨replicas, storageNodes, rfl⟩ := hup.tables
  have hnm₁ : ({ db with
      fileReplicas := replicas, storageNodes, storageRequests := db.storageRequests
        ++ uploadRequests state env nftTokenId body 0 (select (candidates body.length db)) } :
      Db).nftMetadata.find? nftTokenId = some nm' := hnm
  obtain ⟨manifest, hmanifest, rfl⟩ := recordUpload_eq_ok hnm₁ hdb₂
  refine ⟨?_, rfl, { nm' with manifest := some manifest }, manifest, ?_, rfl, ?_⟩
  · intro hnone
    rw [hnone] at hcount
    simp [hcount] at hsome
  · have htoken : nm'.nftTokenId = nftTokenId := (Indexed.find?_eq_some.mp hnm).2
    have hget : db.nftMetadata.get? nm'.id = some nm' := Indexed.get?_of_find? hnm
    have hupdated : (db.nftMetadata.update nm'.id (fun nm => { nm with manifest := some manifest })
        (fun _ => rfl) fun _ => rfl).get? nm'.id = some { nm' with manifest := some manifest } := by
      rw [Indexed.get?_update, if_pos rfl, hget]
      rfl
    rw [← htoken]
    exact Indexed.find?_of_get? hupdated
  · rw [(uploadedManifest_eq_some hmanifest).2, hinfos]
    rfl

/-- The loop asks some of the locations and changes nothing. -/
lemma fetchFragment_spec (env : Env) (nftTokenId : String) (n : Nat) (ls : List Location)
    (db : Db) : wp (fetchFragment env nftTokenId n ls) (fun _ db' => ∃ log,
      db' = { db with storageRequests := db.storageRequests ++ log }
        ∧ ∀ w ∈ log, ∃ i, ∃ l ∈ ls, w = readRequest env nftTokenId i l) db := by
  induction ls generalizing n db with
  | nil => exact wp_fail ⟨[], by simp, fun _ h => nomatch h⟩
  | cons l ls ih =>
      have hone : ∀ w ∈ [readRequest env nftTokenId n l], ∃ i, ∃ l' ∈ l :: ls,
          w = readRequest env nftTokenId i l' :=
        fun w hw => ⟨n, l, List.mem_cons_self, List.mem_singleton.mp hw⟩
      -- what the rest of the loop sends comes after the request for `l`
      have hrest : wp (fetchFragment env nftTokenId (n + 1) ls) (fun _ db' => ∃ log,
          db' = { db with storageRequests := db.storageRequests ++ log }
            ∧ ∀ w ∈ log, ∃ i, ∃ l' ∈ l :: ls, w = readRequest env nftTokenId i l')
          { db with storageRequests := db.storageRequests ++ [readRequest env nftTokenId n l] } := by
        refine wp_mono (ih _ _) ?_
        rintro _ _ ⟨log, rfl, hlog⟩
        refine ⟨readRequest env nftTokenId n l :: log, by simp, fun w hw => ?_⟩
        rcases List.mem_cons.mp hw with rfl | hw
        · exact hone _ (List.mem_singleton_self _)
        · obtain ⟨i, l', hl', hw⟩ := hlog w hw
          exact ⟨i, l', List.mem_cons_of_mem _ hl', hw⟩
      refine wp_write_bind (fun _ h => nomatch h) fun db₁ hdb₁ => ?_
      cases hdb₁
      dsimp only
      split
      · split_ifs
        · exact ⟨_, rfl, hone⟩
        · refine wp_ignore_bind (wp_write (fun _ _ => hrest) fun db₂ hdb₂ => ?_)
          unfold markMissing at hdb₂
          split_ifs at hdb₂
          cases hdb₂
          exact hrest
        · exact hrest
      · exact hrest

inductive Downloads (env : Env) (auth : AuthenticatedUser) (nftTokenId : String) (db : Db) :
    Db → Prop
  | Refused : Downloads env auth nftTokenId db db
  | Fetched (nm : NftMetadata) (log : List StorageRequest) :
      Ownership.Verified env nftTokenId auth.walletAddress db nm →
      (∀ w ∈ log, ∃ i, ∃ l ∈ locations nftTokenId db, w = readRequest env nftTokenId i l) →
      Downloads env auth nftTokenId db
        { db with storageRequests := db.storageRequests ++ log }

theorem downloadFile_spec (env : Env) (auth : AuthenticatedUser) (nftTokenId : String)
    (db : Db) : wp (downloadFile env auth nftTokenId)
      (fun _ => Downloads env auth nftTokenId db) db := by
  refine wp_bind (wp_mono (Ownership.requireVerifiedNftOwner_spec _ _ _ _ _) ?_)
  rintro (e | w) _ ⟨rfl, hok⟩
  · exact .Refused
  obtain ⟨nm, hnm⟩ := hok w rfl
  refine wp_read_bind (wp_require_bind (fun _ => .Refused) fun _ => ?_)
  refine wp_mono (fetchFragment_spec _ _ _ _ _) ?_
  rintro _ _ ⟨log, rfl, hlog⟩
  exact .Fetched nm log hnm hlog

/-- The requests of a download, up to the first one that succeeds. -/
def attempts (env : Env) (nftTokenId : String) : Nat → List Location → List StorageRequest
  | _, [] => []
  | n, l :: ls => readRequest env nftTokenId n l
      :: if (env.storage n).isSuccess then [] else attempts env nftTokenId (n + 1) ls

/-- The loop sends these requests and changes nothing else. -/
lemma fetchFragment_attempts (env : Env) (nftTokenId : String) (n : Nat) (ls : List Location)
    (db : Db) : wp (fetchFragment env nftTokenId n ls) (fun _ db' => db' =
      { db with storageRequests := db.storageRequests ++ attempts env nftTokenId n ls }) db := by
  induction ls generalizing n db with
  | nil => exact wp_fail (by simp [attempts])
  | cons l ls ih =>
      have hrest : (env.storage n).isSuccess = false →
          wp (fetchFragment env nftTokenId (n + 1) ls) (fun _ db' => db' =
            { db with
              storageRequests := db.storageRequests ++ attempts env nftTokenId n (l :: ls) })
          { db with
            storageRequests := db.storageRequests ++ [readRequest env nftTokenId n l] } := by
        intro hfailed
        refine wp_mono (ih _ _) ?_
        rintro _ _ rfl
        simp [attempts, hfailed]
      refine wp_write_bind (fun _ h => by cases h) fun db₁ hdb₁ => ?_
      cases hdb₁
      have hanswer : (readRequest env nftTokenId n l).answer = env.storage n := rfl
      dsimp only
      split
      · next code body hstatus =>
        have hstatus' : env.storage n = .Status code body := hstatus
        split_ifs with hsuccess hmissing
        · have hdone : (env.storage n).isSuccess = true := hsuccess
          rw [show attempts env nftTokenId n (l :: ls) = [readRequest env nftTokenId n l] by
            simp [attempts, hdone]]
          rfl
        · have hfailed : (env.storage n).isSuccess = false := by simpa [hanswer] using hsuccess
          refine wp_ignore_bind (wp_write (fun _ _ => hrest hfailed) fun db₂ hdb₂ => ?_)
          unfold markMissing at hdb₂
          split_ifs at hdb₂
          cases hdb₂
          exact hrest hfailed
        · exact hrest (by simpa [hanswer] using hsuccess)
      · next herror =>
        have herror' : env.storage n = .TransportError := herror
        exact hrest (by rw [herror']; rfl)

/-- The caller may download the file of an NFT. -/
def MayDownload (env : Env) (auth : AuthenticatedUser) (nftTokenId : String) (db : Db) : Prop :=
  ∃ w, (Ownership.requireVerifiedNftOwner env nftTokenId auth.walletAddress
    "Only the NFT owner can download this file" db).1 = .ok w

theorem downloadFile_attempts (env : Env) (auth : AuthenticatedUser) (nftTokenId : String)
    (db : Db) : wp (downloadFile env auth nftTokenId) (fun _ db' =>
      (¬MayDownload env auth nftTokenId db ∧ db' = db)
        ∨ (MayDownload env auth nftTokenId db ∧ db' =
          { db with
            storageRequests := db.storageRequests
              ++ attempts env nftTokenId 0 (locations nftTokenId db) })) db := by
  have howner := Ownership.requireVerifiedNftOwner_spec env nftTokenId auth.walletAddress
    "Only the NFT owner can download this file" db
  have hresult : wp (Ownership.requireVerifiedNftOwner env nftTokenId auth.walletAddress
      "Only the NFT owner can download this file") (fun r _ => ∀ w, r = .ok w ↔
        (Ownership.requireVerifiedNftOwner env nftTokenId auth.walletAddress
          "Only the NFT owner can download this file" db).1 = .ok w) db :=
    fun w => Iff.rfl
  refine wp_bind (wp_mono (wp_and howner hresult) ?_)
  rintro (e | w) _ ⟨⟨rfl, -⟩, hr⟩
  · refine .inl ⟨?_, rfl⟩
    rintro ⟨w, hw⟩
    cases (hr w).mpr hw
  have hmay : MayDownload env auth nftTokenId _ := ⟨w, (hr w).mp rfl⟩
  refine wp_read_bind (wp_require_bind (fun hempty => .inr ⟨hmay, ?_⟩) fun _ => ?_)
  · have hnil : locations nftTokenId _ = [] := List.isEmpty_iff.mp (by simpa using hempty)
    simp [hnil, attempts]
  · exact wp_mono (fetchFragment_attempts _ _ _ _ _) fun _ _ h => .inr ⟨hmay, h⟩

/-- The requests for the deletion of some replicas. -/
def replicaDeletions (env : Env) (nftTokenId : String) (n : Nat) (ls : List Location) :
    List StorageRequest :=
  (ls.zipIdx n).map fun l => replicaDeletion env nftTokenId l.2 l.1

/-- The loop sends its requests and touches nothing else. -/
lemma deleteReplicaFiles_spec (env : Env) (nftTokenId : String) (n : Nat) (ls : List Location)
    (deletedCount : Nat) (db : Db) : wp (deleteReplicaFiles env nftTokenId n ls deletedCount)
      (fun r db' => (∃ count, r = .ok count) ∧ db' =
        { db with
          storageRequests := db.storageRequests ++ replicaDeletions env nftTokenId n ls }) db := by
  induction ls generalizing n deletedCount db with
  | nil => exact wp_pure ⟨⟨deletedCount, rfl⟩, by simp [replicaDeletions]⟩
  | cons l ls ih =>
      refine wp_write_bind (fun _ h => by cases h) fun db₁ hdb₁ => ?_
      cases hdb₁
      refine wp_mono (ih _ _ _) fun r db' h => ⟨h.1, ?_⟩
      rw [h.2, replicaDeletions, replicaDeletions, List.zipIdx_cons, List.map_cons]
      simp

/-- The caller may delete the files of an NFT. -/
def MayDelete (env : Env) (auth : AuthenticatedUser) (nftTokenId : String) (db : Db) : Prop :=
  ∃ w, (Ownership.requireVerifiedNftOwner env nftTokenId auth.walletAddress
    "Only the NFT owner can delete files" db).1 = .ok w

inductive DeletesFile (env : Env) (auth : AuthenticatedUser) (nftTokenId : String) (db : Db) :
    Except ApiError DeleteFileResponse → Db → Prop
  | Refused (e : ApiError) : ¬MayDelete env auth nftTokenId db →
      DeletesFile env auth nftTokenId db (.error e) db
  | Empty : MayDelete env auth nftTokenId db → replicaLocations nftTokenId db = [] →
      DeletesFile env auth nftTokenId db (.ok ⟨nftTokenId, 0, true⟩) db
  | Forgotten (count : Nat) : MayDelete env auth nftTokenId db →
      DeletesFile env auth nftTokenId db (.ok ⟨nftTokenId, count, true⟩)
        (forgetReplicas nftTokenId
          { db with
            storageRequests := db.storageRequests
              ++ replicaDeletions env nftTokenId 0 (replicaLocations nftTokenId db) })

theorem deleteFileStorage_spec (env : Env) (auth : AuthenticatedUser) (nftTokenId : String)
    (db : Db) : wp (deleteFileStorage env auth nftTokenId)
      (DeletesFile env auth nftTokenId db) db := by
  have howner := Ownership.requireVerifiedNftOwner_spec env nftTokenId auth.walletAddress
    "Only the NFT owner can delete files" db
  have hresult : wp (Ownership.requireVerifiedNftOwner env nftTokenId auth.walletAddress
      "Only the NFT owner can delete files") (fun r _ => ∀ w, r = .ok w ↔
        (Ownership.requireVerifiedNftOwner env nftTokenId auth.walletAddress
          "Only the NFT owner can delete files" db).1 = .ok w) db :=
    fun w => Iff.rfl
  refine wp_bind (wp_mono (wp_and howner hresult) ?_)
  rintro (e | w) _ ⟨⟨rfl, -⟩, hr⟩
  · refine .Refused e ?_
    rintro ⟨w, hw⟩
    cases (hr w).mpr hw
  have hmay : MayDelete env auth nftTokenId _ := ⟨w, (hr w).mp rfl⟩
  refine wp_read_bind ?_
  split_ifs with hempty
  · exact wp_pure (.Empty hmay (List.isEmpty_iff.mp hempty))
  · refine wp_bind (wp_mono (deleteReplicaFiles_spec _ _ _ _ _ _) ?_)
    rintro _ _ ⟨⟨count, rfl⟩, rfl⟩
    refine wp_write_bind (fun _ h => by cases h) fun db₂ h₂ => ?_
    cases h₂
    exact wp_pure (.Forgotten count hmay)

end Vaulted.FileProxy
