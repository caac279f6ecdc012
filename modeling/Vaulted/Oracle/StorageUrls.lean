import Vaulted.Node.Token
import Vaulted.Oracle.FileAccess

/-!
# Storage URLs of the Oracle

Where clients are sent for a fragment, other than by the Oracle's own requests.

* `StorageUrlGenerator` — URLs with a signed token (`storage_token.rs`).
* `getUploadUrl` — the key and the node of a new fragment (`api/files.rs`).
* `createUploadTargets` — one key for each replica (`services/replication.rs`).

Which of the active nodes have the lowest load, or suit the replication strategy, is left open.
-/

namespace Vaulted

/-! ## Tokens -/

def StorageToken.newRead (now : Time) (jti : Uuid) (nftTokenId storageKey : String)
    (expiresInMinutes : Nat) : StorageToken :=
  .newScoped now jti nftTokenId storageKey .Read expiresInMinutes none none

def StorageToken.newWrite (now : Time) (jti : Uuid) (nftTokenId storageKey : String)
    (expiresInMinutes : Nat) : StorageToken :=
  .newScoped now jti nftTokenId storageKey .Write expiresInMinutes none none

def StorageToken.newDelete (now : Time) (jti : Uuid) (nftTokenId storageKey : String)
    (expiresInMinutes : Nat) : StorageToken :=
  .newScoped now jti nftTokenId storageKey .Delete expiresInMinutes none none

namespace StorageUrls

open Autocommit.Prog

def fragmentPath (storageKey : String) : String := "/fragments/" ++ storageKey

def signedPath (storageKey token : String) : String :=
  fragmentPath storageKey ++ "?token=" ++ token

/-- A way to make a token: `newRead`, `newWrite` or `newDelete`. -/
abbrev NewToken := Time → Uuid → String → String → Nat → StorageToken

structure StorageUrlGenerator where
  signingKey : SigningKey
  tokenValidityMinutes : Nat

namespace StorageUrlGenerator

variable (c : Crates) (g : StorageUrlGenerator) (now : Time) (jti : Uuid)
  (nodeEndpoint nftTokenId storageKey : String)

/-- The URL with a token that is made at the time of the call. -/
def signedUrl (newToken : NewToken) : String :=
  nodeEndpoint ++ signedPath storageKey
    (signStorageToken c g.signingKey (newToken now jti nftTokenId storageKey g.tokenValidityMinutes))

def downloadUrl : String := g.signedUrl c now jti nodeEndpoint nftTokenId storageKey .newRead

def uploadUrl : String := g.signedUrl c now jti nodeEndpoint nftTokenId storageKey .newWrite

def deleteUrl : String := g.signedUrl c now jti nodeEndpoint nftTokenId storageKey .newDelete

end StorageUrlGenerator

/-! ## POST /api/v1/files/fragments/upload-url -/

structure FragmentUploadRequest where
  fileId : Uuid
  fragmentIndex : UInt32

structure FragmentUploadResponse where
  uploadUrl : String
  storageNodeId : String
  storageKey : String
  deriving DecidableEq

def getUploadUrl (env : Env) (request : FragmentUploadRequest) : Handler FragmentUploadResponse := do
  let node? ← read fun db =>
    env.choose (db.storageNodes.rows.filter fun node => decide (node.status = .Active))
  let node ← expect node? (.Storage "No active storage nodes")
  let storageKey := request.fileId.text ++ "/" ++ toString request.fragmentIndex.toNat ++ "/"
    ++ (env.uuid 0).text
  pure
    { uploadUrl := node.endpointUrl ++ "/upload/" ++ storageKey
      storageNodeId := node.id
      storageKey }

/-! ## POST /api/v1/storage/replication/upload-targets -/

structure UploadTarget where
  nodeId : String
  endpointUrl : String
  region : String
  storageKey : String
  uploadUrl : String
  deriving DecidableEq

def uploadTarget (fileId : String) (fragmentIndex : UInt32) (replicaIdx : Nat)
    (node : StorageNode) : UploadTarget :=
  let storageKey := "file_" ++ fileId ++ "_frag_" ++ toString fragmentIndex.toNat ++ "_r"
    ++ toString replicaIdx
  { nodeId := node.id
    endpointUrl := node.endpointUrl
    region := node.region
    storageKey
    uploadUrl := node.endpointUrl ++ fragmentPath storageKey }

/-- For the nodes that have been selected. -/
def createUploadTargets (nodes : List StorageNode) (fileId : String) (fragmentIndex : UInt32) :
    List UploadTarget :=
  nodes.mapIdx fun replicaIdx node => uploadTarget fileId fragmentIndex replicaIdx node

/-! ## What a call can answer -/

lemma getUploadUrl_spec (env : Env) (request : FragmentUploadRequest) (db : Db) :
    wp (getUploadUrl env request) (fun r db' => db' = db ∧ ∀ response, r = .ok response →
      '/' ∈ response.storageKey.toList) db := by
  refine wp_read_bind (wp_expect_bind (fun _ => ⟨rfl, fun _ h => nomatch h⟩) fun node hnode => ?_)
  refine wp_pure ⟨rfl, fun response h => ?_⟩
  rw [← Except.ok.inj h]
  simp

end StorageUrls

end Vaulted
