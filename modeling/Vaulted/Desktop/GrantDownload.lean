import Vaulted.Desktop.ClientError
import Vaulted.Oracle.FileAccess
import Vaulted.Vault.ForgottenReplicas

/-!
# Downloading a granted file

`upload_file` lists one fragment for each replica of a file.  `download_file` of the Oracle takes
them for alternatives; `download_incoming_vaulted_grant` of the desktop takes them for parts.

* `downloadFragments` — the parts, in the order of their indices, one after the other.
* `Served` — every URL of an answer gives what is stored under its key.
* `download_eq` — what the client gets is the ciphertext, once for every replica.
* `yields_iff` — which is the ciphertext only if there is one replica, or nothing in the file.
-/

namespace Vaulted.GrantDownload

open Autocommit.Prog FileProxy FileAccess VaultObjects

/-! ## The client -/

/-- An answer to a request, with its status as it is printed. -/
structure HttpResponse where
  code : ℕ
  status : String
  bytes : Except ClientError (List UInt8)

/-- The outside world, as the client sees it through its URLs. -/
abbrev Web := String → Except ClientError HttpResponse

/-- The loop of `download_incoming_vaulted_grant`. -/
def appendFragments (get : Web) :
    List FragmentDownloadInfo → List UInt8 → Except ClientError (List UInt8)
  | [], encryptedData => .ok encryptedData
  | fragment :: fragments, encryptedData => do
      let response ← get fragment.url
      if 200 ≤ response.code ∧ response.code < 300 then do
        let bytes ← response.bytes
        appendFragments get fragments (encryptedData ++ bytes)
      else
        .error (.Oracle ("Failed to download grant fragment " ++ toString fragment.index.toNat
          ++ ": " ++ response.status))

/-- The part of the command between the answer of the Oracle and the decryption. -/
def downloadFragments (get : Web) (access : FileAccessResponse) :
    Except ClientError (List UInt8) :=
  let fragments := access.fragmentUrls.insertionSort fun a b => a.index ≤ b.index
  if fragments.isEmpty then .error (.Oracle "Grant has no downloadable fragments")
  else appendFragments get fragments []

/-! ## What the client gets -/

/-- Every URL of an answer gives the bytes that the node of its fragment stores under its key. -/
def Served (get : Web) (content : String → String → List UInt8) (nodes : List StorageNode)
    (access : FileAccessResponse) : Prop :=
  ∀ dto ∈ access.manifest.fragments,
    get (fragmentUrl nodes dto) = .ok ⟨200, "200 OK", .ok (content dto.storageId dto.storageKey)⟩

/-- Every node that has accepted a request stores the ciphertext under the key of the request. -/
def Stored (content : String → String → List UInt8) (requests : List StorageRequest)
    (body : List UInt8) : Prop :=
  ∀ w ∈ requests, w.isStored = true → content w.nodeId w.token.storageKey = body

section Client

variable {get : Web} {body : List UInt8}

lemma appendFragments_eq {fragments : List FragmentDownloadInfo}
    (h : ∀ f ∈ fragments, get f.url = .ok ⟨200, "200 OK", .ok body⟩) (acc : List UInt8) :
    appendFragments get fragments acc
      = .ok (acc ++ (List.replicate fragments.length body).flatten) := by
  induction fragments generalizing acc with
  | nil => simp [appendFragments]
  | cons f fragments ih =>
      have hrest := ih (fun g hg => h g (List.mem_cons_of_mem _ hg)) (acc ++ body)
      rw [appendFragments, h f List.mem_cons_self, List.length_cons, List.replicate_succ,
        List.flatten_cons, ← List.append_assoc, ← hrest]
      rfl

lemma downloadFragments_eq {access : FileAccessResponse} (hne : access.fragmentUrls ≠ [])
    (h : ∀ f ∈ access.fragmentUrls, get f.url = .ok ⟨200, "200 OK", .ok body⟩) :
    downloadFragments get access
      = .ok (List.replicate access.fragmentUrls.length body).flatten := by
  have hperm := List.perm_insertionSort
    (fun a b : FragmentDownloadInfo => a.index ≤ b.index) access.fragmentUrls
  have hsorted : ∀ f ∈ access.fragmentUrls.insertionSort fun a b => a.index ≤ b.index,
      get f.url = .ok ⟨200, "200 OK", .ok body⟩ := fun f hf => h f (hperm.mem_iff.mp hf)
  have hne' : (access.fragmentUrls.insertionSort fun a b => a.index ≤ b.index) ≠ [] :=
    fun hnil => hne (List.perm_nil.mp (hnil ▸ hperm.symm))
  rw [downloadFragments, if_neg (by simpa using hne'), appendFragments_eq hsorted,
    hperm.length_eq, List.nil_append]

/-- So many copies are one only if there is one, or nothing to copy. -/
lemma copies_iff {n : ℕ} (hn : n ≠ 0) :
    (List.replicate n body).flatten = body ↔ n = 1 ∨ body = [] := by
  constructor
  · intro h
    have hlength := congrArg List.length h
    rw [List.length_flatten, List.map_replicate, List.sum_replicate_nat] at hlength
    rcases Nat.eq_zero_or_pos body.length with hzero | hpos
    · exact .inr (List.length_eq_zero_iff.mp hzero)
    · exact .inl (Nat.eq_of_mul_eq_mul_right hpos (by omega))
  · rintro (rfl | rfl)
    · simp
    · simp

end Client

/-! ## A granted file -/

section Grants

variable {state : AppState} {select : List StorageNode → List StorageNode} {env : Env}
variable {auth : AuthenticatedUser} {nftTokenId : String} {body : List UInt8} {db : Db}

/-- The fragments of an answer are those that the upload has listed. -/
lemma fragments_eq {env' : Env} {auth' : AuthenticatedUser} {grantId : Uuid}
    {identityId : Option String} {db' : Db} {access : FileAccessResponse}
    {manifest : Json} {fragments : List Json}
    (haccess : (grantFileAccess env' auth' grantId identityId db').1 = .ok access)
    (htoken : access.nftTokenId = nftTokenId)
    (hmanifest : (db'.nftMetadata.find? nftTokenId).bind NftMetadata.manifest = some manifest)
    (hfragments : manifest.get "fragments" = some (.Arr fragments)) :
    access.manifest.fragments = fragments.map fragmentDto
      ∧ access.fragmentUrls
        = (fragments.map fragmentDto).map (downloadInfo db'.storageNodes.rows) := by
  have hspec := grantFileAccess_spec env' auth' grantId identityId db'
  rw [wp, haccess] at hspec
  generalize (grantFileAccess env' auth' grantId identityId db').2 = db'' at hspec
  cases hspec with
  | Granted g nm' hactive _ =>
      have hnm : db'.nftMetadata.find? nftTokenId = some nm' := by
        obtain ⟨_, -, hactive⟩ := Option.bind_eq_some_iff.mp hactive
        obtain ⟨_, -, hactive⟩ := Option.bind_eq_some_iff.mp hactive
        obtain ⟨token, -, hactive⟩ := Option.bind_eq_some_iff.mp hactive
        obtain ⟨_, hfound, hactive⟩ := Option.bind_eq_some_iff.mp hactive
        cases hactive
        have hrow := Indexed.find?_eq_some.mp (Option.filter_eq_some_iff.mp hfound).1
        exact Indexed.find?_eq_some.mpr ⟨hrow.1, htoken⟩
      have hrow : nm'.manifest = some manifest := by rwa [hnm] at hmanifest
      have hdtos : fragmentDtos manifest = fragments.map fragmentDto := by
        rw [fragmentDtos, Json.index, hfragments]
        rfl
      rw [hrow]
      exact ⟨hdtos, congrArg _ hdtos⟩

/-- What is stored for a fragment of the upload is the ciphertext. -/
lemma content_eq {content : String → String → List UInt8} {nodes : List StorageNode}
    (hstored : Stored content (uploadRequests state env nftTokenId body 0 nodes) body)
    {node : StorageNode × ℕ} (hnode : node ∈ storedNodes env 0 nodes) :
    content (fragmentDto (storedFragment state nftTokenId body node.2 node.1)).storageId
      (fragmentDto (storedFragment state nftTokenId body node.2 node.1)).storageKey = body := by
  obtain ⟨hmem, hsuccess⟩ := List.mem_filter.mp hnode
  refine hstored (uploadRequest state env nftTokenId body node.2 node.1) ?_ hsuccess
  rw [uploadRequests_eq]
  exact List.mem_map_of_mem hmem

/-- **A granted file is the ciphertext if and only if** there is one replica of it, or nothing in
it. The manifest has one entry for each replica, and the command takes the entries for parts and
puts them together. -/
theorem yields_iff {answer : UploadFileResponse} {env' : Env} {auth' : AuthenticatedUser}
    {grantId : Uuid} {identityId : Option String} {db' : Db} {access : FileAccessResponse}
    {content : String → String → List UInt8} {get : Web}
    (hupload : (uploadFile state select env auth nftTokenId body db).1 = .ok answer)
    (hkept : (db'.nftMetadata.find? nftTokenId).bind NftMetadata.manifest
      = ((uploadFile state select env auth nftTokenId body db).2.nftMetadata.find?
        nftTokenId).bind NftMetadata.manifest)
    (hstored : Stored content
      ((uploadFile state select env auth nftTokenId body db).2.storageRequests.drop
        db.storageRequests.length) body)
    (haccess : (grantFileAccess env' auth' grantId identityId db').1 = .ok access)
    (htoken : access.nftTokenId = nftTokenId)
    (hserved : Served get content db'.storageNodes.rows access) :
    downloadFragments get access = .ok body
      ↔ (storedNodes env 0 (select (candidates body.length db))).length = 1 ∨ body = [] := by
  obtain ⟨hne, hlog, nm, manifest, hnm, hmanifest, hfragments⟩ :=
    uploadFile_stored state select env auth nftTokenId body db answer hupload
  rw [hlog, List.drop_left] at hstored
  rw [hnm, Option.bind_some, hmanifest] at hkept
  obtain ⟨hdtos, hurls⟩ := fragments_eq haccess htoken hkept hfragments
  have hall : ∀ f ∈ access.fragmentUrls, get f.url = .ok ⟨200, "200 OK", .ok body⟩ := by
    intro f hf
    rw [hurls] at hf
    obtain ⟨dto, hdto, rfl⟩ := List.mem_map.mp hf
    have hget := hserved dto (hdtos ▸ hdto)
    obtain ⟨frag, hfrag, rfl⟩ := List.mem_map.mp hdto
    obtain ⟨node, hnode, rfl⟩ := List.mem_map.mp hfrag
    rw [content_eq hstored hnode] at hget
    exact hget
  have hlength : access.fragmentUrls.length
      = (storedNodes env 0 (select (candidates body.length db))).length := by
    rw [hurls, List.length_map, List.length_map, List.length_map]
  have hne' : access.fragmentUrls ≠ [] := by
    rw [← List.length_pos_iff, hlength, List.length_pos_iff]
    exact hne
  rw [downloadFragments_eq hne' hall, Except.ok.injEq, hlength]
  exact copies_iff fun hzero => hne (List.length_eq_zero_iff.mp hzero)

end Grants

namespace Sample

open Transfers.Sample

/-- Alice's file is granted to Bob. -/
def granted : Db :=
  { ForgottenReplicas.Sample.stored with
    grants := ⟨[
      { id := ⟨"g"⟩
        vaultObjectId := object.id
        recipientIdentityId := "bob"
        permissions := ["read"]
        expiresAt := none
        keyEnvelope := .Obj []
        encryptedFileKey := "key"
        ownerSignature := ""
        status := .Active }], List.nodup_singleton _⟩ }

def ciphertext : List UInt8 := [1, 2, 3]

/-- Bob, under his identity. -/
def bobsLogin : AuthenticatedUser where
  walletAddress := "bob"
  tokenId := ""
  role := "user"

/-- Both nodes store the upload. -/
def up : Env := { env ⟨""⟩ with storage := fun _ => .Status 200 (.ok []) }

/-- One of them does. -/
def half : Env :=
  { env ⟨""⟩ with storage := fun n => if n = 0 then .TransportError else .Status 200 (.ok []) }

/-- Alice uploads the ciphertext. -/
def uploaded (e : Env) : Except ApiError UploadFileResponse × Db :=
  uploadFile Tombstone.Sample.oracle id e (caller alice) tokenId ciphertext granted

def accessed (e : Env) : Except ApiError FileAccessResponse :=
  (grantFileAccess (env ⟨""⟩) bobsLogin ⟨"g"⟩ (some "bob") (uploaded e).2).1

/-- The nodes have the ciphertext under every key. -/
def web : Web := fun _ => .ok ⟨200, "200 OK", .ok ciphertext⟩

/-- One replica is the ciphertext. -/
theorem yields_half : (accessed half).toOption.isSome = true
    ∧ ∀ access, accessed half = .ok access → downloadFragments web access = .ok ciphertext := by
  refine ⟨by decide +kernel, fun access haccess => ?_⟩
  obtain ⟨answer, hanswer⟩ := Option.isSome_iff_exists.mp
    (by decide +kernel : ((uploaded half).1.toOption).isSome = true)
  have htoken : (accessed half).toOption.map FileAccessResponse.nftTokenId = some tokenId := by
    decide +kernel
  rw [haccess] at htoken
  have hstored : Stored (fun _ _ => ciphertext)
      ((uploaded half).2.storageRequests.drop granted.storageRequests.length) ciphertext :=
    fun _ _ _ => rfl
  exact (yields_iff (eq_ok_of_toOption hanswer) rfl hstored haccess (Option.some.inj htoken)
    fun _ _ => rfl).mpr (.inl (by decide +kernel))

/-- **Two replicas are twice the ciphertext.** -/
theorem not_yields :
    ¬∀ (e : Env) (content : String → String → List UInt8) (get : Web) (access : FileAccessResponse),
      (uploaded e).1.toOption.isSome = true →
      Stored content ((uploaded e).2.storageRequests.drop granted.storageRequests.length)
        ciphertext →
      accessed e = .ok access → Served get content (uploaded e).2.storageNodes.rows access →
      downloadFragments get access = .ok ciphertext := by
  intro hyields
  obtain ⟨access, haccess⟩ := Option.isSome_iff_exists.mp
    (by decide +kernel : (accessed up).toOption.isSome = true)
  have htwice : (accessed up).toOption.map (fun access => (downloadFragments web access).toOption)
      = some (some (ciphertext ++ ciphertext)) := by decide +kernel
  rw [haccess, Option.map_some, hyields up (fun _ _ => ciphertext) web access (by decide +kernel)
    (fun _ _ _ => rfl) (eq_ok_of_toOption haccess) fun _ _ => rfl] at htwice
  exact absurd htwice (by decide)

end Sample

end Vaulted.GrantDownload
