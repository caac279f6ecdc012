import Vaulted.Library.Runs
import Vaulted.Oracle.FileProxy
import Vaulted.Transfer.HonestRequest
import Vaulted.Vault.Tombstone

/-!
# Storage authority

A storage node does what a token of the Oracle says, and the Oracle signs tokens for the nodes and
keys it finds in its tables.  The uploads put them there — but the first manifest of a vault is the
client's.

* `Call` — creation, upload, download and deletion.
* `Allowed` — a request reads or deletes where an upload for the same NFT was stored before, or
  writes under one of the NFT's own keys.
* `Confined` — every request of a log is allowed by the requests before it.
* `Unbacked` — the calls that trust the client's own manifest.
* `Sound` — the invariant of all other calls; `confined_of_backed` — what it is for.
* `not_confined` — a vault whose manifest names the key of somebody else's file.
-/

namespace Vaulted.StorageConfinement

open Autocommit.Prog Vaults FileProxy

/-! ## The system -/

inductive Call
  | Create (env : Env) (auth : AuthenticatedUser) (req : CreateVaultRequest)
  | Upload (env : Env) (auth : AuthenticatedUser) (nftTokenId : String) (body : List UInt8)
  | Download (env : Env) (auth : AuthenticatedUser) (nftTokenId : String)
  | Delete (env : Env) (auth : AuthenticatedUser) (nftTokenId : String)
      (request : DeleteVaultRequest)

variable (state : AppState) (select : List StorageNode → List StorageNode)

def step (db : Db) : Call → Db
  | .Create env auth req => (createVault state env auth req db).2
  | .Upload env auth nftTokenId body => (uploadFile state select env auth nftTokenId body db).2
  | .Download env auth nftTokenId => (downloadFile env auth nftTokenId db).2
  | .Delete env auth nftTokenId request => (deleteVault state env auth nftTokenId request db).2

/-- The database after a run of calls. -/
abbrev exec (db : Db) (calls : List Call) : Db := Runs.exec (step state select) db calls

/-- What a request may do after the requests of `log`. -/
def Allowed (log : List StorageRequest) (r : StorageRequest) : Prop :=
  match r.token.operation with
  | .Write => r.token.storageNodeId = some r.nodeId
      ∧ ∃ n, r.token.storageKey = nodeStorageKey r.token.nftTokenId n
  | _ => r.token.storageNodeId = some (storageNodeScope r.nodeId)
      ∧ StoredAt log r.token.nftTokenId r.nodeId r.token.storageKey

/-- Every request of a log is allowed by the requests before it: a write goes under a key that the
Oracle has made for the NFT, and the others to where something has been stored for it. -/
def Confined (log : List StorageRequest) : Prop :=
  ∀ pre r post, log = pre ++ r :: post → Allowed pre r

/-! ## The condition -/

/-- Some upload for an NFT has been stored. -/
def HasUpload (log : List StorageRequest) (nftTokenId : String) : Prop :=
  ∃ w ∈ log, w.isStored = true ∧ w.token.nftTokenId = nftTokenId

/-- A call that finds fragments in the manifest of an NFT for which nothing has been stored. -/
def Unbacked (db : Db) : Call → Prop
  | .Download env auth nftTokenId => ¬ HasUpload db.storageRequests nftTokenId
      ∧ (∃ nm, Ownership.Verified env nftTokenId auth.walletAddress db nm)
      ∧ activeReplicas nftTokenId db = [] ∧ manifestLocations nftTokenId db ≠ []
  | .Delete env auth nftTokenId request => ¬ HasUpload db.storageRequests nftTokenId
      ∧ ∃ nm manifest, Deletable env auth nftTokenId request db nm manifest
        ∧ manifest.fragments ≠ []
  | _ => False

/-- No call of the run trusts a manifest without uploads, so that every key which the Oracle signs
for is one under which it has stored something. -/
def Backed : Db → List Call → Prop :=
  Runs.Guarded (step state select) fun db call => ¬ Unbacked db call

/-! ## Logs -/

variable {state select}

lemma Allowed.mono {log log' : List StorageRequest} (hsub : log ⊆ log') {r : StorageRequest}
    (h : Allowed log r) : Allowed log' r := by
  cases hop : r.token.operation with
  | Write =>
      simp only [Allowed, hop] at h ⊢
      exact h
  | Read =>
      simp only [Allowed, hop] at h ⊢
      exact ⟨h.1, h.2.mono hsub⟩
  | Delete =>
      simp only [Allowed, hop] at h ⊢
      exact ⟨h.1, h.2.mono hsub⟩

lemma confined_append {log new : List StorageRequest} (hlog : Confined log)
    (hnew : ∀ r ∈ new, Allowed log r) : Confined (log ++ new) := by
  intro pre r post heq
  rcases List.append_eq_append_iff.mp heq with ⟨mid, rfl, hnew'⟩ | ⟨mid, rfl, hmid⟩
  · exact (hnew r (by rw [hnew']; simp)).mono (List.subset_append_left log mid)
  · cases mid with
    | nil =>
        have hr : r ∈ new := by rw [← List.nil_append new, ← hmid]; simp
        simpa using hnew r hr
    | cons r' mid =>
        obtain ⟨rfl, rfl⟩ := List.cons.inj hmid
        exact hlog pre r mid rfl

lemma HasUpload.of_append {log new : List StorageRequest} {nftTokenId : String}
    (h : HasUpload (log ++ new) nftTokenId) (hnew : ¬ HasUpload new nftTokenId) :
    HasUpload log nftTokenId := by
  obtain ⟨w, hw, hstored⟩ := h
  rcases List.mem_append.mp hw with hw | hw
  · exact ⟨w, hw, hstored⟩
  · exact absurd ⟨w, hw, hstored⟩ hnew

/-! ## The invariant -/

/-- The fragments that a manifest lists. -/
def listed (nm : NftMetadata) : List Json :=
  ((nm.manifest.bind fun manifest => (manifest.get "fragments").bind Json.asArray)).getD []

/-- A row whose manifest is an object and, once there is an upload, lists stored fragments, which are
objects too. -/
structure Truthful (log : List StorageRequest) (nm : NftMetadata) : Prop where
  object : ∀ j, nm.manifest = some j → j.isObject = true
  stored : HasUpload log nm.nftTokenId → ∀ frag ∈ listed nm, frag.isObject = true
    ∧ StoredAt log nm.nftTokenId (fragmentNode frag) (fragmentKey frag)

/-- What the Oracle's tables say about the storage nodes is true: what is recorded for an NFT has
been stored for it. The invariant of a run that trusts no manifest without uploads. -/
structure Sound (db : Db) : Prop where
  confined : Confined db.storageRequests
  replicas : ∀ r ∈ db.fileReplicas.rows,
    StoredAt db.storageRequests r.nftTokenId r.storageNodeId r.storageKey
  rows : ∀ id nm, db.nftMetadata.get? id = some nm → Truthful db.storageRequests nm
  known : ∀ w ∈ db.storageRequests, w.isStored = true →
    ∃ id nm, db.nftMetadata.get? id = some nm ∧ nm.nftTokenId = w.token.nftTokenId

/-- A row that keeps its token and its manifest, and gets no upload. -/
lemma Truthful.of_same {log new : List StorageRequest} {o nm : NftMetadata} (h : Truthful log o)
    (htoken : o.nftTokenId = nm.nftTokenId) (hmanifest : o.manifest = nm.manifest)
    (hnew : ¬ HasUpload new nm.nftTokenId) : Truthful (log ++ new) nm where
  object j hj := h.object j (hmanifest.trans hj)
  stored hupload frag hfrag := by
    have hlisted : listed o = listed nm := by rw [listed, hmanifest, listed]
    obtain ⟨hobject, hstored⟩ := h.stored (htoken ▸ hupload.of_append hnew) frag (hlisted ▸ hfrag)
    exact ⟨hobject, htoken ▸ hstored.mono (List.subset_append_left log new)⟩

/-- What a call has to show: it sends allowed requests, it records only replicas that are stored,
it keeps the tokens, and its rows are truthful. -/
lemma Sound.extend {db db' : Db} (h : Sound db) {new : List StorageRequest}
    (hlog : db'.storageRequests = db.storageRequests ++ new)
    (hallowed : ∀ r ∈ new, Allowed db.storageRequests r)
    (hreplicas : ∀ r ∈ db'.fileReplicas.rows, (∃ o ∈ db.fileReplicas.rows, o.key = r.key
      ∧ o.storageKey = r.storageKey) ∨ StoredAt new r.nftTokenId r.storageNodeId r.storageKey)
    (hrows : ∀ id nm, db'.nftMetadata.get? id = some nm →
      Truthful (db.storageRequests ++ new) nm)
    (hkept : ∀ id o, db.nftMetadata.get? id = some o →
      ∃ nm, db'.nftMetadata.get? id = some nm ∧ nm.nftTokenId = o.nftTokenId)
    (hknown : ∀ w ∈ new, w.isStored = true →
      ∃ id o, db.nftMetadata.get? id = some o ∧ o.nftTokenId = w.token.nftTokenId) :
    Sound db' where
  confined := hlog ▸ confined_append h.confined hallowed
  replicas := by
    intro r hr
    rw [hlog]
    rcases hreplicas r hr with ⟨o, ho, hkey, hstorageKey⟩ | hstored
    · obtain ⟨htoken, hnode⟩ := Prod.mk.inj hkey
      have hstored := h.replicas o ho
      rw [htoken, hnode, hstorageKey] at hstored
      exact hstored.mono (List.subset_append_left _ new)
    · exact hstored.mono (List.subset_append_right _ new)
  rows := by
    intro id nm hnm
    rw [hlog]
    exact hrows id nm hnm
  known := by
    intro w hw hstored
    have hbefore : ∃ id o, db.nftMetadata.get? id = some o ∧ o.nftTokenId = w.token.nftTokenId := by
      rcases List.mem_append.mp (hlog ▸ hw) with hw | hw
      · exact h.known w hw hstored
      · exact hknown w hw hstored
    obtain ⟨id, o, ho, htoken⟩ := hbefore
    obtain ⟨nm, hnm, hsame⟩ := hkept id o ho
    exact ⟨id, nm, hnm, hsame.trans htoken⟩

/-- A log without stored uploads. -/
lemma not_hasUpload {log : List StorageRequest} (h : ∀ w ∈ log, w.isStored = false)
    (nftTokenId : String) : ¬ HasUpload log nftTokenId := by
  rintro ⟨w, hw, hstored, -⟩
  rw [h w hw] at hstored
  cases hstored

/-! ## A step -/

/-- **A new vault** has nothing stored yet, whatever its manifest says. -/
lemma sound_create {db : Db} (h : Sound db) (env : Env) (auth : AuthenticatedUser)
    (req : CreateVaultRequest) : Sound (createVault state env auth req db).2 := by
  have hspec := createVault_spec state env auth req db
  simp only [wp] at hspec
  generalize (createVault state env auth req db).1 = r at hspec
  generalize (createVault state env auth req db).2 = db' at hspec ⊢
  have hnone : ∀ nftTokenId, ¬ HasUpload [] nftTokenId :=
    not_hasUpload fun _ hw => absurd hw List.not_mem_nil
  have same : ∀ users, Sound { db with users } := fun users =>
    ⟨h.confined, h.replicas, h.rows, h.known⟩
  cases hspec with
  | Refused e => exact h
  | Unprepared userId e _ _ hjoin =>
      obtain ⟨users, rfl⟩ := hjoin.frame
      exact same users
  | Prepared userId hash answer db₁ _ _ hjoin hins =>
      obtain ⟨users, rfl⟩ := hjoin.frame
      obtain ⟨nfts, hnfts, rfl⟩ := insertNft_eq_ok hins
      refine h.extend (List.append_nil _).symm (fun _ hr => absurd hr List.not_mem_nil)
        (fun r hr => .inl ⟨r, hr, rfl, rfl⟩) (fun id nm hnm => ?_) (fun id o ho => ?_)
        (fun _ hw => absurd hw List.not_mem_nil)
      · rcases get?_insertNft hins hnm with hsame | ⟨-, rfl⟩
        · exact (h.rows id nm hsame).of_same rfl rfl (hnone _)
        · refine ⟨fun j hj => ?_, fun hupload => ?_⟩
          · unfold preparedVault at hj
            dsimp only at hj
            split_ifs at hj
            rw [← Option.some.inj hj]
            rfl
          · -- the token of the new row is new
            obtain ⟨w, hw, hstored, htoken⟩ := hupload.of_append (hnone _)
            obtain ⟨id', o, ho, hsame⟩ := h.known w hw hstored
            exact absurd (hsame.trans htoken)
              (Indexed.alt_ne_of_insert hnfts (Indexed.get?_eq_some.mp ho).1)
      · refine ⟨o, ?_, rfl⟩
        have hid : id ≠ (preparedVault state env req userId hash).id := by
          rintro rfl
          rw [Indexed.get?_insert_self hnfts] at ho
          cases ho
        exact (Indexed.get?_insert hnfts id).trans ((if_neg hid).trans ho)

/-- **An upload** writes under keys of its own NFT, and its manifest lists what was stored. -/
lemma sound_upload {db : Db} (h : Sound db) (env : Env) (auth : AuthenticatedUser)
    (nftTokenId : String) (body : List UInt8) :
    Sound (uploadFile state select env auth nftTokenId body db).2 := by
  have hspec := uploadFile_spec state select env auth nftTokenId body db
  simp only [wp] at hspec
  generalize (uploadFile state select env auth nftTokenId body db).1 = r at hspec
  generalize (uploadFile state select env auth nftTokenId body db).2 = db' at hspec ⊢
  have hallowed : ∀ nodes, ∀ r ∈ uploadRequests state env nftTokenId body 0 nodes,
      Allowed db.storageRequests r := by
    intro nodes r hr
    obtain ⟨i, node, rfl⟩ := mem_uploadRequests hr
    exact ⟨rfl, i, rfl⟩
  have htoken : ∀ nodes, ∀ r ∈ uploadRequests state env nftTokenId body 0 nodes,
      r.token.nftTokenId = nftTokenId := by
    intro nodes r hr
    obtain ⟨i, node, rfl⟩ := mem_uploadRequests hr
    rfl
  cases hspec with
  | Refused e => exact h
  | Failed e nodes acc _ hup hzero =>
      have hnone : ∀ w ∈ uploadRequests state env nftTokenId body 0 nodes, w.isStored = false := by
        intro w hw
        by_contra hstored
        have hpos := hup.counted.2 ⟨w, hw, by simpa using hstored⟩
        omega
      obtain ⟨replicas, storageNodes, rfl⟩ := hup.tables
      refine h.extend rfl (hallowed nodes) (fun r hr => ?_) (fun id nm hnm => ?_)
        (fun id o ho => ⟨o, ho, rfl⟩) (fun w hw hstored => ?_)
      · exact (hup.replicas r hr).imp_left fun hr => ⟨r, hr, rfl, rfl⟩
      · exact (h.rows id nm hnm).of_same rfl rfl (not_hasUpload hnone _)
      · rw [hnone w hw] at hstored
        cases hstored
  | Unrecorded e nodes acc _ hup herror =>
      -- manifests are objects, so that the upload can be recorded
      obtain ⟨replicas, storageNodes, rfl⟩ := hup.tables
      unfold recordUpload at herror
      dsimp only at herror
      split at herror
      · cases herror
      · next nm hnm =>
          obtain ⟨manifest, hmanifest⟩ := uploadedManifest_of_isObject body.length
            acc.fragmentInfos (h.rows nm.id nm (Indexed.get?_of_find? hnm)).object
          rw [hmanifest] at herror
          cases herror
  | Recorded nm nodes acc answer db₁ _ hnm hup hrecord =>
      have hnm₁ : db₁.nftMetadata.find? nftTokenId = some nm := by
        obtain ⟨_, _, htables⟩ := hup.tables
        rw [htables]
        exact hnm
      obtain ⟨manifest, hmanifest, rfl⟩ := recordUpload_eq_ok hnm₁ hrecord
      obtain ⟨replicas, storageNodes, rfl⟩ := hup.tables
      obtain ⟨hobject, hfragments⟩ := uploadedManifest_eq_some hmanifest
      have hrow := Indexed.get?_of_find? hnm
      have hown : nm.nftTokenId = nftTokenId := (Indexed.find?_eq_some.mp hnm).2
      refine h.extend rfl (hallowed nodes) (fun r hr => ?_) (fun id nm' hnm' => ?_)
        (fun id o ho => ?_) (fun w hw _ => ⟨nm.id, nm, hrow, hown.trans (htoken nodes w hw).symm⟩)
      · exact (hup.replicas r hr).imp_left fun hr => ⟨r, hr, rfl, rfl⟩
      · rcases get?_withNft_cases hnm' with ⟨hother, hsame⟩ | ⟨-, o, ho, rfl⟩
        · -- the uploads are for the token of another row
          refine (h.rows id nm' hsame).of_same rfl rfl ?_
          rintro ⟨w, hw, -, hw'⟩
          have hfind := Indexed.find?_of_get? hsame
          rw [← hw', htoken nodes w hw, hnm] at hfind
          have hid : nm'.id = id := Indexed.key_of_get? hsame
          exact hother (hid.symm.trans (congrArg NftMetadata.id (Option.some.inj hfind)).symm)
        · obtain rfl := Option.some.inj (hrow.symm.trans ho)
          refine ⟨fun j hj => Option.some.inj hj ▸ hobject, fun _ frag hfrag => ?_⟩
          have hlisted : listed { nm with manifest := some manifest } = acc.fragmentInfos := by
            rw [listed, Option.bind_some, hfragments]
            rfl
          obtain ⟨hfragment, hstored⟩ :=
            (hup.fragments frag (hlisted ▸ hfrag)).resolve_left List.not_mem_nil
          exact ⟨hfragment, hown.symm ▸ hstored.mono (List.subset_append_right _ _)⟩
      · refine ⟨if id = nm.id then { o with manifest := some manifest } else o, ?_, ?_⟩
        · have ho : (db.nftMetadata).get? id = some o := ho
          rw [get?_withNft]
          split_ifs with hid
          · exact congrArg _ (hid ▸ ho)
          · exact ho
        · split_ifs <;> rfl

/-- Where a download looks, an upload of the NFT has been stored. -/
lemma storedAt_of_location {db : Db} (h : Sound db) {env : Env} {auth : AuthenticatedUser}
    {nftTokenId : String} {nm : NftMetadata}
    (hnm : Ownership.Verified env nftTokenId auth.walletAddress db nm)
    (hbacked : ¬ Unbacked db (.Download env auth nftTokenId)) {l : Location}
    (hl : l ∈ locations nftTokenId db) :
    StoredAt db.storageRequests nftTokenId l.nodeId l.storageKey := by
  unfold locations at hl
  split_ifs at hl with hnone
  · have hupload : HasUpload db.storageRequests nftTokenId := by
      by_contra hnot
      exact hbacked ⟨hnot, ⟨nm, hnm⟩, List.isEmpty_iff.mp hnone, List.ne_nil_of_mem hl⟩
    obtain ⟨frag, hfrag, hlocation⟩ := List.mem_filterMap.mp hl
    have htoken : nm.nftTokenId = nftTokenId := (Indexed.find?_eq_some.mp hnm.found).2
    have hlisted : manifestFragments nftTokenId db = listed nm := by
      rw [manifestFragments, hnm.found]
      rfl
    have hrow := h.rows nm.id nm (Indexed.get?_of_find? hnm.found)
    have hstored := (hrow.stored (htoken ▸ hupload) frag (hlisted ▸ hfrag)).2
    obtain ⟨hnode, hkey⟩ := fragmentLocation_eq_some hlocation
    rw [hnode, hkey]
    exact htoken ▸ hstored
  · obtain ⟨r, hr, htoken, hnode, hkey, -⟩ := mem_activeReplicas hl
    rw [← hnode, ← hkey, ← htoken]
    exact h.replicas r hr

/-- Requests that only read, or only delete, are no uploads. -/
lemma sound_of_requests {db : Db} (h : Sound db) {log : List StorageRequest}
    (hallowed : ∀ r ∈ log, Allowed db.storageRequests r)
    (hstored : ∀ r ∈ log, r.isStored = false) :
    Sound { db with storageRequests := db.storageRequests ++ log } := by
  refine h.extend rfl hallowed (fun r hr => .inl ⟨r, hr, rfl, rfl⟩)
    (fun id nm hnm => (h.rows id nm hnm).of_same rfl rfl (not_hasUpload hstored _))
    (fun id o ho => ⟨o, ho, rfl⟩) fun w hw hw' => ?_
  rw [hstored w hw] at hw'
  cases hw'

/-- **A download** reads where the file was stored. -/
lemma sound_download {db : Db} (h : Sound db) {env : Env} {auth : AuthenticatedUser}
    {nftTokenId : String} (hbacked : ¬ Unbacked db (.Download env auth nftTokenId)) :
    Sound (downloadFile env auth nftTokenId db).2 := by
  have hspec := downloadFile_spec env auth nftTokenId db
  simp only [wp] at hspec
  generalize (downloadFile env auth nftTokenId db).2 = db' at hspec ⊢
  cases hspec with
  | Refused => exact h
  | Fetched nm log hnm hlog =>
      refine sound_of_requests h (fun r hr => ?_) (fun r hr => ?_)
      · obtain ⟨i, l, hl, rfl⟩ := hlog r hr
        exact ⟨rfl, storedAt_of_location h hnm hbacked hl⟩
      · obtain ⟨i, l, -, rfl⟩ := hlog r hr
        rfl

/-- What a deletion leaves in the tables of files. -/
lemma sound_tombstoned {db : Db} (h : Sound db) (nm : NftMetadata) (storageDeleted : Bool) :
    Sound (tombstoned nm storageDeleted db) := by
  have hnone : ∀ nftTokenId, ¬ HasUpload [] nftTokenId :=
    not_hasUpload fun _ hw => absurd hw List.not_mem_nil
  have hlog : (tombstoned nm storageDeleted db).storageRequests = db.storageRequests := by
    cases storageDeleted <;> rfl
  have hrows : (tombstoned nm storageDeleted db).nftMetadata
      = (db.withNft nm.id fun nm => { nm with status := NftStatus.archived }).nftMetadata := by
    cases storageDeleted <;> rfl
  refine h.extend (hlog.trans (List.append_nil _).symm) (fun _ hr => absurd hr List.not_mem_nil)
    (fun r hr => .inl ?_) (fun id nm' hnm' => ?_) (fun id o ho => ?_)
    (fun _ hw => absurd hw List.not_mem_nil)
  · cases storageDeleted with
    | false => exact ⟨r, hr, rfl, rfl⟩
    | true =>
        obtain ⟨o, ho, rfl⟩ := List.mem_map.mp hr
        refine ⟨o, ho, ?_⟩
        split_ifs <;> exact ⟨rfl, rfl⟩
  · rw [hrows] at hnm'
    rcases get?_withNft_cases hnm' with ⟨-, hsame⟩ | ⟨rfl, o, ho, rfl⟩
    · exact (h.rows id nm' hsame).of_same rfl rfl (hnone _)
    · exact (h.rows _ o ho).of_same rfl rfl (hnone _)
  · rw [hrows, get?_withNft]
    split_ifs with hid
    · subst hid
      rw [ho]
      exact ⟨_, rfl, rfl⟩
    · exact ⟨o, ho, rfl⟩

/-- **A deletion** deletes where the file was stored. -/
lemma sound_delete {db : Db} (h : Sound db) {env : Env} {auth : AuthenticatedUser}
    {nftTokenId : String} {request : DeleteVaultRequest}
    (hbacked : ¬ Unbacked db (.Delete env auth nftTokenId request)) :
    Sound (deleteVault state env auth nftTokenId request db).2 := by
  have hspec := deleteVault_spec state env auth nftTokenId request db
  simp only [wp] at hspec
  generalize (deleteVault state env auth nftTokenId request db).1 = r at hspec
  generalize (deleteVault state env auth nftTokenId request db).2 = db' at hspec ⊢
  cases hspec with
  | Refused e => exact h
  | Deleted nm manifest storageDeleted answer hdeletable =>
      have htoken : nm.nftTokenId = nftTokenId := (Indexed.find?_eq_some.mp hdeletable.found).2
      obtain ⟨j, hj, hread⟩ := hdeletable.listed
      refine sound_tombstoned (sound_of_requests h (fun r hr => ?_) (fun r hr => ?_)) nm
        storageDeleted
      · obtain ⟨i, f, hf, rfl⟩ := mem_deleteRequests hr
        have hupload : HasUpload db.storageRequests nftTokenId := by
          by_contra hnot
          exact hbacked ⟨hnot, nm, manifest, hdeletable, List.ne_nil_of_mem hf⟩
        have hrow := h.rows nm.id nm (Indexed.get?_of_find? hdeletable.found)
        have hlisted : ∀ frags, (j.get "fragments").bind Json.asArray = some frags →
            listed nm = frags := by
          intro frags hfrags
          rw [listed, hj, Option.bind_some, hfrags]
          rfl
        have hitems : ∀ frags, (j.get "fragments").bind Json.asArray = some frags →
            ∀ frag ∈ frags, frag.isObject = true := fun frags hfrags frag hfrag =>
          (hrow.stored (htoken ▸ hupload) frag (hlisted frags hfrags ▸ hfrag)).1
        obtain ⟨frags, hfrags, frag, hfrag, hnode, hkey⟩ :=
          exists_of_mem_fragments hread (hrow.object j hj) hitems hf
        have hstored := (hrow.stored (htoken ▸ hupload) frag (hlisted frags hfrags ▸ hfrag)).2
        rw [fragmentNode, hnode, fragmentKey, hkey, htoken] at hstored
        exact ⟨rfl, hstored⟩
      · obtain ⟨i, f, -, rfl⟩ := mem_deleteRequests hr
        rfl

theorem sound_step {db : Db} {call : Call} (h : Sound db) (hbacked : ¬ Unbacked db call) :
    Sound (step state select db call) := by
  cases call with
  | Create env auth req => exact sound_create h env auth req
  | Upload env auth nftTokenId body => exact sound_upload h env auth nftTokenId body
  | Download env auth nftTokenId => exact sound_download h hbacked
  | Delete env auth nftTokenId request => exact sound_delete h hbacked

/-! ## A run -/

/-- An Oracle that has no vaults yet. -/
structure Fresh (db : Db) : Prop where
  vaults : db.nftMetadata.rows = []
  replicas : db.fileReplicas.rows = []
  requests : db.storageRequests = []

lemma Fresh.sound {db : Db} (h : Fresh db) : Sound db where
  confined := by
    intro pre r post heq
    rw [h.requests] at heq
    simp at heq
  replicas := by simp [h.replicas]
  rows := by
    intro id nm hnm
    have hmem := (Indexed.get?_eq_some.mp hnm).1
    rw [h.vaults] at hmem
    cases hmem
  known := by simp [h.requests]

/-- **In a run that trusts no manifest without uploads, storage authority stays in the vault.** Once
something has been stored for an NFT its replicas are in the database, under keys that the Oracle
has made; before that the keys come from the manifest, in which a client may write those of another
vault. -/
theorem confined_of_backed {db : Db} (hfresh : Fresh db) {calls : List Call}
    (hbacked : Backed state select db calls) :
    Confined (exec state select db calls).storageRequests :=
  (Runs.preserved_guarded (fun _ _ => sound_step) hfresh.sound hbacked).confined

/-! ## The key of somebody else's file

Alice has created a vault and uploaded its file.  Bob creates a vault as well, whose manifest
names the key of Alice's file, and downloads it. -/

namespace Sample

open Transfers.Sample

def aliceVault : Uuid := ⟨"11111111-1111-4111-8111-111111111111"⟩
def bobVault : Uuid := ⟨"22222222-2222-4222-8222-222222222222"⟩

def aliceToken : String := "3141871be75caa5459d0f8991783436760bca951e8c3a0e192562ed1457c3e4a"
def bobToken : String := "302be913bc354f04548c71002b18a753022c50686aef833df5b3bff27ffa81d1"

/-- The SHA-256 digests that are asked for here. -/
def digests : List (String × String) :=
  [("vaulted-pending-nft:" ++ aliceVault.text, aliceToken),
    ("vaulted-pending-nft:" ++ bobVault.text, bobToken),
    ("", "e3b0c44298fc1c149afbf4c8996fb92427ae41e4649b934ca495991b7852b855")]

def oracle : AppState :=
  { Tombstone.Sample.oracle with
    sha256 := fun bytes => ((digests.find? fun d => decide (Text.utf8 d.1 = bytes)).bind fun d =>
      (Text.hexDecode d.2).toOption).getD [] }

/-- A call in which every node answers with an empty body. -/
def answering (id : Uuid) : Env := { env id with storage := fun _ => .Status 200 (.ok []) }

def node : StorageNode where
  id := "n1"
  endpointUrl := "https://n1"
  region := "eu"
  status := .Active
  totalSpaceBytes := 1000
  usedSpaceBytes := 0
  healthCheckFailures := 0

/-- The users and one storage node. -/
def start : Db :=
  { db [] List.nodup_nil with
    nftMetadata := default
    storageNodes := ⟨[node], List.nodup_singleton _⟩ }

lemma start_fresh : Fresh start := ⟨rfl, rfl, rfl⟩

/-- A vault whose manifest lists the given fragments. -/
def create (u : User) (id : Uuid) (fragments : List FragmentInfo) : Call :=
  .Create (answering id) (caller u)
    { walletAddress := u.walletAddress
      prePublicKey := ""
      encryptedAesKey := "k"
      metadataHash := "h"
      manifest :=
        { encryptedFilename := "", originalSize := 0, mimeType := "", originalHash := "", fragments } }

def upload : Call := .Upload (answering aliceVault) (caller alice) aliceToken []

def download (u : User) (nftTokenId : String) : Call :=
  .Download (answering aliceVault) (caller u) nftTokenId

/-- What Bob writes into his manifest. -/
def stolen : FragmentInfo where
  index := 0
  storageNodeId := "n1"
  storageKey := "file_" ++ aliceToken ++ "_r0"
  encryptedHash := ""
  size := 0

def attack : List Call :=
  [create alice aliceVault [], upload, create bob bobVault [stolen], download bob bobToken]

/-- **The Oracle fetches Alice's file for Bob's vault.** -/
theorem not_confined : Fresh start ∧ ¬ Confined (exec oracle id start attack).storageRequests := by
  refine ⟨start_fresh, fun hconfined => ?_⟩
  have hlog : (exec oracle id start attack).storageRequests.map (fun r =>
      (r.token.nftTokenId, r.token.operation, r.nodeId, r.token.storageKey))
        = [(aliceToken, .Write, "n1", "file_" ++ aliceToken ++ "_r0"),
          (bobToken, .Read, "n1", "file_" ++ aliceToken ++ "_r0")] := by
    decide +kernel
  obtain ⟨w, log, hlog, hw, hrest⟩ := List.map_eq_cons_iff.mp hlog
  obtain ⟨r, log', rfl, hr, -⟩ := List.map_eq_cons_iff.mp hrest
  have hallowed := hconfined [w] r log' hlog
  simp only [Prod.mk.injEq] at hw hr
  simp only [Allowed, hr.2.1] at hallowed
  obtain ⟨-, w', hw', -, htoken, -⟩ := hallowed
  rw [List.mem_singleton.mp hw', hw.1, hr.1] at htoken
  exact absurd htoken (by decide)

/-- Alice's own download is confined. -/
theorem download_confined : Confined (exec oracle id start
    [create alice aliceVault [], upload, download alice aliceToken]).storageRequests := by
  refine confined_of_backed start_fresh ⟨fun h => h, fun h => h, fun ⟨hnot, _⟩ => ?_, trivial⟩
  have hstored : ((exec oracle id start [create alice aliceVault [], upload]).storageRequests.any
      fun w => w.isStored && decide (w.token.nftTokenId = aliceToken)) = true := by
    decide +kernel
  obtain ⟨w, hw, hchecks⟩ := List.any_eq_true.mp hstored
  rw [Bool.and_eq_true, decide_eq_true_eq] at hchecks
  exact hnot ⟨w, hw, hchecks⟩

end Sample

end Vaulted.StorageConfinement
