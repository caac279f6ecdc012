import Vaulted.Library.Runs
import Vaulted.Oracle.Files
import Vaulted.Vault.Tombstone

/-!
# Who changes where a file is recorded to be stored

Three places say where the file of an NFT is stored: the rows of `file_fragments`, the fragments
that its manifest lists, and the rows of `file_replicas`.

* `places` — the three of them.
* `OwnerOnly` — in a run, the places of an NFT change in calls of its owner only.
* `Moves` — a confirmation changes a fragment of the NFT.
* `changes_confirmUpload` — it does if and only if it moves one, whoever calls.
* `ownerOnly_iff` — the places are changed by owners only if and only if fragments are moved by
  owners only.
-/

namespace Vaulted.RecordedPlaces

open Autocommit.Prog Files FileProxy

/-! ## The places of a file -/

/-- A manifest of the NFT. -/
def IsManifestOf (nftTokenId : String) (db : Db) (manifestId : Uuid) : Prop :=
  ∃ nm, db.nftMetadata.find? nftTokenId = some nm ∧ ∃ manifest,
    db.fileManifests.get? manifestId = some manifest ∧ manifest.nftMetadataId = nm.id

/-- The rows of `file_fragments` of an NFT. -/
def fragmentsOf (nftTokenId : String) (db : Db) : Set FileFragment :=
  {f | db.fileFragments.get? f.key = some f ∧ IsManifestOf nftTokenId db f.manifestId}

/-- The `fragments` of the manifest in `nft_metadata`. -/
def listedFragments (nftTokenId : String) (db : Db) : Option Json :=
  ((db.nftMetadata.find? nftTokenId).bind NftMetadata.manifest).bind fun j => j.get "fragments"

/-- The rows of `file_replicas` of an NFT. -/
def replicasOf (nftTokenId : String) (db : Db) : Set FileReplica :=
  {r | db.fileReplicas.get? r.key = some r ∧ r.nftTokenId = nftTokenId}

/-- Where the file of an NFT is recorded to be stored. -/
def places (nftTokenId : String) (db : Db) : Set FileFragment × Option Json × Set FileReplica :=
  (fragmentsOf nftTokenId db, listedFragments nftTokenId db, replicasOf nftTokenId db)

/-! ## The system -/

inductive Call
  | RegisterFile (env : Env) (auth : AuthenticatedUser) (request : RegisterFileRequest)
  | ConfirmUpload (auth : AuthenticatedUser) (request : ConfirmUploadRequest)
  | UploadFile (env : Env) (auth : AuthenticatedUser) (nftTokenId : String) (body : List UInt8)
  | DownloadFile (env : Env) (auth : AuthenticatedUser) (nftTokenId : String)
  | DeleteFileStorage (env : Env) (auth : AuthenticatedUser) (nftTokenId : String)

/-- The authenticated caller. -/
def Call.caller : Call → AuthenticatedUser
  | .RegisterFile _ auth _ => auth
  | .ConfirmUpload auth _ => auth
  | .UploadFile _ auth _ _ => auth
  | .DownloadFile _ auth _ => auth
  | .DeleteFileStorage _ auth _ => auth

/-- The NFT belongs to the wallet of the caller. -/
def Owns (auth : AuthenticatedUser) (nftTokenId : String) (db : Db) : Prop :=
  ∃ nm, db.nftMetadata.find? nftTokenId = some nm
    ∧ ∃ w, db.walletOf nm.ownerId = some w ∧ Text.eqIgnoreAsciiCase auth.walletAddress w = true

/-- The caller of a step owns the NFT at that moment: before the step or, where the step brings
the NFT into the database, after it. -/
def OwnsAt (auth : AuthenticatedUser) (nftTokenId : String) (db db' : Db) : Prop :=
  Owns auth nftTokenId db ∨ db.nftMetadata.find? nftTokenId = none ∧ Owns auth nftTokenId db'

section System

variable (state : AppState) (select : List StorageNode → List StorageNode)

def step (db : Db) : Call → Db
  | .RegisterFile env auth request => (registerFile env auth request db).2
  | .ConfirmUpload auth request => (confirmUpload auth request db).2
  | .UploadFile env auth nftTokenId body => (uploadFile state select env auth nftTokenId body db).2
  | .DownloadFile env auth nftTokenId => (downloadFile env auth nftTokenId db).2
  | .DeleteFileStorage env auth nftTokenId => (deleteFileStorage env auth nftTokenId db).2

/-- The database after a run of calls. -/
abbrev exec (db : Db) (calls : List Call) : Db := Runs.exec (step state select) db calls

/-- The places of an NFT change in calls of its owner only. -/
def OwnerOnly (db : Db) (calls : List Call) : Prop :=
  ∀ pre call post, calls = pre ++ call :: post → ∀ nftTokenId,
    places nftTokenId (exec state select db (pre ++ [call]))
      ≠ places nftTokenId (exec state select db pre) →
    OwnsAt call.caller nftTokenId (exec state select db pre) (exec state select db (pre ++ [call]))

end System

/-! ## The condition -/

/-- The texts of a request as the columns hold them. -/
def storable (request : ConfirmUploadRequest) : Option ConfirmUploadRequest := do
  let storageNodeId ← Text.varchar 64 request.storageNodeId
  let storageKey ← Text.varchar 255 request.storageKey
  pure { request with storageNodeId, storageKey }

/-- A confirmation names a fragment of the NFT, and not the place where it is recorded. -/
def Moves (request : ConfirmUploadRequest) (nftTokenId : String) (db : Db) : Prop :=
  ∃ f, db.fileFragments.get? request.key = some f ∧ IsManifestOf nftTokenId db f.manifestId
    ∧ ∃ stored, storable request = some stored ∧ confirmedFragment stored f ≠ f

/-- Whoever confirms an upload and thereby moves a fragment owns its NFT. The other calls need no
condition. -/
def guard (db : Db) : Call → Prop
  | .ConfirmUpload auth request =>
      ∀ nftTokenId, Moves request nftTokenId db → Owns auth nftTokenId db
  | _ => True

/-! ## What a call leaves as it is -/

/-- The places of an NFT are left as they are. -/
structure Untouched (nftTokenId : String) (db db' : Db) : Prop where
  nft : db'.nftMetadata.find? nftTokenId = db.nftMetadata.find? nftTokenId
  manifests : db'.fileManifests = db.fileManifests
  fragments : db'.fileFragments = db.fileFragments
  replicas : ∀ node, db'.fileReplicas.get? (nftTokenId, node)
    = db.fileReplicas.get? (nftTokenId, node)

/-- Only the places of one NFT change. -/
def Confined (nftTokenId : String) (db db' : Db) : Prop :=
  ∀ t, t ≠ nftTokenId → Untouched t db db'

lemma Untouched.refl (nftTokenId : String) (db : Db) : Untouched nftTokenId db db :=
  ⟨rfl, rfl, rfl, fun _ => rfl⟩

lemma Untouched.places {nftTokenId : String} {db db' : Db} (h : Untouched nftTokenId db db') :
    places nftTokenId db' = places nftTokenId db := by
  have hreplicas : replicasOf nftTokenId db' = replicasOf nftTokenId db := by
    ext r
    refine and_congr_left fun htoken => ?_
    have hkey : r.key = (nftTokenId, r.storageNodeId) := by rw [FileReplica.key, htoken]
    rw [hkey, h.replicas]
  unfold RecordedPlaces.places fragmentsOf IsManifestOf listedFragments
  rw [hreplicas, h.nft, h.manifests, h.fragments]

lemma Confined.refl (nftTokenId : String) (db : Db) : Confined nftTokenId db db :=
  fun t _ => .refl t db

lemma Confined.trans {nftTokenId : String} {db₁ db₂ db₃ : Db} (h : Confined nftTokenId db₁ db₂)
    (h' : Confined nftTokenId db₂ db₃) : Confined nftTokenId db₁ db₃ := by
  intro t ht
  have h := h t ht
  have h' := h' t ht
  exact ⟨h'.nft.trans h.nft, h'.manifests.trans h.manifests, h'.fragments.trans h.fragments,
    fun node => (h'.replicas node).trans (h.replicas node)⟩

/-- What changes is of the NFT that the places are confined to. -/
lemma Confined.eq_of_changes {nftTokenId t : String} {db db' : Db}
    (h : Confined nftTokenId db db') (hchanges : places t db' ≠ places t db) : t = nftTokenId := by
  by_contra ht
  exact hchanges (h t ht).places

/-! ## Uploads, downloads and deletions -/

lemma confined_recordReplica {r : FileReplica} {db db' : Db} (h : recordReplica r db = .ok db') :
    Confined r.nftTokenId db db' := by
  unfold recordReplica at h
  split_ifs at h
  cases h
  refine fun t ht => ⟨rfl, rfl, rfl, fun node => ?_⟩
  refine (Table.get?_upsert _ _ _ _ _).trans (if_neg fun hkey => ht ?_)
  exact congrArg Prod.fst hkey

lemma confined_recordUpload {nftTokenId : String} {fileSize : Nat} {fragments : List Json}
    {db db' : Db} (h : recordUpload nftTokenId fileSize fragments db = .ok db') :
    Confined nftTokenId db db' := by
  intro t ht
  cases hnm : db.nftMetadata.find? nftTokenId with
  | none =>
      simp only [recordUpload, hnm] at h
      cases h
      exact .refl t _
  | some nm =>
      obtain ⟨manifest, -, rfl⟩ := recordUpload_eq_ok hnm h
      have hother : ∀ r, db.nftMetadata.get? nm.id = some r → r.nftTokenId ≠ t := by
        intro r hr htoken
        rw [Indexed.get?_of_find? hnm] at hr
        obtain rfl := Option.some.inj hr
        exact ht (htoken.symm.trans (Indexed.find?_eq_some.mp hnm).2)
      exact ⟨Indexed.find?_update_of_ne (by intro _; rfl) hother, rfl, rfl, fun _ => rfl⟩

lemma confined_uploadReplicas (state : AppState) (env : Env) (nftTokenId : String)
    (body : List UInt8) (n : Nat) (nodes : List StorageNode) (acc : Uploads) :
    Within (Confined nftTokenId) (uploadReplicas state env nftTokenId body n nodes acc) := by
  have hrefl : ∀ db, Confined nftTokenId db db := .refl nftTokenId
  have htrans : ∀ a b c, Confined nftTokenId a b → Confined nftTokenId b c →
      Confined nftTokenId a c := fun _ _ _ => .trans
  induction nodes generalizing n acc with
  | nil => exact within_pure hrefl acc
  | cons node nodes ih =>
      refine .bind htrans (within_write hrefl fun db db' h => ?_) fun _ => ?_
      · cases h
        exact fun t _ => ⟨rfl, rfl, rfl, fun _ => rfl⟩
      · split_ifs
        · refine .bind htrans (.ignore (within_write hrefl fun db db' h => ?_)) fun _ => ?_
          · exact confined_recordReplica h
          · refine .bind htrans (.ignore (within_write hrefl fun db db' h => ?_)) fun _ => ih _ _
            unfold addUsedSpace at h
            split_ifs at h
            cases h
            exact fun t _ => ⟨rfl, rfl, rfl, fun _ => rfl⟩
        · exact ih _ _

/-- **An upload changes places of its NFT only**, and for its owner only. -/
theorem uploadFile_confined (state : AppState) (select : List StorageNode → List StorageNode)
    (env : Env) (auth : AuthenticatedUser) (nftTokenId : String) (body : List UInt8) (db : Db) :
    wp (uploadFile state select env auth nftTokenId body)
      (fun _ db' => db' = db ∨ Owns auth nftTokenId db ∧ Confined nftTokenId db db') db := by
  refine wp_read_bind (wp_expect_bind (fun _ => .inl rfl) fun (nm, w) hrow => ?_)
  refine wp_require_bind (fun _ => .inl rfl) fun hauth => ?_
  refine wp_read_bind (wp_require_bind (fun _ => .inl rfl) fun _ => ?_)
  have howns : Owns auth nftTokenId db := by
    obtain ⟨nm', hnm, hw⟩ := Option.bind_eq_some_iff.mp hrow
    obtain ⟨w', hw', heq⟩ := Option.map_eq_some_iff.mp hw
    obtain ⟨rfl, rfl⟩ := Prod.mk.inj heq
    exact ⟨nm', hnm, w', hw', hauth⟩
  refine wp_bind (wp_mono (wp_of_within (confined_uploadReplicas _ _ _ _ _ _ _) db) ?_)
  rintro (e | uploads) db₁ hconfined
  · exact .inr ⟨howns, hconfined⟩
  · refine wp_require_bind (fun _ => .inr ⟨howns, hconfined⟩) fun _ => ?_
    refine wp_write_bind (fun _ _ => .inr ⟨howns, hconfined⟩) fun db₂ hdb₂ => wp_pure ?_
    exact .inr ⟨howns, hconfined.trans (confined_recordUpload hdb₂)⟩

theorem downloadFile_untouched (env : Env) (auth : AuthenticatedUser) (nftTokenId : String)
    (db : Db) (t : String) : places t (downloadFile env auth nftTokenId db).2 = places t db := by
  have hdownloads : Downloads env auth nftTokenId db (downloadFile env auth nftTokenId db).2 :=
    downloadFile_spec env auth nftTokenId db
  generalize (downloadFile env auth nftTokenId db).2 = db' at hdownloads
  cases hdownloads with
  | Refused => rfl
  | Fetched nm log => rfl

/-- A deletion changes places of its NFT only, and for its owner only. -/
theorem deleteFileStorage_confined (env : Env) (auth : AuthenticatedUser) (nftTokenId : String)
    (db : Db) : (deleteFileStorage env auth nftTokenId db).2 = db
      ∨ Owns auth nftTokenId db
        ∧ Confined nftTokenId db (deleteFileStorage env auth nftTokenId db).2 := by
  have hdeletes : DeletesFile env auth nftTokenId db (deleteFileStorage env auth nftTokenId db).1
      (deleteFileStorage env auth nftTokenId db).2 := deleteFileStorage_spec env auth nftTokenId db
  generalize (deleteFileStorage env auth nftTokenId db).1 = r at hdeletes
  generalize (deleteFileStorage env auth nftTokenId db).2 = db' at hdeletes
  cases hdeletes with
  | Refused e => exact .inl rfl
  | Empty => exact .inl rfl
  | Forgotten count hmay =>
      obtain ⟨w, hw⟩ := hmay
      obtain ⟨-, hok⟩ := Ownership.requireVerifiedNftOwner_spec env nftTokenId auth.walletAddress
        "Only the NFT owner can delete files" db
      obtain ⟨nm, hverified⟩ := hok w hw
      obtain ⟨w', hw', heq⟩ := hverified.owner
      refine .inr ⟨⟨nm, hverified.found, w', hw', Text.eqIgnoreAsciiCase_symm heq⟩, ?_⟩
      refine fun t ht => ⟨rfl, rfl, rfl, fun node => ?_⟩
      simp only [forgetReplicas]
      rw [Table.get?_deleteWhere]
      cases hr : db.fileReplicas.get? (t, node) with
      | none => rfl
      | some r =>
          have htoken : r.nftTokenId = t := congrArg Prod.fst (Table.key_of_get? hr)
          exact Option.filter_eq_some_iff.mpr ⟨rfl, by simp [htoken, ht]⟩

/-! ## Registrations -/

/-- Only fragments of one manifest change. -/
structure Filled (manifestId : Uuid) (db db' : Db) : Prop where
  tables : ∃ fileFragments, db' = { db with fileFragments }
  others : ∀ key : Uuid × Int, key.1 ≠ manifestId →
    db'.fileFragments.get? key = db.fileFragments.get? key

lemma Filled.refl (manifestId : Uuid) (db : Db) : Filled manifestId db db :=
  ⟨⟨_, rfl⟩, fun _ _ => rfl⟩

lemma Filled.trans {manifestId : Uuid} {db₁ db₂ db₃ : Db} (h : Filled manifestId db₁ db₂)
    (h' : Filled manifestId db₂ db₃) : Filled manifestId db₁ db₃ := by
  obtain ⟨fragments₁, rfl⟩ := h.tables
  obtain ⟨fragments₂, rfl⟩ := h'.tables
  exact ⟨⟨_, rfl⟩, fun key hkey => (h'.others key hkey).trans (h.others key hkey)⟩

lemma filled_insertFragments (manifestId : Uuid) (fragments : List FileFragmentDto) :
    Within (Filled manifestId) (insertFragments manifestId fragments) := by
  induction fragments with
  | nil => exact within_pure (.refl manifestId) ()
  | cons fragment fragments ih =>
      refine within_of_wp fun db => wp_lift_bind (fun _ _ => Filled.refl _ _) fun hash _ => ?_
      refine wp_write_bind (fun _ _ => Filled.refl _ _) fun db₁ hdb₁ => ?_
      refine Filled.trans ?_ (ih db₁)
      unfold insertFragment at hdb₁
      split at hdb₁
      · next fileFragments hinsert =>
          cases hdb₁
          refine ⟨⟨_, rfl⟩, fun key hkey => ?_⟩
          rw [Table.get?_insert hinsert, if_neg]
          rintro rfl
          exact hkey rfl
      · cases hdb₁

/-- A new NFT with its manifest and fragments leaves the places of the others. -/
lemma places_registered {db : Db} {nm : NftMetadata} {manifest : FileManifestRow}
    {nftMetadata : Indexed NftMetadata.id NftMetadata.nftTokenId}
    {fileManifests : Table FileManifestRow.id} {fileFragments : Table FileFragment.key}
    (hnft : db.nftMetadata.insert? nm = some nftMetadata)
    (hmanifest : db.fileManifests.insert? manifest = some fileManifests)
    (hlinked : manifest.nftMetadataId = nm.id)
    (hothers : ∀ key : Uuid × Int, key.1 ≠ manifest.id →
      fileFragments.get? key = db.fileFragments.get? key) {t : String} (ht : t ≠ nm.nftTokenId) :
    places t { db with nftMetadata, fileManifests, fileFragments } = places t db := by
  have hfind : nftMetadata.find? t = db.nftMetadata.find? t :=
    (Indexed.find?_insert hnft t).trans (if_neg ht)
  have hold : db.fileManifests.get? manifest.id = none := (Table.insert?_eq_some hmanifest).1
  have hmanifests : ∀ id, IsManifestOf t { db with nftMetadata, fileManifests, fileFragments } id
      ↔ IsManifestOf t db id := by
    intro id
    unfold IsManifestOf
    dsimp only
    rw [hfind, Table.get?_insert hmanifest]
    split_ifs with hid
    · -- the new manifest is of the new NFT
      rw [hid, hold]
      refine iff_of_false ?_ (by simp)
      rintro ⟨nm', hnm', manifest', heq, hnm''⟩
      obtain rfl := Option.some.inj heq
      have htaken : db.nftMetadata.get? nm'.id = some nm' := Indexed.get?_of_find? hnm'
      rw [← hnm'', hlinked, Indexed.get?_insert_self hnft] at htaken
      cases htaken
    · rfl
  have hfragments : fragmentsOf t { db with nftMetadata, fileManifests, fileFragments }
      = fragmentsOf t db := by
    ext f
    show _ ∧ _ ↔ _ ∧ _
    rw [hmanifests]
    refine and_congr_left fun hof => ?_
    have hid : f.key.1 ≠ manifest.id := by
      rintro hid
      obtain ⟨nm', -, manifest', hmanifest', -⟩ := hof
      have hmanifest' : db.fileManifests.get? f.key.1 = some manifest' := hmanifest'
      rw [hid, hold] at hmanifest'
      cases hmanifest'
    rw [hothers f.key hid]
  unfold places
  rw [hfragments]
  unfold listedFragments replicasOf
  rw [hfind]

/-- **A registration changes places of the new NFT only**, which is the caller's then. -/
theorem registerFile_places (env : Env) (auth : AuthenticatedUser) (request : RegisterFileRequest)
    (db : Db) : wp (registerFile env auth request) (fun _ db' => db' = db
      ∨ (db.nftMetadata.find? request.nftTokenId = none ∧ Owns auth request.nftTokenId db')
        ∧ ∀ t, t ≠ request.nftTokenId → places t db' = places t db) db := by
  refine wp_require_bind (fun _ => .inl rfl) fun _ => wp_read_bind ?_
  refine wp_require_bind (fun _ => .inl rfl) fun hnew => wp_read_bind ?_
  refine wp_expect_bind (fun _ => .inl rfl) fun owner howner => wp_bind (wp_transaction ?_)
  have hnew : db.nftMetadata.find? request.nftTokenId = none := by simpa using hnew
  refine wp_lift_bind (fun _ _ => .inl rfl) fun hash _ => ?_
  refine wp_write_bind (fun _ _ => .inl rfl) fun db₁ hdb₁ => ?_
  refine wp_lift_bind (fun _ _ => .inl rfl) fun _ _ => ?_
  refine wp_lift_bind (fun _ _ => .inl rfl) fun _ _ => ?_
  refine wp_lift_bind (fun _ _ => .inl rfl) fun _ _ => ?_
  refine wp_write_bind (fun _ _ => .inl rfl) fun db₂ hdb₂ => ?_
  obtain ⟨nftMetadata, hnft, rfl⟩ := Vaults.insertNft_eq_ok hdb₁
  unfold insertManifest at hdb₂
  split at hdb₂
  · next fileManifests hmanifest =>
      cases hdb₂
      refine wp_mono (wp_of_within (filled_insertFragments _ _) _) ?_
      rintro (e | _) db₃ hfilled
      · exact .inl rfl
      · obtain ⟨⟨fileFragments, rfl⟩, hothers⟩ := hfilled
        refine wp_pure (.inr ⟨⟨hnew, ?_⟩, fun t ht => ?_⟩)
        · refine ⟨registeredNft env request owner.id hash, ?_, owner.walletAddress,
            Db.walletOf_of_userOf howner, ?_⟩
          · exact (Indexed.find?_insert hnft _).trans (if_pos rfl)
          · rw [← Indexed.key_of_get? howner]
            exact Text.eqIgnoreAsciiCase_self _
        · exact places_registered hnft hmanifest rfl hothers ht
  · cases hdb₂

/-! ## Confirmations -/

/-- The fragments after a confirmation. -/
def moved (request : ConfirmUploadRequest) (db : Db) : Table FileFragment.key :=
  match storable request with
  | some stored => db.fileFragments.update request.key (confirmedFragment stored) (fun _ => rfl)
  | none => db.fileFragments

lemma confirmFragment_cases (request : ConfirmUploadRequest) (db : Db) :
    confirmFragment request db = .ok { db with fileFragments := moved request db }
      ∨ (∃ e, confirmFragment request db = .error e) ∧ moved request db = db.fileFragments := by
  unfold confirmFragment moved storable varchar
  cases Text.varchar 64 request.storageNodeId with
  | none => exact .inr ⟨⟨_, rfl⟩, rfl⟩
  | some storageNodeId =>
      cases Text.varchar 255 request.storageKey with
      | none => exact .inr ⟨⟨_, rfl⟩, rfl⟩
      | some storageKey => exact .inl rfl

/-- **A confirmation changes the fragment that it names**, whoever calls. -/
theorem confirmUpload_spec (auth : AuthenticatedUser) (request : ConfirmUploadRequest) (db : Db) :
    wp (confirmUpload auth request) (fun _ db' => ∃ storageNodes,
      db' = { db with fileFragments := moved request db, storageNodes }) db := by
  refine wp_read_bind ?_
  rcases confirmFragment_cases request db with hok | ⟨⟨e, herror⟩, hmoved⟩
  · refine wp_write_bind (fun e he => ?_) fun db₁ hdb₁ => ?_
    · rw [hok] at he
      cases he
    · rw [hok] at hdb₁
      cases hdb₁
      refine wp_require_bind (fun _ => ⟨_, rfl⟩) fun _ => ?_
      refine wp_write (fun _ _ => ⟨_, rfl⟩) fun db₂ hdb₂ => ?_
      unfold addUsedSpace at hdb₂
      split_ifs at hdb₂
      cases hdb₂
      exact ⟨_, rfl⟩
  · refine wp_write_bind (fun _ _ => ⟨db.storageNodes, ?_⟩) fun db₁ hdb₁ => ?_
    · rw [hmoved]
    · rw [herror] at hdb₁
      cases hdb₁

lemma fragmentsOf_moved (request : ConfirmUploadRequest) (t : String) (db : Db) :
    fragmentsOf t { db with fileFragments := moved request db } = fragmentsOf t db
      ↔ ¬Moves request t db := by
  unfold moved Moves
  cases storable request with
  | none => simp
  | some stored =>
      have hget : ∀ key, (db.fileFragments.update request.key (confirmedFragment stored)
          (fun _ => rfl)).get? key = if key = request.key
            then (db.fileFragments.get? request.key).map (confirmedFragment stored)
            else db.fileFragments.get? key := Table.get?_update _ _ _ _
      constructor
      · rintro heq ⟨f, hf, hof, stored', hstored, hne⟩
        obtain rfl := Option.some.inj hstored
        have hkey : f.key = request.key := Table.key_of_get? hf
        have hbefore : f ∈ fragmentsOf t db := ⟨by rw [hkey, hf], hof⟩
        rw [← heq] at hbefore
        have hafter := hbefore.1
        dsimp only at hafter
        rw [hget, if_pos hkey, hf] at hafter
        exact hne (Option.some.inj hafter)
      · intro hstays
        ext f
        refine and_congr_left fun hof => ?_
        dsimp only
        rw [hget]
        split_ifs with hkey
        · rw [hkey]
          cases hold : db.fileFragments.get? request.key with
          | none => rfl
          | some old =>
              -- the fragment is recorded where the request says
              have hsame : confirmedFragment stored old = old := by
                by_contra hne
                have hid : old.manifestId = f.manifestId :=
                  congrArg Prod.fst ((Table.key_of_get? hold).trans hkey.symm)
                exact hstays ⟨old, hold, hid ▸ hof, stored, rfl, hne⟩
              rw [Option.map_some, hsame]
        · rfl

/-- **The places of an NFT change** if and only if one of its fragments is moved. -/
theorem changes_confirmUpload (auth : AuthenticatedUser) (request : ConfirmUploadRequest)
    (t : String) (db : Db) :
    places t (confirmUpload auth request db).2 ≠ places t db ↔ Moves request t db := by
  obtain ⟨storageNodes, hdb'⟩ := confirmUpload_spec auth request db
  have hplaces : places t (confirmUpload auth request db).2 = places t db
      ↔ fragmentsOf t { db with fileFragments := moved request db } = fragmentsOf t db := by
    rw [hdb']
    exact ⟨congrArg Prod.fst, fun h => congrArg (·, listedFragments t db, replicasOf t db) h⟩
  rw [Ne, hplaces, fragmentsOf_moved, not_not]

/-! ## A step -/

section Step

variable (state : AppState) (select : List StorageNode → List StorageNode)

/-- **The places of an NFT change in a call of its owner only** if and only if the call is no
confirmation of somebody else that moves a fragment. -/
theorem step_iff (db : Db) (call : Call) :
    (∀ t, places t (step state select db call) ≠ places t db →
      OwnsAt call.caller t db (step state select db call)) ↔ guard db call := by
  cases call with
  | RegisterFile env auth request =>
      refine iff_of_true (fun t hchanges => ?_) trivial
      rcases registerFile_places env auth request db with heq | ⟨howns, hothers⟩
      · exact absurd (congrArg (places t) heq) hchanges
      · have ht : t = request.nftTokenId := by
          by_contra ht
          exact hchanges (hothers t ht)
        rw [ht]
        exact .inr howns
  | ConfirmUpload auth request =>
      refine forall_congr' fun t => ?_
      rw [show step state select db (.ConfirmUpload auth request)
        = (confirmUpload auth request db).2 from rfl, changes_confirmUpload]
      refine imp_congr_right fun hmoves => ⟨fun howns => ?_, .inl⟩
      rcases howns with howns | ⟨hnone, -⟩
      · exact howns
      · obtain ⟨f, -, ⟨nm, hnm, -⟩, -⟩ := hmoves
        rw [hnone] at hnm
        cases hnm
  | UploadFile env auth nftTokenId body =>
      refine iff_of_true (fun t hchanges => ?_) trivial
      rcases uploadFile_confined state select env auth nftTokenId body db with
        heq | ⟨howns, hconfined⟩
      · exact absurd (congrArg (places t) heq) hchanges
      · rw [hconfined.eq_of_changes hchanges]
        exact .inl howns
  | DownloadFile env auth nftTokenId =>
      exact iff_of_true (fun t hchanges =>
        absurd (downloadFile_untouched env auth nftTokenId db t) hchanges) trivial
  | DeleteFileStorage env auth nftTokenId =>
      refine iff_of_true (fun t hchanges => ?_) trivial
      rcases deleteFileStorage_confined env auth nftTokenId db with heq | ⟨howns, hconfined⟩
      · exact absurd (congrArg (places t) heq) hchanges
      · rw [hconfined.eq_of_changes hchanges]
        exact .inl howns

/-- **Only owners change where a file is recorded to be stored** if and only if no confirmation
moves a fragment of somebody else's NFT. The other handlers compare the caller with the owner;
`confirmUpload` does not look at its caller at all. -/
theorem ownerOnly_iff (db : Db) (calls : List Call) :
    OwnerOnly state select db calls ↔ Runs.Guarded (step state select) guard db calls := by
  rw [Runs.guarded_iff]
  refine forall_congr' fun pre => forall_congr' fun call => forall_congr' fun post =>
    imp_congr_right fun _ => ?_
  rw [exec, Runs.exec_concat]
  exact step_iff state select _ call

end Step

/-! ## A stranger's confirmation -/

namespace Sample

open Transfers.Sample

def manifest : FileManifestRow where
  id := ⟨"m"⟩
  nftMetadataId := nft.id
  encryptedFilename := ""
  originalSize := 1
  mimeType := ""
  originalHash := ""
  fragmentCount := 1

def fragment : FileFragment where
  manifestId := ⟨"m"⟩
  fragmentIndex := 0
  fragmentSize := 1
  encryptedHash := ""
  storageNodeId := "n1"
  storageKey := "key"
  replicationCount := 1

/-- Alice's NFT with one fragment. -/
def registered : Db :=
  { db [] List.nodup_nil with
    fileManifests := ⟨[manifest], List.nodup_singleton _⟩
    fileFragments := ⟨[fragment], List.nodup_singleton _⟩ }

def confirmation (u : User) : Call :=
  .ConfirmUpload (caller u)
    { fileId := ⟨"m"⟩, fragmentIndex := 0, storageNodeId := "evil", storageKey := "key" }

/-- **Bob confirms an upload for Alice's file**, and her fragment is recorded on his node. -/
theorem not_ownerOnly : ¬ OwnerOnly Tombstone.Sample.oracle id registered [confirmation bob] := by
  intro honly
  have hguarded : guard registered (confirmation bob) :=
    (step_iff Tombstone.Sample.oracle id registered _).mp (honly [] _ [] rfl)
  have hnft : registered.nftMetadata.find? tokenId = some nft := rfl
  have hmoves : Moves ⟨⟨"m"⟩, 0, "evil", "key"⟩ tokenId registered := by
    refine ⟨fragment, by decide +kernel, ⟨nft, hnft, manifest, by decide +kernel, rfl⟩, ?_⟩
    refine ⟨⟨⟨"m"⟩, 0, "evil", "key"⟩, ?_, by decide⟩
    simp only [storable, Text.varchar_of_le (by decide : "evil".toList.length ≤ 64),
      Text.varchar_of_le (by decide : "key".toList.length ≤ 255)]
    rfl
  obtain ⟨nm, hnm, w, hw, hsame⟩ := hguarded tokenId hmoves
  obtain rfl := Option.some.inj (hnft.symm.trans hnm)
  have hwallet : registered.walletOf nft.ownerId = some "rAlice" := by decide +kernel
  obtain rfl := Option.some.inj (hwallet.symm.trans hw)
  exact absurd hsame (by decide +kernel)

end Sample

end Vaulted.RecordedPlaces
