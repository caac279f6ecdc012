import Vaulted.Library.WriteOnce
import Vaulted.Vault.ForgottenReplicas

/-!
# Replicas that agree

A file is uploaded to several nodes, and each of them may refuse it.  Its rows in `file_replicas`
are written one by one, and the row of a node that does not accept stays as it is.

* `deliver` — a node writes each place once; a request may be refused, or its answer be lost.
* `Agree` — the active rows of a file lead to the same bytes, those of the recorded hash.
* `Covers` — every active row is on a node that accepts, or leads to the uploaded bytes already.
* `agree_iff` — the replicas agree if and only if every accepted upload covers them.
* `not_agree` — a second version that only the second node accepts.
-/

namespace Vaulted.ReplicasAgree

open Autocommit.Prog FileProxy WriteOnce

/-! ## The nodes -/

/-- A node, and a key on it. -/
abbrev Place := String × String

abbrev Fragments := Store Place (List UInt8)

/-- What may happen to a request: the node does not take it, or the answer is lost. -/
inductive Fault
  | None
  | Refused
  | Unanswered

/-- `put_fragment`: what a request does to a place, and the answer of the node. -/
def deliver (body : List UInt8) (m : Fragments) (place : Place) :
    Fault → NodeAnswer × List (Event Place (List UInt8))
  | .None =>
      match m place with
      | none => (.Status 200 (.ok []), [.Published place body])
      | some existing =>
          if existing = body then (.Status 200 (.ok []), [.Matched place body])
          else (.Status 409 (.ok []), [])
  | .Refused => (.Status 500 (.ok []), [])
  | .Unanswered => (.TransportError, if m place = none then [.Published place body] else [])

/-- The requests of an upload, one after the other. -/
def deliverAll (body : List UInt8) :
    Fragments → List (Place × Fault) → List (NodeAnswer × List (Event Place (List UInt8)))
  | _, [] => []
  | m, (place, fault) :: requests =>
      let delivered := deliver body m place fault
      delivered :: deliverAll body (after m delivered.2) requests

/-- The places that an upload is for. -/
def requests (nftTokenId : String) (faults : Nat → Fault) (n : Nat) (nodes : List StorageNode) :
    List (Place × Fault) :=
  (nodes.zipIdx n).map fun node => ((node.1.id, nodeStorageKey nftTokenId node.2), faults node.2)

/-! ## The system -/

/-- The database of the Oracle, and what the nodes hold. -/
structure Cluster where
  db : Db
  fragments : Fragments

inductive Call
  | Upload (env : Env) (auth : AuthenticatedUser) (nftTokenId : String) (body : List UInt8)
      (faults : Nat → Fault)

section Statements

variable (state : AppState) (select : List StorageNode → List StorageNode)

/-- What the nodes do with an upload. -/
def delivered (s : Cluster) (nftTokenId : String) (body : List UInt8) (faults : Nat → Fault) :
    List (NodeAnswer × List (Event Place (List UInt8))) :=
  deliverAll body s.fragments
    (requests nftTokenId faults 0 (select (candidates body.length s.db)))

/-- The world in which the nodes answer so. -/
def answering (s : Cluster) (env : Env) (nftTokenId : String) (body : List UInt8)
    (faults : Nat → Fault) : Env :=
  { env with
    storage := fun n => ((delivered select s nftTokenId body faults)[n]?.map Prod.fst).getD
      .TransportError }

/-- Only the requests that were sent arrive. -/
def step (s : Cluster) : Call → Cluster
  | .Upload env auth nftTokenId body faults =>
      let db := (uploadFile state select (answering select s env nftTokenId body faults) auth
        nftTokenId body s.db).2
      let sent := db.storageRequests.length - s.db.storageRequests.length
      { db
        fragments := after s.fragments
          (((delivered select s nftTokenId body faults).take sent).flatMap Prod.snd) }

/-- The cluster after a run of calls. -/
abbrev exec (s : Cluster) (calls : List Call) : Cluster := Runs.exec (step state select) s calls

def placeOf (r : FileReplica) : Place := (r.storageNodeId, r.storageKey)

/-- Every active row leads to a copy, all copies of a file are the same, and their hash is the one
that is recorded. So a download gives the same bytes, whichever node it asks. -/
structure Agree (s : Cluster) : Prop where
  held : ∀ r ∈ s.db.fileReplicas.rows, r.status.val = .Active →
    (s.fragments (placeOf r)).isSome = true
  same : ∀ r ∈ s.db.fileReplicas.rows, ∀ r' ∈ s.db.fileReplicas.rows, r.status.val = .Active →
    r'.status.val = .Active → r.nftTokenId = r'.nftTokenId →
    s.fragments (placeOf r) = s.fragments (placeOf r')
  hash : ∀ r ∈ s.db.fileReplicas.rows, r.status.val = .Active →
    ∀ bytes, s.fragments (placeOf r) = some bytes →
      manifestFragments r.nftTokenId s.db ≠ []
        ∧ ∀ frag ∈ manifestFragments r.nftTokenId s.db,
          frag.get "encrypted_hash" = some (.Str (sha256FragmentHash state bytes))
  served : ∀ nftTokenId, ∀ l ∈ activeReplicas nftTokenId s.db,
    ∀ l' ∈ activeReplicas nftTokenId s.db,
      s.fragments (l.nodeId, l.storageKey) = s.fragments (l'.nodeId, l'.storageKey)

/-- The caller may upload the file of an NFT. -/
def MayUpload (auth : AuthenticatedUser) (nftTokenId : String) (db : Db) : Prop :=
  ∃ row ∈ nftByToken nftTokenId db, Text.eqIgnoreAsciiCase auth.walletAddress row.2 = true

/-- The nodes that accept an upload. -/
def accepting (s : Cluster) (env : Env) (nftTokenId : String) (body : List UInt8)
    (faults : Nat → Fault) : List (StorageNode × Nat) :=
  storedNodes (answering select s env nftTokenId body faults) 0
    (select (candidates body.length s.db))

/-- A manifest in which an upload can be recorded. -/
def Recordable (nftTokenId : String) (db : Db) : Prop :=
  ∀ nm ∈ db.nftMetadata.find? nftTokenId, ∀ manifest ∈ nm.manifest, manifest.isObject = true

/-- The rows of a file lead to nodes that have stored it, or to its bytes already. -/
def Covered (nftTokenId : String) (body : List UInt8) (stored : List (StorageNode × Nat))
    (s : Cluster) : Prop :=
  Recordable nftTokenId s.db
    ∧ ∀ r ∈ s.db.fileReplicas.rows, r.nftTokenId = nftTokenId → r.status.val = .Active →
      (∃ node ∈ stored, node.1.id = r.storageNodeId) ∨ s.fragments (placeOf r) = some body

/-- If some node accepts an upload, then the nodes that do cover the file. An upload that the caller
may not make, or that every node refuses, records nothing. -/
def Covers (s : Cluster) : Call → Prop
  | .Upload env auth nftTokenId body faults => MayUpload auth nftTokenId s.db →
      accepting select s env nftTokenId body faults ≠ [] →
      Covered nftTokenId body (accepting select s env nftTokenId body faults) s

instance (s : Cluster) : (call : Call) → Decidable (Covers select s call)
  | .Upload env auth nftTokenId body faults =>
      inferInstanceAs (Decidable ((∃ row ∈ nftByToken nftTokenId s.db,
          Text.eqIgnoreAsciiCase auth.walletAddress row.2 = true) →
        accepting select s env nftTokenId body faults ≠ [] →
        (∀ nm ∈ s.db.nftMetadata.find? nftTokenId, ∀ manifest ∈ nm.manifest,
            manifest.isObject = true)
          ∧ ∀ r ∈ s.db.fileReplicas.rows, r.nftTokenId = nftTokenId → r.status.val = .Active →
            (∃ node ∈ accepting select s env nftTokenId body faults, node.1.id = r.storageNodeId)
              ∨ s.fragments (placeOf r) = some body))

end Statements

/-! ## What the nodes hold -/

section Nodes

variable {body : List UInt8} {m : Fragments} {place : Place}

lemma legal_deliver (fault : Fault) : Legal m (deliver body m place fault).2 := by
  cases fault with
  | None =>
      rw [deliver]
      split
      · next hfree => exact ⟨hfree, trivial⟩
      · next existing htaken =>
          split_ifs with hsame
          · exact ⟨hsame ▸ htaken, trivial⟩
          · trivial
  | Refused => trivial
  | Unanswered =>
      rw [deliver]
      split_ifs with hfree
      · exact ⟨hfree, trivial⟩
      · trivial

lemma not_removed_deliver (fault : Fault) (place' : Place) :
    .Removed place' ∉ (deliver body m place fault).2 := by
  cases fault with
  | None =>
      rw [deliver]
      split
      · simp
      · split_ifs <;> simp
  | Refused => simp [deliver]
  | Unanswered =>
      rw [deliver]
      split_ifs <;> simp

/-- A node that accepts holds the body. -/
lemma holds_of_deliver {fault : Fault}
    (h : (deliver body m place fault).1.isSuccess = true) :
    after m (deliver body m place fault).2 place = some body := by
  cases fault with
  | None =>
      rw [deliver] at h ⊢
      split at h
      · exact Function.update_self _ _ _
      · next existing htaken =>
          split_ifs at h ⊢ with hsame
          · exact hsame ▸ htaken
          · cases h
  | Refused => cases h
  | Unanswered => cases h

lemma legal_deliverAll (places : List (Place × Fault)) :
    Legal m ((deliverAll body m places).flatMap Prod.snd)
      ∧ ∀ place', .Removed place' ∉ (deliverAll body m places).flatMap Prod.snd := by
  induction places generalizing m with
  | nil => exact ⟨trivial, fun _ => List.not_mem_nil⟩
  | cons p places ih =>
      obtain ⟨hlegal, hremoved⟩ := ih (m := after m (deliver body m p.1 p.2).2)
      refine ⟨(legal_deliver p.2).append hlegal, fun place' hmem => ?_⟩
      rcases List.mem_append.mp hmem with hmem | hmem
      · exact not_removed_deliver p.2 place' hmem
      · exact hremoved place' hmem

/-- **What a node holds stays.** -/
lemma after_deliverAll {places : List (Place × Fault)} {bytes : List UInt8}
    (h : m place = some bytes) :
    after m ((deliverAll body m places).flatMap Prod.snd) place = some bytes :=
  after_of_not_removed (legal_deliverAll places).1 h ((legal_deliverAll places).2 place)

/-- **A place that was accepted holds the body** after the upload. -/
lemma holds_of_accepted {places : List (Place × Fault)} {n : Nat} {p : Place × Fault}
    {d : NodeAnswer × List (Event Place (List UInt8))} (hp : places[n]? = some p)
    (hd : (deliverAll body m places)[n]? = some d) (hsuccess : d.1.isSuccess = true) :
    after m ((deliverAll body m places).flatMap Prod.snd) p.1 = some body := by
  induction places generalizing m n with
  | nil => cases hp
  | cons q places ih =>
      rw [deliverAll, List.flatMap_cons, after, Runs.exec_append]
      cases n with
      | zero =>
          obtain rfl := Option.some.inj hp
          obtain rfl := Option.some.inj hd
          exact after_deliverAll (holds_of_deliver hsuccess)
      | succ n => exact ih hp hd

end Nodes

/-! ## The rows -/

section Rows

variable {nftTokenId : String} {body : List UInt8} {db db₁ db' : Db}

/-- The rows after an upload that some nodes have stored. -/
structure Placed (nftTokenId : String) (stored : List (StorageNode × Nat)) (db db' : Db) :
    Prop where
  placed : ∀ node ∈ stored, ∃ r, db'.fileReplicas.get? (nftTokenId, node.1.id) = some r
    ∧ r.status.val = .Active
    ∧ ∃ last ∈ stored, last.1.id = node.1.id ∧ r.storageKey = nodeStorageKey nftTokenId last.2
  kept : ∀ key, (∀ node ∈ stored, key ≠ (nftTokenId, node.1.id)) →
    db'.fileReplicas.get? key = db.fileReplicas.get? key

lemma placed_nil (h : db'.fileReplicas = db.fileReplicas) : Placed nftTokenId [] db db' where
  placed node hnode := absurd hnode List.not_mem_nil
  kept key _ := by rw [h]

/-- A node that stores the file twice has the row of the last time. -/
lemma Placed.append {stored stored' : List (StorageNode × Nat)}
    (h : Placed nftTokenId stored db db₁) (h' : Placed nftTokenId stored' db₁ db') :
    Placed nftTokenId (stored ++ stored') db db' where
  placed node hnode := by
    by_cases hlater : ∃ node' ∈ stored', node'.1.id = node.1.id
    · obtain ⟨node', hnode', hid⟩ := hlater
      obtain ⟨r, hr, hactive, last, hlast, hsame, hkey⟩ := h'.placed node' hnode'
      rw [hid] at hr
      exact ⟨r, hr, hactive, last, List.mem_append_right _ hlast, hsame.trans hid, hkey⟩
    · have hearlier : node ∈ stored :=
        (List.mem_append.mp hnode).resolve_right fun hmem => hlater ⟨node, hmem, rfl⟩
      obtain ⟨r, hr, hactive, last, hlast, hsame, hkey⟩ := h.placed node hearlier
      have hkept := h'.kept (nftTokenId, node.1.id) fun node' hnode' heq =>
        hlater ⟨node', hnode', (Prod.mk.inj heq).2.symm⟩
      exact ⟨r, hkept.trans hr, hactive, last, List.mem_append_left _ hlast, hsame, hkey⟩
  kept key hkey := by
    rw [h'.kept key fun node hnode => hkey node (List.mem_append_right _ hnode)]
    exact h.kept key fun node hnode => hkey node (List.mem_append_left _ hnode)

/-- The row of a node that has stored the file. -/
def storedReplica (nftTokenId : String) (body : List UInt8) (n : Nat) (node : StorageNode) :
    FileReplica where
  nftTokenId
  storageNodeId := node.id
  storageKey := nodeStorageKey nftTokenId n
  sizeBytes := body.length
  status := ReplicaStatus.active

lemma recordReplica_placed {n : Nat} {node : StorageNode}
    (h : recordReplica (storedReplica nftTokenId body n node) db = .ok db') :
    Placed nftTokenId [(node, n)] db db' := by
  unfold recordReplica at h
  split_ifs at h
  obtain rfl := Except.ok.inj h
  refine ⟨fun node' hnode' => ?_, fun key hkey => ?_⟩
  · obtain rfl := List.mem_singleton.mp hnode'
    refine ⟨_, (Table.get?_upsert _ _ _ _ _).trans (if_pos rfl), ?_, (node, n),
      List.mem_singleton_self _, rfl, ?_⟩
    · cases db.fileReplicas.get? (storedReplica nftTokenId body n node).key <;> rfl
    · cases db.fileReplicas.get? (storedReplica nftTokenId body n node).key <;> rfl
  · exact (Table.get?_upsert _ _ _ _ _).trans (if_neg (hkey (node, n) (List.mem_singleton_self _)))

/-- The nodes of an upload are on record. -/
def Known (nodes : List StorageNode) (db : Db) : Prop :=
  ∀ node ∈ nodes, (db.storageNodes.get? node.id).isSome = true

variable (nftTokenId body) in
lemma recordReplica_known (n : Nat) {node : StorageNode}
    (h : (db.storageNodes.get? node.id).isSome = true) :
    ∃ db', recordReplica (storedReplica nftTokenId body n node) db = .ok db'
      ∧ db'.storageNodes = db.storageNodes := by
  have hknown : (db.storageNodes.get? (storedReplica nftTokenId body n node).storageNodeId).isSome
      = true := h
  rw [recordReplica, if_pos hknown]
  exact ⟨_, rfl, rfl⟩

lemma addUsedSpace_known {fileSize : Int} {nodeId : String} {nodes : List StorageNode}
    (h : addUsedSpace fileSize nodeId db = .ok db') (hknown : Known nodes db) :
    db'.fileReplicas = db.fileReplicas ∧ Known nodes db' := by
  unfold addUsedSpace at h
  split_ifs at h
  obtain rfl := Except.ok.inj h
  refine ⟨rfl, fun node hnode => ?_⟩
  have hnode := hknown node hnode
  dsimp only
  rw [Table.get?_update]
  split_ifs with hid
  · rw [Option.isSome_map, ← hid]
    exact hnode
  · exact hnode

lemma storedNodes_cons (env : Env) (n : Nat) (node : StorageNode) (nodes : List StorageNode) :
    storedNodes env n (node :: nodes)
      = (if (env.storage n).isSuccess then [(node, n)] else [])
        ++ storedNodes env (n + 1) nodes := by
  rw [storedNodes, List.zipIdx_cons, List.filter_cons]
  split_ifs <;> rfl

/-- **The rows of an upload**: those of the nodes that have stored it, and no other. -/
theorem uploadReplicas_placed (state : AppState) (env : Env) (n : Nat) (nodes : List StorageNode)
    (acc : Uploads) (hknown : Known nodes db) :
    wp (uploadReplicas state env nftTokenId body n nodes acc)
      (fun _ db' => Placed nftTokenId (storedNodes env n nodes) db db') db := by
  induction nodes generalizing n acc db with
  | nil => exact wp_pure (placed_nil rfl)
  | cons node nodes ih =>
      refine wp_write_bind (fun _ h => by cases h) fun db₀ hdb₀ => ?_
      cases hdb₀
      have hnodes : Known nodes db := fun node' hnode' =>
        hknown node' (List.mem_cons_of_mem _ hnode')
      rw [storedNodes_cons]
      cases hanswer : (env.storage n).isSuccess with
      | false =>
          have hfailed :
              ¬(uploadRequest state env nftTokenId body n node).answer.isSuccess = true := by
            simp [uploadRequest, hanswer]
          rw [if_neg hfailed]
          exact wp_mono (ih _ _ hnodes) fun _ _ h => ⟨h.placed, h.kept⟩
      | true =>
          have hsuccess :
              (uploadRequest state env nftTokenId body n node).answer.isSuccess = true := hanswer
          rw [if_pos hsuccess]
          have hnode : (({ db with storageRequests := db.storageRequests
              ++ [uploadRequest state env nftTokenId body n node] } : Db).storageNodes.get?
                node.id).isSome = true := hknown node List.mem_cons_self
          obtain ⟨db₁, hrecorded, hsame⟩ := recordReplica_known nftTokenId body n hnode
          have hplaced := recordReplica_placed hrecorded
          have hnodes₁ : Known nodes db₁ := by
            rw [Known, hsame]
            exact hnodes
          refine wp_ignore_bind (wp_write (fun e he => ?_) fun db' hdb' => ?_)
          · cases hrecorded.symm.trans he
          obtain rfl := Except.ok.inj (hrecorded.symm.trans hdb')
          refine wp_ignore_bind (wp_write (fun _ _ => ?_) fun db₂ hdb₂ => ?_)
          · exact wp_mono (ih _ _ hnodes₁) fun _ _ h =>
              Placed.append ⟨hplaced.placed, hplaced.kept⟩ h
          · obtain ⟨hrows, hnodes₂⟩ := addUsedSpace_known hdb₂ hnodes₁
            refine wp_mono (ih _ _ hnodes₂) fun _ _ h => Placed.append ?_ h
            refine ⟨?_, ?_⟩
            · rw [hrows]
              exact hplaced.placed
            · rw [hrows]
              exact hplaced.kept

/-! ## The manifest -/

lemma manifestFragments_congr {nft : String}
    (h : db'.nftMetadata.find? nft = db.nftMetadata.find? nft) :
    manifestFragments nft db' = manifestFragments nft db := by
  rw [manifestFragments, h, manifestFragments]

/-- Where no upload can be recorded, there are no fragments. -/
lemma manifestFragments_of_not_recordable (h : ¬Recordable nftTokenId db) :
    manifestFragments nftTokenId db = [] := by
  simp only [Recordable, not_forall] at h
  obtain ⟨nm, hnm, manifest, hmanifest, hobject⟩ := h
  rw [Option.mem_def] at hnm hmanifest
  have hget : manifest.get "fragments" = none := by
    cases manifest with
    | Obj members => exact absurd rfl hobject
    | _ => rfl
  rw [manifestFragments, hnm, Option.bind_some, hmanifest, Option.bind_some, hget]
  rfl

lemma isObject_of_uploadedManifest {fileSize : Nat} {fragments : List Json} {j j' : Json}
    (h : uploadedManifest fileSize fragments (some j) = some j') : j.isObject = true := by
  cases j with
  | Obj members => rfl
  | _ => cases h

/-- What the database has after an upload to some nodes. -/
structure Leaves (state : AppState) (nftTokenId : String) (body : List UInt8)
    (nodes : List StorageNode) (stored : List (StorageNode × Nat)) (db db' : Db) : Prop where
  sent : db'.storageRequests.length = db.storageRequests.length + nodes.length
  rows : Placed nftTokenId stored db db'
  others : ∀ nft, nft ≠ nftTokenId ∨ stored = [] →
    manifestFragments nft db' = manifestFragments nft db
  recorded : stored ≠ [] → Recordable nftTokenId db → manifestFragments nftTokenId db'
    = stored.map fun node => storedFragment state nftTokenId body node.2 node.1
  unrecorded : stored ≠ [] → ¬Recordable nftTokenId db → manifestFragments nftTokenId db' = []

/-- An upload that no manifest is written for. -/
lemma leaves_unwritten {state : AppState} {nodes : List StorageNode}
    {stored : List (StorageNode × Nat)}
    (hsent : db'.storageRequests.length = db.storageRequests.length + nodes.length)
    (hrows : Placed nftTokenId stored db db') (hnfts : db'.nftMetadata = db.nftMetadata)
    (hstored : Recordable nftTokenId db → stored = []) :
    Leaves state nftTokenId body nodes stored db db' where
  sent := hsent
  rows := hrows
  others nft _ := manifestFragments_congr (by rw [hnfts])
  recorded hsome hrecordable := absurd (hstored hrecordable) hsome
  unrecorded _ h :=
    (manifestFragments_congr (by rw [hnfts])).trans (manifestFragments_of_not_recordable h)

/-- An upload that is written to the manifest. -/
lemma manifestFragments_recordUpload {fragments : List Json} {nm : NftMetadata}
    (hnm : db.nftMetadata.find? nftTokenId = some nm)
    (h : recordUpload nftTokenId body.length fragments db = .ok db') :
    manifestFragments nftTokenId db' = fragments
      ∧ ∀ nft, nft ≠ nftTokenId → manifestFragments nft db' = manifestFragments nft db := by
  obtain ⟨manifest, hmanifest, rfl⟩ := recordUpload_eq_ok hnm h
  have htoken : nm.nftTokenId = nftTokenId := (Indexed.find?_eq_some.mp hnm).2
  have hget : db.nftMetadata.get? nm.id = some nm := Indexed.get?_of_find? hnm
  constructor
  · have hupdated : (db.nftMetadata.update nm.id (fun nm => { nm with manifest := some manifest })
        (fun _ => rfl) fun _ => rfl).get? nm.id = some { nm with manifest := some manifest } := by
      rw [Indexed.get?_update, if_pos rfl, hget]
      rfl
    have hfound := Indexed.find?_of_get? hupdated
    rw [htoken] at hfound
    have hread : manifestFragments nftTokenId
        (db.withNft nm.id fun nm => { nm with manifest := some manifest })
        = ((manifest.get "fragments").bind Json.asArray).getD [] := by
      rw [manifestFragments, Db.withNft, hfound]
      rfl
    rw [hread, (uploadedManifest_eq_some hmanifest).2]
    rfl
  · intro nft hne
    refine manifestFragments_congr (Indexed.find?_update_of_ne (t := db.nftMetadata)
      (f := fun nm : NftMetadata => { nm with manifest := some manifest }) (fun _ => rfl)
      fun o ho => ?_)
    obtain rfl := Option.some.inj (ho.symm.trans hget)
    exact htoken ▸ hne.symm

/-- **What an upload does.** -/
theorem uploadFile_leaves (state : AppState) {select : List StorageNode → List StorageNode}
    (hselect : ∀ nodes, select nodes ⊆ nodes) (env : Env) (auth : AuthenticatedUser)
    (nftTokenId : String) (body : List UInt8) (db : Db) :
    wp (uploadFile state select env auth nftTokenId body) (fun _ db' =>
      (¬MayUpload auth nftTokenId db ∧ db' = db)
        ∨ MayUpload auth nftTokenId db
          ∧ Leaves state nftTokenId body (select (candidates body.length db))
            (storedNodes env 0 (select (candidates body.length db))) db db') db := by
  refine wp_read_bind (wp_expect_bind (fun hnone => .inl ⟨?_, rfl⟩) fun row hrow => ?_)
  · rintro ⟨row, hrow, -⟩
    rw [hnone] at hrow
    cases hrow
  refine wp_require_bind (fun howner => .inl ⟨?_, rfl⟩) fun howner => ?_
  · rintro ⟨row', hrow', howner'⟩
    obtain rfl := Option.some.inj (hrow.symm.trans hrow')
    rw [howner'] at howner
    cases howner
  have hmay : MayUpload auth nftTokenId db := ⟨row, hrow, howner⟩
  obtain ⟨nm, hnm, -⟩ := Option.bind_eq_some_iff.mp hrow
  refine wp_read_bind (wp_require_bind (fun hempty => .inr ⟨hmay, ?_⟩) fun _ => ?_)
  · have hnil : select (candidates body.length db) = [] := by simpa using hempty
    rw [hnil]
    exact leaves_unwritten rfl (placed_nil rfl) rfl fun _ => rfl
  have hknown : Known (select (candidates body.length db)) db := by
    intro node hnode
    have hrow := List.mem_of_mem_filter (hselect _ hnode)
    exact Option.isSome_iff_exists.mpr ⟨node, Table.get?_of_mem hrow⟩
  refine wp_bind (wp_mono (wp_and (uploadReplicas_spec _ _ _ _ _ _ _ _)
    (wp_and (uploadReplicas_stored _ _ _ _ _ _ _ _)
      (uploadReplicas_placed _ _ _ _ _ hknown))) ?_)
  rintro _ db₁ ⟨⟨acc, rfl, hup⟩, ⟨acc', heq, hcount, hinfos⟩, hplaced⟩
  obtain rfl := Except.ok.inj heq
  obtain ⟨replicas, storageNodes, rfl⟩ := hup.tables
  have hlength : (db.storageRequests ++ uploadRequests state env nftTokenId body 0
      (select (candidates body.length db))).length
      = db.storageRequests.length + (select (candidates body.length db)).length := by
    rw [List.length_append, uploadRequests_eq, List.length_map, List.length_zipIdx]
  refine wp_require_bind (fun hzero => .inr ⟨hmay, ?_⟩) fun hfew => ?_
  · refine leaves_unwritten hlength hplaced rfl fun _ => ?_
    have hnone : acc.successfulUploads = 0 := by simpa using hzero
    rw [hcount] at hnone
    exact List.length_eq_zero_iff.mp (by simpa using hnone)
  refine wp_write_bind (fun e he => .inr ⟨hmay, ?_⟩) fun db₂ hdb₂ => wp_pure (.inr ⟨hmay, ?_⟩)
  · refine leaves_unwritten hlength hplaced rfl fun hrecordable => ?_
    -- the manifest of the NFT can be updated
    obtain ⟨manifest, hmanifest⟩ := uploadedManifest_of_isObject body.length acc.fragmentInfos
      (hrecordable nm hnm)
    unfold recordUpload at he
    dsimp only at he
    rw [hnm] at he
    dsimp only at he
    rw [hmanifest] at he
    cases he
  · have hsome : storedNodes env 0 (select (candidates body.length db)) ≠ [] := by
      intro hnone
      rw [hnone] at hcount
      simp [hcount] at hfew
    have hnm₁ : ({ db with
        fileReplicas := replicas, storageNodes, storageRequests := db.storageRequests
          ++ uploadRequests state env nftTokenId body 0 (select (candidates body.length db)) } :
        Db).nftMetadata.find? nftTokenId = some nm := hnm
    obtain ⟨hfragments, hothers⟩ := manifestFragments_recordUpload hnm₁ hdb₂
    obtain ⟨manifest, hmanifest, rfl⟩ := recordUpload_eq_ok hnm₁ hdb₂
    refine ⟨hlength, ⟨hplaced.placed, hplaced.kept⟩, fun nft hnft => ?_, fun _ _ => ?_,
      fun _ hrecordable => ?_⟩
    · exact hothers nft (hnft.resolve_right hsome)
    · exact hfragments.trans hinfos
    · refine absurd (fun nm' hnm' j hj => ?_) hrecordable
      obtain rfl := Option.some.inj (hnm.symm.trans hnm')
      exact isObject_of_uploadedManifest (hj ▸ hmanifest)

end Rows

/-! ## The replicas agree -/

section Agreement

variable {state : AppState} {select : List StorageNode → List StorageNode}

lemma length_delivered (s : Cluster) (nftTokenId : String) (body : List UInt8)
    (faults : Nat → Fault) : (delivered select s nftTokenId body faults).length
      = (select (candidates body.length s.db)).length := by
  have hlength : ∀ (places : List (Place × Fault)) m,
      (deliverAll body m places).length = places.length := by
    intro places
    induction places with
    | nil => exact fun _ => rfl
    | cons p places ih => exact fun m => congrArg (· + 1) (ih _)
  rw [delivered, hlength, requests, List.length_map, List.length_zipIdx]

/-- **A node that accepts an upload holds it** afterwards. -/
lemma holds_of_accepting {s : Cluster} {env : Env} {nftTokenId : String} {body : List UInt8}
    {faults : Nat → Fault} {node : StorageNode × Nat}
    (h : node ∈ accepting select s env nftTokenId body faults) :
    after s.fragments ((delivered select s nftTokenId body faults).flatMap Prod.snd)
      (node.1.id, nodeStorageKey nftTokenId node.2) = some body := by
  obtain ⟨hmem, hsuccess⟩ := List.mem_filter.mp h
  have hnode : (select (candidates body.length s.db))[node.2]? = some node.1 :=
    List.mk_mem_zipIdx_iff_getElem?.mp hmem
  have hrequest : (requests nftTokenId faults 0 (select (candidates body.length s.db)))[node.2]?
      = some ((node.1.id, nodeStorageKey nftTokenId node.2), faults node.2) := by
    rw [requests, List.getElem?_map, List.getElem?_zipIdx, hnode]
    simp
  rw [answering] at hsuccess
  dsimp only at hsuccess
  cases hd : (delivered select s nftTokenId body faults)[node.2]? with
  | none =>
      rw [hd] at hsuccess
      cases hsuccess
  | some d =>
      rw [hd] at hsuccess
      exact holds_of_accepted hrequest hd hsuccess

/-- What is served is read from the rows. -/
lemma agree_of_rows {s : Cluster}
    (held : ∀ r ∈ s.db.fileReplicas.rows, r.status.val = .Active →
      (s.fragments (placeOf r)).isSome = true)
    (same : ∀ r ∈ s.db.fileReplicas.rows, ∀ r' ∈ s.db.fileReplicas.rows, r.status.val = .Active →
      r'.status.val = .Active → r.nftTokenId = r'.nftTokenId →
      s.fragments (placeOf r) = s.fragments (placeOf r'))
    (hash : ∀ r ∈ s.db.fileReplicas.rows, r.status.val = .Active →
      ∀ bytes, s.fragments (placeOf r) = some bytes →
        manifestFragments r.nftTokenId s.db ≠ []
          ∧ ∀ frag ∈ manifestFragments r.nftTokenId s.db,
            frag.get "encrypted_hash" = some (.Str (sha256FragmentHash state bytes))) :
    Agree state s where
  held := held
  same := same
  hash := hash
  served nftTokenId l hl l' hl' := by
    obtain ⟨r, hr, hnft, hnode, hkey, hactive⟩ := mem_activeReplicas hl
    obtain ⟨r', hr', hnft', hnode', hkey', hactive'⟩ := mem_activeReplicas hl'
    have hsame := same r hr r' hr' hactive hactive' (hnft.trans hnft'.symm)
    rw [placeOf, placeOf, hnode, hkey, hnode', hkey'] at hsame
    exact hsame

/-- The hash of a stored fragment. -/
lemma storedFragment_hash (state : AppState) (nftTokenId : String) (body : List UInt8) (n : Nat)
    (node : StorageNode) : (storedFragment state nftTokenId body n node).get "encrypted_hash"
      = some (.Str (sha256FragmentHash state body)) := rfl

section Upload

variable {s s' : Cluster} {nftTokenId : String} {body : List UInt8} {nodes : List StorageNode}
  {stored : List (StorageNode × Nat)}

/-- A row of another file, or of a node that has not stored the file, is not touched. -/
lemma mem_rows_iff (hrows : Placed nftTokenId stored s.db s'.db) {r : FileReplica}
    (hr : r.nftTokenId = nftTokenId → ∀ node ∈ stored, node.1.id ≠ r.storageNodeId) :
    r ∈ s'.db.fileReplicas.rows ↔ r ∈ s.db.fileReplicas.rows := by
  have hkept := hrows.kept r.key fun node hnode heq =>
    hr (Prod.mk.inj heq).1 node hnode (Prod.mk.inj heq).2.symm
  constructor
  · exact fun hmem => Table.mem_of_get? (hkept.symm.trans (Table.get?_of_mem hmem))
  · exact fun hmem => Table.mem_of_get? (hkept.trans (Table.get?_of_mem hmem))

/-- The row of a node that has stored the file leads to it. -/
lemma place_of_stored (hrows : Placed nftTokenId stored s.db s'.db)
    (hheld : ∀ node ∈ stored,
      s'.fragments (node.1.id, nodeStorageKey nftTokenId node.2) = some body)
    {node : StorageNode × Nat} (hnode : node ∈ stored) :
    ∃ r ∈ s'.db.fileReplicas.rows, r.key = (nftTokenId, node.1.id) ∧ r.status.val = .Active
      ∧ s'.fragments (placeOf r) = some body := by
  obtain ⟨r, hr, hactive, last, hlast, hid, hkey⟩ := hrows.placed node hnode
  have hrow : r.key = (nftTokenId, node.1.id) := Table.key_of_get? hr
  refine ⟨r, Table.mem_of_get? hr, hrow, hactive, ?_⟩
  have hplace : placeOf r = (last.1.id, nodeStorageKey nftTokenId last.2) :=
    Prod.ext ((Prod.mk.inj hrow).2.trans hid.symm) hkey
  rw [hplace]
  exact hheld last hlast

variable (hdb : Leaves state nftTokenId body nodes stored s.db s'.db)
  (hstays : ∀ place bytes, s.fragments place = some bytes → s'.fragments place = some bytes)

include hdb hstays

/-- A row that is not touched leads to the same bytes. -/
lemma fragment_of_kept (hs : Agree state s) {r : FileReplica}
    (hr : r ∈ s'.db.fileReplicas.rows) (hactive : r.status.val = .Active)
    (hkept : r.nftTokenId = nftTokenId → ∀ node ∈ stored, node.1.id ≠ r.storageNodeId) :
    r ∈ s.db.fileReplicas.rows ∧ ∃ bytes, s.fragments (placeOf r) = some bytes
      ∧ s'.fragments (placeOf r) = some bytes := by
  have hmem := (mem_rows_iff hdb.rows hkept).mp hr
  obtain ⟨bytes, hbytes⟩ := Option.isSome_iff_exists.mp (hs.held r hmem hactive)
  exact ⟨hmem, bytes, hbytes, hstays _ _ hbytes⟩

/-- The rows of other files agree as before. -/
lemma agree_of_others (hs : Agree state s)
    (hown : stored ≠ [] → (∀ r ∈ s'.db.fileReplicas.rows, r.nftTokenId = nftTokenId →
      r.status.val = .Active → s'.fragments (placeOf r) = some body)
      ∧ manifestFragments nftTokenId s'.db ≠ []
      ∧ ∀ frag ∈ manifestFragments nftTokenId s'.db,
        frag.get "encrypted_hash" = some (.Str (sha256FragmentHash state body))) :
    Agree state s' := by
  have hother : ∀ r ∈ s'.db.fileReplicas.rows, r.status.val = .Active →
      r.nftTokenId ≠ nftTokenId ∨ stored = [] → r ∈ s.db.fileReplicas.rows
        ∧ ∃ bytes, s.fragments (placeOf r) = some bytes
          ∧ s'.fragments (placeOf r) = some bytes := by
    intro r hr hactive hnft
    refine fragment_of_kept hdb hstays hs hr hactive fun heq node hnode => ?_
    rw [hnft.resolve_left (not_not_intro heq)] at hnode
    cases hnode
  refine agree_of_rows (fun r hr hactive => ?_) (fun r hr r' hr' hactive hactive' hnft => ?_)
    fun r hr hactive bytes hbytes => ?_
  · by_cases hnft : r.nftTokenId ≠ nftTokenId ∨ stored = []
    · obtain ⟨-, bytes, -, hbytes⟩ := hother r hr hactive hnft
      rw [hbytes]
      rfl
    · obtain ⟨heq, hsome⟩ := not_or.mp hnft
      rw [(hown hsome).1 r hr (not_not.mp heq) hactive]
      rfl
  · by_cases hother' : r.nftTokenId ≠ nftTokenId ∨ stored = []
    · obtain ⟨hmem, bytes, hbefore, hafter⟩ := hother r hr hactive hother'
      obtain ⟨hmem', bytes', hbefore', hafter'⟩ := hother r' hr' hactive' (hnft ▸ hother')
      rw [hafter, hafter', ← hbefore, ← hbefore']
      exact hs.same r hmem r' hmem' hactive hactive' hnft
    · obtain ⟨heq, hsome⟩ := not_or.mp hother'
      have heq := not_not.mp heq
      rw [(hown hsome).1 r hr heq hactive, (hown hsome).1 r' hr' (hnft ▸ heq) hactive']
  · by_cases hnft : r.nftTokenId ≠ nftTokenId ∨ stored = []
    · obtain ⟨hmem, bytes', hbefore, hafter⟩ := hother r hr hactive hnft
      obtain rfl := Option.some.inj (hbytes.symm.trans hafter)
      rw [hdb.others _ hnft]
      exact hs.hash r hmem hactive bytes hbefore
    · obtain ⟨heq, hsome⟩ := not_or.mp hnft
      have heq := not_not.mp heq
      obtain rfl := Option.some.inj (hbytes.symm.trans ((hown hsome).1 r hr heq hactive))
      rw [heq]
      exact (hown hsome).2

variable (hheld : ∀ node ∈ stored,
  s'.fragments (node.1.id, nodeStorageKey nftTokenId node.2) = some body)

include hheld

/-- **An upload keeps the replicas in agreement if and only if** it covers them, where some node has
stored it. -/
theorem agree_upload (hs : Agree state s) :
    Agree state s' ↔ (stored ≠ [] → Covered nftTokenId body stored s) := by
  constructor
  · intro hs' hsome
    obtain ⟨node, hnode⟩ := List.exists_mem_of_ne_nil _ hsome
    obtain ⟨r₀, hr₀, hkey, hactive₀, hplace⟩ := place_of_stored hdb.rows hheld hnode
    have hnft₀ : r₀.nftTokenId = nftTokenId := (Prod.mk.inj hkey).1
    refine ⟨?_, fun r hr hnft hactive => ?_⟩
    · by_contra hrecordable
      have hlisted := (hs'.hash r₀ hr₀ hactive₀ body hplace).1
      rw [hnft₀] at hlisted
      exact hlisted (hdb.unrecorded hsome hrecordable)
    · by_cases hstored : ∃ node ∈ stored, node.1.id = r.storageNodeId
      · exact .inl hstored
      · have hmem :=
          (mem_rows_iff hdb.rows fun _ node hnode hid => hstored ⟨node, hnode, hid⟩).mpr hr
        obtain ⟨bytes, hbytes⟩ := Option.isSome_iff_exists.mp (hs.held r hr hactive)
        have hsame := hs'.same r hmem r₀ hr₀ hactive hactive₀ (hnft.trans hnft₀.symm)
        rw [hplace, hstays _ _ hbytes] at hsame
        exact .inr (hbytes.trans hsame)
  · intro hcovers
    refine agree_of_others hdb hstays hs fun hsome => ?_
    obtain ⟨hrecordable, hcovered⟩ := hcovers hsome
    refine ⟨fun r hr hnft hactive => ?_, ?_, fun frag hfrag => ?_⟩
    · by_cases hstored : ∃ node ∈ stored, node.1.id = r.storageNodeId
      · obtain ⟨node, hnode, hid⟩ := hstored
        obtain ⟨r', hr', hkey, -, hplace⟩ := place_of_stored hdb.rows hheld hnode
        have hsame : r' = r := Table.eq_of_mem _ hr' hr (hkey.trans (Prod.ext hnft.symm hid))
        rw [← hsame]
        exact hplace
      · have hmem :=
          (mem_rows_iff hdb.rows fun _ node hnode hid => hstored ⟨node, hnode, hid⟩).mp hr
        exact hstays _ _ ((hcovered r hmem hnft hactive).resolve_left hstored)
    · rw [hdb.recorded hsome hrecordable]
      exact fun hnil => hsome (List.map_eq_nil_iff.mp hnil)
    · rw [hdb.recorded hsome hrecordable] at hfrag
      obtain ⟨node, -, rfl⟩ := List.mem_map.mp hfrag
      exact storedFragment_hash _ _ _ _ _

end Upload

/-- **One step**: the replicas stay in agreement if and only if the upload covers them. -/
theorem agree_step (hselect : ∀ nodes, select nodes ⊆ nodes) {s : Cluster} (hs : Agree state s)
    (call : Call) : Agree state (step state select s call) ↔ Covers select s call := by
  obtain ⟨env, auth, nftTokenId, body, faults⟩ := call
  rcases uploadFile_leaves state hselect (answering select s env nftTokenId body faults) auth
    nftTokenId body s.db with ⟨hrefused, hdb⟩ | ⟨hmay, hdb⟩
  · have hstep : step state select s (.Upload env auth nftTokenId body faults) = s := by
      simp [step, hdb]
    rw [hstep]
    exact iff_of_true hs fun hmay => absurd hmay hrefused
  · have hfragments : (step state select s (.Upload env auth nftTokenId body faults)).fragments
        = after s.fragments ((delivered select s nftTokenId body faults).flatMap Prod.snd) := by
      have hsent : (uploadFile state select (answering select s env nftTokenId body faults) auth
          nftTokenId body s.db).2.storageRequests.length - s.db.storageRequests.length
          = (delivered select s nftTokenId body faults).length := by
        rw [hdb.sent, length_delivered, Nat.add_sub_cancel_left]
      rw [step, hsent, List.take_length]
    have hupload : Agree state (step state select s (.Upload env auth nftTokenId body faults))
        ↔ (accepting select s env nftTokenId body faults ≠ [] → Covered nftTokenId body
          (accepting select s env nftTokenId body faults) s) := by
      refine agree_upload hdb (fun place bytes h => ?_) (fun node hnode => ?_) hs
      · rw [hfragments]
        exact after_deliverAll h
      · rw [hfragments]
        exact holds_of_accepting hnode
    exact hupload.trans ⟨fun h _ => h, fun h => h hmay⟩

/-- **The replicas agree all along a run of uploads if and only if** every upload that some node
accepts covers the active rows of its file. An upload records the nodes that have accepted it, and
leaves the row of a node that it did not reach as it was, with the older bytes behind it. -/
theorem agree_iff (hselect : ∀ nodes, select nodes ⊆ nodes) {s : Cluster}
    (hrows : s.db.fileReplicas.rows = []) {calls : List Call} :
    (∀ pre post, calls = pre ++ post → Agree state (exec state select s pre))
      ↔ Runs.Guarded (step state select) (Covers select) s calls := by
  have hstep : ∀ s call, Agree state s →
      (Agree state (step state select s call) ↔ Covers select s call) := fun _ call h =>
    agree_step hselect h call
  refine Runs.always_iff hstep
    (agree_of_rows (fun r hr => ?_) (fun r hr => ?_) fun r hr => ?_)
  all_goals
    rw [hrows] at hr
    cases hr

end Agreement

/-! ## Two versions

The first version of the file is on the first node only, and the second version is uploaded to
both. -/

namespace Sample

open Transfers.Sample ForgottenReplicas.Sample

def start : Cluster where
  db := { stored with fileReplicas := .empty }
  fragments _ := none

/-- The second node refuses the file. -/
def partly (n : Nat) : Fault := if n = 1 then .Refused else .None

def upload (body : List UInt8) (faults : Nat → Fault) : Call :=
  .Upload down (caller alice) tokenId body faults

abbrev run (calls : List Call) : Cluster := exec Tombstone.Sample.oracle id start calls

/-- The same version may be uploaded again, to fewer nodes. -/
theorem agree_again :
    Agree Tombstone.Sample.oracle (run [upload [1] fun _ => .None, upload [1] partly]) :=
  (agree_iff (fun _ => List.Subset.refl _) rfl).mpr (by decide +kernel) _ []
    (List.append_nil _).symm

/-- **The replicas do not agree**: the first node keeps the first version under its key, and its row
stays active. -/
theorem not_agree : ¬∀ calls pre post, calls = pre ++ post →
    Agree Tombstone.Sample.oracle (run pre) := by
  intro hagree
  have hguarded := (agree_iff (fun _ => List.Subset.refl _) rfl).mp
    (hagree [upload [1] partly, upload [2] fun _ => .None])
  revert hguarded
  decide +kernel

end Sample

end Vaulted.ReplicasAgree
