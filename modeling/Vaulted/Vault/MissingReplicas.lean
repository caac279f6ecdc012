import Vaulted.Library.Runs
import Vaulted.Vault.ForgottenReplicas

/-!
# Replicas that are missing

A node that answers 404 to a download does not have the replica.  `downloadFile` then writes a
status that the column does not admit, and the error of the statement is swallowed.

* `Call` — upload, download and status.
* `Missed` — a node has answered 404 for a replica, and has not stored it since.
* `Honest` — no such replica is active, for the tables, for `getFileStatus` and for a download.
* `Unnoticed` — a download that is answered 404 for an active replica.
* `honest_iff` — the statuses are honest if and only if there is none.
-/

namespace Vaulted.MissingReplicas

open Autocommit.Prog FileProxy

/-! ## The system -/

inductive Call
  | Upload (env : Env) (auth : AuthenticatedUser) (nftTokenId : String) (body : List UInt8)
  | Download (env : Env) (auth : AuthenticatedUser) (nftTokenId : String)
  | Status (settings : Except ApiError (Option ReplicationSettings)) (nftTokenId : String)

section Statements

variable (state : AppState) (select : List StorageNode → List StorageNode)

def step (db : Db) : Call → Db
  | .Upload env auth nftTokenId body => (uploadFile state select env auth nftTokenId body db).2
  | .Download env auth nftTokenId => (downloadFile env auth nftTokenId db).2
  | .Status settings nftTokenId => (getFileStatus settings nftTokenId db).2

/-- The database after a run of calls. -/
abbrev exec (db : Db) (calls : List Call) : Db := Runs.exec (step state select) db calls

/-- A request has stored a replica of a file on a node. -/
def Stores (w : StorageRequest) (nftTokenId nodeId : String) : Prop :=
  w.isStored = true ∧ w.token.nftTokenId = nftTokenId ∧ w.nodeId = nodeId

/-- A download has been answered 404 by a node. -/
def Misses (w : StorageRequest) (nftTokenId nodeId : String) : Prop :=
  w.token.operation = .Read ∧ w.answer.isNotFound = true ∧ w.token.nftTokenId = nftTokenId
    ∧ w.nodeId = nodeId

def Missed (log : List StorageRequest) (nftTokenId nodeId : String) : Prop :=
  ∃ pre w post, log = pre ++ w :: post ∧ Misses w nftTokenId nodeId
    ∧ ∀ u ∈ post, ¬Stores u nftTokenId nodeId

/-- What is recorded as active is not missing: in the rows, in the status of a file, and among the
replicas that a download tries. -/
structure Honest (db : Db) : Prop where
  row : ∀ nftTokenId nodeId r, Missed db.storageRequests nftTokenId nodeId →
    db.fileReplicas.get? (nftTokenId, nodeId) = some r → r.status.val ≠ .Active
  status : ∀ settings nftTokenId answer,
    (getFileStatus settings nftTokenId db).1 = .ok answer →
    answer.activeReplicas
        = (answer.replicas.filter fun info => decide (info.status = .Active)).length
      ∧ ∀ info ∈ answer.replicas, Missed db.storageRequests nftTokenId info.nodeId →
        info.status ≠ .Active
  download : ∀ nftTokenId, ∀ l ∈ activeReplicas nftTokenId db,
    ¬Missed db.storageRequests nftTokenId l.nodeId

/-- A download that its caller may make, and that a node with an active row answers with 404. For a
location of the manifest that has no such row there is nothing to record. -/
def Unnoticed (db : Db) : Call → Prop
  | .Download env auth nftTokenId => MayDownload env auth nftTokenId db
      ∧ ∃ w ∈ attempts env nftTokenId 0 (locations nftTokenId db), w.answer.isNotFound = true
        ∧ ∃ r, db.fileReplicas.get? (nftTokenId, w.nodeId) = some r ∧ r.status.val = .Active
  | _ => False

end Statements

/-! ## What has been missed -/

section Logs

variable {nftTokenId nodeId : String}

lemma missed_append {log new : List StorageRequest} :
    Missed (log ++ new) nftTokenId nodeId
      ↔ Missed new nftTokenId nodeId
        ∨ Missed log nftTokenId nodeId ∧ ∀ u ∈ new, ¬Stores u nftTokenId nodeId := by
  constructor
  · rintro ⟨pre, w, post, heq, hw, hpost⟩
    rcases List.append_eq_append_iff.mp heq with ⟨mid, rfl, hnew⟩ | ⟨mid, rfl, hmid⟩
    · exact .inl ⟨mid, w, post, hnew, hw, hpost⟩
    · cases mid with
      | nil => exact .inl ⟨[], w, post, hmid.symm, hw, hpost⟩
      | cons w' mid =>
          obtain ⟨rfl, rfl⟩ := List.cons.inj hmid
          exact .inr ⟨⟨pre, w, mid, rfl, hw, fun u hu => hpost u (List.mem_append_left _ hu)⟩,
            fun u hu => hpost u (List.mem_append_right _ hu)⟩
  · rintro (⟨pre, w, post, rfl, hw, hpost⟩ | ⟨⟨pre, w, post, rfl, hw, hpost⟩, hnew⟩)
    · exact ⟨log ++ pre, w, post, by simp, hw, hpost⟩
    · refine ⟨pre, w, post ++ new, by simp, hw, fun u hu => ?_⟩
      exact (List.mem_append.mp hu).elim (hpost u) (hnew u)

/-- Uploads miss nothing. -/
lemma not_missed_of_write {new : List StorageRequest}
    (h : ∀ w ∈ new, w.token.operation = .Write) : ¬Missed new nftTokenId nodeId := by
  rintro ⟨pre, w, post, rfl, hw, -⟩
  have hwrite := h w (by simp)
  rw [hw.1] at hwrite
  cases hwrite

/-- Downloads store nothing. -/
lemma missed_of_read {new : List StorageRequest} (h : ∀ w ∈ new, w.token.operation = .Read) :
    Missed new nftTokenId nodeId ↔ ∃ w ∈ new, Misses w nftTokenId nodeId := by
  constructor
  · rintro ⟨pre, w, post, rfl, hw, -⟩
    exact ⟨w, by simp, hw⟩
  · rintro ⟨w, hmem, hw⟩
    obtain ⟨pre, post, rfl⟩ := List.append_of_mem hmem
    refine ⟨pre, w, post, rfl, hw, fun u hu hstores => ?_⟩
    have hread := h u (by simp [hu])
    have hstored := hstores.1
    rw [StorageRequest.isStored, hread] at hstored
    cases hstored

lemma mem_attempts {env : Env} {nft : String} {n : ℕ} {ls : List Location} {w : StorageRequest}
    (h : w ∈ attempts env nft n ls) : w.token.operation = .Read ∧ w.token.nftTokenId = nft := by
  induction ls generalizing n with
  | nil => cases h
  | cons l ls ih =>
      rw [attempts] at h
      rcases List.mem_cons.mp h with rfl | h
      · exact ⟨rfl, rfl⟩
      · split_ifs at h
        · cases h
        · exact ih h

end Logs

/-! ## Honesty -/

section Honesty

variable {state : AppState} {select : List StorageNode → List StorageNode} {db : Db}

lemma mem_recordedReplicas {nftTokenId : String} {p : FileReplica × StorageNode}
    (h : p ∈ recordedReplicas nftTokenId db) :
    db.fileReplicas.get? (nftTokenId, p.1.storageNodeId) = some p.1 := by
  obtain ⟨r, hr, hfound⟩ := List.mem_filterMap.mp h
  split_ifs at hfound with htoken
  obtain ⟨node, -, rfl⟩ := Option.map_eq_some_iff.mp hfound
  rw [← htoken]
  exact Table.get?_of_mem hr

/-- What a status reports is in the table. -/
lemma getFileStatus_spec {settings : Except ApiError (Option ReplicationSettings)}
    {nftTokenId : String} {answer : FileStatusResponse}
    (h : (getFileStatus settings nftTokenId db).1 = .ok answer) :
    answer.activeReplicas
        = (answer.replicas.filter fun info => decide (info.status = .Active)).length
      ∧ ∀ info ∈ answer.replicas, ∃ r,
        db.fileReplicas.get? (nftTokenId, info.nodeId) = some r ∧ r.status.val = info.status := by
  cases settings with
  | error e => cases h
  | ok settings? =>
      obtain rfl := Except.ok.inj h
      refine ⟨?_, fun info hinfo => ?_⟩
      · simp [fileStatus, List.filter_map, Function.comp_def]
      · obtain ⟨p, hp, rfl⟩ := List.mem_map.mp hinfo
        exact ⟨p.1, mem_recordedReplicas hp, rfl⟩

/-- Everything else is read from the rows. -/
lemma honest_of_row (hrow : ∀ nftTokenId nodeId r, Missed db.storageRequests nftTokenId nodeId →
    db.fileReplicas.get? (nftTokenId, nodeId) = some r → r.status.val ≠ .Active) : Honest db where
  row := hrow
  status settings nftTokenId answer h := by
    obtain ⟨hcount, hinfos⟩ := getFileStatus_spec h
    refine ⟨hcount, fun info hinfo hmissed => ?_⟩
    obtain ⟨r, hr, hstatus⟩ := hinfos info hinfo
    rw [← hstatus]
    exact hrow nftTokenId info.nodeId r hmissed hr
  download nftTokenId l hl hmissed := by
    obtain ⟨r, hr, htoken, hnode, -, hactive⟩ := mem_activeReplicas hl
    have hget : db.fileReplicas.get? (nftTokenId, l.nodeId) = some r := by
      rw [← htoken, ← hnode]
      exact Table.get?_of_mem hr
    exact hrow nftTokenId l.nodeId r hmissed hget hactive

/-- What an upload does to the log and to the replicas. -/
lemma upload_rows {state : AppState} {env : Env} {nftTokenId : String} {body : List UInt8}
    {r : Except ApiError UploadFileResponse} {db' : Db}
    (h : UploadsFile state env nftTokenId body db r db') : ∃ new,
      db'.storageRequests = db.storageRequests ++ new
        ∧ (∀ w ∈ new, w.token.operation = .Write)
        ∧ ∀ o ∈ db'.fileReplicas.rows, o ∈ db.fileReplicas.rows
          ∨ StoredAt new o.nftTokenId o.storageNodeId o.storageKey := by
  have hwrite : ∀ nodes, ∀ w ∈ uploadRequests state env nftTokenId body 0 nodes,
      w.token.operation = .Write := by
    intro nodes w hw
    obtain ⟨i, node, rfl⟩ := mem_uploadRequests hw
    rfl
  have huploaded : ∀ {nodes acc db₁},
      Uploaded nftTokenId (uploadRequests state env nftTokenId body 0 nodes) ⟨0, [], []⟩ acc db
        db₁ →
      db₁.storageRequests = db.storageRequests
        ++ uploadRequests state env nftTokenId body 0 nodes := by
    intro nodes acc db₁ hup
    obtain ⟨replicas, storageNodes, rfl⟩ := hup.tables
    rfl
  cases h with
  | Refused e => exact ⟨[], by simp, by simp, fun o ho => .inl ho⟩
  | Failed e nodes acc db' hup hzero => exact ⟨_, huploaded hup, hwrite nodes, hup.replicas⟩
  | Unrecorded e nodes acc db' hup herror => exact ⟨_, huploaded hup, hwrite nodes, hup.replicas⟩
  | Recorded nm nodes acc answer db₁ db₂ hnm hup hrecord =>
      have hsame : db'.storageRequests = db₁.storageRequests
          ∧ db'.fileReplicas = db₁.fileReplicas := by
        unfold recordUpload at hrecord
        split at hrecord
        · cases hrecord
          exact ⟨rfl, rfl⟩
        · split at hrecord
          · cases hrecord
            exact ⟨rfl, rfl⟩
          · cases hrecord
      rw [hsame.1, hsame.2]
      exact ⟨_, huploaded hup, hwrite nodes, hup.replicas⟩

/-- **One step**: the statuses stay honest if and only if no missing replica goes unnoticed. -/
theorem honest_step (hdb : Honest db) (call : Call) :
    Honest (step state select db call) ↔ ¬Unnoticed db call := by
  cases call with
  | Status settings nftTokenId =>
      have hsame : step state select db (.Status settings nftTokenId) = db := by
        cases settings <;> rfl
      rw [hsame]
      exact iff_of_true hdb not_false
  | Upload env auth nftTokenId body =>
      refine iff_of_true (honest_of_row fun nft node r hmissed hr => ?_) not_false
      obtain ⟨new, hlog, hwrite, hrows⟩ :=
        upload_rows (uploadFile_spec state select env auth nftTokenId body db)
      change Missed (uploadFile state select env auth nftTokenId body db).2.storageRequests _ _
        at hmissed
      rw [hlog, missed_append] at hmissed
      rcases hmissed with hmissed | ⟨hmissed, hunstored⟩
      · exact absurd hmissed (not_missed_of_write hwrite)
      · rcases hrows r (Table.mem_of_get? hr) with hold | ⟨w, hw, hstored, htoken, hnode, -⟩
        · have hkey : r.key = (nft, node) := Table.key_of_get? hr
          exact hdb.row nft node r hmissed (hkey ▸ Table.get?_of_mem hold)
        · obtain ⟨hnft, hnode'⟩ := Prod.mk.inj (Table.key_of_get? hr : r.key = (nft, node))
          exact absurd ⟨hstored, htoken.trans hnft, hnode.trans hnode'⟩ (hunstored w hw)
  | Download env auth nftTokenId =>
      rcases downloadFile_attempts env auth nftTokenId db with ⟨hrefused, heq⟩ | ⟨hmay, heq⟩
      · have hsame : step state select db (.Download env auth nftTokenId) = db := heq
        rw [hsame]
        exact iff_of_true hdb fun h => hrefused h.1
      · have hstep : step state select db (.Download env auth nftTokenId) = _ := heq
        rw [hstep]
        have hread : ∀ w ∈ attempts env nftTokenId 0 (locations nftTokenId db),
            w.token.operation = .Read := fun w hw => (mem_attempts hw).1
        constructor
        · rintro hafter ⟨-, w, hw, hmissing, r, hr, hactive⟩
          refine hafter.row nftTokenId w.nodeId r (missed_append.mpr (.inl ?_)) hr hactive
          exact (missed_of_read hread).mpr ⟨w, hw, hread w hw, hmissing, (mem_attempts hw).2, rfl⟩
        · intro hnoticed
          refine honest_of_row fun nft node r hmissed hr hactive => ?_
          rcases missed_append.mp hmissed with hmissed | ⟨hmissed, -⟩
          · obtain ⟨w, hw, -, hmissing, htoken, rfl⟩ := (missed_of_read hread).mp hmissed
            obtain rfl : nftTokenId = nft := (mem_attempts hw).2.symm.trans htoken
            exact hnoticed ⟨hmay, w, hw, hmissing, r, hr, hactive⟩
          · exact hdb.row nft node r hmissed hr hactive

/-- **The statuses are honest all along a run if and only if** no download is answered 404 for a
replica that is active: such an answer is never recorded. The status `missing` is not among those of
the `CHECK` constraint, and the error of the update is dropped. -/
theorem honest_iff {calls : List Call} (hlog : db.storageRequests = []) :
    (∀ pre post, calls = pre ++ post → Honest (exec state select db pre))
      ↔ Runs.Guarded (step state select) (fun db call => ¬Unnoticed db call) db calls := by
  have hstep : ∀ db call, Honest db →
      (Honest (step state select db call) ↔ ¬Unnoticed db call) := fun _ call h =>
    honest_step h call
  refine Runs.always_iff hstep (honest_of_row fun nft node r hmissed => ?_)
  obtain ⟨pre, w, post, heq, -⟩ := hmissed
  rw [hlog] at heq
  simp at heq

end Honesty

namespace Sample

open Transfers.Sample ForgottenReplicas.Sample

/-- The first node has lost the file. -/
def lost : Env := { down with storage := fun n => .Status (if n = 0 then 404 else 200) (.ok []) }

abbrev run (calls : List Call) : Db := exec Tombstone.Sample.oracle id stored calls

/-- A node that is down is no reason to doubt its replica. -/
theorem honest_of_down : (run [.Download down (caller alice) tokenId]).storageRequests.length = 2
    ∧ ∀ pre post,
      [.Download down (caller alice) tokenId, .Status (.ok none) tokenId] = pre ++ post →
      Honest (run pre) := by
  refine ⟨by decide +kernel, (honest_iff rfl).mpr ⟨?_, ?_, trivial⟩⟩
  · rintro ⟨-, w, hw, hmissing, -⟩
    have hanswers : (attempts down tokenId 0 (locations tokenId stored)).all
        (fun w => !w.answer.isNotFound) = true := by decide +kernel
    have hanswer := List.all_eq_true.mp hanswers w hw
    rw [hmissing] at hanswer
    cases hanswer
  · exact not_false

/-- **The replica of the first node stays active** when that node has answered 404. -/
theorem not_honest : ¬∀ calls pre post, calls = pre ++ post → Honest (run pre) := by
  intro hhonest
  have hguarded := (honest_iff rfl).mp (hhonest [.Download lost (caller alice) tokenId])
  refine hguarded.1
    ⟨⟨"rAlice", rfl⟩, _, List.mem_cons_self, by decide +kernel, replica "n1", ?_, rfl⟩
  decide +kernel

end Sample

end Vaulted.MissingReplicas
