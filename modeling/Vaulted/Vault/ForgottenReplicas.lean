import Vaulted.Oracle.FileProxy
import Vaulted.Vault.Tombstone

/-!
# Deletions that forget replicas

The copies of a file are recorded twice: as rows of `file_replicas`, and as the fragments of the
manifest.  `deleteFileStorage` goes through the rows, and removes them all afterwards;
`deleteVault` goes through the manifest, and marks all rows deleted if every fragment of it is gone.

* `Gone` — the node of a replica has confirmed that it does not have it any more.
* `Remembers` — no row is given up before that, and a full success says it of every row.
* `Safe` — when the answers of the nodes, and the rows beside the manifest, allow it.
* `remembers_iff` — the calls are right under that condition only.
* `not_remembers` — a node that was down, and a row that the manifest does not list.
-/

namespace Vaulted.ForgottenReplicas

open Autocommit.Prog Vaults FileProxy

/-! ## The calls -/

inductive Call
  | DeleteFileStorage (env : Env) (auth : AuthenticatedUser) (nftTokenId : String)
  | DeleteVault (env : Env) (auth : AuthenticatedUser) (nftTokenId : String)
      (request : DeleteVaultRequest)

def Call.nftTokenId : Call → String
  | .DeleteFileStorage _ _ nftTokenId | .DeleteVault _ _ nftTokenId _ => nftTokenId

variable (state : AppState)

/-- The database after a call. -/
def after (db : Db) : Call → Db
  | .DeleteFileStorage env auth nftTokenId => (deleteFileStorage env auth nftTokenId db).2
  | .DeleteVault env auth nftTokenId request => (deleteVault state env auth nftTokenId request db).2

/-- The answer is a full success. -/
def Reported (db : Db) : Call → Prop
  | .DeleteFileStorage env auth nftTokenId =>
      ∃ answer, (deleteFileStorage env auth nftTokenId db).1 = .ok answer ∧ answer.success = true
  | .DeleteVault env auth nftTokenId request =>
      ∃ answer, (deleteVault state env auth nftTokenId request db).1 = .ok answer
        ∧ answer.success = true

/-- A request asks the node of a replica to delete it, and the node confirms that it is gone. -/
structure Confirms (db : Db) (r : FileReplica) (request : StorageRequest) : Prop where
  operation : request.token.operation = .Delete
  replica : request.nodeId = r.storageNodeId ∧ request.token.storageKey = r.storageKey
  endpoint : ∃ node, db.storageNodes.get? r.storageNodeId = some node
    ∧ request.endpointUrl = node.endpointUrl
  confirmed : request.answer.confirmsDeletion = true

/-- A request that was made between two states has confirmed that a replica is gone. -/
def Gone (db db' : Db) (r : FileReplica) : Prop :=
  ∃ request ∈ db'.storageRequests.drop db.storageRequests.length, Confirms db r request

/-- The row is still there, and not marked deleted unless it was before. -/
def Kept (db' : Db) (r : FileReplica) : Prop :=
  ∃ r' ∈ db'.fileReplicas.rows, r'.key = r.key ∧ r'.storageKey = r.storageKey
    ∧ (r'.status.val = .Deleted → r.status.val = .Deleted)

/-- No row is forgotten while its node may still hold the fragment, and a deletion that is reported
as complete has removed them all. -/
structure Remembers (db : Db) (call : Call) : Prop where
  kept : ∀ r ∈ db.fileReplicas.rows, Kept (after state db call) r ∨ Gone db (after state db call) r
  reported : Reported state db call → ∀ r ∈ db.fileReplicas.rows,
    r.nftTokenId = call.nftTokenId → Gone db (after state db call) r

/-! ## The condition -/

/-- The manifest lists a replica, under the URL of its node. -/
def Lists (db : Db) (manifest : VaultManifest) (r : FileReplica) : Prop :=
  ∃ f ∈ manifest.fragments, f.storageNodeId = r.storageNodeId ∧ f.storageKey = r.storageKey
    ∧ ∃ node, db.storageNodes.get? r.storageNodeId = some node
      ∧ fragmentEndpoint state db.storageNodes.rows f = node.endpointUrl

/-- Every node with a row confirms; or every row is listed by the manifest, unless some node does
not confirm a fragment of it, in which case no row of the file is marked. -/
def Safe (db : Db) : Call → Prop
  | .DeleteFileStorage env auth nftTokenId => MayDelete env auth nftTokenId db →
      (∀ r ∈ db.fileReplicas.rows, r.nftTokenId = nftTokenId →
        (db.storageNodes.get? r.storageNodeId).isSome = true)
      ∧ allConfirm env 0 (replicaLocations nftTokenId db).length = true
  | .DeleteVault env auth nftTokenId request => ∀ nm manifest,
      Deletable env auth nftTokenId request db nm manifest →
      allConfirm env 0 manifest.fragments.length = true →
      ∀ r ∈ db.fileReplicas.rows, r.nftTokenId = nftTokenId → Lists state db manifest r

/-! ## The requests -/

section Requests

variable {state} {db : Db} {env : Env} {nftTokenId : String}

lemma allConfirm_iff {n len : Nat} :
    allConfirm env n len = true ↔ ∀ i < len, (env.storage (n + i)).confirmsDeletion = true := by
  rw [allConfirm, List.all_eq_true]
  constructor
  · intro h i hi
    exact h (n + i) (List.mem_range'_1.mpr ⟨Nat.le_add_right n i, Nat.add_lt_add_left hi n⟩)
  · intro h i hi
    obtain ⟨hle, hlt⟩ := List.mem_range'_1.mp hi
    obtain ⟨k, rfl⟩ := Nat.exists_eq_add_of_le hle
    exact h k (Nat.lt_of_add_lt_add_left hlt)

lemma mem_replicaLocations {l : Location} : l ∈ replicaLocations nftTokenId db ↔
    ∃ r ∈ db.fileReplicas.rows, r.nftTokenId = nftTokenId ∧ ∃ node,
      db.storageNodes.get? r.storageNodeId = some node
        ∧ l = ⟨r.storageNodeId, r.storageKey, node.endpointUrl⟩ := by
  rw [replicaLocations, List.mem_filterMap]
  constructor
  · rintro ⟨r, hr, hl⟩
    split_ifs at hl with htoken
    obtain ⟨node, hnode, rfl⟩ := Option.map_eq_some_iff.mp hl
    exact ⟨r, hr, htoken, node, hnode, rfl⟩
  · rintro ⟨r, hr, htoken, node, hnode, rfl⟩
    refine ⟨r, hr, ?_⟩
    rw [if_pos htoken, hnode]
    rfl

/-- A node has one row for a file. -/
lemma nodup_replicaLocations (nftTokenId : String) (db : Db) :
    ((replicaLocations nftTokenId db).map Location.nodeId).Nodup := by
  have hkeys : (replicaLocations nftTokenId db).map Location.nodeId
      = (db.fileReplicas.rows.map FileReplica.key).filterMap fun key =>
        if key.1 = nftTokenId then (db.storageNodes.get? key.2).map fun _ => key.2 else none := by
    rw [replicaLocations, List.map_filterMap, List.filterMap_map]
    congr 1
    funext r
    show Option.map Location.nodeId (ite (r.nftTokenId = nftTokenId) _ _)
      = ite (r.nftTokenId = nftTokenId) _ _
    split_ifs
    · exact Option.map_map _ _ _
    · rfl
  rw [hkeys]
  refine db.fileReplicas.nodup.filterMap ?_
  intro key key' nodeId hkey hkey'
  rw [Option.mem_def] at hkey hkey'
  split_ifs at hkey hkey' with htoken htoken'
  obtain ⟨-, -, rfl⟩ := Option.map_eq_some_iff.mp hkey
  obtain ⟨-, -, hnode⟩ := Option.map_eq_some_iff.mp hkey'
  exact Prod.ext (htoken.trans htoken'.symm) hnode.symm

lemma mem_replicaDeletions {ls : List Location} {request : StorageRequest} :
    request ∈ replicaDeletions env nftTokenId 0 ls
      ↔ ∃ i l, ls[i]? = some l ∧ request = replicaDeletion env nftTokenId i l := by
  rw [replicaDeletions, List.mem_map]
  constructor
  · rintro ⟨⟨l, i⟩, hl, rfl⟩
    exact ⟨i, l, List.mk_mem_zipIdx_iff_getElem?.mp hl, rfl⟩
  · rintro ⟨i, l, hl, rfl⟩
    exact ⟨(l, i), List.mk_mem_zipIdx_iff_getElem?.mpr hl, rfl⟩

variable (state) in
/-- Each fragment is asked for, by a request of its own. -/
lemma mem_deleteRequests_of_mem {nodes : List StorageNode} {fragments : List FragmentInfo} {n : Nat}
    {f : FragmentInfo} (hf : f ∈ fragments) : ∃ i < fragments.length,
    deleteRequest state env nodes nftTokenId (n + i) f
      ∈ deleteRequests state env nodes nftTokenId n fragments := by
  induction fragments generalizing n with
  | nil => cases hf
  | cons fragment fragments ih =>
      rcases List.mem_cons.mp hf with rfl | hf
      · exact ⟨0, Nat.succ_pos _, List.mem_cons_self⟩
      · obtain ⟨i, hi, hmem⟩ := ih hf (n := n + 1)
        rw [Nat.add_right_comm] at hmem
        exact ⟨i + 1, Nat.succ_lt_succ hi, List.mem_cons_of_mem _ hmem⟩

/-- The requests that were made, where the log says so. -/
lemma gone_iff {db' : Db} {r : FileReplica} {log : List StorageRequest}
    (hlog : db'.storageRequests = db.storageRequests ++ log) :
    Gone db db' r ↔ ∃ request ∈ log, Confirms db r request := by
  rw [Gone, hlog, List.drop_left]

end Requests

/-! ## The two deletions -/

section Deletions

variable {state} {db : Db} {env : Env} {auth : AuthenticatedUser} {nftTokenId : String}

/-- What leaves the rows alone gives none up. -/
lemma kept_of_mem {db' : Db} {r : FileReplica} (hr : r ∈ db'.fileReplicas.rows) : Kept db' r :=
  ⟨r, hr, rfl, rfl, id⟩

/-- A call that is refused remembers everything. -/
lemma remembers_of_refused {call : Call} (hdb : after state db call = db)
    (hrefused : ¬Reported state db call) : Remembers state db call where
  kept r hr := by
    rw [hdb]
    exact .inl (kept_of_mem hr)
  reported h := absurd h hrefused

/-- A call that reports a full success, and gives up only the rows of the file, is right if they are
all gone. -/
lemma remembers_iff_all_gone {call : Call} {log : List StorageRequest}
    (hlog : (after state db call).storageRequests = db.storageRequests ++ log)
    (hreported : Reported state db call)
    (hothers : ∀ r ∈ db.fileReplicas.rows, r.nftTokenId ≠ call.nftTokenId →
      Kept (after state db call) r) :
    Remembers state db call ↔ ∀ r ∈ db.fileReplicas.rows, r.nftTokenId = call.nftTokenId →
      ∃ request ∈ log, Confirms db r request := by
  have hgone := fun r => gone_iff (r := r) hlog
  constructor
  · exact fun h r hr htoken => (hgone r).mp (h.reported hreported r hr htoken)
  · intro hall
    refine ⟨fun r hr => ?_, fun _ r hr htoken => (hgone r).mpr (hall r hr htoken)⟩
    by_cases htoken : r.nftTokenId = call.nftTokenId
    · exact .inr ((hgone r).mpr (hall r hr htoken))
    · exact .inl (hothers r hr htoken)

/-- A replica is gone if its own request is confirmed. -/
lemma gone_replica_iff {r : FileReplica} {node : StorageNode} {i : Nat}
    (hnode : db.storageNodes.get? r.storageNodeId = some node)
    (hl : (replicaLocations nftTokenId db)[i]?
      = some ⟨r.storageNodeId, r.storageKey, node.endpointUrl⟩) :
    (∃ request ∈ replicaDeletions env nftTokenId 0 (replicaLocations nftTokenId db),
      Confirms db r request) ↔ (env.storage i).confirmsDeletion = true := by
  constructor
  · rintro ⟨request, hrequest, hconfirms⟩
    obtain ⟨i', l', hl', rfl⟩ := mem_replicaDeletions.mp hrequest
    have hmap := congrArg (Option.map Location.nodeId) hl
    have hmap' := congrArg (Option.map Location.nodeId) hl'
    have hsame : l'.nodeId = r.storageNodeId := hconfirms.replica.1
    rw [← List.getElem?_map, Option.map_some] at hmap
    rw [← List.getElem?_map, Option.map_some, hsame] at hmap'
    have hlt : i' < ((replicaLocations nftTokenId db).map Location.nodeId).length :=
      (List.getElem?_eq_some_iff.mp hmap').1
    obtain rfl := (List.getElem?_inj hlt (nodup_replicaLocations nftTokenId db)).mp
      (hmap'.trans hmap.symm)
    exact hconfirms.confirmed
  · intro hconfirmed
    exact ⟨_, mem_replicaDeletions.mpr ⟨i, _, hl, rfl⟩, rfl, ⟨rfl, rfl⟩, ⟨node, hnode, rfl⟩,
      hconfirmed⟩

/-- The rows of a file are gone if every node is on record and confirms. -/
lemma all_gone_replicas_iff : (∀ r ∈ db.fileReplicas.rows, r.nftTokenId = nftTokenId →
      ∃ request ∈ replicaDeletions env nftTokenId 0 (replicaLocations nftTokenId db),
        Confirms db r request)
    ↔ (∀ r ∈ db.fileReplicas.rows, r.nftTokenId = nftTokenId →
        (db.storageNodes.get? r.storageNodeId).isSome = true)
      ∧ allConfirm env 0 (replicaLocations nftTokenId db).length = true := by
  rw [allConfirm_iff]
  constructor
  · refine fun hgone => ⟨fun r hr htoken => ?_, fun i hi => ?_⟩
    · obtain ⟨request, -, hconfirms⟩ := hgone r hr htoken
      obtain ⟨node, hnode, -⟩ := hconfirms.endpoint
      exact Option.isSome_iff_exists.mpr ⟨node, hnode⟩
    · have hl := List.getElem?_eq_getElem hi
      obtain ⟨r, hr, htoken, node, hnode, heq⟩ := mem_replicaLocations.mp (List.getElem_mem hi)
      rw [heq] at hl
      rw [Nat.zero_add]
      exact (gone_replica_iff hnode hl).mp (hgone r hr htoken)
  · rintro ⟨hnodes, hconfirm⟩ r hr htoken
    obtain ⟨node, hnode⟩ := Option.isSome_iff_exists.mp (hnodes r hr htoken)
    have hmem := mem_replicaLocations.mpr ⟨r, hr, htoken, node, hnode, rfl⟩
    obtain ⟨i, hi⟩ := List.mem_iff_getElem?.mp hmem
    have hconfirmed := hconfirm i (List.getElem?_eq_some_iff.mp hi).1
    rw [Nat.zero_add] at hconfirmed
    exact (gone_replica_iff hnode hi).mpr hconfirmed

/-- **The deletion of the files** is right if and only if every node confirms. -/
lemma remembers_file_iff : Remembers state db (.DeleteFileStorage env auth nftTokenId)
    ↔ Safe state db (.DeleteFileStorage env auth nftTokenId) := by
  have hspec := deleteFileStorage_spec env auth nftTokenId db
  rw [wp] at hspec
  generalize hr : (deleteFileStorage env auth nftTokenId db).1 = r at hspec
  generalize hdb : (deleteFileStorage env auth nftTokenId db).2 = db' at hspec
  cases hspec with
  | Refused e hmay =>
      refine iff_of_true (remembers_of_refused hdb ?_) fun h => absurd h hmay
      rintro ⟨answer, hanswer, -⟩
      rw [hr] at hanswer
      cases hanswer
  | Empty hmay hempty =>
      have hlog : (after state db (.DeleteFileStorage env auth nftTokenId)).storageRequests
          = db.storageRequests ++ replicaDeletions env nftTokenId 0
            (replicaLocations nftTokenId db) := by
        rw [after, hdb, hempty]
        exact (List.append_nil _).symm
      have hkept : ∀ r ∈ db.fileReplicas.rows, r.nftTokenId ≠ nftTokenId →
          Kept (after state db (.DeleteFileStorage env auth nftTokenId)) r := by
        intro r hr _
        rw [after, hdb]
        exact kept_of_mem hr
      refine (remembers_iff_all_gone hlog ⟨_, hr, rfl⟩ hkept).trans ?_
      exact all_gone_replicas_iff.trans ⟨fun h _ => h, fun h => h hmay⟩
  | Forgotten count hmay =>
      have hlog : (after state db (.DeleteFileStorage env auth nftTokenId)).storageRequests
          = db.storageRequests ++ replicaDeletions env nftTokenId 0
            (replicaLocations nftTokenId db) := by
        rw [after, hdb]
        rfl
      have hkept : ∀ r ∈ db.fileReplicas.rows, r.nftTokenId ≠ nftTokenId →
          Kept (after state db (.DeleteFileStorage env auth nftTokenId)) r := by
        intro r hr htoken
        rw [after, hdb]
        exact kept_of_mem (List.mem_filter.mpr ⟨hr, by simpa using htoken⟩)
      refine (remembers_iff_all_gone hlog ⟨_, hr, rfl⟩ hkept).trans ?_
      exact all_gone_replicas_iff.trans ⟨fun h _ => h, fun h => h hmay⟩

variable (state db nftTokenId) in
/-- A row that the manifest lists is gone with its fragment. -/
lemma gone_fragment_iff {manifest : VaultManifest} {r : FileReplica}
    (hall : allConfirm env 0 manifest.fragments.length = true) :
    (∃ request ∈ deleteRequests state env db.storageNodes.rows nftTokenId 0 manifest.fragments,
      Confirms db r request) ↔ Lists state db manifest r := by
  constructor
  · rintro ⟨request, hrequest, hconfirms⟩
    obtain ⟨i, f, hf, rfl⟩ := mem_deleteRequests hrequest
    obtain ⟨node, hnode, hendpoint⟩ := hconfirms.endpoint
    exact ⟨f, hf, hconfirms.replica.1, hconfirms.replica.2, node, hnode, hendpoint⟩
  · rintro ⟨f, hf, hid, hkey, node, hnode, hendpoint⟩
    obtain ⟨i, hi, hmem⟩ := mem_deleteRequests_of_mem state hf
    exact ⟨_, hmem, rfl, ⟨hid, hkey⟩, ⟨node, hnode, hendpoint⟩, allConfirm_iff.mp hall i hi⟩

/-- **The deletion of the vault** is right if and only if the manifest lists every row, where its
own fragments are all gone. -/
lemma remembers_vault_iff {request : DeleteVaultRequest} :
    Remembers state db (.DeleteVault env auth nftTokenId request)
      ↔ Safe state db (.DeleteVault env auth nftTokenId request) := by
  by_cases hdeletable : ∃ nm manifest, Deletable env auth nftTokenId request db nm manifest
  · obtain ⟨nm, manifest, hdeletable⟩ := hdeletable
    have hunique : ∀ nm' manifest', Deletable env auth nftTokenId request db nm' manifest' →
        manifest' = manifest := by
      intro nm' manifest' h
      obtain ⟨j, hj, hmanifest⟩ := h.listed
      exact (hdeletable.unique h.found hj hmanifest).2
    obtain ⟨answer, hanswer, hsuccess, hdb⟩ := deleteVault_of_deletable state hdeletable
    cases hall : allConfirm env 0 manifest.fragments.length with
    | false =>
        rw [hsuccess, hall] at hdb
        refine iff_of_true ⟨fun r hr => .inl ?_, fun hreported => ?_⟩
          fun nm' manifest' h hall' => ?_
        · rw [after, hdb]
          exact kept_of_mem hr
        · obtain ⟨answer', hanswer', hsuccess'⟩ := hreported
          rw [hanswer] at hanswer'
          rw [← Except.ok.inj hanswer', hsuccess, hall] at hsuccess'
          cases hsuccess'
        · rw [hunique nm' manifest' h, hall] at hall'
          cases hall'
    | true =>
        rw [hsuccess, hall] at hdb
        have hlog : (after state db (.DeleteVault env auth nftTokenId request)).storageRequests
            = db.storageRequests ++ deleteRequests state env db.storageNodes.rows nftTokenId 0
              manifest.fragments := by
          rw [after, hdb]
          rfl
        have hreported : Reported state db (.DeleteVault env auth nftTokenId request) :=
          ⟨answer, hanswer, hsuccess.trans hall⟩
        have hkept : ∀ r ∈ db.fileReplicas.rows, r.nftTokenId ≠ nftTokenId →
            Kept (after state db (.DeleteVault env auth nftTokenId request)) r := by
          intro r hr htoken
          have htoken' : r.nftTokenId ≠ nm.nftTokenId := by
            rwa [(Indexed.find?_eq_some.mp hdeletable.found).2]
          rw [after, hdb]
          exact kept_of_mem (List.mem_map.mpr ⟨r, hr, if_neg (by simpa using htoken')⟩)
        refine (remembers_iff_all_gone hlog hreported hkept).trans ?_
        have hgone := fun r => gone_fragment_iff state db nftTokenId (r := r) hall
        constructor
        · intro hlisted nm' manifest' h _ r hr htoken
          rw [hunique nm' manifest' h]
          exact (hgone r).mp (hlisted r hr htoken)
        · intro hsafe r hr htoken
          exact (hgone r).mpr (hsafe nm manifest hdeletable hall r hr htoken)
  · have hspec := deleteVault_spec state env auth nftTokenId request db
    rw [wp] at hspec
    generalize hr : (deleteVault state env auth nftTokenId request db).1 = r at hspec
    generalize hdb : (deleteVault state env auth nftTokenId request db).2 = db' at hspec
    cases hspec with
    | Refused e =>
        refine iff_of_true (remembers_of_refused hdb ?_) fun nm manifest h =>
          absurd ⟨nm, manifest, h⟩ hdeletable
        rintro ⟨answer, hanswer, -⟩
        rw [hr] at hanswer
        cases hanswer
    | Deleted nm manifest storageDeleted answer h => exact absurd ⟨nm, manifest, h⟩ hdeletable

end Deletions

/-- **A deletion forgets no replica if and only if** it is safe: the deletion of the files asks
nodes that all confirm, and the deletion of the vault goes through a manifest that lists every row.
Both change the rows of the file at their end, whatever the nodes have answered about them. -/
theorem remembers_iff (db : Db) (call : Call) : Remembers state db call ↔ Safe state db call := by
  cases call with
  | DeleteFileStorage env auth nftTokenId => exact remembers_file_iff
  | DeleteVault env auth nftTokenId request => exact remembers_vault_iff

/-! ## Two forgotten replicas

The file of Alice's vault is on two nodes.  The manifest lists the copy on the second one, where the
last upload has put it. -/

namespace Sample

open Transfers.Sample

def node (id : String) : StorageNode where
  id := id
  endpointUrl := "https://" ++ id
  region := "eu"
  status := .Active
  totalSpaceBytes := 1000
  usedSpaceBytes := 0
  healthCheckFailures := 0

def replica (nodeId : String) : FileReplica where
  nftTokenId := tokenId
  storageNodeId := nodeId
  storageKey := nodeStorageKey tokenId 0
  sizeBytes := 1
  status := ReplicaStatus.active

def fragment : FragmentInfo where
  index := 0
  storageNodeId := "n2"
  storageKey := nodeStorageKey tokenId 0
  encryptedHash := ""
  size := 1

def manifest : VaultManifest := ⟨"", 1, "", "", [fragment]⟩

def vault : NftMetadata := { nft with manifest := some manifest.toJson }

def stored : Db :=
  { db [] List.nodup_nil with
    nftMetadata := ⟨⟨[vault], List.nodup_singleton _⟩, List.nodup_singleton _⟩
    storageNodes := ⟨[node "n1", node "n2"], by decide⟩
    fileReplicas := ⟨[replica "n1", replica "n2"], by decide⟩ }

/-- The ledger lists Alice's NFT, and the first node is down. -/
def down : Env :=
  { env ⟨""⟩ with
    xrpl _ _ := .ok (.Obj [("result", .Obj [("account_nfts", .Arr
      [.Obj [("NFTokenID", .Str tokenId)]])])])
    storage n := if n = 0 then .TransportError else .Status 200 (.ok []) }

/-- The NFT is burned, and every node confirms. -/
def confirming : Env := { Tombstone.Sample.burnt with storage := fun _ => .Status 200 (.ok []) }

def request : DeleteVaultRequest := ⟨"rAlice", some Tombstone.Sample.txHash⟩

lemma mayDelete : MayDelete down (caller alice) tokenId stored := ⟨"rAlice", rfl⟩

lemma deletable : Deletable confirming (caller alice) tokenId request stored vault manifest where
  caller := by decide
  found := rfl
  owner := ⟨"rAlice", rfl, by decide⟩
  burned := ⟨Tombstone.Sample.txHash, rfl, by decide +kernel⟩
  untransferred := by decide
  listed := ⟨_, rfl, rfl⟩

/-- **A live copy is forgotten**, by either deletion: the node that was down loses its row, and the
row that the manifest does not list is marked deleted, both with a full success. -/
theorem not_remembers :
    ¬Remembers Tombstone.Sample.oracle stored (.DeleteFileStorage down (caller alice) tokenId)
      ∧ ¬Remembers Tombstone.Sample.oracle stored
        (.DeleteVault confirming (caller alice) tokenId request) := by
  rw [remembers_file_iff, remembers_vault_iff]
  constructor
  · intro hsafe
    have hconfirm := allConfirm_iff.mp (hsafe mayDelete).2 0 (by decide)
    exact absurd hconfirm (by decide)
  · intro hsafe
    obtain ⟨f, hf, hnode, -⟩ := hsafe vault manifest deletable (by decide) (replica "n1")
      List.mem_cons_self rfl
    rw [List.mem_singleton.mp hf] at hnode
    exact absurd hnode (by decide)

end Sample

end Vaulted.ForgottenReplicas
