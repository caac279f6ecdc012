import Vaulted.Desktop.ClaimPaysNothing
import Vaulted.Vault.Tombstone

/-!
# A deletion is not resumed

`delete_vault` of the client burns the NFT, waits until the burn is validated, and hands over to
`delete_vault` of the Oracle, which deletes the fragments and tombstones the vault.  Each of the three
steps can fail for good, and the user is then told that the deletion is partial.

* `Encounter` — the outside world at one request: what it answers, and whether the Oracle gets to
  handle the request, whose answer may still be lost.
* `Deleted` — what a deletion is for; `Resumes` — a later call gets there without a second burn.
* `BurnAccepted`, `Healthy` — the first call, and the later one.
* `after_eq` — what a first call leaves.
* `resumes_iff` — a later call never does anything: the deletion is resumed only if nothing was left
  to be done.
* `not_resumes` — the Oracle was unreachable, and the owner is refused from then on.
-/

namespace Vaulted.ResumeDeletion

open Commands Interleaving XrplWallet

/-! ## What is observed -/

/-- The Oracle knows the caller and handles the request, or does not get it. -/
structure Encounter extends Commands.Moment where
  handled : Option (AuthenticatedUser × Env)

structure System where
  time : Nat
  db : Db
  submitted : Nat

variable (state : AppState)

/-- The database of the Oracle after a statement of the client. -/
def cleaned (e : Encounter) (db : Db) : Statement → Db
  | .PostDelete nftTokenId request =>
      match e.handled with
      | some (auth, env) =>
          (Vaults.deleteVault state env auth nftTokenId
            ⟨request.walletAddress, some request.burnTxHash⟩ db).2
      | none => db
  | _ => db

/-- The transactions that a statement submits. -/
def submissions : Statement → Nat
  | .Request "submit" _ => 1
  | _ => 0

def serve (world : Nat → Encounter) (s : Statement) (_ : Unit) (sys : System) :
    Answer s × System :=
  ((world sys.time).answer s,
    { time := sys.time + 1
      db := cleaned state (world sys.time) sys.db s
      submitted := sys.submitted + submissions s })

/-- A command goes on at some moment. -/
def goOn {α : Type} (world : Nat → Encounter) (p : Program Unit α) (sys : System) : System :=
  (p.run (serve state world) (fun _ => ()) sys).2

/-- A call of the command. -/
abbrev call (world : Nat → Encounter) (nftTokenId : String) (db : Db) : System :=
  goOn state world (deleteVault nftTokenId) ⟨0, db, 0⟩

/-- What a call leaves at the Oracle. -/
abbrev after (world : Nat → Encounter) (nftTokenId : String) (db : Db) : Db :=
  (call state world nftTokenId db).db

/-- A node has confirmed that it does not have a fragment any more. -/
def Erased (log : List StorageRequest) (nftTokenId : String) (f : Vaults.FragmentInfo) : Prop :=
  ∃ r ∈ log, r.token.operation = .Delete ∧ r.token.nftTokenId = nftTokenId
    ∧ r.token.storageKey = f.storageKey ∧ r.nodeId = f.storageNodeId
    ∧ (r.answer.isSuccess || r.answer.isNotFound) = true

/-- The vault is tombstoned, and its fragments are gone. -/
def Deleted (nftTokenId : String) (db : Db) : Prop :=
  ∃ nm j manifest, db.nftMetadata.find? nftTokenId = some nm ∧ Tombstone.Tombstoned nm.id db
    ∧ nm.manifest = some j ∧ Vaults.VaultManifest.fromJson j = .ok manifest
    ∧ ∀ f ∈ manifest.fragments, Erased db.storageRequests nftTokenId f

/-- A call, with the database as it finds it, ends with the vault deleted and without a burn. The
burn of the first call is final, so that another one could only fail or burn something else. -/
structure Resumes (world : Nat → Encounter) (nftTokenId : String) (db : Db) : Prop where
  deleted : Deleted nftTokenId (after state world nftTokenId db)
  once : (call state world nftTokenId db).submitted = 0

/-! ## The two calls -/

/-- The session is that of the local wallet, and the ledger can be reached. -/
structure Reaches (world : Nat → Encounter) (account walletAddress : String) : Prop where
  session : (world 0).answer .GetSession = .ok walletAddress
  wallet : (world 1).answer .GetXrplWallet = .ok account
  same : Text.eqIgnoreAsciiCase account walletAddress = true
  connected : (world 2).answer .Connect = .ok ()

/-- The tokens of an account, as the ledger lists them. -/
def listed (m : Commands.Moment) (account : String) : Except Stop (List String) :=
  reading accountNfts (m.answer (.Request "account_nfts" (validatedAccount account)))

def Lists (m : Commands.Moment) (account nftTokenId : String) : Prop :=
  ∃ nfts, listed m account = .ok nfts ∧ nftTokenId ∈ nfts

/-- The burn of a token is signed. -/
def SignsBurn (world : Nat → Encounter) (account nftTokenId txBlob : String) : Prop :=
  ∃ tx, Ready (fun n => (world n).toMoment) 4 account (.BurnVaultNft nftTokenId)
    (buildNftokenBurnTx account nftTokenId) tx txBlob

/-- The burn of a call is accepted by the ledger. -/
structure BurnAccepted (world : Nat → Encounter) (account walletAddress nftTokenId : String)
    (submit : SubmitResult) : Prop extends Reaches world account walletAddress where
  lists : Lists (world 3).toMoment account nftTokenId
  submitted : ∃ txBlob, SignsBurn world account nftTokenId txBlob
    ∧ submission (world 8).toMoment txBlob = .ok submit
  accepted : submit.accepted = true

/-- Nothing fails on the way to the ledger: it says which tokens the account has, and a burn would
be signed. -/
structure Healthy (world : Nat → Encounter) (account walletAddress nftTokenId : String) : Prop
    extends Reaches world account walletAddress where
  listed : ∃ nfts, listed (world 3).toMoment account = .ok nfts
  signs : ∃ txBlob, SignsBurn world account nftTokenId txBlob

/-- The `i`-th lookup fails, or finds that the burn is not validated yet, so that there is another
one; a panic is the end of the call, and the lookups are counted. -/
def Undecided (world : Nat → Encounter) (account nftTokenId txHash : String) (i : Nat) : Prop :=
  Missed (world (9 + 2 * i)).toMoment txHash
    ∨ ∃ response, lookup (world (9 + 2 * i)).toMoment txHash = .ok response
      ∧ burnStatus nftTokenId account response = none

/-- The `n`-th lookup is the first that says what became of the burn, and it is validated. -/
structure Validated (world : Nat → Encounter) (account nftTokenId txHash : String) (n : Nat) :
    Prop where
  within : n < maxAttempts
  undecided : ∀ i < n, Undecided world account nftTokenId txHash i
  validated : ∃ response, lookup (world (9 + 2 * n)).toMoment txHash = .ok response
    ∧ burnStatus nftTokenId account response = some (.ok ())

/-- The Oracle has asked the nodes to delete the fragments of a manifest. -/
abbrev asked (env : Env) (nftTokenId : String) (manifest : Vaults.VaultManifest) (db : Db) : Db :=
  { db with
    storageRequests := db.storageRequests
      ++ Vaults.deleteRequests state env db.storageNodes.rows nftTokenId 0 manifest.fragments }

/-- The Oracle gets a request to delete a vault, accepts it, and every fragment is confirmed. -/
def Erases (env : Env) (auth : AuthenticatedUser) (nftTokenId : String)
    (request : Vaults.DeleteVaultRequest) (db : Db) : Prop :=
  ∃ nm manifest, Vaults.Deletable env auth nftTokenId request db nm manifest
    ∧ (∃ vo, db.vaultObjects.get? nm.id.text = some vo)
    ∧ ∀ f ∈ manifest.fragments,
      Erased (asked state env nftTokenId manifest db).storageRequests nftTokenId f

/-- Nothing is left to be done once the burn is validated: only the answer to the client can still
be lost. -/
def Completes (world : Nat → Encounter) (account walletAddress nftTokenId : String)
    (submit : SubmitResult) (db : Db) : Prop :=
  ∃ n auth env, Validated world account nftTokenId submit.txHash n
    ∧ (world (11 + 2 * n)).handled = some (auth, env)
    ∧ Erases state env auth nftTokenId ⟨walletAddress, some submit.txHash⟩ db

/-! ## What a call does -/

section Call

variable {state} {α β : Type} {world : Nat → Encounter} {sys : System}

lemma goOn_exec (s : Statement) (k : Answer s → Unit → Program Unit α) :
    goOn state world (.Exec s k) sys
      = goOn state world (k ((world sys.time).answer s) ())
          ⟨sys.time + 1, cleaned state (world sys.time) sys.db s,
            sys.submitted + submissions s⟩ := rfl

lemma goOn_orFail_ok {answer : Except ClientError β} {b : β} {k : β → Program Unit α}
    (hanswer : answer = .ok b) :
    goOn state world (orFail answer k) sys = goOn state world (k b) sys := by
  rw [hanswer]
  rfl

lemma goOn_orStop_ok {answer : Except Stop β} {b : β} {k : β → Program Unit α}
    (hanswer : answer = .ok b) :
    goOn state world (orStop answer k) sys = goOn state world (k b) sys := by
  rw [hanswer]
  rfl

lemma goOn_request_ok {command : String} {params : List (String × Json)}
    {read : Json → Except ClientError β} {k : β → Program Unit α} {b : β}
    (hread : reading read ((world sys.time).answer (.Request command params)) = .ok b) :
    goOn state world (request command params read k) sys
      = goOn state world (k b)
          ⟨sys.time + 1, sys.db, sys.submitted + submissions (.Request command params)⟩ := by
  rw [request, goOn_exec, goOn_orStop_ok hread]
  rfl

/-- What is submitted stays submitted. -/
lemma submitted_le_goOn (p : Program Unit α) (sys : System) :
    sys.submitted ≤ (goOn state world p sys).submitted := by
  induction p generalizing sys with
  | Done a => exact Nat.le_refl _
  | Exec s k ih =>
      rw [goOn_exec]
      exact Nat.le_trans (Nat.le_add_right sys.submitted (submissions s)) (ih _ _ ⟨_, _, _⟩)

/-- A signed transaction is submitted, whatever the ledger says about it. -/
lemma goOn_signAndSubmit {account missing txBlob : String} {intent : XrplSigningIntent}
    {unsigned tx : Json} {db : Db} {n : Nat} {t : Nat} (k : SubmitResult → Program Unit α)
    (hready : Ready (fun n => (world n).toMoment) t account intent unsigned tx txBlob) :
    goOn state world (signAndSubmit account intent unsigned missing k) ⟨t, db, n⟩
      = goOn state world (orStop (submission (world (t + 4)).toMoment txBlob) k)
          ⟨t + 5, db, n + 1⟩ := by
  obtain ⟨info, fee, index, hinfo, hfee, hindex, htx⟩ := hready.fields
  rw [signAndSubmit, goOn_request_ok hinfo, goOn_request_ok hfee, goOn_request_ok hindex, ← htx,
    signTx, hready.valid, Pre.mapErr, goOn_orFail_ok rfl, goOn_exec]
  have hsigned :
      Pre.mapErr ClientError.Crypto ((world (t + 3)).answer (.Sign tx)) = .ok (some txBlob) := by
    rw [hready.signed]
    rfl
  exact goOn_orFail_ok hsigned

/-- The owner of a token gets to burn it. -/
lemma goOn_requireNftOwner {account nftTokenId : String} {nfts : List String}
    (k : Program Unit α) (hlisted : listed (world sys.time).toMoment account = .ok nfts) :
    goOn state world (requireNftOwner nftTokenId account k) sys
      = if nftTokenId ∈ nfts then goOn state world k ⟨sys.time + 1, sys.db, sys.submitted⟩
        else ⟨sys.time + 1, sys.db, sys.submitted⟩ := by
  have hmem : (nfts.any fun id => decide (id = nftTokenId)) = true ↔ nftTokenId ∈ nfts := by
    simp
  rw [requireNftOwner, goOn_exec]
  rw [listed] at hlisted
  rw [hlisted]
  simp only [hmem]
  split_ifs <;> rfl

/-- The way to the ledger. -/
lemma call_eq {account walletAddress nftTokenId : String} {db : Db}
    (h : Reaches world account walletAddress) :
    call state world nftTokenId db = goOn state world (requireNftOwner nftTokenId account
      (signAndSubmit account (.BurnVaultNft nftTokenId) (buildNftokenBurnTx account nftTokenId)
        "Signed NFTokenBurn transaction is missing tx_blob"
        (burnSubmitted nftTokenId account walletAddress))) ⟨3, db, 0⟩ := by
  rw [call, deleteVault, goOn_exec, goOn_orFail_ok h.session, goOn_exec, goOn_orFail_ok h.wallet,
    h.same, Bool.not_true, if_neg Bool.false_ne_true, goOn_exec, goOn_orFail_ok h.connected]
  rfl

/-- The Oracle's part of a deletion. -/
lemma goOn_deleteAtOracle (nftTokenId walletAddress : String) (submit : SubmitResult) :
    (goOn state world (deleteAtOracle nftTokenId walletAddress submit) sys).db
      = cleaned state (world (sys.time + 1)) sys.db
          (.PostDelete nftTokenId ⟨walletAddress, submit.txHash⟩) := by
  rw [deleteAtOracle, goOn_exec, goOn_exec]
  generalize (world _).answer (.PostDelete nftTokenId ⟨walletAddress, submit.txHash⟩) = answer
  cases answer with
  | error e => rfl
  | ok answer =>
      cases answer with
      | Failed status errorText => rfl
      | Succeeded body => cases body <;> rfl

/-- What a call leaves once its burn has been submitted. -/
inductive Leaves (state : AppState) (world : Nat → Encounter) (account nftTokenId : String)
    (request : OracleDeleteVaultRequest) (db : Db) : Db → Prop
  | HandedOver (n : Nat) : Validated world account nftTokenId request.burnTxHash n →
      Leaves state world account nftTokenId request db
        (cleaned state (world (11 + 2 * n)) db (.PostDelete nftTokenId request))
  | Kept : (∀ n, ¬Validated world account nftTokenId request.burnTxHash n) →
      Leaves state world account nftTokenId request db db

lemma Validated.decided {account nftTokenId txHash : String} {n : Nat}
    (h : Validated world account nftTokenId txHash n) :
    ¬Undecided world account nftTokenId txHash n := by
  obtain ⟨response, hlookup, hstatus⟩ := h.validated
  rintro (⟨e, he⟩ | ⟨response', hlookup', hstatus'⟩)
  · rw [hlookup] at he
    cases he
  · rw [hlookup] at hlookup'
    rw [← Except.ok.inj hlookup', hstatus] at hstatus'
    cases hstatus'

/-- Nothing is validated when the first decisive lookup has found something else. -/
lemma not_validated_of_decided {account nftTokenId txHash : String} {j : Nat}
    (hundecided : ∀ i < j, Undecided world account nftTokenId txHash i)
    (hdecided : ¬Undecided world account nftTokenId txHash j)
    (hother : ∀ response, lookup (world (9 + 2 * j)).toMoment txHash = .ok response →
      burnStatus nftTokenId account response ≠ some (.ok ())) (n : Nat) :
    ¬Validated world account nftTokenId txHash n := by
  intro h
  rcases Nat.lt_trichotomy n j with hlt | rfl | hgt
  · exact h.decided (hundecided n hlt)
  · obtain ⟨response, hlookup, hstatus⟩ := h.validated
    exact hother response hlookup hstatus
  · exact hdecided (h.undecided j hgt)

/-- The wait for the validation, from the `j`-th lookup on. -/
lemma leaves_wait {account nftTokenId walletAddress : String} {submit : SubmitResult} {db : Db}
    {m : Nat} (attempts j : Nat) (hj : attempts + j = maxAttempts)
    (hundecided : ∀ i < j, Undecided world account nftTokenId submit.txHash i) :
    Leaves state world account nftTokenId ⟨walletAddress, submit.txHash⟩ db
      (goOn state world (waitForValidatedNftokenBurn submit.txHash nftTokenId account
        (burnWaited nftTokenId walletAddress submit) attempts) ⟨9 + 2 * j, db, m⟩).db := by
  induction attempts generalizing j m with
  | zero =>
      refine .Kept fun n h => h.decided (hundecided n ?_)
      have hwithin := h.within
      omega
  | succ attempts ih =>
      rw [waitForValidatedNftokenBurn, goOn_exec]
      -- what follows a lookup that decides nothing
      have hagain : ∀ e, Undecided world account nftTokenId submit.txHash j → ∀ m,
          Leaves state world account nftTokenId ⟨walletAddress, submit.txHash⟩ db
            (goOn state world
              (if attempts = 0 then burnWaited nftTokenId walletAddress submit (.error e)
              else .Exec .Sleep fun _ _ => waitForValidatedNftokenBurn submit.txHash nftTokenId account
                (burnWaited nftTokenId walletAddress submit) attempts) ⟨9 + 2 * j + 1, db, m⟩).db := by
        intro e hthis m
        have hnext : ∀ i < j + 1, Undecided world account nftTokenId submit.txHash i := by
          intro i hi
          rcases Nat.lt_succ_iff_lt_or_eq.mp hi with hlt | rfl
          · exact hundecided i hlt
          · exact hthis
        split_ifs with hlast
        · exact .Kept fun n h => h.decided (hnext n (by have := h.within; omega))
        · rw [goOn_exec]
          exact ih (j + 1) (by omega) hnext
      dsimp only
      rw [show answered _ = lookup (world (9 + 2 * j)).toMoment submit.txHash from rfl]
      cases hlookup : lookup (world (9 + 2 * j)).toMoment submit.txHash with
      | error e =>
          cases e with
          | Panicked =>
              refine .Kept (not_validated_of_decided hundecided ?_ fun response hok => ?_)
              · rintro (⟨e, he⟩ | ⟨response, hok, -⟩)
                · rw [hlookup] at he
                  cases he
                · rw [hlookup] at hok
                  cases hok
              · rw [hlookup] at hok
                cases hok
          | Error e =>
              have h := hagain e (.inl ⟨e, hlookup⟩) m
              dsimp only
              split_ifs at h ⊢ with hlast <;> exact h
      | ok response =>
          dsimp only
          cases hstatus : burnStatus nftTokenId account response with
          | none => exact hagain _ (.inr ⟨response, hlookup, hstatus⟩) m
          | some outcome =>
              cases outcome with
              | error e =>
                  refine .Kept (not_validated_of_decided hundecided ?_ fun response' hok hvalid => ?_)
                  · rintro (⟨e, he⟩ | ⟨response', hok, hnone⟩)
                    · rw [hlookup] at he
                      cases he
                    · rw [hlookup] at hok
                      rw [← Except.ok.inj hok, hstatus] at hnone
                      cases hnone
                  · rw [hlookup] at hok
                    rw [← Except.ok.inj hok, hstatus] at hvalid
                    cases hvalid
              | ok _ =>
                  show Leaves _ _ _ _ _ _ (goOn state world (deleteAtOracle _ _ _) _).db
                  have htime : 9 + 2 * j + 1 + 1 = 11 + 2 * j := by omega
                  rw [goOn_deleteAtOracle, htime]
                  exact .HandedOver j ⟨by omega, hundecided, response, hlookup, hstatus⟩

variable (state) in
/-- **What a first call leaves**: it hands the vault over to the Oracle once its burn is validated,
and does nothing otherwise. -/
theorem leaves_of_burnAccepted {account walletAddress nftTokenId : String} {submit : SubmitResult}
    (db : Db) (h : BurnAccepted world account walletAddress nftTokenId submit) :
    Leaves state world account nftTokenId ⟨walletAddress, submit.txHash⟩ db
      (after state world nftTokenId db) := by
  obtain ⟨nfts, hlisted, hmem⟩ := h.lists
  obtain ⟨txBlob, ⟨tx, hready⟩, hsubmit⟩ := h.submitted
  rw [after, call_eq h.toReaches, goOn_requireNftOwner _ hlisted, if_pos hmem,
    goOn_signAndSubmit _ hready, goOn_orStop_ok hsubmit, burnSubmitted, h.accepted,
    if_neg (by decide)]
  exact leaves_wait maxAttempts 0 rfl fun i hi => absurd hi (Nat.not_lt_zero i)

end Call

/-! ## What is left at the Oracle -/

section Oracle

variable {state} {nftTokenId : String} {db : Db}

/-- The row of a deleted vault. -/
lemma find?_tombstoned {nm : NftMetadata} (storageDeleted : Bool)
    (hnm : db.nftMetadata.find? nftTokenId = some nm) :
    (Vaults.tombstoned nm storageDeleted db).nftMetadata.find? nftTokenId
      = some { nm with status := NftStatus.archived } := by
  have hrow : (Vaults.tombstoned nm storageDeleted db).nftMetadata.get? nm.id
      = some { nm with status := NftStatus.archived } := by
    rw [Vaults.tombstoned, get?_withNft, if_pos rfl]
    split_ifs <;> exact congrArg _ (Indexed.get?_of_find? hnm)
  rw [← (Indexed.find?_eq_some.mp hnm).2]
  exact Indexed.find?_of_get? hrow

lemma storageRequests_tombstoned (nm : NftMetadata) (storageDeleted : Bool) (db : Db) :
    (Vaults.tombstoned nm storageDeleted db).storageRequests = db.storageRequests := by
  cases storageDeleted <;> rfl

lemma Erased.append {log new : List StorageRequest} {f : Vaults.FragmentInfo}
    (h : Erased log nftTokenId f) : Erased (log ++ new) nftTokenId f := by
  obtain ⟨r, hr, hf⟩ := h
  exact ⟨r, List.mem_append_left _ hr, hf⟩

lemma get?_tombstoned (nm : NftMetadata) (storageDeleted : Bool) (db : Db) :
    (Vaults.tombstoned nm storageDeleted db).vaultObjects.get? nm.id.text
      = (db.vaultObjects.get? nm.id.text).map fun vo => { vo with status := .Deleted } := by
  have hobjects : (Vaults.tombstoned nm storageDeleted db).vaultObjects
      = db.vaultObjects.update nm.id.text (fun vo => { vo with status := .Deleted })
        fun _ => rfl := by
    cases storageDeleted <;> rfl
  rw [hobjects, Table.get?_update_self]

/-- **A vault is deleted after a request** if it was deleted before, or the request deletes it. -/
theorem deleted_deleteVault_iff (env : Env) (auth : AuthenticatedUser)
    (request : Vaults.DeleteVaultRequest) :
    Deleted nftTokenId (Vaults.deleteVault state env auth nftTokenId request db).2
      ↔ Deleted nftTokenId db ∨ Erases state env auth nftTokenId request db := by
  have hspec := Vaults.deleteVault_spec state env auth nftTokenId request db
  have hok : ∀ nm manifest, Vaults.Deletable env auth nftTokenId request db nm manifest →
      ∃ answer, (Vaults.deleteVault state env auth nftTokenId request db).1 = .ok answer := by
    intro nm manifest h
    obtain ⟨answer, hanswer, -⟩ := Vaults.deleteVault_of_deletable state h
    exact ⟨answer, hanswer⟩
  simp only [Autocommit.Prog.wp] at hspec
  generalize hresult : Vaults.deleteVault state env auth nftTokenId request db = result
    at hspec hok ⊢
  obtain ⟨r, db'⟩ := result
  dsimp only at hspec hok ⊢
  cases hspec with
  | Refused e =>
      refine ⟨.inl, fun h => h.resolve_right ?_⟩
      rintro ⟨nm, manifest, hdeletable, -⟩
      obtain ⟨answer, hanswer⟩ := hok nm manifest hdeletable
      cases hanswer
  | Deleted nm manifest storageDeleted answer hdeletable =>
      have hfind : (Vaults.tombstoned nm storageDeleted
          (asked state env nftTokenId manifest db)).nftMetadata.find? nftTokenId = _ :=
        find?_tombstoned storageDeleted hdeletable.found
      have hdeleted : (∃ vo, db.vaultObjects.get? nm.id.text = some vo) →
          (∀ f ∈ manifest.fragments,
            Erased (asked state env nftTokenId manifest db).storageRequests nftTokenId f) →
          Deleted nftTokenId (Vaults.tombstoned nm storageDeleted
            (asked state env nftTokenId manifest db)) := by
        rintro ⟨vo, hvo⟩ herased
        obtain ⟨j, hj, hmanifest⟩ := hdeletable.listed
        have htomb : Tombstone.Tombstoned nm.id (Vaults.tombstoned nm storageDeleted
            (asked state env nftTokenId manifest db)) :=
          Tombstone.tombstoned_deleteVault state hdeletable.found hvo hresult
        rw [← storageRequests_tombstoned nm storageDeleted] at herased
        exact ⟨_, j, manifest, hfind, htomb, hj, hmanifest, herased⟩
      constructor
      · rintro ⟨nm', j, manifest', hnm', htomb, hj, hmanifest, herased⟩
        obtain rfl := Option.some.inj (hfind.symm.trans hnm')
        obtain ⟨-, rfl⟩ := hdeletable.unique hdeletable.found hj hmanifest
        rw [storageRequests_tombstoned] at herased
        obtain ⟨vo, hvo, -⟩ := htomb.deleted
        rw [get?_tombstoned] at hvo
        obtain ⟨vo', hvo', -⟩ := Option.map_eq_some_iff.mp hvo
        exact .inr ⟨nm, manifest', hdeletable, ⟨vo', hvo'⟩, herased⟩
      · rintro (⟨nm', j, manifest', hnm', htomb, hj, hmanifest, herased⟩
          | ⟨nm', manifest', hdeletable', hobject, herased⟩)
        · obtain ⟨rfl, rfl⟩ := hdeletable.unique hnm' hj hmanifest
          obtain ⟨vo, hvo, -⟩ := htomb.deleted
          exact hdeleted ⟨vo, hvo⟩ fun f hf => (herased f hf).append
        · obtain ⟨j, hj, hmanifest⟩ := hdeletable'.listed
          obtain ⟨rfl, rfl⟩ := hdeletable.unique hdeletable'.found hj hmanifest
          exact hdeleted hobject herased

end Oracle

/-! ## The later call -/

section Retry

variable {first second : Nat → Encounter} {account walletAddress nftTokenId : String}
  {submit : SubmitResult}

/-- What a first call leaves is deleted if it was deleted before, or nothing was left to be done. -/
lemma deleted_after_iff (db : Db)
    (h : BurnAccepted first account walletAddress nftTokenId submit) :
    Deleted nftTokenId (after state first nftTokenId db)
      ↔ Deleted nftTokenId db
        ∨ Completes state first account walletAddress nftTokenId submit db := by
  have hleaves := leaves_of_burnAccepted state db h
  generalize after state first nftTokenId db = db' at hleaves ⊢
  cases hleaves with
  | Kept hnone =>
      refine ⟨.inl, fun h => h.resolve_right ?_⟩
      rintro ⟨n, auth, env, hvalidated, -⟩
      exact hnone n hvalidated
  | HandedOver n hvalidated =>
      have hunique : ∀ n', Validated first account nftTokenId submit.txHash n' → n' = n := by
        intro n' hvalidated'
        rcases Nat.lt_trichotomy n' n with hlt | heq | hgt
        · exact absurd (hvalidated.undecided n' hlt) hvalidated'.decided
        · exact heq
        · exact absurd (hvalidated'.undecided n hgt) hvalidated.decided
      rw [cleaned]
      cases hhandled : (first (11 + 2 * n)).handled with
      | none =>
          refine ⟨.inl, fun h => h.resolve_right ?_⟩
          rintro ⟨n', auth, env, hvalidated', hhandled', -⟩
          rw [hunique n' hvalidated', hhandled] at hhandled'
          cases hhandled'
      | some handler =>
          obtain ⟨auth, env⟩ := handler
          refine (deleted_deleteVault_iff env auth _).trans (or_congr_right ⟨fun herases => ?_, ?_⟩)
          · exact ⟨n, auth, env, hvalidated, hhandled, herases⟩
          · rintro ⟨n', auth', env', hvalidated', hhandled', herases⟩
            rw [hunique n' hvalidated', hhandled] at hhandled'
            cases hhandled'
            exact herases

/-- Who is not listed as the owner is refused, and who is burns again. -/
lemma call_of_healthy (db : Db) (h : Healthy second account walletAddress nftTokenId) :
    (¬Lists (second 3).toMoment account nftTokenId
        ∧ call state second nftTokenId db = ⟨4, db, 0⟩)
      ∨ (Lists (second 3).toMoment account nftTokenId
        ∧ 0 < (call state second nftTokenId db).submitted) := by
  obtain ⟨nfts, hlisted⟩ := h.listed
  obtain ⟨txBlob, tx, hready⟩ := h.signs
  have hlists : Lists (second 3).toMoment account nftTokenId ↔ nftTokenId ∈ nfts := by
    constructor
    · rintro ⟨nfts', hlisted', hmem⟩
      rw [hlisted] at hlisted'
      rwa [Except.ok.inj hlisted']
    · exact fun hmem => ⟨nfts, hlisted, hmem⟩
  rw [hlists, call_eq h.toReaches, goOn_requireNftOwner _ hlisted]
  split_ifs with hmem
  · rw [goOn_signAndSubmit _ hready]
    exact .inr ⟨hmem, submitted_le_goOn _ ⟨9, db, 1⟩⟩
  · exact .inl ⟨hmem, rfl⟩

/-- **A deletion is resumed if and only if nothing is left to be done**: the burn is validated, and
the Oracle has already carried out the request of the first call. A later call by the owner, with
every service healthy, stops at the check of ownership then, and otherwise burns a second time. -/
theorem resumes_iff (db : Db)
    (hburn : BurnAccepted first account walletAddress nftTokenId submit)
    (hretry : Healthy second account walletAddress nftTokenId) :
    Resumes state second nftTokenId (after state first nftTokenId db)
      ↔ ¬Lists (second 3).toMoment account nftTokenId
        ∧ (Deleted nftTokenId db
          ∨ Completes state first account walletAddress nftTokenId submit db) := by
  rw [← deleted_after_iff state db hburn]
  rcases call_of_healthy state (after state first nftTokenId db) hretry with
    ⟨hunlisted, hcall⟩ | ⟨hlisted, hsubmitted⟩
  · constructor
    · intro h
      have hdeleted := h.deleted
      rw [after, hcall] at hdeleted
      exact ⟨hunlisted, hdeleted⟩
    · rintro ⟨-, hdeleted⟩
      refine ⟨?_, by rw [hcall]⟩
      rw [after, hcall]
      exact hdeleted
  · refine ⟨fun h => absurd h.once (Nat.pos_iff_ne_zero.mp hsubmitted), fun h => ?_⟩
    exact absurd hlisted h.1

end Retry

/-! ## An Oracle that was out of reach

Alice burns her NFT, and the burn is validated.  Her file is in two fragments on two nodes.  The
Oracle does not get her request; when she tries again, everything is in order. -/

namespace Sample

open Transfers.Sample

/-- What the ledger answers, before and after the burn. -/
def ledgerAnswer (burned : Bool) : String → Json
  | "account_nfts" => .Obj [("result", .Obj [("account_nfts", .Arr (if burned then [] else
      [.Obj [("NFTokenID", .Str tokenId), ("Issuer", .Str "rAlice"), ("Flags", number 8),
        ("nft_serial", number 1)]]))])]
  | "account_info" => .Obj [("result", .Obj [("account_data", .Obj [("Sequence", number 1)])])]
  | "ledger_current" => .Obj [("result", .Obj [("ledger_current_index", number 100)])]
  | "submit" => .Obj [("result", .Obj [("engine_result", .Str "tesSUCCESS"),
      ("tx_json", .Obj [("hash", .Str Tombstone.Sample.txHash)])])]
  | "tx" => .Obj [("result", .Obj [("validated", .Boolean true),
      ("meta", .Obj [("TransactionResult", .Str "tesSUCCESS")]),
      ("TransactionType", .Str "NFTokenBurn"), ("Account", .Str "rAlice"),
      ("NFTokenID", .Str tokenId)])]
  | _ => .Obj [("result", .Obj [])]

/-- The Oracle's answer does not arrive, whether or not it has handled the request. -/
def encounter (burned : Bool) (handled : Option (AuthenticatedUser × Env)) : Encounter where
  answer
    | .GetSession | .GetXrplWallet => .ok "rAlice"
    | .GetOracleClient _ | .Connect => .ok ()
    | .GetTransferByOffer _ | .CompleteTransfer _ | .PostDelete _ _ => .error .NoSession
    | .Request command _ => .ok (ledgerAnswer burned command)
    | .Sign _ => .ok (some "blob")
    | .CreateAuthedClient | .Sleep => ()
  offers _ := none
  nftOf _ := none
  handled := handled

def submit : SubmitResult := ⟨"tesSUCCESS", "", Tombstone.Sample.txHash⟩

/-- The burn that is signed. -/
def burn : Json :=
  .Obj [("TransactionType", .Str "NFTokenBurn"), ("Account", .Str "rAlice"),
    ("NFTokenID", .Str tokenId), ("Fee", .Str "12"), ("Sequence", number 1),
    ("LastLedgerSequence", number 120)]

variable (burned : Bool) (handled : Option (AuthenticatedUser × Env))

lemma reaches : Reaches (fun _ => encounter burned handled) "rAlice" "rAlice" :=
  ⟨rfl, rfl, by decide, rfl⟩

lemma signsBurn : SignsBurn (fun _ => encounter burned handled) "rAlice" tokenId "blob" :=
  ⟨burn, ⟨⟨⟨"", "0", 1⟩, "12", 100, rfl, rfl, rfl, rfl⟩, rfl, rfl⟩⟩

lemma burnAccepted :
    BurnAccepted (fun _ => encounter false handled) "rAlice" "rAlice" tokenId submit where
  toReaches := reaches false handled
  lists := ⟨[tokenId], rfl, List.mem_singleton_self _⟩
  submitted := ⟨"blob", signsBurn false handled, rfl⟩
  accepted := by decide

lemma healthy : Healthy (fun _ => encounter burned handled) "rAlice" "rAlice" tokenId where
  toReaches := reaches burned handled
  listed := by cases burned <;> exact ⟨_, rfl⟩
  signs := ⟨"blob", signsBurn burned handled⟩

lemma validated : Validated (fun _ => encounter false handled) "rAlice" tokenId submit.txHash 0 where
  within := by decide
  undecided i hi := absurd hi (Nat.not_lt_zero i)
  validated := ⟨_, rfl, rfl⟩

lemma not_lists : ¬Lists (encounter true handled).toMoment "rAlice" tokenId := by
  rintro ⟨nfts, hlisted, hmem⟩
  obtain rfl : nfts = [] := (Except.ok.inj hlisted).symm
  cases hmem

def manifest : Vaults.VaultManifest where
  encryptedFilename := "name"
  originalSize := 7
  mimeType := "text/plain"
  originalHash := "hash"
  fragments := [⟨0, "node-1", "key-1", "hash-1", 4⟩, ⟨1, "node-2", "key-2", "hash-2", 3⟩]

def stored : NftMetadata := { nft with manifest := some manifest.toJson }

/-- Alice's vault, with the offer to Bob. -/
def vault : Db :=
  { Tombstone.Sample.offered with
    nftMetadata := ⟨⟨[stored], List.nodup_singleton _⟩, List.nodup_singleton _⟩ }

/-- The ledger after the burn. One node deletes its fragment, and the other does not have it. -/
def burnt : Env :=
  { Tombstone.Sample.burnt with
    storage := fun n => .Status (if n = 0 then 200 else 404) (.ok []) }

lemma deletable : Vaults.Deletable burnt (caller alice) tokenId
    ⟨"rAlice", some submit.txHash⟩ vault stored manifest where
  caller := by decide
  found := rfl
  owner := ⟨"rAlice", rfl, by decide⟩
  burned := ⟨submit.txHash, rfl, by decide +kernel⟩
  untransferred := by decide
  listed := ⟨_, rfl, rfl⟩

/-- Both fragments are gone after the request. -/
lemma erases : Erases Tombstone.Sample.oracle burnt (caller alice) tokenId
    ⟨"rAlice", some submit.txHash⟩ vault := by
  refine ⟨stored, manifest, deletable, ⟨object, rfl⟩, fun f hf => ?_⟩
  simp only [manifest, List.mem_cons, List.not_mem_nil, or_false] at hf
  rcases hf with rfl | rfl
  · exact ⟨_, List.mem_cons_self, rfl, rfl, rfl, rfl, rfl⟩
  · exact ⟨_, List.mem_cons_of_mem _ List.mem_cons_self, rfl, rfl, rfl, rfl, rfl⟩

/-- The request of the first call is handled, and only its answer is lost. -/
theorem resumes_of_lostAnswer :
    Resumes Tombstone.Sample.oracle (fun _ => encounter true none) tokenId
      (after Tombstone.Sample.oracle
        (fun _ => encounter false (some (caller alice, burnt))) tokenId vault) :=
  (resumes_iff _ vault (burnAccepted _) (healthy _ _)).mpr ⟨not_lists none, .inr
    ⟨0, caller alice, burnt, validated _, rfl, erases⟩⟩

/-- **The owner cannot delete the vault any more**: the ledger does not list the NFT, and the Oracle
is not asked again. -/
theorem not_resumes :
    BurnAccepted (fun _ => encounter false none) "rAlice" "rAlice" tokenId submit
      ∧ Healthy (fun _ => encounter true (some (caller alice, burnt))) "rAlice" "rAlice" tokenId
      ∧ ¬Resumes Tombstone.Sample.oracle
        (fun _ => encounter true (some (caller alice, burnt))) tokenId
        (after Tombstone.Sample.oracle (fun _ => encounter false none) tokenId vault) := by
  refine ⟨burnAccepted none, healthy true _, fun h => ?_⟩
  have hdeleted := h.deleted
  rcases call_of_healthy Tombstone.Sample.oracle _ (healthy true _) with
    ⟨-, hcall⟩ | ⟨hlisted, -⟩
  · rw [after, hcall] at hdeleted
    rcases (deleted_after_iff Tombstone.Sample.oracle vault (burnAccepted none)).mp hdeleted with
      ⟨nm, j, manifest, hnm, htomb, -⟩ | ⟨n, auth, env, -, hhandled, -⟩
    · obtain rfl : stored = nm := Option.some.inj hnm
      obtain ⟨nm, hnm, harchived⟩ := htomb.archived
      obtain rfl : stored = nm := Option.some.inj hnm
      cases harchived
    · cases hhandled
  · exact not_lists _ hlisted

end Sample

end Vaulted.ResumeDeletion
