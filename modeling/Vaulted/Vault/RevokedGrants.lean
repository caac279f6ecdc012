import Vaulted.Oracle.FileAccess
import Vaulted.Qr.DecidedOnce
import Vaulted.Vault.ObjectOwnership

/-!
# Grants that stay revoked

The owner of a vault object revokes a grant by its id.  Both ways to create a grant take an id that
the client has chosen, and write its row with `ON CONFLICT (id) DO UPDATE … status = 'active'`,
whatever the status of the row that is there.

* `Act`, `step` — creations, revocations, and the statements of QR confirmations between them.
* `Sticks` — a grant that has been revoked is neither active nor gives access, as long as only
  signatures are presented that were presented before.
* `Spares` — the act does not write a grant that is revoked.
* `sticks_of_spared` — revocations stick in a run of such acts.
* `not_sticks` — the request that has created the grant is sent again.
-/

namespace Vaulted.RevokedGrants

open Autocommit.Prog VaultObjects FileAccess Interleaving QrApproval

/-! ## The system -/

inductive Act
  | Create (env : Env) (auth : AuthenticatedUser) (req : CreateGrantRequest)
  | Revoke (auth : AuthenticatedUser) (grantId : Uuid) (ownerIdentityId : Option String)
  | Qr (l : Label Call Moment)

/-- The signatures of an owner that an act presents. -/
def Act.signatures : Act → List String
  | .Create _ _ req => [req.ownerSignature]
  | .Qr (.Start (.Confirm .FileGrant req) _) => [req.signature]
  | _ => []

/-- Every signature has been presented before. -/
def Replays (past later : List Act) : Prop :=
  later.flatMap Act.signatures ⊆ past.flatMap Act.signatures

/-- The grant is not active, and gives no access to anybody. -/
structure Withdrawn (grantId : Uuid) (db : Db) : Prop where
  inactive : ∀ g, db.grants.get? grantId = some g → g.status ≠ .Active
  noAccess : ∀ env auth identityId answer,
    (grantFileAccess env auth grantId identityId db).1 ≠ .ok answer

section Statements

variable (ed : Ed25519) (codec : TextCodec) (rfc3339 : DateTime → String) (state : AppState)

def step (s : QrApproval.Server) : Act → QrApproval.Server
  | .Create env auth req =>
      { s with store := (createGrant ed codec rfc3339 state env auth req s.store).2 }
  | .Revoke auth grantId ownerIdentityId =>
      { s with store := (revokeGrant auth grantId ownerIdentityId s.store).2 }
  | .Qr l => QrApproval.step ed codec rfc3339 state s l

/-- The server after a run of acts. -/
abbrev run (s : QrApproval.Server) (acts : List Act) : QrApproval.Server :=
  Runs.exec (step ed codec rfc3339 state) s acts

/-- A grant that has been revoked stays so, where no new signature is presented. Whatever has been
presented before the revocation may be presented again, as often as anybody likes. -/
def Sticks (s : QrApproval.Server) (acts : List Act) : Prop :=
  ∀ pre mid post auth grantId ownerIdentityId answer,
    acts = pre ++ .Revoke auth grantId ownerIdentityId :: (mid ++ post) →
    (revokeGrant auth grantId ownerIdentityId
      (run ed codec rfc3339 state s pre).store).1 = .ok answer →
    Replays pre mid →
    Withdrawn grantId (run ed codec rfc3339 state s
      (pre ++ .Revoke auth grantId ownerIdentityId :: mid)).store

/-- The act does not write a grant that is revoked: a creation with its id does not pass the checks,
and no statement of a confirmation inserts it. A creation that is refused may have any id. -/
def Spares (s : QrApproval.Server) : Act → Prop
  | .Create env auth req => ∀ g, s.store.grants.get? (req.id env) = some g → g.status = .Revoked →
      ∀ vo owner keyEnvelope encryptedFileKey, ¬Grantable ed codec rfc3339 state env auth req
        s.store vo owner keyEnvelope encryptedFileKey
  | .Revoke _ _ _ => True
  | .Qr l => ∀ call g m, executes s l = some (call, .InsertGrant g, m) → m.failure = none →
      ∀ old, s.store.grants.get? g.id = some old → old.status ≠ .Revoked

end Statements

/-! ## A revoked grant -/

/-- The row of a grant is there, and revoked. -/
def Revoked (grantId : Uuid) (db : Db) : Prop :=
  ∃ g, db.grants.get? grantId = some g ∧ g.status = .Revoked

lemma Revoked.congr {grantId : Uuid} {db db' : Db} (h : Revoked grantId db)
    (hgrants : db'.grants = db.grants) : Revoked grantId db' := by
  rw [Revoked, hgrants]
  exact h

/-- **Only active grants give access.** -/
lemma Revoked.withdrawn {grantId : Uuid} {db : Db} (h : Revoked grantId db) :
    Withdrawn grantId db where
  inactive g hg := by
    obtain ⟨g', hg', hstatus⟩ := h
    obtain rfl := Option.some.inj (hg.symm.trans hg')
    rw [hstatus]
    rintro ⟨⟩
  noAccess env auth identityId answer hanswer := by
    have hspec := grantFileAccess_spec env auth grantId identityId db
    rw [wp, hanswer] at hspec
    generalize (grantFileAccess env auth grantId identityId db).2 = db' at hspec
    cases hspec with
    | Granted g nm hrow hcaller =>
        obtain ⟨g', hg', hstatus⟩ := h
        rw [activeGrant, hg', Option.filter_some, hstatus] at hrow
        cases hrow

/-- What has been revoked is revoked. -/
lemma revoked_of_revokeGrant {auth : AuthenticatedUser} {grantId : Uuid}
    {ownerIdentityId : Option String} {db : Db} {answer : GrantResponse}
    (h : (revokeGrant auth grantId ownerIdentityId db).1 = .ok answer) :
    Revoked grantId (revokeGrant auth grantId ownerIdentityId db).2 := by
  have hspec := revokeGrant_spec auth grantId ownerIdentityId db
  rw [wp, h] at hspec
  generalize (revokeGrant auth grantId ownerIdentityId db).2 = db' at hspec ⊢
  cases hspec with
  | Revoked caller g answer hcaller hg =>
      have hfound := (Option.filter_eq_some_iff.mp hg).1
      refine ⟨{ g with status := .Revoked }, ?_, rfl⟩
      rw [markRevoked, Table.get?_update_self, hfound]
      rfl

/-! ## A step -/

/-- A grant that is written over another one is not revoked. -/
lemma revoked_upsertGrant {g : Grant} {grantId : Uuid} {db db' : Db} (h : Revoked grantId db)
    (hupsert : upsertGrant g db = .ok db')
    (hspared : ∀ old, db.grants.get? g.id = some old → old.status ≠ .Revoked) :
    Revoked grantId db' := by
  obtain rfl := upsertGrant_eq_ok hupsert
  obtain ⟨old, hold, hstatus⟩ := h
  have hne : grantId ≠ g.id := by
    rintro rfl
    exact hspared old hold hstatus
  exact ⟨old, (Table.get?_upsert _ _ _ _ _).trans ((if_neg hne).trans hold), hstatus⟩

/-- Only one statement writes grants. -/
lemma grants_effect {stmt : Statement} (now : Time) (db : Db)
    (hother : ∀ g, stmt ≠ .InsertGrant g) : (effect now stmt db).2.grants = db.grants := by
  cases stmt with
  | Insert t row =>
      rw [effect]
      split
      · rfl
      · split <;> rfl
  | RegisterDevice device =>
      rw [effect]
      split_ifs
      · rfl
      · dsimp only
        split <;> rfl
  | InsertGrant g => exact absurd rfl (hother g)
  | _ => rfl

lemma revoked_exec {stmt : Statement} {m : Moment} {grantId : Uuid} {db : Db}
    (h : Revoked grantId db) (hspared : ∀ g, stmt = .InsertGrant g → m.failure = none →
      ∀ old, db.grants.get? g.id = some old → old.status ≠ .Revoked) :
    Revoked grantId (QrApproval.exec stmt m db).2 := by
  rw [QrApproval.exec]
  cases hfailure : m.failure with
  | some e => exact h
  | none =>
      dsimp only
      cases stmt with
      | InsertGrant g =>
          rw [effect]
          cases hupsert : upsertGrant g db with
          | error e => exact h
          | ok db' => exact revoked_upsertGrant h hupsert (hspared g rfl hfailure)
      | _ => exact h.congr (grants_effect m.now db fun _ => by rintro ⟨⟩)

section Runs

variable {ed : Ed25519} {codec : TextCodec} {rfc3339 : DateTime → String} {state : AppState}

/-- **One step** leaves a revoked grant as it is, if it spares it. -/
theorem revoked_step {s : QrApproval.Server} {grantId : Uuid} (h : Revoked grantId s.store)
    {act : Act} (hspared : Spares ed codec rfc3339 state s act) :
    Revoked grantId (step ed codec rfc3339 state s act).store := by
  cases act with
  | Create env auth req =>
      have hspec := createGrant_spec ed codec rfc3339 state env auth req s.store
      rw [wp] at hspec
      rw [step]
      dsimp only
      generalize (createGrant ed codec rfc3339 state env auth req s.store).1 = r at hspec
      generalize (createGrant ed codec rfc3339 state env auth req s.store).2 = db' at hspec ⊢
      cases hspec with
      | Refused e => exact h
      | Granted vo owner keyEnvelope key db' hgrantable hupsert =>
          refine revoked_upsertGrant h hupsert fun old hold hstatus => ?_
          exact hspared old hold hstatus vo owner keyEnvelope key hgrantable
  | Revoke auth grantId' ownerIdentityId =>
      have hspec := revokeGrant_spec auth grantId' ownerIdentityId s.store
      rw [wp] at hspec
      rw [step]
      dsimp only
      generalize (revokeGrant auth grantId' ownerIdentityId s.store).1 = r at hspec
      generalize (revokeGrant auth grantId' ownerIdentityId s.store).2 = db' at hspec ⊢
      cases hspec with
      | Refused e => exact h
      | Revoked caller g answer hcaller hg =>
          obtain ⟨old, hold, hstatus⟩ := h
          by_cases hid : grantId = grantId'
          · subst hid
            refine ⟨{ old with status := .Revoked }, ?_, rfl⟩
            rw [markRevoked, Table.get?_update_self, hold]
            rfl
          · refine ⟨old, ?_, hstatus⟩
            rw [markRevoked, Table.get?_update, if_neg hid]
            exact hold
  | Qr l =>
      have hsteps := steps_step QrApproval.exec (handle ed codec rfc3339 state) s l
      rw [step, QrApproval.step]
      generalize Interleaving.step QrApproval.exec (handle ed codec rfc3339 state) s l = s'
        at hsteps ⊢
      cases hsteps with
      | Started call m => exact h
      | Idle i m hnone => exact h
      | Executed i m call stmt k hthread hexecutes =>
          refine revoked_exec h fun g hstmt hm => ?_
          subst hstmt
          exact hspared call g m hexecutes hm

/-- **Revocations stick** in a run that never writes a grant that is revoked. Both ways to create a
grant are upserts that set the status to `active`, and what the owner has signed for a grant stays
valid after it has been revoked. -/
theorem sticks_of_spared {s : QrApproval.Server} {acts : List Act}
    (hspared : Runs.Guarded (step ed codec rfc3339 state) (Spares ed codec rfc3339 state) s acts) :
    Sticks ed codec rfc3339 state s acts := by
  rintro pre mid post auth grantId ownerIdentityId answer rfl hanswer -
  have hrevoked : Revoked grantId (step ed codec rfc3339 state (run ed codec rfc3339 state s pre)
      (.Revoke auth grantId ownerIdentityId)).store := revoked_of_revokeGrant hanswer
  rw [run, Runs.exec_append, Runs.exec_cons]
  refine Revoked.withdrawn ?_
  exact Runs.preserved_guarded (P := fun s => Revoked grantId s.store)
    (fun s act h hspared => revoked_step h hspared) hrevoked hspared.back.2.front

end Runs

/-! ## A grant that comes back -/

namespace Sample

open Transfers.Sample Tombstone.Sample RecipientKey.Sample KeyBinding.Sample
  ObjectOwnership.Sample

/-- Alice's login is linked to her identity. -/
def link : LinkedWallet where
  identityId := "alice"
  chain := "xrpl"
  address := "rAlice"
  proofSignature := none
  createdAt := 0
  revokedAt := none

def server : QrApproval.Server where
  store := { registry with linkedWallets := ⟨[link], List.nodup_singleton _⟩ }
  threads := []

/-- A request for a grant to Mallory, with a signature. -/
def grant (id ownerSignature : String) : CreateGrantRequest where
  grantId := some ⟨id⟩
  vaultObjectId := object.id
  recipientIdentityId := "mallory"
  permissions := ["read"]
  expiresAt := none
  keyEnvelope := none
  encryptedFileKey := some "key"
  ownerSignature := ownerSignature

/-- The envelope that a bare file key gets. -/
def envelope : Json :=
  .Obj [("protocol", .Str "vaulted-key-envelope-v1"), ("alg", .Str "legacy-pre-aes-key"),
    ("recipient_type", .Str "grant-recipient"), ("recipient_identity_id", .Str "mallory"),
    ("encrypted_file_key", .Str "key")]

/-- What Alice signs for the grant, and her signature. -/
def signature (id : String) : String :=
  Text.hexEncode (Ed25519.sign (signingKey 1) (Text.utf8
    (grantSignatureMessage oracle JsonText.compact (fun _ => "")
      (grantContext (grant id "") ⟨id⟩ "alice" object envelope))))

def create (id : String) : Act := .Create (env ⟨""⟩) (acting "rAlice") (grant id (signature id))

def revoke (id : String) : Act := .Revoke (acting "rAlice") ⟨id⟩ (some "alice")

/-- The status of a grant after a run. -/
def statusAfter (id : String) (acts : List Act) : Option GrantStatus :=
  ((run Ed25519.transparent JsonText.compact (fun _ => "") oracle server acts).store.grants.get?
    ⟨id⟩).map Grant.status

lemma exists_of_statusAfter {id : String} {acts : List Act} {status : GrantStatus}
    (h : statusAfter id acts = some status) :
    ∃ g, (run Ed25519.transparent JsonText.compact (fun _ => "") oracle server
      acts).store.grants.get? ⟨id⟩ = some g ∧ g.status = status :=
  Option.map_eq_some_iff.mp h

/-- Is the revocation at the end of a run answered with the grant? -/
def isRevoked (id : String) (acts : List Act) : Bool :=
  (revokeGrant (acting "rAlice") ⟨id⟩ (some "alice")
    (run Ed25519.transparent JsonText.compact (fun _ => "") oracle server
      acts).store).1.toOption.isSome

lemma exists_of_isRevoked {id : String} {acts : List Act} (h : isRevoked id acts = true) :
    ∃ answer, (revokeGrant (acting "rAlice") ⟨id⟩ (some "alice")
      (run Ed25519.transparent JsonText.compact (fun _ => "") oracle server acts).store).1
        = .ok answer := by
  obtain ⟨answer, hanswer⟩ := Option.isSome_iff_exists.mp h
  exact ⟨answer, eq_ok_of_toOption hanswer⟩

/-- Alice's signature is accepted. -/
lemma verifyGrantOwnerSignature_sign (message : String) :
    verifyGrantOwnerSignature Ed25519.transparent JsonText.compact
      (Text.hexEncode (signingKey 1)) message
      (Text.hexEncode (Ed25519.sign (signingKey 1) (Text.utf8 message))) = .ok () := by
  have hlength : (signingKey 1).length = 32 := List.length_replicate
  have hfilled : ∀ (r : Except ApiError Unit) (e : ApiError),
      (ensure (!false) e >>= fun _ => r) = r := fun _ _ => rfl
  rw [verifyGrantOwnerSignature, Ed25519.isEmpty_trim_sign hlength, hfilled]
  exact Ed25519.verifyWith_hexOrBase64_sign hlength

section Grants

variable (id : String) (grants : Table Grant.id)

/-- The database with other grants. -/
def withGrants : Db := { server.store with grants := grants }

def newRow : Grant := newGrant (env ⟨""⟩) (grant id (signature id)) envelope "key"

/-- The grants after Alice's request. -/
def granted : Table Grant.id :=
  grants.upsert (newRow id)
    (fun old => { newRow id with
      id := old.id, vaultObjectId := old.vaultObjectId,
      recipientIdentityId := old.recipientIdentityId })
    (fun _ => rfl)

/-- Alice may create the grant whatever grants there are. -/
lemma grantable : Grantable Ed25519.transparent JsonText.compact (fun _ => "") oracle
    (env ⟨""⟩) (acting "rAlice") (grant id (signature id)) (withGrants grants) object
    KeyBinding.Sample.alice envelope "key" where
  caller := by
    have hresolves : Identity.Resolves (acting "rAlice") none "identity_id" server.store "alice" :=
      eq_ok_of_toOption (by decide +kernel)
    exact hresolves
  found := rfl
  active := rfl
  identity := by
    have halice : Identity.activeIdentity "alice" server.store = some KeyBinding.Sample.alice := by
      decide +kernel
    exact halice
  unexpired := rfl
  envelope := rfl
  signed := by
    have hcontext : ∀ ownerSignature, grantContext (grant id ownerSignature)
        ((grant id ownerSignature).id (env ⟨""⟩)) "alice" object envelope
          = grantContext (grant id "") ⟨id⟩ "alice" object envelope := fun _ => rfl
    rw [show object.ownerIdentityId = "alice" from rfl, hcontext]
    exact verifyGrantOwnerSignature_sign _

lemma step_create : step Ed25519.transparent JsonText.compact (fun _ => "") oracle
    { server with store := withGrants grants } (create id)
      = { server with store := withGrants (granted id grants) } := by
  have hwritten : upsertGrant (newRow id) (withGrants grants)
      = .ok (withGrants (granted id grants)) := by
    have hobject : (server.store.vaultObjects.get? object.id).isSome = true := by decide +kernel
    have hrecipient : (server.store.identities.get? "mallory").isSome = true := by
      decide +kernel
    exact upsertGrant_eq_ok_iff.mpr ⟨fun _ => ⟨hobject, hrecipient⟩, rfl⟩
  rw [create, step, createGrant_of_grantable (grantable id grants) hwritten]

/-- The grants after a revocation. -/
def withdrawn : Table Grant.id :=
  grants.update ⟨id⟩ (fun g => { g with status := .Revoked }) Grant.id_revoked

lemma step_revoke {id : String} {grants : Table Grant.id} {answer : GrantResponse}
    (hanswer : (revokeGrant (acting "rAlice") ⟨id⟩ (some "alice") (withGrants grants)).1
      = .ok answer) :
    step Ed25519.transparent JsonText.compact (fun _ => "") oracle
      { server with store := withGrants grants } (revoke id)
        = { server with store := withGrants (withdrawn id grants) } := by
  have hspec := revokeGrant_spec (acting "rAlice") ⟨id⟩ (some "alice") (withGrants grants)
  rw [wp, hanswer] at hspec
  rw [revoke, step]
  generalize (revokeGrant (acting "rAlice") ⟨id⟩ (some "alice") (withGrants grants)).2 = db'
    at hspec ⊢
  cases hspec
  rfl

end Grants

lemma run_create : run Ed25519.transparent JsonText.compact (fun _ => "") oracle server
    [create "g"] = { server with store := withGrants (granted "g" server.store.grants) } :=
  step_create "g" server.store.grants

lemma isRevoked_create : isRevoked "g" [create "g"] = true := by
  rw [isRevoked, run_create]
  decide +kernel

lemma statusAfter_create : statusAfter "g" ([create "g"] ++ .Revoke (acting "rAlice") ⟨"g"⟩
    (some "alice") :: [create "g"]) = some .Active := by
  obtain ⟨answer, hanswer⟩ := exists_of_isRevoked isRevoked_create
  rw [run_create] at hanswer
  have hrun : run Ed25519.transparent JsonText.compact (fun _ => "") oracle server
      ([create "g"] ++ revoke "g" :: [create "g"])
      = { server with
          store := withGrants (granted "g" (withdrawn "g" (granted "g" server.store.grants))) } := by
    rw [run, Runs.exec_append, show Runs.exec _ server [create "g"] = _ from run_create,
      Runs.exec_cons, step_revoke hanswer]
    exact step_create "g" _
  rw [revoke] at hrun
  rw [statusAfter, hrun]
  decide +kernel

/-! ### Another grant -/

/-- Alice grants twice. -/
def bothGranted : Table Grant.id := granted "h" (granted "g" server.store.grants)

lemma run_both : run Ed25519.transparent JsonText.compact (fun _ => "") oracle server
    [create "g", create "h"] = { server with store := withGrants bothGranted } := by
  rw [run, Runs.exec_cons, show step _ _ _ _ server (create "g") = _ from run_create]
  exact step_create "h" _

lemma isRevoked_both : isRevoked "g" [create "g", create "h"] = true := by
  rw [isRevoked, run_both]
  decide +kernel

/-- The first grant stays revoked when the request for the second one is sent again. -/
theorem sticks_revoke : Sticks Ed25519.transparent JsonText.compact (fun _ => "") oracle server
    [create "g", create "h", revoke "g", create "h"] := by
  obtain ⟨answer, hanswer⟩ := exists_of_isRevoked isRevoked_both
  rw [run_both] at hanswer
  have hfirst : step Ed25519.transparent JsonText.compact (fun _ => "") oracle server (create "g")
      = { server with store := withGrants (granted "g" server.store.grants) } := run_create
  have hspared : ∀ id grants, ((grants.get? ⟨id⟩).map Grant.status ≠ some .Revoked) →
      Spares Ed25519.transparent JsonText.compact (fun _ => "") oracle
        { server with store := withGrants grants } (create id) := by
    intro id grants hstatus g hg hrevoked
    have hg : grants.get? ⟨id⟩ = some g := hg
    rw [hg, Option.map_some, hrevoked] at hstatus
    exact absurd rfl hstatus
  refine sticks_of_spared ⟨hspared "g" server.store.grants (by decide +kernel), ?_, trivial, ?_,
    trivial⟩
  · rw [hfirst]
    exact hspared "h" _ (by decide +kernel)
  · rw [hfirst, step_create, show granted "h" _ = bothGranted from rfl, step_revoke hanswer]
    exact hspared "h" _ (by decide +kernel)

/-! ### The same grant -/

/-- **The grant is active again** when the request that has created it is sent once more. -/
theorem not_sticks : ¬∀ acts, Sticks Ed25519.transparent JsonText.compact (fun _ => "") oracle
    server acts := by
  intro hsticks
  obtain ⟨answer, hanswer⟩ := exists_of_isRevoked isRevoked_create
  have hreplays : Replays [create "g"] [create "g"] := List.Subset.refl _
  have hwithdrawn := hsticks [create "g", revoke "g", create "g"] [create "g"] [create "g"] []
    (acting "rAlice") ⟨"g"⟩ (some "alice") answer rfl hanswer hreplays
  obtain ⟨row, hrow, hstatus⟩ := exists_of_statusAfter statusAfter_create
  exact hwithdrawn.inactive row hrow hstatus

end Sample

end Vaulted.RevokedGrants
