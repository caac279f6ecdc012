import Vaulted.Identity.KeyBinding
import Vaulted.Vault.Tombstone

/-!
# Who owns a vault object

The row of a vault object names the identity that may grant access to the file.  Two handlers
write such rows, and both do so with `ON CONFLICT (id) DO UPDATE`: `registerVaultObject` under an
id that the client chooses, and `finalizeVaultMint` under the id of the vault.  Neither looks at
the row that is already there, and the second takes any active identity for the owner.

* `Call` — the calls on vault objects and grants, `step` and `exec` — what they leave.
* `OwnerKept` — a row is changed by callers who act as its owner only, and a mint is linked to an
  identity that its caller acts as.
* `Entitled` — the condition on a call; `ownerKept_of_entitled` — a run of such calls.
* `not_ownerKept` — Mallory registers Alice's vault object as his own.
-/

namespace Vaulted.ObjectOwnership

open Identity Vaults VaultObjects

/-! ## The system -/

inductive Call
  | RegisterObject (auth : AuthenticatedUser) (req : RegisterVaultObjectRequest)
  | FinalizeMint (env : Env) (auth : AuthenticatedUser) (req : FinalizeVaultMintRequest)
  | CreateGrant (env : Env) (auth : AuthenticatedUser) (req : CreateGrantRequest)
  | RevokeGrant (auth : AuthenticatedUser) (grantId : Uuid) (ownerIdentityId : Option String)

def Call.caller : Call → AuthenticatedUser
  | .RegisterObject auth _ => auth
  | .FinalizeMint _ auth _ => auth
  | .CreateGrant _ auth _ => auth
  | .RevokeGrant auth _ _ => auth

variable (ed : Ed25519) (codec : TextCodec) (rfc3339 : DateTime → String) (state : AppState)

def step (db : Db) : Call → Db
  | .RegisterObject auth req => (registerVaultObject auth req db).2
  | .FinalizeMint env auth req => (finalizeVaultMint env auth req db).2
  | .CreateGrant env auth req => (createGrant ed codec rfc3339 state env auth req db).2
  | .RevokeGrant auth grantId ownerIdentityId => (revokeGrant auth grantId ownerIdentityId db).2

/-- The database after a run of calls. -/
abbrev exec (db : Db) (calls : List Call) : Db := Runs.exec (step ed codec rfc3339 state) db calls

/-- The columns that bind a file to its owner. -/
def binding (vo : VaultObject) : String × String × Option String :=
  (vo.ownerIdentityId, vo.manifestHash, vo.nftTokenId)

/-- The rows of vault objects stay, change in calls of their owners only, and a mint is for an
identity of its caller. -/
structure OwnerKept (db : Db) (calls : List Call) : Prop where
  /-- A row stays, and who changes its columns acts as its owner. -/
  changed : ∀ pre call post, calls = pre ++ call :: post → ∀ id old,
    (exec ed codec rfc3339 state db pre).vaultObjects.get? id = some old →
    ∃ new, (exec ed codec rfc3339 state db (pre ++ [call])).vaultObjects.get? id = some new
      ∧ (binding new ≠ binding old →
        ActsAs call.caller old.ownerIdentityId (exec ed codec rfc3339 state db pre))
  /-- A mint is linked to an identity of its caller. -/
  linked : ∀ pre env auth req post answer, calls = pre ++ .FinalizeMint env auth req :: post →
    (finalizeVaultMint env auth req (exec ed codec rfc3339 state db pre)).1 = .ok answer →
    ∀ vo, (exec ed codec rfc3339 state db
      (pre ++ [.FinalizeMint env auth req])).vaultObjects.get? req.vaultId.text = some vo →
    ActsAs auth vo.ownerIdentityId (exec ed codec rfc3339 state db pre)

/-! ## The condition -/

/-- A call that passes its checks, and the row that it writes then. -/
inductive Writes (db : Db) : Call → VaultObject → Prop
  | Registered (auth : AuthenticatedUser) (req : RegisterVaultObjectRequest)
      (callerIdentityId : String) :
      Resolves auth (some req.ownerIdentityId) "owner_identity_id" db callerIdentityId →
      req.manifest.elim (.ok ()) (checkManifest req) = .ok () →
      Writes db (.RegisterObject auth req) (registeredObject req callerIdentityId)
  | Finalized (env : Env) (auth : AuthenticatedUser) (req : FinalizeVaultMintRequest)
      (nm : NftMetadata) (wallet : String) (v : Xrpl.LocalMintVerification) :
      Finalizable env auth req db nm wallet v →
      Writes db (.FinalizeMint env auth req) (linkedObject req req.vaultId.text)

/-- Whatever row the call writes, its caller acts as the owner in it, and as the owner in the row
that is replaced. -/
structure Entitled (db : Db) (call : Call) : Prop where
  named : ∀ vo, Writes db call vo → ActsAs call.caller vo.ownerIdentityId db
  owner : ∀ vo, Writes db call vo → ∀ old, db.vaultObjects.get? vo.id = some old →
    binding vo ≠ binding old → ActsAs call.caller old.ownerIdentityId db

/-! ## A step -/

/-- What a step does to the vault objects: nothing, or the upsert of the row that it writes. -/
inductive Upserts (db : Db) (call : Call) : Table VaultObject.id → Prop
  | Unchanged : Upserts db call db.vaultObjects
  | Written (vo : VaultObject) (f : VaultObject → VaultObject) (hf : ∀ old, (f old).id = old.id) :
      Writes db call vo → (∀ old, binding (f old) = binding vo) →
      Upserts db call (db.vaultObjects.upsert vo f hf)

theorem upserts_step (db : Db) (call : Call) :
    Upserts db call (step ed codec rfc3339 state db call).vaultObjects := by
  cases call with
  | RegisterObject auth req =>
      have hspec := registerVaultObject_spec auth req db
      simp only [Autocommit.Prog.wp] at hspec
      rw [step]
      generalize (registerVaultObject auth req db).1 = r at hspec
      generalize (registerVaultObject auth req db).2 = db' at hspec ⊢
      cases hspec with
      | Refused e => exact .Unchanged
      | Registered caller answer _ hcaller hmanifest hupsert =>
          obtain ⟨-, rfl⟩ := upsertObject_eq_ok hupsert
          exact .Written _ _ _ (.Registered auth req caller hcaller hmanifest) fun _ => rfl
  | FinalizeMint env auth req =>
      have hspec := finalizeVaultMint_spec env auth req db
      simp only [Autocommit.Prog.wp] at hspec
      rw [step]
      generalize (finalizeVaultMint env auth req db).1 = r at hspec
      generalize (finalizeVaultMint env auth req db).2 = db' at hspec ⊢
      cases hspec with
      | Refused e => exact .Unchanged
      | Finalized nm wallet v hash answer db₁ db₂ _ hfinal h₁ h₂ h₃ =>
          obtain ⟨nfts, -, rfl⟩ := updateMinted_eq_ok h₁
          obtain ⟨replicas, -, rfl⟩ := renameReplicas_eq_ok h₂
          obtain rfl := linkVaultObject_eq_ok h₃
          exact .Written _ _ _ (.Finalized env auth req nm wallet v hfinal) fun _ => rfl
  | CreateGrant env auth req =>
      have hspec := createGrant_spec ed codec rfc3339 state env auth req db
      simp only [Autocommit.Prog.wp] at hspec
      rw [step]
      generalize (createGrant ed codec rfc3339 state env auth req db).1 = r at hspec
      generalize (createGrant ed codec rfc3339 state env auth req db).2 = db' at hspec ⊢
      cases hspec with
      | Refused e => exact .Unchanged
      | Granted vo owner envelope key _ hgrantable hupsert =>
          obtain rfl := upsertGrant_eq_ok hupsert
          exact .Unchanged
  | RevokeGrant auth grantId ownerIdentityId =>
      have hspec := revokeGrant_spec auth grantId ownerIdentityId db
      simp only [Autocommit.Prog.wp] at hspec
      rw [step]
      generalize (revokeGrant auth grantId ownerIdentityId db).1 = r at hspec
      generalize (revokeGrant auth grantId ownerIdentityId db).2 = db' at hspec ⊢
      cases hspec with
      | Refused e => exact .Unchanged
      | Revoked caller g answer hcaller hgrant => exact .Unchanged

variable {ed codec rfc3339 state}

/-- **An entitled caller changes rows of its own only.** -/
theorem changed_step {db : Db} {call : Call} (hentitled : Entitled db call) {id : String}
    {old : VaultObject} (hold : db.vaultObjects.get? id = some old) :
    ∃ new, (step ed codec rfc3339 state db call).vaultObjects.get? id = some new
      ∧ (binding new ≠ binding old → ActsAs call.caller old.ownerIdentityId db) := by
  have hupserts := upserts_step ed codec rfc3339 state db call
  generalize (step ed codec rfc3339 state db call).vaultObjects = vaultObjects at hupserts ⊢
  cases hupserts with
  | Unchanged => exact ⟨old, hold, fun hne => absurd rfl hne⟩
  | Written vo f hf hwrites hbinding =>
      rw [Table.get?_upsert]
      split_ifs with hid
      · subst hid
        rw [hold]
        refine ⟨f old, rfl, fun hne => ?_⟩
        rw [hbinding] at hne
        exact hentitled.owner vo hwrites old hold hne
      · exact ⟨old, hold, fun hne => absurd rfl hne⟩

/-- **A mint is linked to the identity that its request names.** -/
lemma ownerIdentityId_of_finalized {env : Env} {auth : AuthenticatedUser}
    {req : FinalizeVaultMintRequest} {db : Db} {answer : FinalizeVaultMintResponse}
    (hok : (finalizeVaultMint env auth req db).1 = .ok answer) {vo : VaultObject}
    (hvo : (finalizeVaultMint env auth req db).2.vaultObjects.get? req.vaultId.text = some vo) :
    vo.ownerIdentityId = req.ownerIdentityId
      ∧ ∃ nm wallet v, Finalizable env auth req db nm wallet v := by
  have hspec := finalizeVaultMint_spec env auth req db
  simp only [Autocommit.Prog.wp, hok] at hspec
  generalize (finalizeVaultMint env auth req db).2 = db' at hspec hvo
  cases hspec with
  | Finalized nm wallet v hash answer db₁ db₂ _ hfinal h₁ h₂ h₃ =>
      obtain rfl := linkVaultObject_eq_ok h₃
      refine ⟨?_, nm, wallet, v, hfinal⟩
      have hid : req.vaultId.text = (linkedObject req req.vaultId.text).id := rfl
      have hget := (Table.get?_upsert db₂.vaultObjects (linkedObject req req.vaultId.text)
        (fun vo => linkedObject req vo.id) (fun _ => rfl) req.vaultId.text).symm.trans hvo
      rw [if_pos hid] at hget
      rw [← Option.some.inj hget]
      cases db₂.vaultObjects.get? (linkedObject req req.vaultId.text).id <;> rfl

/-! ## A run -/

/-- **In a run of entitled calls, owners keep their vault objects.** A registration is an upsert
that does not look at the row it replaces, so that nothing but the condition keeps a stranger from
naming himself as the owner. -/
theorem ownerKept_of_entitled {db : Db} {calls : List Call}
    (hentitled : Runs.Guarded (step ed codec rfc3339 state) Entitled db calls) :
    OwnerKept ed codec rfc3339 state db calls where
  changed := by
    rintro pre call post rfl id old hold
    rw [exec, Runs.exec_concat]
    exact changed_step hentitled.back.1 hold
  linked := by
    rintro pre env auth req post answer rfl hok vo hvo
    rw [exec, Runs.exec_concat] at hvo
    obtain ⟨howner, nm, wallet, v, hfinal⟩ := ownerIdentityId_of_finalized hok hvo
    rw [howner]
    exact hentitled.back.1.named _ (.Finalized env auth req nm wallet v hfinal)

/-! ## A registration of somebody else's vault object -/

namespace Sample

open Autocommit.Prog Transfers.Sample Tombstone.Sample RecipientKey.Sample KeyBinding.Sample

/-- Alice's vault object, and the identities of Alice and Mallory. -/
def registry : Db :=
  { registered with identities := ⟨[KeyBinding.Sample.alice, RecipientKey.Sample.mallory], by decide⟩ }

/-- A login with an identity. -/
def acting (identityId : String) : AuthenticatedUser where
  walletAddress := identityId
  tokenId := ""
  role := "user"

/-- The registration of Alice's vault object by somebody, with another manifest. -/
def registration (identityId : String) : Call :=
  .RegisterObject (acting identityId)
    { id := object.id
      ownerIdentityId := identityId
      manifestUri := ""
      manifestHash := "h"
      nftChain := none
      nftTokenId := some tokenId
      manifest := none }

/-- **Mallory takes over Alice's vault object** by registering it. -/
theorem not_ownerKept : ¬ OwnerKept Ed25519.transparent JsonText.compact (fun _ => "") oracle
    registry [registration "mallory"] := by
  intro hkept
  obtain ⟨new, hnew, hchanged⟩ := hkept.changed [] _ [] rfl object.id object rfl
  have hmallory : ((exec Ed25519.transparent JsonText.compact (fun _ => "") oracle registry
      ([] ++ [registration "mallory"])).vaultObjects.get? object.id).map (·.ownerIdentityId)
        = some "mallory" := by decide +kernel
  have hne : binding new ≠ binding object := by
    intro heq
    have howner : new.ownerIdentityId = "alice" := congrArg Prod.fst heq
    rw [hnew, Option.map_some, howner] at hmallory
    exact absurd hmallory (by decide)
  rcases (hchanged hne).own_or_linked with hself | ⟨lw, hlw, -⟩
  · exact absurd hself (by decide)
  · cases hlw

/-- Alice may register her vault object once more. -/
theorem registration_ownerKept : OwnerKept Ed25519.transparent JsonText.compact (fun _ => "")
    oracle registry [registration "alice"] := by
  have hacts : ActsAs (acting "alice") "alice" registry :=
    ⟨some "alice", "", eq_ok_of_toOption (by decide +kernel)⟩
  refine ownerKept_of_entitled ⟨⟨fun vo hwrites => ?_, fun vo hwrites old hold _ => ?_⟩, trivial⟩
  · cases hwrites with
    | Registered auth req caller hcaller => exact hcaller.actsAs
  · cases hwrites with
    | Registered auth req caller hcaller =>
        obtain rfl : object = old := Option.some.inj hold
        exact hacts

end Sample

end Vaulted.ObjectOwnership
