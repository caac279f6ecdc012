import Vaulted.Oracle.Files
import Vaulted.Oracle.Ownership
import Vaulted.Oracle.Vault
import Vaulted.Transfer.HonestRequest
import Vaulted.Transfer.System
import Vaulted.Vault.Tombstone

/-!
# The owner and the ledger

Four handlers decide who owns an NFT.  `finalizeVaultMint` and `syncSingleNft` have seen it on the
ledger under the wallet they write; `registerFile` and `completeTransfer` do not ask.

* `Call` — the calls that write owners, each with the ledger it runs against.
* `Gains` — a row becomes active, or changes its owner.
* `FollowsLedger` — whenever that happens, the ledger shows the token under the new owner.
* `Asserts` — what the calls write without having asked, `Vouched` — the ledger agrees with it.
* `followsLedger_of_vouched` — a run of vouched calls follows the ledger.
* `not_followsLedger` — a stranger registers a token that the ledger lists under Alice.
-/

namespace Vaulted.LedgerFollows

open Autocommit.Prog Vaults

/-! ## The system -/

inductive Call
  | CreateVault (env : Env) (auth : AuthenticatedUser) (req : CreateVaultRequest)
  | RegisterFile (env : Env) (auth : AuthenticatedUser) (request : Files.RegisterFileRequest)
  | FinalizeMint (env : Env) (auth : AuthenticatedUser) (req : FinalizeVaultMintRequest)
  | Transfer (env : Env) (call : Transfers.Step)
  | SyncSingle (env : Env) (nftId : Uuid) (nftTokenId : String) (currentOwnerId : Uuid)

/-- The world during a call. -/
def Call.env : Call → Env
  | .CreateVault env _ _ => env
  | .RegisterFile env _ _ => env
  | .FinalizeMint env _ _ => env
  | .Transfer env _ => env
  | .SyncSingle env _ _ _ => env

variable (u : Umbral) (codec : TextCodec) (state : AppState)

def step (db : Db) : Call → Db
  | .CreateVault env auth req => (createVault state env auth req db).2
  | .RegisterFile env auth request => (Files.registerFile env auth request db).2
  | .FinalizeMint env auth req => (finalizeVaultMint env auth req db).2
  | .Transfer _ call => Transfers.step u codec db call
  | .SyncSingle env nftId nftTokenId currentOwnerId =>
      (Ownership.syncSingleNft env nftId nftTokenId currentOwnerId db).2

/-- The database after a run of calls. -/
abbrev exec (db : Db) (calls : List Call) : Db := Runs.exec (step u codec state) db calls

/-- A row has become active, or has changed its owner. -/
def Gains (old : Option NftMetadata) (nm : NftMetadata) : Prop :=
  (nm.status.val = .Active ∧ ∀ o, old = some o → o.status.val ≠ .Active)
    ∨ ∃ o, old = some o ∧ o.ownerId ≠ nm.ownerId

/-- The ledger lists a token under the wallet of a user. -/
def Shown (env : Env) (db : Db) (nftTokenId : String) (ownerId : Uuid) : Prop :=
  ∃ w, db.walletOf ownerId = some w ∧ env.shows nftTokenId w

/-- Whoever gains an NFT in a run has it on the ledger as well, at the moment when the call is
served. Later the ledger may change; nobody gains anything by that. -/
def FollowsLedger (db : Db) (calls : List Call) : Prop :=
  ∀ pre call post, calls = pre ++ call :: post → ∀ id nm,
    (exec u codec state db (pre ++ [call])).nftMetadata.get? id = some nm →
    Gains ((exec u codec state db pre).nftMetadata.get? id) nm →
    Shown call.env (exec u codec state db (pre ++ [call])) nm.nftTokenId nm.ownerId

/-! ## The condition -/

/-- What a call says about a token without having asked the ledger: its caller brings it in, its
caller claims it, or the row has another token than the one that was looked up. -/
inductive Asserts (db : Db) : Call → String → Uuid → Prop
  | Registered (env : Env) (auth : AuthenticatedUser) (request : Files.RegisterFileRequest)
      (owner : User) :
      Text.isHexOfLen 64 request.nftTokenId = true →
      db.nftMetadata.find? request.nftTokenId = none →
      db.userOf auth.walletAddress = some owner →
      Asserts db (.RegisterFile env auth request) request.nftTokenId owner.id
  | Claimed (env : Env) (auth : AuthenticatedUser) (request : Transfers.CompleteTransferRequest)
      (t : TransferRequest) (key : String) (nm : NftMetadata) :
      Transfers.Claimable auth request.transferId db t key →
      db.nftMetadata.get? t.nftMetadataId = some nm →
      ¬ (nm.status.val = .Active ∧ nm.ownerId = t.toUserId) →
      Asserts db (.Transfer env (.Complete auth request)) nm.nftTokenId t.toUserId
  | Synchronised (env : Env) (nftId : Uuid) (nftTokenId : String) (currentOwnerId : Uuid)
      (nm : NftMetadata) (newOwner : User) : db.nftMetadata.get? nftId = some nm →
      Ownership.Reassigns env nftTokenId currentOwnerId db newOwner → nm.nftTokenId ≠ nftTokenId →
      Asserts db (.SyncSingle env nftId nftTokenId currentOwnerId) nm.nftTokenId newOwner.id

/-- The ledger agrees, while the call is served, with what the call says without having asked. -/
def Vouched (db : Db) (call : Call) : Prop :=
  ∀ nftTokenId ownerId, Asserts db call nftTokenId ownerId → Shown call.env db nftTokenId ownerId

/-! ## A step -/

/-- A row that has kept its owner, and is active only if it was, has gained nothing. -/
lemma not_gains {old : Option NftMetadata} {nm : NftMetadata}
    (howner : ∀ o, old = some o → o.ownerId = nm.ownerId)
    (hactive : nm.status.val = .Active → ∃ o, old = some o ∧ o.status.val = .Active) :
    ¬ Gains old nm := by
  rintro (⟨hnow, hbefore⟩ | ⟨o, ho, hne⟩)
  · obtain ⟨o, ho, hstatus⟩ := hactive hnow
    exact hbefore o ho hstatus
  · exact hne (howner o ho)

lemma not_gains_of_get? {db : Db} {id : Uuid} {nm : NftMetadata}
    (h : db.nftMetadata.get? id = some nm) : ¬ Gains (db.nftMetadata.get? id) nm := by
  rw [h]
  exact not_gains (by rintro _ ⟨⟩; rfl) fun hactive => ⟨nm, rfl, hactive⟩

/-- **A transfer** writes an owner only when it is claimed. -/
lemma shown_transfer {env : Env} {db : Db} {call : Transfers.Step}
    (hvouched : Vouched db (.Transfer env call)) {id : Uuid} {nm : NftMetadata}
    (hnm : (Transfers.step u codec db call).nftMetadata.get? id = some nm)
    (hgains : Gains (db.nftMetadata.get? id) nm) :
    Shown env (Transfers.step u codec db call) nm.nftTokenId nm.ownerId := by
  -- a signed offer makes the row inactive and leaves its owner
  have signed : ∀ t, (Transfers.offerSigned db t).nftMetadata.get? id ≠ some nm := by
    intro t hnm
    rcases get?_withNft_cases hnm with ⟨-, hsame⟩ | ⟨rfl, o, ho, rfl⟩
    · exact not_gains_of_get? hsame hgains
    · rw [ho] at hgains
      exact not_gains (by rintro _ ⟨⟩; rfl) (by rintro ⟨⟩) hgains
  have claimed : ∀ auth request t key, call = .Complete auth request →
      Transfers.Claimable auth request.transferId db t key →
      (Transfers.handedOver db t key).nftMetadata.get? id = some nm →
      Shown env db nm.nftTokenId nm.ownerId := by
    rintro auth request t key rfl hclaim hnm
    rcases get?_withNft_cases hnm with ⟨-, hsame⟩ | ⟨rfl, o, ho, rfl⟩
    · exact absurd hgains (not_gains_of_get? hsame)
    · refine hvouched _ _ (.Claimed env auth request t key o hclaim ho ?_)
      rintro ⟨hactive, howner⟩
      rw [ho] at hgains
      exact not_gains (by rintro _ ⟨⟩; exact howner) (fun _ => ⟨o, rfl, hactive⟩) hgains
  have heffect := Transfers.step_effect u codec db call
  generalize Transfers.step u codec db call = db' at heffect hnm ⊢
  cases heffect with
  | Unchanged => exact absurd hgains (not_gains_of_get? hnm)
  | Created env auth request nft toUserId key _ _ _ hins =>
      rw [(Transfers.insertTransfer_eq_ok hins).1] at hnm
      exact absurd hgains (not_gains_of_get? hnm)
  | Signed auth request t => exact absurd hnm (signed t)
  | SignedRecorded auth request t => exact absurd hnm (signed t)
  | HandedOver auth request t key hclaim => exact claimed auth request t key rfl hclaim hnm
  | HandedOverRecorded auth request t key hash hclaim =>
      exact claimed auth request t key rfl hclaim hnm
  | Finalized => exact absurd hgains (not_gains_of_get? hnm)

/-- **A prepared vault** is not active yet. -/
lemma not_gains_createVault {env : Env} {auth : AuthenticatedUser} {req : CreateVaultRequest}
    {db : Db} {id : Uuid} {nm : NftMetadata}
    (hnm : (createVault state env auth req db).2.nftMetadata.get? id = some nm) :
    ¬ Gains (db.nftMetadata.get? id) nm := by
  have hspec := createVault_spec state env auth req db
  simp only [wp] at hspec
  generalize (createVault state env auth req db).1 = r at hspec
  generalize (createVault state env auth req db).2 = db' at hspec hnm
  cases hspec with
  | Refused e => exact not_gains_of_get? hnm
  | Unprepared userId e _ _ hjoin =>
      obtain ⟨users, rfl⟩ := hjoin.frame
      exact not_gains_of_get? hnm
  | Prepared userId hash answer db₁ _ _ hjoin hins =>
      obtain ⟨users, rfl⟩ := hjoin.frame
      rcases get?_insertNft hins hnm with hsame | ⟨hnone, rfl⟩
      · exact not_gains_of_get? hsame
      · refine not_gains (fun o ho => ?_) fun hactive => ?_
        · rw [hnone] at ho
          cases ho
        · cases hactive

/-- **A registered file** belongs to its caller. -/
lemma shown_registerFile {env : Env} {auth : AuthenticatedUser}
    {request : Files.RegisterFileRequest} {db : Db}
    (hvouched : Vouched db (.RegisterFile env auth request)) {id : Uuid} {nm : NftMetadata}
    (hnm : (Files.registerFile env auth request db).2.nftMetadata.get? id = some nm)
    (hgains : Gains (db.nftMetadata.get? id) nm) :
    Shown env (Files.registerFile env auth request db).2 nm.nftTokenId nm.ownerId := by
  have hspec := Files.registerFile_spec env auth request db
  simp only [wp] at hspec
  generalize (Files.registerFile env auth request db).1 = r at hspec
  generalize (Files.registerFile env auth request db).2 = db' at hspec hnm ⊢
  cases hspec with
  | Refused e => exact absurd hgains (not_gains_of_get? hnm)
  | Registered owner hash answer db₁ manifests fragments hhex hnew howner hins =>
      rcases get?_insertNft hins hnm with hsame | ⟨-, rfl⟩
      · exact absurd hgains (not_gains_of_get? hsame)
      · obtain ⟨nfts, -, rfl⟩ := insertNft_eq_ok hins
        exact hvouched _ _ (.Registered env auth request owner hhex hnew howner)

/-- **A finalised mint** has been seen on the ledger under the wallet of the owner. -/
lemma shown_finalizeMint {env : Env} {auth : AuthenticatedUser} {req : FinalizeVaultMintRequest}
    {db : Db} {id : Uuid} {nm : NftMetadata}
    (hnm : (finalizeVaultMint env auth req db).2.nftMetadata.get? id = some nm)
    (hgains : Gains (db.nftMetadata.get? id) nm) :
    Shown env (finalizeVaultMint env auth req db).2 nm.nftTokenId nm.ownerId := by
  have hspec := finalizeVaultMint_spec env auth req db
  simp only [wp] at hspec
  generalize (finalizeVaultMint env auth req db).1 = r at hspec
  generalize (finalizeVaultMint env auth req db).2 = db' at hspec hnm ⊢
  cases hspec with
  | Refused e => exact absurd hgains (not_gains_of_get? hnm)
  | Finalized old wallet v hash answer db₁ db₂ _ hfinal h₁ h₂ h₃ =>
      obtain ⟨nfts, hnfts, rfl⟩ := updateMinted_eq_ok h₁
      obtain ⟨replicas, -, rfl⟩ := renameReplicas_eq_ok h₂
      obtain rfl := linkVaultObject_eq_ok h₃
      have hnm : nfts.get? id = some nm := hnm
      rw [Indexed.get?_replace hnfts] at hnm
      split_ifs at hnm with hid
      · rw [hfinal.found] at hnm
        obtain rfl := Option.some.inj hnm
        exact ⟨wallet, hfinal.owner, Xrpl.shows_of_verifyLocalNftMint hfinal.minted⟩
      · exact absurd hgains (not_gains_of_get? hnm)

/-- **A synchronisation** writes the user under whose wallet it has found the token. -/
lemma shown_syncSingle {env : Env} {nftId : Uuid} {nftTokenId : String} {currentOwnerId : Uuid}
    {db : Db} (hvouched : Vouched db (.SyncSingle env nftId nftTokenId currentOwnerId)) {id : Uuid}
    {nm : NftMetadata}
    (hnm : (Ownership.syncSingleNft env nftId nftTokenId currentOwnerId db).2.nftMetadata.get? id
      = some nm)
    (hgains : Gains (db.nftMetadata.get? id) nm) :
    Shown env (Ownership.syncSingleNft env nftId nftTokenId currentOwnerId db).2 nm.nftTokenId
      nm.ownerId := by
  have hspec := Ownership.syncSingleNft_spec env nftId nftTokenId currentOwnerId db
  simp only [wp] at hspec
  generalize (Ownership.syncSingleNft env nftId nftTokenId currentOwnerId db).1 = r at hspec
  generalize (Ownership.syncSingleNft env nftId nftTokenId currentOwnerId db).2 = db' at hspec hnm ⊢
  cases hspec with
  | Unchanged => exact absurd hgains (not_gains_of_get? hnm)
  | Updated newOwner answer hmoves =>
      rcases get?_withNft_cases hnm with ⟨-, hsame⟩ | ⟨rfl, o, ho, rfl⟩
      · exact absurd hgains (not_gains_of_get? hsame)
      · by_cases htoken : o.nftTokenId = nftTokenId
        · exact ⟨newOwner.walletAddress, Db.walletOf_of_userOf hmoves.registered,
            htoken ▸ hmoves.shows⟩
        · exact hvouched _ _ (.Synchronised env id nftTokenId currentOwnerId o newOwner ho hmoves
            htoken)

/-- **Whoever gains an NFT in a vouched step has it on the ledger.** -/
theorem shown_step {db : Db} {call : Call} (hvouched : Vouched db call) {id : Uuid}
    {nm : NftMetadata} (hnm : (step u codec state db call).nftMetadata.get? id = some nm)
    (hgains : Gains (db.nftMetadata.get? id) nm) :
    Shown call.env (step u codec state db call) nm.nftTokenId nm.ownerId := by
  cases call with
  | CreateVault env auth req => exact absurd hgains (not_gains_createVault state hnm)
  | RegisterFile env auth request => exact shown_registerFile hvouched hnm hgains
  | FinalizeMint env auth req => exact shown_finalizeMint hnm hgains
  | Transfer env call => exact shown_transfer u codec hvouched hnm hgains
  | SyncSingle env nftId nftTokenId currentOwnerId => exact shown_syncSingle hvouched hnm hgains

/-! ## A run -/

/-- **In a run of vouched calls the owner follows the ledger.** A mint is looked up before it is
finalised, and a synchronisation goes by what it has found; the three calls of `Asserts` write an
owner whom nobody has asked the ledger about. -/
theorem followsLedger_of_vouched {db : Db} {calls : List Call}
    (hvouched : Runs.Guarded (step u codec state) Vouched db calls) :
    FollowsLedger u codec state db calls := by
  rintro pre call post rfl id nm hnm hgains
  rw [exec, Runs.exec_concat] at hnm ⊢
  exact shown_step u codec state hvouched.back.1 hnm hgains

/-! ## A stranger's registration

The ledger lists a token under Alice's account.  The Oracle has not heard of it yet. -/

namespace Sample

open Transfers.Sample Tombstone.Sample Xrpl

/-- The ledger that lists the token under Alice, and nothing under anybody else. -/
def ledger : Env :=
  { env ⟨"nft"⟩ with
    xrpl _ call := .ok (.Obj [("result", .Obj [("account_nfts", .Arr
      (if call.params.head?.bind (·.2.asStr) = some "rAlice" then
        [.Obj [("NFTokenID", .Str tokenId)]]
      else []))])]) }

/-- The users of the Oracle, without an NFT. -/
def users : Db := { db [] List.nodup_nil with nftMetadata := default }

/-- A registration of the token. -/
def registration (u : User) : Call :=
  .RegisterFile ledger (caller u)
    { nftTokenId := tokenId
      encryptedAesKey := ""
      manifest :=
        { encryptedFilename := "", originalSize := 0, mimeType := "", originalHash := "",
          fragments := [] }
      metadataHash := "" }

lemma not_shows_bob : ¬ ledger.shows tokenId "rBob" := by
  rintro ⟨i, call, data, rfl | rfl, hdata, nft, hnft, -⟩ <;>
  · cases hdata
    exact absurd hnft List.not_mem_nil

lemma shows_alice : ledger.shows tokenId "rAlice" := by
  refine ⟨0, accountNftsCall "rAlice", _, .inl rfl, rfl, _, List.mem_singleton_self _, tokenId, rfl,
    Text.eqIgnoreAsciiCase_self _⟩

/-- **A stranger owns Alice's token**: nobody asks the ledger when Bob registers it. -/
theorem not_followsLedger :
    ¬ FollowsLedger Umbral.symbolic JsonText.compact oracle users
      [registration bob] := by
  intro hfollows
  have hrow : ((exec Umbral.symbolic JsonText.compact oracle users
      [registration bob]).nftMetadata.get? ⟨"nft"⟩).map (fun nm => (nm.nftTokenId, nm.ownerId,
        nm.status.val)) = some (tokenId, bob.id, .Active) := by
    decide +kernel
  obtain ⟨nm, hnm, hnm'⟩ := Option.map_eq_some_iff.mp hrow
  simp only [Prod.mk.injEq] at hnm'
  obtain ⟨htoken, howner, hactive⟩ := hnm'
  obtain ⟨w, hw, hshows⟩ := hfollows [] (registration bob) [] rfl ⟨"nft"⟩ nm hnm
    (.inl ⟨hactive, fun _ ho => nomatch ho⟩)
  rw [howner] at hw
  have hbob : (exec Umbral.symbolic JsonText.compact oracle users
      [registration bob]).walletOf bob.id = some "rBob" := by
    decide +kernel
  have hw : (exec Umbral.symbolic JsonText.compact oracle users
      [registration bob]).walletOf bob.id = some w := hw
  rw [hbob] at hw
  rw [htoken, ← Option.some.inj hw] at hshows
  exact not_shows_bob hshows

/-- Alice may register it, and Bob comes too late. -/
theorem registered_followsLedger :
    FollowsLedger Umbral.symbolic JsonText.compact oracle users
      [registration alice, registration bob] := by
  refine followsLedger_of_vouched _ _ _ ⟨?_, ?_, trivial⟩
  · rintro _ _ (⟨_, _, _, owner, -, -, howner⟩ | _ | _)
    have howner : some alice = some owner := howner
    obtain rfl := Option.some.inj howner
    exact ⟨"rAlice", rfl, shows_alice⟩
  · rintro _ _ (⟨_, _, _, owner, -, hnone, -⟩ | _ | _)
    have hknown : ((step Umbral.symbolic JsonText.compact oracle users
        (registration alice)).nftMetadata.find? tokenId).isSome = true := by
      decide +kernel
    have hnone : (step Umbral.symbolic JsonText.compact oracle users
        (registration alice)).nftMetadata.find? tokenId = none := hnone
    rw [hnone] at hknown
    cases hknown

end Sample

end Vaulted.LedgerFollows
