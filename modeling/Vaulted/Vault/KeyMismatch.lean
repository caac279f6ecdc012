import Vaulted.Oracle.FileAccess
import Vaulted.Oracle.PublicMetadata
import Vaulted.Vault.LedgerFollows

/-!
# Whose file key it is

The stored file key is for the wallet that created the vault, or for the one that has claimed it
last.  Nothing in the database says which; `requestAccess` infers it from the transfer requests.

* `Event`, `told`, `holder` — the key is encrypted for somebody, and for whom it is now.
* `ReportsExactly` — whoever gets access to an NFT is told that the key is somebody else's if and
  only if it is.
* `Moves`, `moves_step` — what the calls do to owners, transfer requests and keys.
* `guard` — no transfer of the NFT is requested, and nobody else is made its owner.
* `reportsExactly_iff` — the report is exact in every state of a run if and only if that is so.
* `not_reportsExactly` — Bob is told that Alice's key is his.
-/

namespace Vaulted.KeyMismatch

open Autocommit.Prog Vaults FileAccess

/-! ## Runs -/

/-- A call that decides about an owner, or the publication without which no vault is finalised. -/
inductive Call
  | Owning (call : LedgerFollows.Call)
  | Publish (publishedAt : String) (auth : AuthenticatedUser) (req : PublishVaultMetadataRequest)

variable (u : Umbral) (codec : TextCodec) (state : AppState)

def step (db : Db) : Call → Db
  | .Owning call => LedgerFollows.step u codec state db call
  | .Publish publishedAt auth req =>
      (publishVaultMetadata codec state publishedAt auth req db).2

abbrev exec (db : Db) (calls : List Call) : Db := Runs.exec (step u codec state) db calls

/-! ## Keys -/

inductive Event
  | Encrypted (nftId userId : Uuid)
  deriving DecidableEq

/-- The transfer that a call of `completeTransfer` carries out. -/
def claims (auth : AuthenticatedUser) (request : Transfers.CompleteTransferRequest) (db : Db) :
    Option TransferRequest :=
  (db.transferRequests.get? request.transferId).filter fun t =>
    (db.walletOf t.toUserId).any (Text.eqIgnoreAsciiCase auth.walletAddress)
      && decide (t.status.val = .Completed) && t.reEncryptedAesKey.isSome

/-- A new row has a key for its owner. -/
def createdFor (id : Uuid) (db : Db) : List Event :=
  ((db.ownerOf id).map (.Encrypted id)).toList

def encrypts (db : Db) : LedgerFollows.Call → List Event
  | .CreateVault env auth req =>
      match createVault state env auth req db with
      | (.ok _, db') => createdFor (env.uuid 1) db'
      | (.error _, _) => []
  | .RegisterFile env auth request =>
      match Files.registerFile env auth request db with
      | (.ok _, db') => createdFor (env.uuid 0) db'
      | (.error _, _) => []
  | .Transfer _ (.Complete auth request) =>
      ((claims auth request db).map fun t => .Encrypted t.nftMetadataId t.toUserId).toList
  | .Transfer _ (.Initiate _ _ _) | .Transfer _ (.Confirm _ _) | .Transfer _ (.FinalizeByOffer _ _)
  | .Transfer _ (.Cancel _ _ _) | .FinalizeMint _ _ _ | .SyncSingle _ _ _ _ => []

/-- The keys that a call encrypts. -/
def told (db : Db) : Call → List Event
  | .Owning call => encrypts state db call
  | .Publish _ _ _ => []

/-- What happens in a run. -/
abbrev history (db : Db) (calls : List Call) : List Event :=
  Runs.history (step u codec state) (told state) db calls

/-- The user whom the key of an NFT is for. -/
def holder (id : Uuid) (h : List Event) : Option Uuid :=
  h.foldl (fun user e => match e with
    | .Encrypted nftId userId => if nftId = id then some userId else user) none

/-- Whoever gets access is told that the key is for somebody else if and only if it is. -/
def ReportsExactly (id : Uuid) (h : List Event) (db : Db) : Prop :=
  ∀ (codec : TextCodec) (state : AppState) (env : Env)
    (decrypt : NftMetadata → Except ApiError (Option String)) (auth : AuthenticatedUser)
    (nm : NftMetadata) (response : FileAccessResponse), db.nftMetadata.get? id = some nm →
    (requestAccess codec state env decrypt auth nm.nftTokenId db).1 = .ok response →
    response.preKeyMismatch = some (decide (holder id h ≠ some nm.ownerId))

/-! ## The condition -/

/-- Somebody has asked for a transfer of the NFT. -/
def Requested (id : Uuid) (db : Db) : Prop :=
  ∃ t ∈ db.transferRequests.rows, t.nftMetadataId = id

/-- No transfer of the NFT is requested, and nobody else is made its owner. Then nothing has ever
been re-encrypted, and the report has nothing to tell. -/
def guard (id : Uuid) (db : Db) (call : Call) : Prop :=
  ¬Requested id (step u codec state db call)
    ∧ ∀ owner, db.ownerOf id = some owner → (step u codec state db call).ownerOf id = some owner

instance (id : Uuid) (db : Db) : Decidable (Requested id db) :=
  inferInstanceAs (Decidable (∃ t ∈ db.transferRequests.rows, t.nftMetadataId = id))

instance (id : Uuid) (db : Db) (call : Call) : Decidable (guard u codec state id db call) :=
  inferInstanceAs (Decidable (¬Requested id (step u codec state db call)
    ∧ ∀ owner ∈ db.ownerOf id, (step u codec state db call).ownerOf id = some owner))

/-! ## What a call does to owners, requests and keys -/

/-- Nobody's wallet is forgotten. -/
def KeepsUsers (db db' : Db) : Prop :=
  ∀ userId, (db.walletOf userId).isSome → (db'.walletOf userId).isSome

inductive Moves (db : Db) : Db → List Event → Prop
  | Kept (db' : Db) : (∀ id, db'.ownerOf id = db.ownerOf id) →
      (∀ id, Requested id db' → Requested id db) → KeepsUsers db db' → Moves db db' []
  | Created (nm : NftMetadata) (db' : Db) : db.ownerOf nm.id = none →
      (∀ id, db'.ownerOf id = if id = nm.id then some nm.ownerId else db.ownerOf id) →
      db'.transferRequests = db.transferRequests → (db'.walletOf nm.ownerId).isSome →
      KeepsUsers db db' → Moves db db' [.Encrypted nm.id nm.ownerId]
  | Offered (nm : NftMetadata) (t : TransferRequest) (db' : Db) :
      db.nftMetadata.get? nm.id = some nm → nm.status.val = .Active → t.nftMetadataId = nm.id →
      t.status.val = .Pending → db'.nftMetadata = db.nftMetadata → db'.users = db.users →
      db'.transferRequests.rows = db.transferRequests.rows ++ [t] → Moves db db' []
  | Claimed (t : TransferRequest) (db' : Db) : t ∈ db.transferRequests.rows →
      (∀ id, db'.ownerOf id = if id = t.nftMetadataId then (db.ownerOf id).map fun _ => t.toUserId
        else db.ownerOf id) → (∀ id, Requested id db' → Requested id db) →
      (db.walletOf t.toUserId).isSome → db'.users = db.users →
      Moves db db' [.Encrypted t.nftMetadataId t.toUserId]
  | Reassigned (nftId : Uuid) (newOwner : User) : (db.walletOf newOwner.id).isSome →
      Moves db (Ownership.reassigned nftId newOwner db) []

section Step

variable {u codec state} {db db' : Db} {h e : List Event} {id : Uuid} {call : Call}

lemma claims_eq_some {auth : AuthenticatedUser} {request : Transfers.CompleteTransferRequest}
    {t : TransferRequest} {key : String} (h : Transfers.Claimable auth request.transferId db t key) :
    claims auth request db = some t := by
  obtain ⟨w, hw, hauth⟩ := h.recipient
  rw [claims, h.found, Option.filter_some, hw, h.completed, h.reEncrypted]
  simp [hauth]

lemma claims_eq_none {auth : AuthenticatedUser} {request : Transfers.CompleteTransferRequest}
    (h : ∀ t key, ¬Transfers.Claimable auth request.transferId db t key) :
    claims auth request db = none := by
  rw [claims, Option.filter_eq_none_iff]
  intro t ht hclaims
  rw [Bool.and_eq_true, Bool.and_eq_true, decide_eq_true_eq, Option.any_eq_true] at hclaims
  obtain ⟨⟨⟨w, hw, hauth⟩, hstatus⟩, hkey⟩ := hclaims
  obtain ⟨key, hkey⟩ := Option.isSome_iff_exists.mp hkey
  exact h t key ⟨ht, ⟨w, hw, hauth⟩, hstatus, hkey⟩

lemma keepsUsers_of_eq (h : db'.users = db.users) : KeepsUsers db db' := by
  intro userId huser
  rwa [Db.walletOf, h]

lemma keepsUsers_insertUser {user : User} (h : insertUser user db = .ok db') :
    KeepsUsers db db' ∧ (db'.walletOf user.id).isSome := by
  unfold insertUser at h
  cases hins : db.users.insert? user with
  | none =>
      rw [hins] at h
      cases h
  | some users =>
      rw [hins] at h
      cases h
      have hrows := Indexed.rows_insert hins
      refine ⟨fun userId huser => ?_, ?_⟩
      · obtain ⟨w, hw⟩ := Option.isSome_iff_exists.mp huser
        obtain ⟨old, hold, -⟩ := Option.map_eq_some_iff.mp hw
        obtain ⟨hmem, hid⟩ := Indexed.find?_eq_some.mp hold
        have hfind : users.find? userId = some old :=
          Indexed.find?_eq_some.mpr ⟨hrows ▸ List.mem_append_left _ hmem, hid⟩
        rw [Db.walletOf, hfind]
        rfl
      · have hfind : users.find? user.id = some user :=
          Indexed.find?_eq_some.mpr ⟨hrows ▸ List.mem_append_right _ (List.mem_singleton_self _), rfl⟩
        rw [Db.walletOf, hfind]
        rfl

lemma keepsUsers_joins {env : Env} {wallet preKey : String} {userId : Uuid}
    (h : Joins env wallet preKey db (.ok userId) db') :
    KeepsUsers db db' ∧ (db'.walletOf userId).isSome := by
  cases h with
  | Known user huser =>
      refine ⟨keepsUsers_of_eq rfl, ?_⟩
      rw [Db.walletOf_of_userOf huser]
      rfl
  | Registered walletAddress prePublicKey db' _ _ _ hins => exact keepsUsers_insertUser hins

/-- A new NFT belongs to somebody. -/
lemma moves_insertNft {nm : NftMetadata} {nfts : Indexed NftMetadata.id NftMetadata.nftTokenId}
    (hins : db.nftMetadata.insert? nm = some nfts) (hnfts : db'.nftMetadata = nfts)
    (htransfers : db'.transferRequests = db.transferRequests) (hkeeps : KeepsUsers db db')
    (huser : (db'.walletOf nm.ownerId).isSome) : Moves db db' (createdFor nm.id db') := by
  have howner : ∀ id, db'.ownerOf id = if id = nm.id then some nm.ownerId else db.ownerOf id := by
    intro id
    rw [Db.ownerOf, hnfts, Indexed.get?_insert hins]
    split_ifs <;> rfl
  have hcreated : createdFor nm.id db' = [.Encrypted nm.id nm.ownerId] := by
    rw [createdFor, howner, if_pos rfl]
    rfl
  rw [hcreated]
  refine .Created nm _ ?_ howner htransfers huser hkeeps
  rw [Db.ownerOf, Indexed.get?_insert_self hins]
  rfl

lemma moves_createVault (env : Env) (auth : AuthenticatedUser) (req : CreateVaultRequest) :
    Moves db (LedgerFollows.step u codec state db (.CreateVault env auth req))
      (encrypts state db (.CreateVault env auth req)) := by
  have hspec := createVault_spec state env auth req db
  simp only [wp, LedgerFollows.step, encrypts] at hspec ⊢
  generalize createVault state env auth req db = r at hspec ⊢
  obtain ⟨answer, db'⟩ := r
  cases hspec with
  | Refused e => exact .Kept _ (fun _ => rfl) (fun _ => id) (keepsUsers_of_eq rfl)
  | Unprepared userId e db' _ hjoin =>
      obtain ⟨users, rfl⟩ := hjoin.frame
      exact .Kept _ (fun _ => rfl) (fun _ => id) (keepsUsers_joins hjoin).1
  | Prepared userId hash answer db₁ db' _ hjoin hins =>
      obtain ⟨users, rfl⟩ := hjoin.frame
      obtain ⟨nfts, hnew, rfl⟩ := insertNft_eq_ok hins
      obtain ⟨hkeeps, huser⟩ := keepsUsers_joins hjoin
      have hnew : db.nftMetadata.insert? (preparedVault state env req userId hash) = some nfts := hnew
      exact moves_insertNft hnew rfl rfl hkeeps huser

lemma moves_registerFile (env : Env) (auth : AuthenticatedUser)
    (request : Files.RegisterFileRequest) :
    Moves db (LedgerFollows.step u codec state db (.RegisterFile env auth request))
      (encrypts state db (.RegisterFile env auth request)) := by
  have hspec := Files.registerFile_spec env auth request db
  simp only [wp, LedgerFollows.step, encrypts] at hspec ⊢
  generalize Files.registerFile env auth request db = r at hspec ⊢
  obtain ⟨answer, db'⟩ := r
  cases hspec with
  | Refused e => exact .Kept _ (fun _ => rfl) (fun _ => id) (keepsUsers_of_eq rfl)
  | Registered owner hash answer db₁ manifests fragments _ _ howner hins =>
      obtain ⟨nfts, hnew, rfl⟩ := insertNft_eq_ok hins
      refine moves_insertNft hnew rfl rfl (keepsUsers_of_eq rfl) ?_
      show (db.walletOf owner.id).isSome = true
      rw [Db.walletOf_of_userOf howner]
      rfl

lemma moves_finalizeMint (env : Env) (auth : AuthenticatedUser) (req : FinalizeVaultMintRequest) :
    Moves db (LedgerFollows.step u codec state db (.FinalizeMint env auth req))
      (encrypts state db (.FinalizeMint env auth req)) := by
  have hspec := finalizeVaultMint_spec env auth req db
  simp only [wp, LedgerFollows.step, encrypts] at hspec ⊢
  generalize finalizeVaultMint env auth req db = r at hspec ⊢
  obtain ⟨answer, db'⟩ := r
  cases hspec with
  | Refused e => exact .Kept _ (fun _ => rfl) (fun _ => id) (keepsUsers_of_eq rfl)
  | Finalized old wallet v hash answer db₁ db₂ _ hfinal h₁ h₂ h₃ =>
      obtain ⟨nfts, hnfts, rfl⟩ := updateMinted_eq_ok h₁
      obtain ⟨replicas, -, rfl⟩ := renameReplicas_eq_ok h₂
      obtain rfl := linkVaultObject_eq_ok h₃
      refine .Kept _ (fun id => ?_) (fun _ => id) (keepsUsers_of_eq rfl)
      show (nfts.get? id).map NftMetadata.ownerId = db.ownerOf id
      rw [Indexed.get?_replace hnfts, Db.ownerOf]
      split_ifs with hid
      · rw [hid, Option.map_map]
        rfl
      · rfl

lemma moves_syncSingle (env : Env) (nftId : Uuid) (nftTokenId : String) (currentOwnerId : Uuid) :
    Moves db (LedgerFollows.step u codec state db (.SyncSingle env nftId nftTokenId currentOwnerId))
      (encrypts state db (.SyncSingle env nftId nftTokenId currentOwnerId)) := by
  have hspec := Ownership.syncSingleNft_spec env nftId nftTokenId currentOwnerId db
  simp only [wp, LedgerFollows.step, encrypts] at hspec ⊢
  generalize Ownership.syncSingleNft env nftId nftTokenId currentOwnerId db = r at hspec ⊢
  obtain ⟨answer, db'⟩ := r
  cases hspec with
  | Unchanged => exact .Kept _ (fun _ => rfl) (fun _ => id) (keepsUsers_of_eq rfl)
  | Updated newOwner answer hreassigns =>
      refine .Reassigned nftId newOwner ?_
      rw [Db.walletOf_of_userOf hreassigns.registered]
      rfl

lemma requested_of_withTransfer {tid : Uuid} {f : TransferRequest → TransferRequest} {hid}
    (hf : ∀ t, (f t).nftMetadataId = t.nftMetadataId)
    (h : Requested id (db.withTransfer tid f hid)) : Requested id db := by
  obtain ⟨t, hmem, rfl⟩ := h
  rw [Db.withTransfer, Table.mem_update] at hmem
  obtain ⟨old, hold, rfl⟩ := hmem
  refine ⟨old, hold, ?_⟩
  split_ifs
  · exact (hf old).symm
  · rfl

lemma moves_transfer (env : Env) (call : Transfers.Step) :
    Moves db (LedgerFollows.step u codec state db (.Transfer env call))
      (encrypts state db (.Transfer env call)) := by
  have heffect := Transfers.step_effect u codec db call
  rw [LedgerFollows.step]
  generalize Transfers.step u codec db call = db' at heffect ⊢
  cases heffect with
  | Unchanged call hnone =>
      have hnothing : encrypts state db (.Transfer env call) = [] := by
        cases call with
        | Complete auth request =>
            rw [encrypts, claims_eq_none fun t key => hnone auth request t key rfl]
            rfl
        | _ => rfl
      rw [hnothing]
      exact .Kept _ (fun _ => rfl) (fun _ => id) (keepsUsers_of_eq rfl)
  | Created env auth request nft toUserId key db' hnft hactive hins =>
      unfold Transfers.insertTransfer at hins
      cases hrows : db.transferRequests.insert? (Transfers.pendingTransfer env nft toUserId key) with
      | none =>
          rw [hrows] at hins
          cases hins
      | some transferRequests =>
          rw [hrows] at hins
          cases hins
          exact .Offered nft _ _ hnft hactive rfl rfl rfl rfl (Table.insert?_eq_some hrows).2
  | Signed auth request t =>
      exact .Kept _ (fun id => Transfers.ownerOf_offerSigned db id t) (fun _ => id)
        (keepsUsers_of_eq rfl)
  | SignedRecorded auth request t =>
      exact .Kept _ (fun id => Transfers.ownerOf_offerSigned db id t)
        (fun _ => requested_of_withTransfer fun _ => rfl) (keepsUsers_of_eq rfl)
  | Finalized env request t =>
      exact .Kept _ (fun _ => rfl) (fun _ => requested_of_withTransfer fun _ => rfl)
        (keepsUsers_of_eq rfl)
  | HandedOver auth request t key hclaim =>
      obtain ⟨w, hw, -⟩ := hclaim.recipient
      rw [encrypts, claims_eq_some hclaim]
      exact .Claimed t _ (Table.mem_of_get? hclaim.found)
        (fun id => Transfers.ownerOf_handedOver db id t key) (fun _ => id) (by rw [hw]; rfl) rfl
  | HandedOverRecorded auth request t key xrplTxHash hclaim =>
      obtain ⟨w, hw, -⟩ := hclaim.recipient
      rw [encrypts, claims_eq_some hclaim]
      exact .Claimed t _ (Table.mem_of_get? hclaim.found)
        (fun id => Transfers.ownerOf_handedOver db id t key)
        (fun _ => requested_of_withTransfer fun _ => rfl) (by rw [hw]; rfl) rfl

lemma moves_owning (call : LedgerFollows.Call) :
    Moves db (LedgerFollows.step u codec state db call) (encrypts state db call) := by
  cases call with
  | CreateVault env auth req => exact moves_createVault env auth req
  | RegisterFile env auth request => exact moves_registerFile env auth request
  | FinalizeMint env auth req => exact moves_finalizeMint env auth req
  | Transfer env call => exact moves_transfer env call
  | SyncSingle env nftId nftTokenId currentOwnerId =>
      exact moves_syncSingle env nftId nftTokenId currentOwnerId

lemma moves_publish (publishedAt : String) (auth : AuthenticatedUser)
    (req : PublishVaultMetadataRequest) :
    Moves db (publishVaultMetadata codec state publishedAt auth req db).2 [] := by
  have hspec := publishVaultMetadata_spec codec state publishedAt auth req db
  rw [wp] at hspec
  generalize (publishVaultMetadata codec state publishedAt auth req db).1 = answer at hspec
  generalize (publishVaultMetadata codec state publishedAt auth req db).2 = db' at hspec ⊢
  cases hspec with
  | Refused e => exact .Kept _ (fun _ => rfl) (fun _ => id) (keepsUsers_of_eq rfl)
  | Repeated answer => exact .Kept _ (fun _ => rfl) (fun _ => id) (keepsUsers_of_eq rfl)
  | Published nm ownerWallet patch answer =>
      refine .Kept _ (fun id => ?_) (fun _ => id) (keepsUsers_of_eq rfl)
      rw [withPublicMetadata, Transfers.ownerOf_withNft]
      split_ifs with hid
      · rw [hid]
        rfl
      · rfl

/-- **What a call does.** -/
theorem moves_step (db : Db) (call : Call) :
    Moves db (step u codec state db call) (told state db call) := by
  cases call with
  | Owning call => exact moves_owning call
  | Publish publishedAt auth req => exact moves_publish publishedAt auth req

end Step

/-! ## What is reported -/

section Reports

variable {db db' : Db} {h e : List Event} {id : Uuid}

/-- A ledger that lists a token under every account. -/
def ledgerWith (nftTokenId : String) : Env :=
  { (default : Env) with
    xrpl := fun _ _ => .ok (.Obj [("result", .Obj [("account_nfts", .Arr
      [.Obj [("NFTokenID", .Str nftTokenId)]])])]) }

/-- The owner can get access. -/
lemma requestAccess_owner (codec : TextCodec) (state : AppState) {nm : NftMetadata} {w : String}
    (hnm : db.nftMetadata.get? id = some nm) (hactive : nm.status.val = .Active)
    (hw : db.walletOf nm.ownerId = some w) :
    ∃ response, (requestAccess codec state (ledgerWith nm.nftTokenId) (fun _ => .ok none)
      ⟨w, "", "user"⟩ nm.nftTokenId db).1 = .ok response := by
  have hfind : db.nftMetadata.find? nm.nftTokenId = some nm := Indexed.find?_of_get? hnm
  have hreadable : isReadable nm = true := by simp [isReadable, hactive]
  have haccessible : Ownership.accessibleNft nm.nftTokenId db = some (nm, w) := by
    have hfilter : (some nm).filter (fun nm => decide (nm.status.val = .Active)
        || decide (nm.status.val = .PendingClaim)) = some nm :=
      Option.filter_eq_some_iff.mpr ⟨rfl, by simp [hactive]⟩
    rw [Ownership.accessibleNft, hfind, hfilter, Option.bind_some, hw]
    rfl
  have hlisted : Xrpl.verifyNftOwner (ledgerWith nm.nftTokenId) 0 nm.nftTokenId w = .ok true := by
    show Except.ok (decide (some nm.nftTokenId = some nm.nftTokenId) || false) = _
    simp
  have hverified : Ownership.requireVerifiedNftOwner (ledgerWith nm.nftTokenId) nm.nftTokenId w
      "Only the NFT owner can access this file" db = (.ok w, db) := by
    refine (run_read _).trans ((run_expect haccessible).trans ?_)
    refine (run_require (Text.eqIgnoreAsciiCase_self w)).trans ?_
    refine (run_lift (a := ()) ?_).trans rfl
    rw [hlisted]
    split_ifs <;> rfl
  rw [requestAccess, run_bind hverified, run_read,
    run_expect (Option.filter_eq_some_iff.mpr ⟨hfind, hreadable⟩),
    run_lift (a := none) (by split_ifs <;> rfl), run_read, run_read]
  exact ⟨_, rfl⟩

lemma preKeyMismatch_of_get? {nm : NftMetadata} (hnm : db.nftMetadata.get? id = some nm) :
    preKeyMismatch nm.nftTokenId db
      = (!isOriginalCreator nm.id db && !hasProperTransfer nm.id nm.ownerId db) := by
  rw [preKeyMismatch, Indexed.find?_of_get? hnm]

/-- An NFT that nobody has asked for is the creator's. -/
lemma preKeyMismatch_of_not_requested {nm : NftMetadata} (hnm : db.nftMetadata.get? id = some nm)
    (hnone : ¬Requested id db) : preKeyMismatch nm.nftTokenId db = false := by
  have hid : nm.id = id := Indexed.key_of_get? hnm
  rw [preKeyMismatch_of_get? hnm]
  have hcreator : isOriginalCreator nm.id db = true := by
    rw [isOriginalCreator, Bool.not_eq_true', List.any_eq_false]
    intro t ht htid
    exact hnone ⟨t, ht, hid ▸ of_decide_eq_true htid⟩
  rw [hcreator]
  rfl

/-- What has been written before still counts. -/
lemma holder_append (h e : List Event) : holder id (h ++ e) = e.foldl (fun user e => match e with
    | .Encrypted nftId userId => if nftId = id then some userId else user) (holder id h) :=
  List.foldl_append

/-- The key is the owner's, and nobody has asked for the NFT. -/
structure Untouched (id : Uuid) (h : List Event) (db : Db) : Prop where
  unrequested : ¬Requested id db
  holder : ∀ owner, db.ownerOf id = some owner → holder id h = some owner

/-- An NFT that is untouched is reported as it is. -/
lemma Untouched.reportsExactly (hs : Untouched id h db) : ReportsExactly id h db := by
  intro codec state env decrypt auth nm response hnm hresponse
  have hmismatch := requestAccess_mismatch codec state env decrypt auth nm.nftTokenId db response
    hresponse
  have howner : db.ownerOf id = some nm.ownerId := by
    rw [Db.ownerOf, hnm]
    rfl
  rw [hmismatch, preKeyMismatch_of_not_requested hnm hs.unrequested, hs.holder _ howner]
  simp

/-- Every owner is a user. -/
def Owned (db : Db) : Prop := ∀ id owner, db.ownerOf id = some owner → (db.walletOf owner).isSome

lemma ownerOf_reassigned (nftId : Uuid) (newOwner : User) (id : Uuid) :
    (Ownership.reassigned nftId newOwner db).ownerOf id
      = if id = nftId then (db.ownerOf id).map fun _ => newOwner.id else db.ownerOf id := by
  rw [Ownership.reassigned, Transfers.ownerOf_withNft]
  split_ifs with hid
  · rw [hid, Db.ownerOf, Option.map_map]
    rfl
  · rfl

lemma Owned.moves (hs : Owned db) (hmoves : Moves db db' e) : Owned db' := by
  intro id owner howner
  cases hmoves with
  | Kept _ howners _ hkeeps => exact hkeeps _ (hs id owner (howners id ▸ howner))
  | Created nm _ _ howners _ huser hkeeps =>
      rw [howners] at howner
      split_ifs at howner
      · rw [← Option.some.inj howner]
        exact huser
      · exact hkeeps _ (hs id owner howner)
  | Offered nm t _ _ _ _ _ hnfts husers _ =>
      rw [Db.ownerOf, hnfts] at howner
      exact keepsUsers_of_eq husers _ (hs id owner howner)
  | Claimed t _ _ howners _ huser husers =>
      rw [howners] at howner
      split_ifs at howner
      · obtain ⟨old, -, rfl⟩ := Option.map_eq_some_iff.mp howner
        exact keepsUsers_of_eq husers _ huser
      · exact keepsUsers_of_eq husers _ (hs id owner howner)
  | Reassigned nftId newOwner huser =>
      rw [ownerOf_reassigned] at howner
      split_ifs at howner
      · obtain ⟨old, -, rfl⟩ := Option.map_eq_some_iff.mp howner
        exact huser
      · exact hs id owner howner

/-- What the guard asks of a call that has led from `db` to `db'`. -/
structure Leaves (id : Uuid) (db db' : Db) : Prop where
  unrequested : ¬Requested id db'
  owner : ∀ owner, db.ownerOf id = some owner → db'.ownerOf id = some owner

/-- **What a guarded call keeps.** -/
lemma Untouched.moves (hs : Untouched id h db) (hmoves : Moves db db' e)
    (hleaves : Leaves id db db') : Untouched id (h ++ e) db' := by
  refine ⟨hleaves.unrequested, fun owner howner => ?_⟩
  rw [holder_append]
  cases hmoves with
  | Kept _ howners => exact hs.holder owner (howners id ▸ howner)
  | Created nm _ _ howners =>
      rw [howners] at howner
      split_ifs at howner with hid
      · rw [← howner, hid]
        exact if_pos rfl
      · exact (if_neg (Ne.symm hid)).trans (hs.holder owner howner)
  | Offered nm t _ _ _ _ _ hnfts =>
      rw [Db.ownerOf, hnfts] at howner
      exact hs.holder owner howner
  | Claimed t _ hmem howners =>
      have hid : t.nftMetadataId ≠ id := fun hid => hs.unrequested ⟨t, hmem, hid⟩
      rw [howners, if_neg (Ne.symm hid)] at howner
      exact (if_neg hid).trans (hs.holder owner howner)
  | Reassigned nftId newOwner =>
      have hold : ∃ old, db.ownerOf id = some old := by
        rw [ownerOf_reassigned] at howner
        split_ifs at howner
        · obtain ⟨old, hold, -⟩ := Option.map_eq_some_iff.mp howner
          exact ⟨old, hold⟩
        · exact ⟨owner, howner⟩
      obtain ⟨old, hold⟩ := hold
      rw [hleaves.owner old hold] at howner
      rw [← Option.some.inj howner]
      exact hs.holder old hold

/-- The owner of an active NFT gets a report. -/
lemma ReportsExactly.mismatch_eq (codec : TextCodec) (state : AppState)
    (hreports : ReportsExactly id h db) (howned : Owned db) {nm : NftMetadata}
    (hnm : db.nftMetadata.get? id = some nm) (hactive : nm.status.val = .Active) :
    preKeyMismatch nm.nftTokenId db = decide (holder id h ≠ some nm.ownerId) := by
  have howner : db.ownerOf id = some nm.ownerId := by
    rw [Db.ownerOf, hnm]
    rfl
  obtain ⟨w, hw⟩ := Option.isSome_iff_exists.mp (howned id nm.ownerId howner)
  obtain ⟨response, hresponse⟩ := requestAccess_owner codec state hnm hactive hw
  have hreport := hreports codec state _ _ _ nm response hnm hresponse
  rw [requestAccess_mismatch _ _ _ _ _ _ _ response hresponse] at hreport
  exact Option.some.inj hreport

/-- **A call that the guard forbids makes the report wrong.** -/
lemma Untouched.leaves (codec : TextCodec) (state : AppState)
    (hs : Untouched id h db) (howned : Owned db) (hmoves : Moves db db' e)
    (hreports : ReportsExactly id (h ++ e) db') : Leaves id db db' := by
  have howned' := howned.moves hmoves
  cases hmoves with
  | Kept _ howners hrequested =>
      exact ⟨fun hid => hs.unrequested (hrequested id hid), fun owner h => (howners id).trans h⟩
  | Created nm _ hnew howners htransfers =>
      refine ⟨?_, fun owner howner => ?_⟩
      · rw [Requested, htransfers]
        exact hs.unrequested
      · rw [howners, if_neg, howner]
        rintro rfl
        rw [hnew] at howner
        cases howner
  | Claimed t _ hmem howners hrequested =>
      refine ⟨fun hid => hs.unrequested (hrequested id hid), fun owner howner => ?_⟩
      rw [howners, if_neg fun hid => hs.unrequested ⟨t, hmem, hid.symm⟩, howner]
  | Offered nm t _ hnm hactive htid hpending hnfts husers hrows =>
      refine ⟨fun hrequested => ?_, fun owner howner => by rwa [Db.ownerOf, hnfts]⟩
      obtain ⟨t', ht', hid⟩ := hrequested
      rw [hrows] at ht'
      -- it is the new request that is for the NFT
      rcases List.mem_append.mp ht' with hold | hnew
      · exact hs.unrequested ⟨t', hold, hid⟩
      obtain rfl := List.mem_singleton.mp hnew
      obtain rfl : nm.id = id := htid.symm.trans hid
      have hnm' : db'.nftMetadata.get? nm.id = some nm := by rw [hnfts, hnm]
      have hmismatch := hreports.mismatch_eq codec state howned' hnm' hactive
      have howner : db.ownerOf nm.id = some nm.ownerId := by
        rw [Db.ownerOf, hnm]
        rfl
      rw [List.append_nil, hs.holder _ howner, preKeyMismatch_of_get? hnm'] at hmismatch
      have hcreator : isOriginalCreator nm.id db' = false := by
        rw [isOriginalCreator, Bool.not_eq_false', List.any_eq_true]
        exact ⟨t', hrows ▸ ht', decide_eq_true htid⟩
      have hproper : hasProperTransfer nm.id nm.ownerId db' = false := by
        rw [hasProperTransfer, List.any_eq_false]
        intro t ht
        simp only [Bool.and_eq_true, decide_eq_true_eq]
        rintro ⟨⟨hid, -⟩, hcompleted⟩
        rw [hrows] at ht
        rcases List.mem_append.mp ht with hold | hnew
        · exact hs.unrequested ⟨t, hold, hid⟩
        · rw [List.mem_singleton.mp hnew, hpending] at hcompleted
          cases hcompleted
      rw [hcreator, hproper] at hmismatch
      simp at hmismatch
  | Reassigned nftId newOwner =>
      refine ⟨hs.unrequested, fun owner howner => ?_⟩
      rw [ownerOf_reassigned]
      split_ifs with hid
      · subst hid
        obtain ⟨nm, hnm, rfl⟩ := Option.map_eq_some_iff.mp howner
        have hnm' : (Ownership.reassigned id newOwner db).nftMetadata.get? id
            = some { nm with ownerId := newOwner.id, status := NftStatus.active } := by
          rw [Ownership.reassigned, get?_withNft, if_pos rfl, hnm]
          rfl
        have hmismatch := hreports.mismatch_eq codec state howned' hnm' rfl
        rw [preKeyMismatch_of_not_requested hnm' hs.unrequested, List.append_nil,
          hs.holder _ howner] at hmismatch
        have hsame : some nm.ownerId = some newOwner.id := by simpa using hmismatch
        rw [howner, hsame]
        rfl
      · exact howner

end Reports

/-! ## Runs -/

section Run

variable {u codec state} {db : Db} {calls : List Call} {id : Uuid}

lemma owned_exec (hnew : db.nftMetadata.rows = []) : Owned (exec u codec state db calls) := by
  induction calls using List.reverseRecOn with
  | nil =>
      intro id owner howner
      obtain ⟨nm, hnm, -⟩ := Option.map_eq_some_iff.mp howner
      have hmem := (Indexed.get?_eq_some.mp hnm).1
      rw [exec, Runs.exec_nil, hnew] at hmem
      cases hmem
  | append_singleton calls call ih =>
      rw [exec, Runs.exec_concat]
      exact ih.moves (moves_step _ call)

lemma untouched_exec (hnew : db.nftMetadata.rows = []) (hrequests : db.transferRequests = .empty)
    (hguarded : Runs.Guarded (step u codec state) (guard u codec state id) db calls) :
    Untouched id (history u codec state db calls) (exec u codec state db calls) := by
  induction calls using List.reverseRecOn with
  | nil =>
      refine ⟨?_, fun owner howner => ?_⟩
      · rintro ⟨t, ht, -⟩
        rw [exec, Runs.exec_nil, hrequests] at ht
        cases ht
      · obtain ⟨nm, hnm, -⟩ := Option.map_eq_some_iff.mp howner
        have hmem := (Indexed.get?_eq_some.mp hnm).1
        rw [exec, Runs.exec_nil, hnew] at hmem
        cases hmem
  | append_singleton calls call ih =>
      rw [history, Runs.history_concat, exec, Runs.exec_concat]
      obtain ⟨hunrequested, howner⟩ := hguarded.back.1
      exact (ih hguarded.front).moves (moves_step _ call) ⟨hunrequested, howner⟩

/-- **The report is exact in every state of a run if and only if** no transfer of the NFT is
requested, and nobody else is made its owner. The handler guesses who can open the key by the status
of the requests that it finds: without one the owner counts as the creator, and a completed one as
handed over. -/
theorem reportsExactly_iff (hnew : db.nftMetadata.rows = [])
    (hrequests : db.transferRequests = .empty) :
    (∀ pre post, calls = pre ++ post →
      ReportsExactly id (history u codec state db pre) (exec u codec state db pre))
      ↔ Runs.Guarded (step u codec state) (guard u codec state id) db calls := by
  constructor
  · intro hreports
    induction calls using List.reverseRecOn with
    | nil => trivial
    | append_singleton calls call ih =>
        have hguarded : Runs.Guarded (step u codec state) (guard u codec state id) db calls :=
          ih fun pre post heq => hreports pre (post ++ [call]) (by rw [heq, List.append_assoc])
        have hlast := hreports (calls ++ [call]) [] (List.append_nil _).symm
        rw [history, Runs.history_concat, exec, Runs.exec_concat] at hlast
        have hleaves := (untouched_exec hnew hrequests hguarded).leaves codec state
          (owned_exec hnew) (moves_step _ call) hlast
        exact hguarded.append ⟨⟨hleaves.unrequested, hleaves.owner⟩, trivial⟩
  · rintro hguarded pre post rfl
    exact (untouched_exec hnew hrequests hguarded.front).reportsExactly

end Run

namespace Sample

open Transfers.Sample Tombstone.Sample

/-- An Oracle with a hash function whose digests have the right length. -/
def hashing : AppState := { oracle with sha256 := fun _ => List.replicate 32 0 }

def identity : VaultedIdentity where
  id := "alice"
  signingPublicKey := ""
  encryptionPublicKey := ""
  protocolVersion := "vaulted-v1"
  status := .Active

/-- The users of the Oracle, and Alice's identity. -/
def users : Db :=
  { LedgerFollows.Sample.users with identities := ⟨[identity], List.nodup_singleton _⟩ }

/-- The URI of the public metadata, and what the ledger has for it. -/
def uri : String := "vaulted://h"
def uriHex : String := "7661756c7465643a2f2f68"

/-- The ledger on which a wallet holds the token. -/
def heldBy (wallet : String) : Env :=
  { env ⟨"nft"⟩ with
    xrpl := fun _ call => .ok (.Obj [("result",
      if call.method = "tx" then
        .Obj [("validated", .Boolean true), ("TransactionType", .Str "NFTokenMint"),
          ("Account", .Str "rAlice"), ("URI", .Str uriHex),
          ("meta", .Obj [("TransactionResult", .Str "tesSUCCESS"), ("nftoken_id", .Str tokenId)])]
      else
        .Obj [("account_nfts", .Arr
          (if call.params.head?.bind (·.2.asStr) = some wallet then
            [.Obj [("NFTokenID", .Str tokenId), ("URI", .Str uriHex)]]
          else []))])]) }

/-- Alice creates a vault, publishes its metadata, and mints its NFT. -/
def minted : List Call :=
  [.Owning (.CreateVault (env ⟨"nft"⟩) (caller alice)
      { walletAddress := "rAlice"
        prePublicKey := ""
        encryptedAesKey := "key"
        metadataHash := "h"
        manifest :=
          { encryptedFilename := "", originalSize := 0, mimeType := "", originalHash := "",
            fragments := [] } }),
    .Publish "" (caller alice)
      { vaultId := ⟨"nft"⟩
        manifestHash := "h"
        metadataUri := uri
        metadataJson := "\x7b\"name\":\"n\",\"image\":\"i\",\"external_url\":\"vaulted://h\","
          ++ "\"properties\":\x7b\"manifest_hash\":\"h\"\x7d\x7d"
        metadataHash := Text.hexEncode (List.replicate 32 0) },
    .Owning (.FinalizeMint (heldBy "rAlice") (caller alice)
      { vaultId := ⟨"nft"⟩
        nftTokenId := tokenId
        txHash := txHash
        manifestUri := uri
        manifestHash := "h"
        ownerIdentityId := "alice" })]

/-- Bob gets the NFT outside the application, and the Oracle looks at the ledger. -/
def moved : List Call :=
  minted ++ [.Owning (.SyncSingle (heldBy "rBob") ⟨"nft"⟩ tokenId alice.id)]

/-- A run of Alice and Bob. -/
abbrev run (calls : List Call) : Db := exec Umbral.symbolic JsonText.compact hashing users calls

/-- While the vault is minted, its key is Alice's, and she is told so. -/
theorem reportsExactly_minted :
    holder ⟨"nft"⟩ (history Umbral.symbolic JsonText.compact hashing users minted) = some alice.id
      ∧ ∀ pre post, minted = pre ++ post →
        ReportsExactly ⟨"nft"⟩ (history Umbral.symbolic JsonText.compact hashing users pre)
          (run pre) := by
  have hminted : holder ⟨"nft"⟩ (history Umbral.symbolic JsonText.compact hashing users minted)
        = some alice.id
      ∧ Runs.Guarded (step Umbral.symbolic JsonText.compact hashing)
        (guard Umbral.symbolic JsonText.compact hashing ⟨"nft"⟩) users minted := by
    decide +kernel
  exact ⟨hminted.1, (reportsExactly_iff rfl rfl).mpr hminted.2⟩

/-- **Bob is told that Alice's key is his.** -/
theorem not_reportsExactly :
    ¬∀ pre post, moved = pre ++ post →
      ReportsExactly ⟨"nft"⟩ (history Umbral.symbolic JsonText.compact hashing users pre)
        (run pre) := by
  intro hreports
  have hreport := hreports moved [] (List.append_nil _).symm
  have hmoved : ((run moved).nftMetadata.get? ⟨"nft"⟩).map (fun nm =>
        (nm.ownerId, nm.status.val, preKeyMismatch nm.nftTokenId (run moved)))
          = some (bob.id, .Active, false)
      ∧ holder ⟨"nft"⟩ (history Umbral.symbolic JsonText.compact hashing users moved)
        = some alice.id := by
    decide +kernel
  obtain ⟨hrow, hholder⟩ := hmoved
  obtain ⟨nm, hnm, hnm'⟩ := Option.map_eq_some_iff.mp hrow
  simp only [Prod.mk.injEq] at hnm'
  obtain ⟨howner, hactive, hmismatch⟩ := hnm'
  have htold := hreport.mismatch_eq JsonText.compact hashing (owned_exec rfl) hnm hactive
  rw [hmismatch, hholder, howner] at htold
  exact absurd htold (by decide)

end Sample

end Vaulted.KeyMismatch
