import Vaulted.Oracle.Xrpl

/-!
# Ownership on the ledger

Two places where the Oracle compares its owners with the ledger: `api/ownership.rs`, before it
hands out something sensitive, and `sync.rs`, which follows transfers made outside the app.

* `requireVerifiedNftOwner` — the caller owns the NFT here and, unless its mint is pending, on
  the ledger.
* `syncSingleNft`, `syncNft` — give an NFT to the registered user under whom the ledger lists it
  (`syncSingleNft_spec`).
-/

namespace Vaulted.Ownership

open Autocommit.Prog

/-! ## Sensitive access -/

/-- The active or prepared NFT with a token id, and the wallet of its owner. -/
def accessibleNft (nftTokenId : String) (db : Db) : Option (NftMetadata × String) :=
  ((db.nftMetadata.find? nftTokenId).filter fun nm =>
    decide (nm.status.val = .Active) || decide (nm.status.val = .PendingClaim)).bind fun nm =>
      (db.walletOf nm.ownerId).map fun w => (nm, w)

def requiresXrplOwnershipVerification (status : NftStatus) : Bool :=
  decide (status ≠ .PendingClaim)

def requireOwnerFromVerification : Except ApiError Bool → Except ApiError Unit
  | .ok true => .ok ()
  | .ok false => .error (.Forbidden "NFT ownership could not be verified on XRPL ledger")
  | .error _ => .error (.OwnershipVerificationUnavailable
      ("XRPL ownership verification is temporarily unavailable. "
        ++ "Please retry when ledger verification is available."))

def requireVerifiedNftOwner (env : Env) (nftTokenId walletAddress forbiddenMessage : String) :
    Handler String := do
  let row? ← read (accessibleNft nftTokenId)
  let (nm, dbOwnerWallet) ← expect row? (.NftNotFound nftTokenId)
  require (Text.eqIgnoreAsciiCase dbOwnerWallet walletAddress) (.Forbidden forbiddenMessage)
  lift (if requiresXrplOwnershipVerification nm.status.val
    then requireOwnerFromVerification (Xrpl.verifyNftOwner env 0 nftTokenId walletAddress)
    else .ok ())
  pure dbOwnerWallet

/-- The caller may see the file of an NFT. -/
structure Verified (env : Env) (nftTokenId walletAddress : String) (db : Db) (nm : NftMetadata) :
    Prop where
  found : db.nftMetadata.find? nftTokenId = some nm
  status : nm.status.val = .Active ∨ nm.status.val = .PendingClaim
  owner : ∃ w, db.walletOf nm.ownerId = some w ∧ Text.eqIgnoreAsciiCase w walletAddress = true
  listed : nm.status.val ≠ .PendingClaim →
    Xrpl.verifyNftOwner env 0 nftTokenId walletAddress = .ok true

theorem requireVerifiedNftOwner_spec (env : Env) (nftTokenId walletAddress message : String)
    (db : Db) : wp (requireVerifiedNftOwner env nftTokenId walletAddress message)
      (fun r db' => db' = db ∧ ∀ w, r = .ok w → ∃ nm, Verified env nftTokenId walletAddress db nm)
      db := by
  have refused : ∀ e : ApiError, db = db ∧ ∀ w : String, Except.error e = .ok w →
      ∃ nm, Verified env nftTokenId walletAddress db nm := fun e => ⟨rfl, fun _ h => nomatch h⟩
  refine wp_read_bind (wp_expect_bind (fun _ => refused _) fun (nm, w) hrow => ?_)
  obtain ⟨nm', hnm, hw⟩ := Option.bind_eq_some_iff.mp hrow
  obtain ⟨w', hw', heq⟩ := Option.map_eq_some_iff.mp hw
  obtain ⟨rfl, rfl⟩ := Prod.mk.inj heq
  obtain ⟨hfind, hstatus⟩ := Option.filter_eq_some_iff.mp hnm
  refine wp_require_bind (fun _ => refused _) fun hauth => ?_
  refine wp_lift_bind (fun _ _ => refused _) fun _ hlisted => wp_pure ⟨rfl, fun _ _ => ⟨nm', ?_⟩⟩
  refine ⟨hfind, by simpa using hstatus, ⟨w', hw', hauth⟩, fun hpending => ?_⟩
  rw [requiresXrplOwnershipVerification, decide_eq_true hpending, if_pos rfl] at hlisted
  unfold requireOwnerFromVerification at hlisted
  split at hlisted
  · assumption
  · cases hlisted
  · cases hlisted

/-! ## Synchronisation -/

inductive SyncAction
  | NoChange
  | OwnerUpdated (old new : String)
  | NotFoundOnXrpl
  | NewOwnerNotRegistered (wallet : String)
  deriving DecidableEq

/-- Ask for one wallet after the other; the first that holds the token is its owner. -/
def findNftOwnerOnXrpl (env : Env) (nftTokenId : String) :
    Nat → List String → Except ApiError (Option String)
  | _, [] => .ok none
  | n, wallet :: wallets => do
      let owns ← Xrpl.verifyNftOwner env n nftTokenId wallet
      if owns then .ok (some wallet) else findNftOwnerOnXrpl env nftTokenId (n + 1) wallets

def syncSingleNft (env : Env) (nftId : Uuid) (nftTokenId : String) (currentOwnerId : Uuid) :
    Handler SyncAction := do
  let currentOwnerWallet? ← read fun db => db.walletOf currentOwnerId
  let currentOwnerWallet ← expect currentOwnerWallet? .rowNotFound
  let stillOwns ← lift (Xrpl.verifyNftOwner env 0 nftTokenId currentOwnerWallet)
  if stillOwns then pure .NoChange
  else do
    let wallets ← read fun db => env.unordered (db.users.rows.map User.walletAddress)
    let newOwnerWallet ← lift (findNftOwnerOnXrpl env nftTokenId 1 wallets)
    match newOwnerWallet with
    | some newWallet => do
        let newOwner ← read fun db => db.userOf newWallet
        match newOwner with
        | some newOwner => do
            write fun db => db.updateNft nftId .Active fun nm => { nm with ownerId := newOwner.id }
            pure (.OwnerUpdated currentOwnerWallet newWallet)
        | none => pure (.NewOwnerNotRegistered newWallet)
    | none => pure .NotFoundOnXrpl

def syncNft (env : Env) (nftTokenId : String) : Handler SyncAction := do
  let nft ← read fun db => db.nftMetadata.find? nftTokenId
  match nft with
  | some nm => syncSingleNft env nm.id nftTokenId nm.ownerId
  | none => pure .NotFoundOnXrpl

/-! ## What a synchronisation can do -/

/-- The ledger has moved an NFT from its stored owner to another registered user. -/
structure Reassigns (env : Env) (nftTokenId : String) (currentOwnerId : Uuid) (db : Db)
    (newOwner : User) : Prop where
  lost : ∃ w, db.walletOf currentOwnerId = some w
    ∧ Xrpl.verifyNftOwner env 0 nftTokenId w = .ok false
  found : findNftOwnerOnXrpl env nftTokenId 1
    (env.unordered (db.users.rows.map User.walletAddress)) = .ok (some newOwner.walletAddress)
  registered : db.userOf newOwner.walletAddress = some newOwner

lemma shows_of_findNftOwnerOnXrpl {env : Env} {nftTokenId w : String} {n : Nat}
    {wallets : List String} (h : findNftOwnerOnXrpl env nftTokenId n wallets = .ok (some w)) :
    env.shows nftTokenId w := by
  induction wallets generalizing n with
  | nil => cases h
  | cons wallet wallets ih =>
      obtain ⟨owns, howns, h⟩ := bind_eq_ok h
      cases owns with
      | true =>
          rw [← Option.some.inj (Except.ok.inj h)]
          exact Xrpl.shows_of_verifyNftOwner howns
      | false => exact ih h

lemma Reassigns.shows {env : Env} {nftTokenId : String} {currentOwnerId : Uuid} {db : Db}
    {newOwner : User} (h : Reassigns env nftTokenId currentOwnerId db newOwner) :
    env.shows nftTokenId newOwner.walletAddress :=
  shows_of_findNftOwnerOnXrpl h.found

/-- An NFT given to the user whom the ledger names. -/
def reassigned (nftId : Uuid) (newOwner : User) (db : Db) : Db :=
  db.withNft nftId fun nm => { nm with ownerId := newOwner.id, status := NftStatus.active }

inductive Syncs (env : Env) (nftId : Uuid) (nftTokenId : String) (currentOwnerId : Uuid)
    (db : Db) : Except ApiError SyncAction → Db → Prop
  | Unchanged (answer : Except ApiError SyncAction) :
      Syncs env nftId nftTokenId currentOwnerId db answer db
  | Updated (newOwner : User) (answer : SyncAction) :
      Reassigns env nftTokenId currentOwnerId db newOwner →
      Syncs env nftId nftTokenId currentOwnerId db (.ok answer) (reassigned nftId newOwner db)

theorem syncSingleNft_spec (env : Env) (nftId : Uuid) (nftTokenId : String)
    (currentOwnerId : Uuid) (db : Db) : wp (syncSingleNft env nftId nftTokenId currentOwnerId)
      (Syncs env nftId nftTokenId currentOwnerId db) db := by
  refine wp_read_bind (wp_expect_bind (fun _ => .Unchanged _) fun w hw => ?_)
  refine wp_lift_bind (fun _ _ => .Unchanged _) fun stillOwns howns => ?_
  cases stillOwns with
  | true => exact .Unchanged _
  | false =>
      refine wp_read_bind (wp_lift_bind (fun _ _ => .Unchanged _) fun newWallet? hfind => ?_)
      cases newWallet? with
      | none => exact .Unchanged _
      | some newWallet =>
          refine wp_read_bind ?_
          cases hnew : db.userOf newWallet with
          | none => exact .Unchanged _
          | some newOwner =>
              refine wp_write_bind (fun _ h => nomatch h) fun db' hdb' => wp_pure ?_
              cases hdb'
              have hwallet : newOwner.walletAddress = newWallet :=
                Indexed.key_of_get? hnew
              subst hwallet
              exact .Updated newOwner _ ⟨⟨w, hw, howns⟩, hfind, hnew⟩

/-- `syncNft` synchronises the row of its token id. -/
theorem syncNft_spec (env : Env) (nftTokenId : String) (db : Db) :
    wp (syncNft env nftTokenId) (fun r db' => db' = db ∨ ∃ nm,
      db.nftMetadata.find? nftTokenId = some nm
        ∧ Syncs env nm.id nftTokenId nm.ownerId db r db') db := by
  refine wp_read_bind ?_
  cases hnm : db.nftMetadata.find? nftTokenId with
  | none => exact wp_pure (.inl rfl)
  | some nm => exact wp_mono (syncSingleNft_spec _ _ _ _ _) fun _ _ h => .inr ⟨nm, rfl, h⟩

end Vaulted.Ownership
