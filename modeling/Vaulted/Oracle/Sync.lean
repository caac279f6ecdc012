import Mathlib.Data.List.Sort
import Vaulted.Library.ByteSlices
import Vaulted.Oracle.Ownership

/-!
# Synchronisation with the ledger

`sync.rs` takes the active NFTs in turn, those first that have not been written for longest.  The
audit log is left out, and so are the log lines, but for the first sixteen bytes of an id that they
show: where there are none, the cycle panics.

* `Dated` — the database with the column `updated_at` of the NFTs, which only the order of the
  synchronisation reads.
* `syncSingleNft`, `syncCycle` — one NFT, and one batch of them.
* `confirmed` — the ledger shows that a registered user owns an NFT; these are the ones that are
  written (`syncSingleNft_spec`).
-/

namespace Vaulted.Sync

open Autocommit.Prog Ownership

/-! ## One NFT -/

structure Dated where
  db : Db
  updatedAt : Uuid → Time

/-- The rows that a synchronisation has written. -/
def writes : Except ApiError SyncAction → Bool
  | .ok .NoChange => true
  | .ok (.OwnerUpdated _ _) => true
  | .ok .NotFoundOnXrpl => false
  | .ok (.NewOwnerNotRegistered _) => false
  | .error _ => false

/-- Both `UPDATE`s set `updated_at`; that of an owner who is still the owner sets nothing else. -/
def syncSingleNft (env : Env) (nftId : Uuid) (nftTokenId : String) (currentOwnerId : Uuid)
    (s : Dated) : Except ApiError SyncAction × Dated :=
  match Ownership.syncSingleNft env nftId nftTokenId currentOwnerId s.db with
  | (answer, db) =>
      (answer, ⟨db, if writes answer then Function.update s.updatedAt nftId env.now
        else s.updatedAt⟩)

/-! ## A cycle -/

structure SyncStats where
  total : Nat
  updated : Nat
  unchanged : Nat
  notFound : Nat
  unregisteredOwners : Nat
  errors : Nat
  durationMs : Nat
  deriving DecidableEq, Inhabited

def SyncStats.count (stats : SyncStats) : Except ApiError SyncAction → SyncStats
  | .ok .NoChange => { stats with unchanged := stats.unchanged + 1 }
  | .ok (.OwnerUpdated _ _) => { stats with updated := stats.updated + 1 }
  | .ok .NotFoundOnXrpl => { stats with notFound := stats.notFound + 1 }
  | .ok (.NewOwnerNotRegistered _) =>
      { stats with unregisteredOwners := stats.unregisteredOwners + 1 }
  | .error _ => { stats with errors := stats.errors + 1 }

inductive Level
  | Info
  | Warn
  deriving DecidableEq

/-- The level at which the outcome for an NFT is logged. -/
def logLevel : Except ApiError SyncAction → Option Level
  | .ok .NoChange => none
  | .ok (.OwnerUpdated _ _) => some .Info
  | .ok .NotFoundOnXrpl => some .Warn
  | .ok (.NewOwnerNotRegistered _) => some .Warn
  | .error _ => some .Warn

/-- `&nft_token_id[..16]`. -/
def loggedId (nftTokenId : String) : Option String := Text.slice nftTokenId 0 16

/-- What a cycle meets: the world while its `k`-th NFT is examined, the order in which NFTs of the
same age are returned, the levels that are logged, and the time that it takes. -/
structure World where
  env : Nat → Env
  tie : Uuid → Nat
  enabled : Level → Bool
  elapsedMs : Nat

/-- Does the log line of the outcome panic?  What is not logged is not formatted. -/
def logPanics (w : World) (answer : Except ApiError SyncAction) (nftTokenId : String) : Bool :=
  (logLevel answer).any w.enabled && (loggedId nftTokenId).isNone

def activeNfts (db : Db) : List NftMetadata :=
  db.nftMetadata.rows.filter fun nm => decide (nm.status.val = .Active)

/-- `ORDER BY updated_at ASC`. -/
def Older (updatedAt : Uuid → Time) (tie : Uuid → Nat) (a b : NftMetadata) : Prop :=
  updatedAt a.id < updatedAt b.id ∨ updatedAt a.id = updatedAt b.id ∧ tie a.id ≤ tie b.id

instance (updatedAt : Uuid → Time) (tie : Uuid → Nat) : DecidableRel (Older updatedAt tie) :=
  fun a b => inferInstanceAs (Decidable (updatedAt a.id < updatedAt b.id
    ∨ updatedAt a.id = updatedAt b.id ∧ tie a.id ≤ tie b.id))

instance (updatedAt : Uuid → Time) (tie : Uuid → Nat) : IsTrans _ (Older updatedAt tie) where
  trans a b c := by
    unfold Older
    grind

instance (updatedAt : Uuid → Time) (tie : Uuid → Nat) : Std.Total (Older updatedAt tie) where
  total a b := by
    unfold Older
    grind

def nftsToSync (batchSize : Nat) (w : World) (s : Dated) : List NftMetadata :=
  ((activeNfts s.db).insertionSort (Older s.updatedAt w.tie)).take batchSize

/-- One NFT after the other, from the `k`-th on; an error only counts, and a panic (`none`) leaves
the rest of the batch. -/
def syncNfts (w : World) : Nat → List NftMetadata → SyncStats → Dated → Option SyncStats × Dated
  | _, [], stats, s => (some stats, s)
  | k, nm :: nms, stats, s =>
      match syncSingleNft (w.env k) nm.id nm.nftTokenId nm.ownerId s with
      | (answer, s') =>
          if logPanics w answer nm.nftTokenId then (none, s')
          else syncNfts w (k + 1) nms (stats.count answer) s'

def syncCycle (batchSize : Nat) (w : World) (s : Dated) : Option SyncStats × Dated :=
  let nfts := nftsToSync batchSize w s
  match syncNfts w 0 nfts { (default : SyncStats) with total := nfts.length } s with
  | (stats, s') => (stats.map fun stats => { stats with durationMs := w.elapsedMs }, s')

/-- The NFTs of a batch that a cycle gets to. -/
def examinedNfts (w : World) : Nat → List NftMetadata → Dated → List NftMetadata
  | _, [], _ => []
  | k, nm :: nms, s =>
      match syncSingleNft (w.env k) nm.id nm.nftTokenId nm.ownerId s with
      | (answer, s') =>
          nm :: if logPanics w answer nm.nftTokenId then [] else examinedNfts w (k + 1) nms s'

/-- The id can be logged. -/
def Loggable (nm : NftMetadata) : Prop := (loggedId nm.nftTokenId).isSome = true

lemma logPanics_of_loggable {nm : NftMetadata} (h : Loggable nm) (w : World)
    (answer : Except ApiError SyncAction) : logPanics w answer nm.nftTokenId = false := by
  have hsome : (loggedId nm.nftTokenId).isNone = false := by
    rw [Option.isNone_eq_false_iff]
    exact h
  rw [logPanics, hsome, Bool.and_false]

/-- Where the ids can be logged, a cycle gets to the whole batch. -/
lemma examinedNfts_eq {w : World} {nms : List NftMetadata} (h : ∀ nm ∈ nms, Loggable nm) (k : Nat)
    (s : Dated) : examinedNfts w k nms s = nms := by
  induction nms generalizing k s with
  | nil => rfl
  | cons nm nms ih =>
      rw [examinedNfts]
      obtain ⟨answer, s'⟩ := syncSingleNft (w.env k) nm.id nm.nftTokenId nm.ownerId s
      dsimp only
      rw [logPanics_of_loggable (h nm List.mem_cons_self), if_neg Bool.false_ne_true,
        ih fun nm' hnm' => h nm' (List.mem_cons_of_mem nm hnm')]

/-! ## What is written -/

/-- The ledger shows that a registered user owns an NFT. -/
def confirmed (env : Env) (db : Db) (nm : NftMetadata) : Bool :=
  match db.walletOf nm.ownerId with
  | none => false
  | some wallet =>
      match Xrpl.verifyNftOwner env 0 nm.nftTokenId wallet with
      | .ok true => true
      | .ok false =>
          match findNftOwnerOnXrpl env nm.nftTokenId 1
              (env.unordered (db.users.rows.map User.walletAddress)) with
          | .ok (some _) => true
          | .ok none => false
          | .error _ => false
      | .error _ => false

lemma mem_of_findNftOwnerOnXrpl {env : Env} {nftTokenId w : String} {n : Nat}
    {wallets : List String} (h : findNftOwnerOnXrpl env nftTokenId n wallets = .ok (some w)) :
    w ∈ wallets ∧ ∃ k, Xrpl.verifyNftOwner env k nftTokenId w = .ok true := by
  induction wallets generalizing n with
  | nil => cases h
  | cons wallet wallets ih =>
      obtain ⟨owns, howns, h⟩ := bind_eq_ok h
      cases owns with
      | true =>
          rw [← Option.some.inj (Except.ok.inj h)]
          exact ⟨List.mem_cons_self, n, howns⟩
      | false => exact ⟨List.mem_cons_of_mem _ (ih h).1, (ih h).2⟩

/-- **An NFT is written if and only if the ledger confirms it.** -/
theorem syncSingleNft_writes (env : Env) (nm : NftMetadata) (db : Db) :
    wp (Ownership.syncSingleNft env nm.id nm.nftTokenId nm.ownerId)
      (fun answer _ => writes answer = confirmed env db nm) db := by
  refine wp_read_bind (wp_expect_bind (fun howner => ?_) fun w howner => ?_)
  · simp only [writes, confirmed, howner]
  refine wp_lift_bind (fun e howns => ?_) fun stillOwns howns => ?_
  · simp only [writes, confirmed, howner, howns]
  cases stillOwns with
  | true =>
      refine wp_pure ?_
      simp only [writes, confirmed, howner, howns]
  | false =>
      refine wp_read_bind (wp_lift_bind (fun e hfind => ?_) fun newWallet? hfind => ?_)
      · simp only [writes, confirmed, howner, howns, hfind]
      cases newWallet? with
      | none =>
          refine wp_pure ?_
          simp only [writes, confirmed, howner, howns, hfind]
      | some newWallet =>
          refine wp_read_bind ?_
          cases hnew : db.userOf newWallet with
          | none =>
              -- only wallets of users have been asked for
              obtain ⟨user, huser, hwallet⟩ :=
                List.mem_map.mp (Env.mem_unordered.mp (mem_of_findNftOwnerOnXrpl hfind).1)
              exact absurd hwallet (Table.get?_eq_none.mp hnew user huser)
          | some newOwner =>
              refine wp_write_bind (fun _ h => by cases h) fun db' _ => wp_pure ?_
              simp only [writes, confirmed, howner, howns, hfind]

/-! ## What stays -/

/-- What a synchronisation leaves of an NFT. -/
structure Profile where
  id : Uuid
  nftTokenId : String
  status : NftStatus
  confirmed : Bool

def profile (env : Env) (db : Db) (nm : NftMetadata) : Profile where
  id := nm.id
  nftTokenId := nm.nftTokenId
  status := nm.status.val
  confirmed := confirmed env db nm

/-- The same users, and NFTs of the same profiles. -/
structure SameProfiles (env : Env) (db db' : Db) : Prop where
  users : db'.users = db.users
  profiles : db'.nftMetadata.rows.map (profile env db') = db.nftMetadata.rows.map (profile env db)

/-- The ledger is fixed: an account has the same tokens whenever it is looked up. -/
def FixedLedger (env : Env) : Prop := ∀ n, Xrpl.verifyNftOwner env n = Xrpl.verifyNftOwner env 0

section Fixed

variable {env : Env} {db db' db'' : Db}

lemma SameProfiles.refl : SameProfiles env db db := ⟨rfl, rfl⟩

lemma SameProfiles.trans (h : SameProfiles env db db') (h' : SameProfiles env db' db'') :
    SameProfiles env db db'' :=
  ⟨h'.users.trans h.users, h'.profiles.trans h.profiles⟩

/-- What the ledger confirms depends on the users only. -/
lemma confirmed_congr (h : db'.users = db.users) : confirmed env db' = confirmed env db := by
  funext nm
  simp only [confirmed, Db.walletOf, h]

lemma profile_congr (h : db'.users = db.users) : profile env db' = profile env db := by
  funext nm
  rw [profile, profile, confirmed_congr h]

lemma confirmed_of_reassigns {nm : NftMetadata} {newOwner : User}
    (h : Reassigns env nm.nftTokenId nm.ownerId db newOwner) : confirmed env db nm = true := by
  obtain ⟨w, hw, hlost⟩ := h.lost
  simp only [confirmed, hw, hlost, h.found]

/-- The new owner is confirmed. -/
lemma confirmed_reassigned (hfixed : FixedLedger env) {nm : NftMetadata} {newOwner : User}
    (h : Reassigns env nm.nftTokenId nm.ownerId db newOwner) {nm' : NftMetadata}
    (htoken : nm'.nftTokenId = nm.nftTokenId) (howner : nm'.ownerId = newOwner.id) :
    confirmed env db nm' = true := by
  obtain ⟨k, hk⟩ := (mem_of_findNftOwnerOnXrpl h.found).2
  rw [hfixed k] at hk
  simp only [Sync.confirmed, howner, Db.walletOf_of_userOf h.registered, htoken, hk]

/-- **An NFT that is synchronised keeps its profile**, and so do the others. -/
theorem sameProfiles_syncSingleNft (hfixed : FixedLedger env) {nm : NftMetadata}
    (hnm : profile env db nm ∈ db.nftMetadata.rows.map (profile env db))
    (hactive : nm.status.val = .Active) : SameProfiles env db
      (Ownership.syncSingleNft env nm.id nm.nftTokenId nm.ownerId db).2 := by
  have hspec := syncSingleNft_spec env nm.id nm.nftTokenId nm.ownerId db
  rw [wp] at hspec
  generalize Ownership.syncSingleNft env nm.id nm.nftTokenId nm.ownerId db = r at hspec ⊢
  obtain ⟨answer, db'⟩ := r
  cases hspec with
  | Unchanged => exact .refl
  | Updated newOwner answer hreassigns =>
      refine ⟨rfl, ?_⟩
      obtain ⟨row, hrow, hprofile⟩ := List.mem_map.mp hnm
      obtain ⟨hid, htoken, hstatus, hconfirmed⟩ := Profile.mk.inj hprofile
      show ((db.nftMetadata.rows.map _).map _) = _
      rw [List.map_map]
      refine List.map_congr_left fun r hr => ?_
      by_cases hkey : r.id = nm.id
      · obtain rfl : row = r := db.nftMetadata.table.eq_of_mem hrow hr (hid.trans hkey.symm)
        simp only [Function.comp_apply, hkey, decide_true, if_true]
        refine Profile.mk.injEq .. |>.mpr ⟨hkey.symm ▸ rfl, rfl, ?_, ?_⟩
        · exact (hstatus.trans hactive).symm
        · rw [hconfirmed, confirmed_of_reassigns hreassigns]
          exact confirmed_reassigned hfixed hreassigns htoken rfl
      · simp only [Function.comp_apply, hkey, decide_false, Bool.false_eq_true, if_false]
        exact congrFun (profile_congr rfl) r

/-- The NFTs that the ledger does not confirm. -/
def unconfirmed (env : Env) (db : Db) (id : Uuid) : Bool :=
  db.nftMetadata.rows.any fun nm => decide (nm.id = id) && !confirmed env db nm

lemma unconfirmed_of_mem {nm : NftMetadata} (hnm : nm ∈ db.nftMetadata.rows) :
    unconfirmed env db nm.id = !confirmed env db nm := by
  rw [Bool.eq_iff_iff, unconfirmed, List.any_eq_true]
  simp only [Bool.and_eq_true, decide_eq_true_eq]
  constructor
  · rintro ⟨r, hr, hid, hr'⟩
    obtain rfl := db.nftMetadata.table.eq_of_mem hr hnm hid
    exact hr'
  · exact fun h => ⟨nm, hnm, rfl, h⟩

lemma SameProfiles.unconfirmed (h : SameProfiles env db db') :
    unconfirmed env db' = unconfirmed env db := by
  have hany : ∀ db : Db, Sync.unconfirmed env db = fun id =>
      (db.nftMetadata.rows.map (profile env db)).any fun p => decide (p.id = id) && !p.confirmed := by
    intro db
    funext id
    rw [List.any_map]
    rfl
  rw [hany, hany, h.profiles]

lemma SameProfiles.activeIds (h : SameProfiles env db db') :
    (activeNfts db').map NftMetadata.id = (activeNfts db).map NftMetadata.id := by
  have hactive : ∀ db : Db, (activeNfts db).map NftMetadata.id
      = ((db.nftMetadata.rows.map (profile env db)).filter fun p =>
        decide (p.status = .Active)).map Profile.id := by
    intro db
    rw [List.filter_map, List.map_map]
    rfl
  rw [hactive, hactive, h.profiles]

end Fixed

end Vaulted.Sync
