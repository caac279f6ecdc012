import Vaulted.Transfer.HonestRequest
import Vaulted.Transfer.System

/-!
# The incoming list and the open offers

A recipient's list is computed from the rows as they are; what it should show is said by the calls
that have succeeded.

* `Event`, `told` — what a call that succeeds says about a transfer.
* `openOffer` — the offer of a transfer that has been signed, and neither completed, finalised nor
  cancelled since.
* `ListsOpen` — after every call, everybody's list shows the open offers, and nothing else.
* `Tells` — what a call can do, and say.
* `Tracked` — what the rows say about the history in any case.
* `listsOpen_iff` — the list is right as long as no transfer is completed, and no offer of a
  transfer finalised.
* `not_listsOpen` — an offer is still listed when it has been claimed.
-/

namespace Vaulted.Transfers

open Autocommit.Prog

/-! ## What is said -/

inductive Event
  | Initiated (transferId toUserId : Uuid)
  | Confirmed (transferId : Uuid) (offerIndex : String)
  | Completed (transferId : Uuid)
  | Finalised (offerIndex : String)
  | Cancelled (transferId : Uuid)
  deriving DecidableEq

/-- The open offer of a transfer after one more event. -/
def nextOffer (id : Uuid) (offer : Option String) : Event → Option String
  | .Initiated _ _ => offer
  | .Confirmed transferId offerIndex => if transferId = id then some offerIndex else offer
  | .Completed transferId => if transferId = id then none else offer
  | .Finalised offerIndex => if offer = some offerIndex then none else offer
  | .Cancelled transferId => if transferId = id then none else offer

def openOffer (id : Uuid) (h : List Event) : Option String := h.foldl (nextOffer id) none

/-- A transfer to a user is open: it has been initiated for the user, and by what has happened
since, an offer is open for it. -/
def Open (h : List Event) (userId id : Uuid) : Prop :=
  .Initiated id userId ∈ h ∧ (openOffer id h).isSome = true

variable (u : Umbral) (codec : TextCodec)

/-- A call that has failed says nothing. -/
def told (db : Db) : Step → List Event
  | .Initiate env auth request =>
      match (initiateTransfer u codec env auth request db).1, db.userOf request.toAddress with
      | .ok response, some toUser => [.Initiated response.transferId toUser.id]
      | _, _ => []
  | .Confirm auth request =>
      match (confirmOfferSigned auth request db).1, varchar 64 request.offerIndex with
      | .ok _, .ok offerIndex => [.Confirmed request.transferId offerIndex]
      | _, _ => []
  | .Complete auth request =>
      match (completeTransfer auth request db).1 with
      | .ok _ => [.Completed request.transferId]
      | .error _ => []
  | .FinalizeByOffer env request =>
      match (finalizeTransferByOffer env request db).1 with
      | .ok _ => [.Finalised request.offerIndex]
      | .error _ => []
  | .Cancel auth transferId request =>
      match (cancelTransfer auth transferId request db).1 with
      | .ok _ => [.Cancelled transferId]
      | .error _ => []

/-- What happens in a run. -/
abbrev history (db : Db) (calls : List Step) : List Event :=
  Runs.history (step u codec) (told u codec) db calls

/-- A user's list is the rows of the open transfers to that user. -/
structure Lists (h : List Event) (db : Db) (user : User) : Prop where
  answer : ∀ auth : AuthenticatedUser, auth.walletAddress = user.walletAddress →
    getIncomingTransfers auth user.walletAddress db
      = (.ok ((incomingRows user.id db).map Prod.snd), db)
  rows : ∀ id, id ∈ (incomingRows user.id db).map Prod.fst ↔ Open h user.id id

/-- After every call, everybody's list is right. -/
def ListsOpen (db : Db) (calls : List Step) : Prop :=
  ∀ pre post, calls = pre ++ post → ∀ user ∈ (exec u codec db pre).users.rows,
    Lists (history u codec db pre) (exec u codec db pre) user

/-! ## The condition -/

/-- The call completes the transfer. -/
def Completable (auth : AuthenticatedUser) (request : CompleteTransferRequest) (db : Db) : Prop :=
  ∃ t key, Claimable auth request.transferId db t key
    ∧ ∃ hash, varchar 64 request.xrplTxHash = .ok hash

/-- No transfer is completed, and no offer that a transfer holds is finalised. The calls that only
answer with an error may be made as often as anybody likes. -/
def guard (db : Db) : Step → Prop
  | .Complete auth request => ¬Completable auth request db
  | .FinalizeByOffer _ request =>
      ∀ t ∈ db.transferRequests.rows, t.nftOfferIndex ≠ some request.offerIndex
  | .Initiate _ _ _ | .Confirm _ _ | .Cancel _ _ _ => True

/-! ## What a call can do, and say -/

/-- A row whose offer is known exactly when its status says so, and whose references hold. -/
structure Sound (db : Db) (t : TransferRequest) : Prop where
  nft : ∃ nm, db.nftMetadata.get? t.nftMetadataId = some nm
  sender : ∃ w, db.walletOf t.fromUserId = some w
  recipient : ∃ user ∈ db.users.rows, user.id = t.toUserId
  offer : t.status.val = .Completed ↔ t.nftOfferIndex.isSome = true

inductive Tells (db : Db) : Step → Db → List Event → Prop
  | Refused (call : Step) : (∀ env request, call ≠ .FinalizeByOffer env request) →
      (∀ auth request, call = .Complete auth request → ¬Completable auth request db) →
      Tells db call db []
  | Created (env : Env) (auth : AuthenticatedUser) (request : InitiateTransferRequest)
      (t : TransferRequest) (db' : Db) : Sound db t → t.nftOfferIndex = none →
      insertTransfer t db = .ok db' →
      Tells db (.Initiate env auth request) db' [.Initiated t.id t.toUserId]
  | Signed (auth : AuthenticatedUser) (request : ConfirmOfferSignedRequest)
      (t : TransferRequest) : Tells db (.Confirm auth request) (offerSigned db t) []
  | SignedRecorded (auth : AuthenticatedUser) (request : ConfirmOfferSignedRequest)
      (t : TransferRequest) (offerIndex : String) : Confirmable auth request.transferId db t →
      Tells db (.Confirm auth request) ((offerSigned db t).withTransfer request.transferId
        fun t => { t with nftOfferIndex := some offerIndex, status := TransferStatus.completed })
        [.Confirmed request.transferId offerIndex]
  | HandedOver (auth : AuthenticatedUser) (request : CompleteTransferRequest)
      (t : TransferRequest) (key : String) : ¬Completable auth request db →
      Tells db (.Complete auth request) (handedOver db t key) []
  | HandedOverRecorded (auth : AuthenticatedUser) (request : CompleteTransferRequest)
      (t : TransferRequest) (key xrplTxHash : String) : Completable auth request db →
      Claimable auth request.transferId db t key →
      Tells db (.Complete auth request) ((handedOver db t key).withTransfer request.transferId
        fun t => { t with xrplTxHash := some xrplTxHash, status := TransferStatus.completed })
        [.Completed request.transferId]
  | AlreadyCompleted (env : Env) (request : FinalizeByOfferRequest) :
      Tells db (.FinalizeByOffer env request) db [.Finalised request.offerIndex]
  | Finalized (env : Env) (request : FinalizeByOfferRequest) (t : TransferRequest) (db' : Db)
      (h : List Event) : t ∈ db.transferRequests.rows → t.nftOfferIndex = some request.offerIndex →
      t.status.val ≠ .Completed → Tells db (.FinalizeByOffer env request) db' h

/-- A call that finds its transfer succeeds if the hash fits its column. -/
lemma completeTransfer_of_claimable {auth : AuthenticatedUser} {request : CompleteTransferRequest}
    {db : Db} {t : TransferRequest} {key : String}
    (hclaim : Claimable auth request.transferId db t key) :
    wp (completeTransfer auth request) (fun answer _ => (∃ response, answer = .ok response)
      ↔ ∃ hash, varchar 64 request.xrplTxHash = .ok hash) db := by
  obtain ⟨w, hw, hauth⟩ := hclaim.recipient
  refine wp_read_bind (wp_expect_bind (fun h => ?_) fun t' ht => ?_)
  · cases h.symm.trans hclaim.found
  obtain rfl : t = t' := Option.some.inj (hclaim.found.symm.trans ht)
  refine wp_read_bind (wp_expect_bind (fun h => ?_) fun w' hw' => ?_)
  · cases h.symm.trans hw
  obtain rfl : w = w' := Option.some.inj (hw.symm.trans hw')
  refine wp_require_bind (fun h => ?_) fun _ => wp_require_bind (fun h => ?_) fun _ => ?_
  · cases h.symm.trans hauth
  · exact absurd hclaim.completed (of_decide_eq_false h)
  refine wp_expect_bind (fun h => ?_) fun key' _ => ?_
  · cases h.symm.trans hclaim.reEncrypted
  refine wp_write_bind (fun _ h => by cases h) fun db₁ hdb₁ => ?_
  cases hdb₁
  refine wp_lift_bind (fun e hhash => ?_) fun hash hhash => ?_
  · simp [hhash]
  refine wp_write_bind (fun _ h => by cases h) fun db₂ hdb₂ => ?_
  cases hdb₂
  refine wp_read_bind (wp_expect_bind (fun h => ?_) fun newOwner _ => wp_pure ?_)
  · cases hw.symm.trans h
  · simp [hhash]

/-- An offer that no row holds, or one whose row says that it has been signed. -/
lemma finalizeTransferByOffer_of_completed (env : Env) {request : FinalizeByOfferRequest} {db : Db}
    (hrows : ∀ t ∈ db.transferRequests.rows, t.nftOfferIndex = some request.offerIndex →
      t.status.val = .Completed) :
    wp (finalizeTransferByOffer env request)
      (fun answer db' => (∃ response, answer = .ok response) ∧ db' = db) db := by
  refine wp_read_bind ?_
  cases ht : env.choose (db.transferRequests.rows.filter fun t =>
      decide (t.nftOfferIndex = some request.offerIndex)) with
  | none => exact wp_pure ⟨⟨_, rfl⟩, rfl⟩
  | some t =>
      obtain ⟨hmem, hoffer⟩ := List.mem_filter.mp (Env.mem_of_choose ht)
      dsimp only
      rw [if_pos (hrows t hmem (of_decide_eq_true hoffer))]
      exact wp_pure ⟨⟨_, rfl⟩, rfl⟩

theorem tells_step (db : Db) (call : Step) :
    Tells db call (step u codec db call) (told u codec db call) := by
  cases call with
  | Initiate env auth request =>
      have hspec := initiateTransfer_spec u codec env auth request db
      simp only [wp, step, told] at hspec ⊢
      generalize (initiateTransfer u codec env auth request db).1 = r at hspec ⊢
      generalize (initiateTransfer u codec env auth request db).2 = db' at hspec ⊢
      cases hspec with
      | Refused e => exact .Refused _ (by rintro _ _ ⟨⟩) (by rintro _ _ ⟨⟩)
      | Created nft owner toUser reEncrypted db' _ hnft howner _ hto hins =>
          rw [hto]
          have hfind := (Option.filter_eq_some_iff.mp hnft).1
          refine .Created env auth request _ db' ⟨⟨nft, Indexed.get?_of_find? hfind⟩,
            ⟨owner, howner⟩, ⟨toUser, Table.mem_of_get? hto, rfl⟩, ?_⟩ rfl hins
          simp [pendingTransfer, TransferStatus.pending]
  | Confirm auth request =>
      have hspec := confirmOfferSigned_spec auth request db
      simp only [wp, step, told] at hspec ⊢
      generalize (confirmOfferSigned auth request db).1 = r at hspec ⊢
      generalize (confirmOfferSigned auth request db).2 = db' at hspec ⊢
      cases hspec with
      | Refused e => exact .Refused _ (by rintro _ _ ⟨⟩) (by rintro _ _ ⟨⟩)
      | Unrecorded t e hconfirm => exact .Signed auth request t
      | Confirmed t offerIndex answer hconfirm hindex =>
          rw [hindex]
          exact .SignedRecorded auth request t offerIndex hconfirm
  | Complete auth request =>
      have hspec := completeTransfer_spec auth request db
      have hanswer := fun t key =>
        @completeTransfer_of_claimable auth request db t key
      simp only [wp, step, told] at hspec hanswer ⊢
      generalize (completeTransfer auth request db).1 = r at hspec hanswer ⊢
      generalize (completeTransfer auth request db).2 = db' at hspec ⊢
      cases hspec with
      | Refused e hnone =>
          refine .Refused _ (by rintro _ _ ⟨⟩) fun _ _ heq => ?_
          obtain ⟨rfl, rfl⟩ := Step.Complete.inj heq
          rintro ⟨t, key, hclaim, -⟩
          exact hnone t key hclaim
      | Unrecorded t key e hclaim =>
          refine .HandedOver auth request t key ?_
          rintro ⟨_, _, _, hhash⟩
          obtain ⟨_, h⟩ := (hanswer t key hclaim).mpr hhash
          cases h
      | Completed t key newOwner hash hclaim _ =>
          exact .HandedOverRecorded auth request t key hash
            ⟨t, key, hclaim, (hanswer t key hclaim).mp ⟨_, rfl⟩⟩ hclaim
  | FinalizeByOffer env request =>
      by_cases hrows : ∀ t ∈ db.transferRequests.rows, t.nftOfferIndex = some request.offerIndex →
          t.status.val = .Completed
      · obtain ⟨⟨response, hanswer⟩, hdb⟩ := finalizeTransferByOffer_of_completed env hrows
        rw [step, told, hanswer, hdb]
        exact .AlreadyCompleted env request
      · simp only [not_forall] at hrows
        obtain ⟨t, hmem, hoffer, hstatus⟩ := hrows
        exact .Finalized env request t _ _ hmem hoffer hstatus
  | Cancel auth transferId request =>
      obtain ⟨hdb, e, he⟩ := cancelTransfer_spec auth transferId request db
      rw [step, told, hdb, he]
      exact .Refused _ (by rintro _ _ ⟨⟩) (by rintro _ _ ⟨⟩)

/-! ## What the rows say about the history -/

/-- The rows are sound, and are those that have been initiated. -/
structure Tracked (h : List Event) (db : Db) : Prop where
  sound : ∀ id t, db.transferRequests.get? id = some t → Sound db t
  recipients : ∀ id userId, .Initiated id userId ∈ h
    ↔ (db.transferRequests.get? id).map TransferRequest.toUserId = some userId

/-- A row holds the offer that is open. -/
def Agrees (h : List Event) (db : Db) : Prop :=
  ∀ id, openOffer id h = (db.transferRequests.get? id).bind TransferRequest.nftOfferIndex

section Step

variable {u codec} {db db' : Db} {h e : List Event} {call : Step}

lemma openOffer_concat (id : Uuid) (event : Event) :
    openOffer id (h ++ [event]) = nextOffer id (openOffer id h) event := by
  rw [openOffer, List.foldl_append]
  rfl

lemma Tracked.mem_incomingRows (hs : Tracked h db) {userId id : Uuid} :
    id ∈ (incomingRows userId db).map Prod.fst ↔ ∃ t, db.transferRequests.get? id = some t
      ∧ t.toUserId = userId ∧ t.nftOfferIndex.isSome = true := by
  simp only [incomingRows, List.mem_map, List.mem_filterMap, incomingRow]
  constructor
  · rintro ⟨row, ⟨t, hmem, hrow⟩, rfl⟩
    split_ifs at hrow with hlisted
    obtain ⟨offerIndex, hoffer, hrow⟩ := Option.bind_eq_some_iff.mp hrow
    obtain ⟨nm, -, hrow⟩ := Option.bind_eq_some_iff.mp hrow
    obtain ⟨fromAddress, -, hrow⟩ := Option.bind_eq_some_iff.mp hrow
    rw [← Option.some.inj hrow]
    exact ⟨t, Table.get?_of_mem hmem, hlisted.1, by rw [hoffer]; rfl⟩
  · rintro ⟨t, hget, rfl, hoffer⟩
    obtain ⟨⟨nm, hnm⟩, ⟨w, hw⟩, -, hcompleted⟩ := hs.sound id t hget
    obtain ⟨offerIndex, hindex⟩ := Option.isSome_iff_exists.mp hoffer
    refine ⟨(t.id, ⟨offerIndex, nm.nftTokenId, w, "0"⟩), ⟨t, Table.mem_of_get? hget, ?_⟩,
      (Table.key_of_get? hget : t.id = id)⟩
    rw [if_pos ⟨rfl, hcompleted.mpr hoffer⟩, hindex, hnm, hw]
    rfl

/-- The answer to a user is made of the rows. -/
lemma getIncomingTransfers_of_mem {user : User} (huser : user ∈ db.users.rows)
    {auth : AuthenticatedUser} (hauth : auth.walletAddress = user.walletAddress) :
    getIncomingTransfers auth user.walletAddress db
      = (.ok ((incomingRows user.id db).map Prod.snd), db) := by
  have hfind : db.userOf user.walletAddress = some user := Table.get?_of_mem huser
  rw [getIncomingTransfers, run_require (by rw [hauth]; exact Text.eqIgnoreAsciiCase_self _),
    run_read, hfind]
  rfl

/-- Rows that agree with the history make the right lists. -/
lemma Tracked.lists (hs : Tracked h db) (hagrees : Agrees h db) {user : User}
    (huser : user ∈ db.users.rows) : Lists h db user where
  answer _ hauth := getIncomingTransfers_of_mem huser hauth
  rows id := by
    rw [hs.mem_incomingRows, Open, hs.recipients, hagrees id]
    cases db.transferRequests.get? id with
    | none => simp
    | some t => simp

/-- The references of a row still hold. -/
lemma Sound.of_kept {t : TransferRequest} (ht : Sound db t) (husers : db'.users = db.users)
    (hnfts : ∀ id, (db.nftMetadata.get? id).isSome → (db'.nftMetadata.get? id).isSome)
    {t' : TransferRequest} (hterms : t'.terms.nft = t.terms.nft
      ∧ t'.terms.sender = t.terms.sender ∧ t'.terms.recipient = t.terms.recipient)
    (hoffer : t'.status.val = .Completed ↔ t'.nftOfferIndex.isSome = true) : Sound db' t' := by
  obtain ⟨⟨nm, hnm⟩, hsender, hrecipient, -⟩ := ht
  obtain ⟨hnft, hfrom, hto⟩ := hterms
  refine ⟨?_, ?_, ?_, hoffer⟩
  · rw [show t'.nftMetadataId = t.nftMetadataId from hnft]
    exact Option.isSome_iff_exists.mp (hnfts _ (by rw [hnm]; rfl))
  · rw [show t'.fromUserId = t.fromUserId from hfrom, Db.walletOf, husers]
    exact hsender
  · rw [show t'.toUserId = t.toUserId from hto, husers]
    exact hrecipient

/-- A call that initiates nothing may write the rows. -/
lemma Tracked.updated (hs : Tracked h db) (husers : db'.users = db.users)
    (hnfts : ∀ id, (db.nftMetadata.get? id).isSome → (db'.nftMetadata.get? id).isSome)
    (g : Uuid → TransferRequest → TransferRequest)
    (hget : ∀ id, db'.transferRequests.get? id = (db.transferRequests.get? id).map (g id))
    (hg : ∀ id t, db.transferRequests.get? id = some t → ((g id t).terms.nft = t.terms.nft
        ∧ (g id t).terms.sender = t.terms.sender ∧ (g id t).terms.recipient = t.terms.recipient)
      ∧ ((g id t).status.val = .Completed ↔ (g id t).nftOfferIndex.isSome = true))
    (he : ∀ id userId, .Initiated id userId ∉ e) : Tracked (h ++ e) db' where
  sound id t' ht' := by
    rw [hget] at ht'
    obtain ⟨t, ht, rfl⟩ := Option.map_eq_some_iff.mp ht'
    exact (hs.sound id t ht).of_kept husers hnfts (hg id t ht).1 (hg id t ht).2
  recipients id userId := by
    rw [List.mem_append, or_iff_left (he id userId), hs.recipients, hget]
    cases ht : db.transferRequests.get? id with
    | none => simp
    | some t =>
        have hto : (g id t).toUserId = t.toUserId := (hg id t ht).1.2.2
        simp [hto]

lemma Tracked.kept (hs : Tracked h db) (husers : db'.users = db.users)
    (hnfts : ∀ id, (db.nftMetadata.get? id).isSome → (db'.nftMetadata.get? id).isSome)
    (htransfers : db'.transferRequests = db.transferRequests)
    (he : ∀ id userId, .Initiated id userId ∉ e) : Tracked (h ++ e) db' :=
  hs.updated husers hnfts (fun _ t => t) (fun id => by rw [htransfers]; simp)
    (fun id t ht => ⟨⟨rfl, rfl, rfl⟩, (hs.sound id t ht).offer⟩) he

lemma isSome_get?_withNft {id : Uuid} {f : NftMetadata → NftMetadata} {hid htoken} (j : Uuid)
    (h : (db.nftMetadata.get? j).isSome) :
    ((db.withNft id f hid htoken).nftMetadata.get? j).isSome := by
  rw [get?_withNft]
  split_ifs with hj
  · rw [Option.isSome_map, ← hj]
    exact h
  · exact h

lemma isSome_get?_offerSigned (t : TransferRequest) (j : Uuid)
    (h : (db.nftMetadata.get? j).isSome) : ((offerSigned db t).nftMetadata.get? j).isSome :=
  isSome_get?_withNft j h

lemma isSome_get?_handedOver (t : TransferRequest) (key : String) (j : Uuid)
    (h : (db.nftMetadata.get? j).isSome) : ((handedOver db t key).nftMetadata.get? j).isSome :=
  isSome_get?_withNft j h

/-- **What every call keeps.** -/
theorem Tracked.tells (hs : Tracked h db) (htells : Tells db call db' e) :
    Tracked (h ++ e) db' := by
  cases htells with
  | Refused => exact hs.kept rfl (fun _ => id) rfl (by simp)
  | AlreadyCompleted => exact hs.kept rfl (fun _ => id) rfl (by simp)
  | Signed auth request t => exact hs.kept rfl (isSome_get?_offerSigned t) rfl (by simp)
  | HandedOver auth request t key => exact hs.kept rfl (isSome_get?_handedOver t key) rfl (by simp)
  | Finalized env request t _ _ hmem hoffer hstatus =>
      have hcompleted := (hs.sound t.id t (Table.get?_of_mem hmem)).offer
      rw [hoffer] at hcompleted
      exact absurd (hcompleted.mpr rfl) hstatus
  | Created env auth request t db' hsound hoffer hins =>
      unfold insertTransfer at hins
      cases hins' : db.transferRequests.insert? t with
      | none =>
          rw [hins'] at hins
          cases hins
      | some transferRequests =>
          rw [hins'] at hins
          cases hins
          have hnew := (Table.insert?_eq_some hins').1
          refine ⟨fun id t' ht' => ?_, fun id userId => ?_⟩
          · rw [Table.get?_insert hins'] at ht'
            split_ifs at ht' with hid
            · obtain rfl := Option.some.inj ht'
              exact ⟨hsound.nft, hsound.sender, hsound.recipient, hsound.offer⟩
            · have ht := hs.sound id t' ht'
              exact ⟨ht.nft, ht.sender, ht.recipient, ht.offer⟩
          · rw [List.mem_append, hs.recipients, Table.get?_insert hins', List.mem_singleton]
            split_ifs with hid
            · subst hid
              rw [hnew]
              simp [eq_comm]
            · simp [hid]
  | SignedRecorded auth request t offerIndex hconfirm =>
      refine hs.updated rfl (isSome_get?_offerSigned t) (fun id t => if id = request.transferId then
        { t with nftOfferIndex := some offerIndex, status := TransferStatus.completed } else t)
        (fun id => ?_) (fun id t ht => ?_) (by simp)
      · rw [get?_withTransfer]
        split_ifs with hid
        · rw [hid]
          rfl
        · exact (Option.map_id_apply).symm
      · split_ifs
        · exact ⟨⟨rfl, rfl, rfl⟩, by simp [TransferStatus.completed]⟩
        · exact ⟨⟨rfl, rfl, rfl⟩, (hs.sound id t ht).offer⟩
  | HandedOverRecorded auth request t key xrplTxHash hcompletable hclaim =>
      refine hs.updated rfl (isSome_get?_handedOver t key) (fun id t => if id = request.transferId then
        { t with xrplTxHash := some xrplTxHash, status := TransferStatus.completed } else t)
        (fun id => ?_) (fun id t' ht => ?_) (by simp)
      · rw [get?_withTransfer]
        split_ifs with hid
        · rw [hid]
          rfl
        · exact (Option.map_id_apply).symm
      · split_ifs with hid
        · subst hid
          obtain rfl := Option.some.inj (hclaim.found.symm.trans ht)
          refine ⟨⟨rfl, rfl, rfl⟩, ?_⟩
          have hoffer := (hs.sound _ t ht).offer.mp hclaim.completed
          simp [TransferStatus.completed, hoffer]
        · exact ⟨⟨rfl, rfl, rfl⟩, (hs.sound id t' ht).offer⟩

/-- **What a guarded call keeps.** -/
lemma Agrees.tells (hagrees : Agrees h db) (hguard : guard db call)
    (htells : Tells db call db' e) : Agrees (h ++ e) db' := by
  intro id
  have hid := hagrees id
  cases htells with
  | Refused => rwa [List.append_nil]
  | Signed => rwa [List.append_nil]
  | HandedOver => rwa [List.append_nil]
  | HandedOverRecorded auth request t key xrplTxHash hcompletable =>
      exact absurd hcompletable hguard
  | Finalized env request t _ _ hmem hoffer => exact absurd hoffer (hguard t hmem)
  | AlreadyCompleted env request =>
      rw [openOffer_concat, nextOffer, hid]
      refine if_neg fun hoffer => ?_
      obtain ⟨t, ht, hoffer⟩ := Option.bind_eq_some_iff.mp hoffer
      exact hguard t (Table.mem_of_get? ht) hoffer
  | Created env auth request t db' _ hoffer hins =>
      unfold insertTransfer at hins
      cases hins' : db.transferRequests.insert? t with
      | none =>
          rw [hins'] at hins
          cases hins
      | some transferRequests =>
          rw [hins'] at hins
          cases hins
          rw [openOffer_concat, nextOffer, hid, Table.get?_insert hins']
          split_ifs with hkey
          · rw [hkey, (Table.insert?_eq_some hins').1, Option.bind_some, hoffer]
            rfl
          · rfl
  | SignedRecorded auth request t offerIndex hconfirm =>
      rw [openOffer_concat, nextOffer, hid, get?_withTransfer]
      by_cases hkey : request.transferId = id
      · have hfound : (offerSigned db t).transferRequests.get? request.transferId = some t :=
          hconfirm.found
        rw [if_pos hkey, if_pos hkey.symm, hfound]
        rfl
      · rw [if_neg hkey, if_neg (Ne.symm hkey)]
        rfl

/-- A row whose transfer is no longer open is on a list where it should not be. -/
lemma not_lists (id : Uuid) {t : TransferRequest} (hs : Tracked h db)
    (ht : db.transferRequests.get? id = some t) (hoffer : t.nftOfferIndex.isSome = true)
    (hclosed : openOffer id h = none) : ∃ user ∈ db.users.rows, ¬Lists h db user := by
  obtain ⟨user, huser, hto⟩ := (hs.sound id t ht).recipient
  refine ⟨user, huser, fun hlists => ?_⟩
  have hopen := (hlists.rows id).mp (hs.mem_incomingRows.mpr ⟨t, ht, hto.symm, hoffer⟩)
  rw [Open, hclosed] at hopen
  cases hopen.2

/-- **A call that is not guarded makes a list wrong.** -/
lemma Agrees.not_lists (hs : Tracked h db) (hagrees : Agrees h db) (hguard : ¬guard db call)
    (htells : Tells db call db' e) : ∃ user ∈ db'.users.rows, ¬Lists (h ++ e) db' user := by
  have hs' := hs.tells htells
  cases htells with
  | Refused call hfinalize hcomplete =>
      refine absurd ?_ hguard
      cases call with
      | Complete auth request => exact hcomplete auth request rfl
      | FinalizeByOffer env request => exact absurd rfl (hfinalize env request)
      | _ => trivial
  | Created => exact absurd trivial hguard
  | Signed => exact absurd trivial hguard
  | SignedRecorded => exact absurd trivial hguard
  | HandedOver auth request t key hnot => exact absurd hnot hguard
  | HandedOverRecorded auth request t key xrplTxHash hcompletable hclaim =>
      have hoffer := (hs.sound _ t hclaim.found).offer.mp hclaim.completed
      have hfound : (handedOver db t key).transferRequests.get? request.transferId = some t :=
        hclaim.found
      refine Transfers.not_lists request.transferId (t := { t with
        xrplTxHash := some xrplTxHash, status := TransferStatus.completed }) hs' ?_ hoffer ?_
      · rw [get?_withTransfer, if_pos rfl, hfound]
        rfl
      · rw [openOffer_concat, nextOffer, if_pos rfl]
  | AlreadyCompleted env request =>
      simp only [guard, not_forall, not_not] at hguard
      obtain ⟨t, hmem, hoffer⟩ := hguard
      refine Transfers.not_lists _ hs' (Table.get?_of_mem hmem) (by rw [hoffer]; rfl) ?_
      rw [openOffer_concat, nextOffer, hagrees, Table.get?_of_mem hmem, Option.bind_some,
        if_pos hoffer]
  | Finalized env request t _ _ hmem hoffer hstatus =>
      have hcompleted := (hs.sound t.id t (Table.get?_of_mem hmem)).offer
      rw [hoffer] at hcompleted
      exact absurd (hcompleted.mpr rfl) hstatus

end Step

/-! ## Runs -/

section Run

variable {u codec} {db : Db} {calls : List Step}

lemma tracked_exec (hnew : db.transferRequests = .empty) :
    Tracked (history u codec db calls) (exec u codec db calls) := by
  induction calls using List.reverseRecOn with
  | nil =>
      refine ⟨fun id t ht => ?_, fun id userId => ?_⟩
      · rw [exec, Runs.exec_nil, hnew] at ht
        cases ht
      · rw [exec, Runs.exec_nil, hnew]
        simp [history, Runs.history]
  | append_singleton calls call ih =>
      rw [history, Runs.history_concat, exec, Runs.exec_concat]
      exact ih.tells (tells_step u codec _ call)

lemma agrees_exec (hnew : db.transferRequests = .empty)
    (hguarded : Runs.Guarded (step u codec) guard db calls) :
    Agrees (history u codec db calls) (exec u codec db calls) := by
  induction calls using List.reverseRecOn with
  | nil =>
      intro id
      rw [exec, Runs.exec_nil, hnew]
      rfl
  | append_singleton calls call ih =>
      rw [history, Runs.history_concat, exec, Runs.exec_concat]
      exact (ih hguarded.front).tells hguarded.back.1
        (tells_step u codec _ call)

/-- **The lists are right if and only if** no transfer is ever completed, and no offer that a
transfer holds is finalised: the handlers for these two leave the offer index and the status by
which the list selects its rows. -/
theorem listsOpen_iff (hnew : db.transferRequests = .empty) :
    ListsOpen u codec db calls ↔ Runs.Guarded (step u codec) guard db calls := by
  constructor
  · intro hlists
    induction calls using List.reverseRecOn with
    | nil => trivial
    | append_singleton calls call ih =>
        have hguarded : Runs.Guarded (step u codec) guard db calls := ih fun pre post heq =>
          hlists pre (post ++ [call]) (by rw [heq, List.append_assoc])
        refine hguarded.append ⟨?_, trivial⟩
        by_contra hguard
        obtain ⟨user, huser, hnot⟩ := Agrees.not_lists (tracked_exec hnew)
          (agrees_exec hnew hguarded) hguard (tells_step u codec _ call)
        have hlast := hlists (calls ++ [call]) [] (List.append_nil _).symm
        rw [history, Runs.history_concat, exec, Runs.exec_concat] at hlast
        exact hnot (hlast user huser)
  · rintro hguarded pre post rfl user huser
    exact (tracked_exec hnew).lists (agrees_exec hnew hguarded.front) huser

end Run

/-! ## What goes wrong -/

namespace Sample

/-- Alice offers her NFT to Bob. -/
def offered : List Step :=
  [.Initiate (env ⟨"t"⟩) (caller alice) (request 2 "rBob"),
    .Confirm (caller alice) ⟨⟨"t"⟩, "offer"⟩]

/-- Bob claims it. -/
def claimed : List Step := offered ++ [.Complete (caller bob) ⟨⟨"t"⟩, "hash"⟩]

theorem listsOpen_offered :
    ListsOpen Umbral.symbolic JsonText.compact (db [] List.nodup_nil) offered :=
  (listsOpen_iff rfl).mpr ⟨trivial, trivial, trivial⟩

lemma initiated : initiateTransfer Umbral.symbolic JsonText.compact (env ⟨"t"⟩) (caller alice)
    (request 2 "rBob") (db [] List.nodup_nil) = (.ok { transferId := ⟨"t"⟩, status := .Pending },
      db [transfer ⟨"t"⟩ 2 "rBob"] (List.nodup_singleton _)) :=
  initiateTransfer_alice ⟨"t"⟩ [] List.nodup_nil rfl (by decide) (List.nodup_singleton _)

lemma exec_claimed : exec Umbral.symbolic JsonText.compact (db [] List.nodup_nil) claimed
    = exec Umbral.symbolic JsonText.compact
      (db [transfer ⟨"t"⟩ 2 "rBob"] (List.nodup_singleton _)) claimed.tail := by
  rw [claimed, offered, List.cons_append, exec, Runs.exec_cons, step_initiate initiated]
  rfl

lemma history_claimed : history Umbral.symbolic JsonText.compact (db [] List.nodup_nil) claimed
    = [.Initiated ⟨"t"⟩ bob.id, .Confirmed ⟨"t"⟩ "offer", .Completed ⟨"t"⟩] := by
  rw [claimed, offered, List.cons_append, history, Runs.history, told, step_initiate initiated,
    initiated]
  decide +kernel

/-- **Bob's list still shows an offer that he has claimed.** -/
theorem not_listsOpen :
    ¬ListsOpen Umbral.symbolic JsonText.compact (db [] List.nodup_nil) claimed := by
  intro hlists
  have hbob : bob ∈ (exec Umbral.symbolic JsonText.compact (db [] List.nodup_nil)
      claimed).users.rows := by
    rw [exec_claimed]
    decide +kernel
  have hlisted : (⟨"t"⟩ : Uuid) ∈ (incomingRows bob.id (exec Umbral.symbolic JsonText.compact
      (db [] List.nodup_nil) claimed)).map Prod.fst := by
    rw [exec_claimed]
    decide +kernel
  have hopen := ((hlists claimed [] (List.append_nil _).symm bob hbob).rows ⟨"t"⟩).mp hlisted
  rw [Open, history_claimed] at hopen
  exact absurd hopen.2 (by decide)

end Sample

end Vaulted.Transfers
