import Vaulted.Library.Runs
import Vaulted.Oracle.Transfers

/-!
# The transfer system

The five transfer handlers as one system: a `Step` is one call, with its caller, its request
and the outside world during the call, and `step` is the database it leaves, accepted or not.

* `Db.ownerOf` — the owner of an NFT; only `completeTransfer` changes it (`ownerOf_step`).
* `Db.termsOf` — what a transfer request is about: NFT, sender, recipient, stored key.  No call
  changes the terms of an existing request (`termsOf_step`).
* `Effect` — everything a call can do; both results are case analyses on it.
-/

namespace Vaulted

/-- The owner of an NFT. -/
def Db.ownerOf (db : Db) (nft : Uuid) : Option Uuid :=
  (db.nftMetadata.get? nft).map NftMetadata.ownerId

/-- What a transfer request is about. -/
structure TransferTerms where
  nft : Uuid
  sender : Uuid
  recipient : Uuid
  key : Option String
  deriving DecidableEq

def TransferRequest.terms (t : TransferRequest) : TransferTerms where
  nft := t.nftMetadataId
  sender := t.fromUserId
  recipient := t.toUserId
  key := t.reEncryptedAesKey

def Db.termsOf (db : Db) (id : Uuid) : Option TransferTerms :=
  (db.transferRequests.get? id).map TransferRequest.terms

namespace Transfers

open Autocommit.Prog

inductive Step
  | Initiate (env : Env) (auth : AuthenticatedUser) (request : InitiateTransferRequest)
  | Confirm (auth : AuthenticatedUser) (request : ConfirmOfferSignedRequest)
  | Complete (auth : AuthenticatedUser) (request : CompleteTransferRequest)
  | FinalizeByOffer (env : Env) (request : FinalizeByOfferRequest)
  | Cancel (auth : AuthenticatedUser) (transferId : Uuid) (request : CancelTransferRequest)

/-- The calls that could act on a transfer request. -/
def Step.concerns (id : Uuid) : Step → Prop
  | .Initiate env _ _ => env.uuid 0 = id
  | .Confirm _ request => request.transferId = id
  | .Complete _ request => request.transferId = id
  | .FinalizeByOffer _ _ => True
  | .Cancel _ transferId _ => transferId = id

variable (u : Umbral) (codec : TextCodec)

def step (db : Db) : Step → Db
  | .Initiate env auth request => (initiateTransfer u codec env auth request db).2
  | .Confirm auth request => (confirmOfferSigned auth request db).2
  | .Complete auth request => (completeTransfer auth request db).2
  | .FinalizeByOffer env request => (finalizeTransferByOffer env request db).2
  | .Cancel auth transferId request => (cancelTransfer auth transferId request db).2

variable {u codec} in
lemma step_initiate {env : Env} {auth : AuthenticatedUser} {request : InitiateTransferRequest}
    {db db' : Db} {answer : Except ApiError InitiateTransferResponse}
    (h : initiateTransfer u codec env auth request db = (answer, db')) :
    step u codec db (.Initiate env auth request) = db' :=
  congrArg Prod.snd h

/-- The database after a run of calls. -/
abbrev exec (db : Db) (calls : List Step) : Db := Runs.exec (step u codec) db calls

/-! ## Effects of the writes -/

section Writes

variable (db : Db) (id j : Uuid)

lemma ownerOf_withNft {f : NftMetadata → NftMetadata} {hid htoken} :
    (db.withNft id f hid htoken).ownerOf j
      = if j = id then (db.nftMetadata.get? id).map fun nm => (f nm).ownerId else db.ownerOf j := by
  rw [Db.ownerOf, get?_withNft]
  split_ifs with hj
  · cases db.nftMetadata.get? id <;> rfl
  · rfl

lemma ownerOf_offerSigned (t : TransferRequest) : (offerSigned db t).ownerOf j = db.ownerOf j := by
  rw [offerSigned, ownerOf_withNft]
  split_ifs with hj
  · rw [hj]; rfl
  · rfl

lemma ownerOf_handedOver (t : TransferRequest) (key : String) :
    (handedOver db t key).ownerOf j
      = if j = t.nftMetadataId then (db.ownerOf j).map fun _ => t.toUserId else db.ownerOf j := by
  rw [handedOver, ownerOf_withNft]
  split_ifs with hj
  · rw [hj, Db.ownerOf, Option.map_map]; rfl
  · rfl

@[simp] lemma ownerOf_withTransfer {f : TransferRequest → TransferRequest} {hid} :
    (db.withTransfer id f hid).ownerOf j = db.ownerOf j := rfl

@[simp] lemma termsOf_withNft {f : NftMetadata → NftMetadata} {hid htoken} :
    (db.withNft id f hid htoken).termsOf j = db.termsOf j := rfl

/-- A write that keeps the terms of its row keeps all terms. -/
lemma termsOf_withTransfer {f : TransferRequest → TransferRequest} {hid}
    (hf : ∀ t, (f t).terms = t.terms := by intro _; rfl) :
    (db.withTransfer id f hid).termsOf j = db.termsOf j := by
  rw [Db.termsOf, get?_withTransfer]
  split_ifs with hj
  · rw [hj, Db.termsOf, Option.map_map]
    cases db.transferRequests.get? id with
    | none => rfl
    | some t => exact congrArg some (hf t)
  · rfl

end Writes

/-! ## Effects of the calls -/

lemma insertTransfer_eq_ok {t : TransferRequest} {db db' : Db} (h : insertTransfer t db = .ok db') :
    db'.nftMetadata = db.nftMetadata ∧ db'.users = db.users ∧ db.termsOf t.id = none
      ∧ ∀ j, db'.termsOf j = if j = t.id then some t.terms else db.termsOf j := by
  unfold insertTransfer at h
  cases hins : db.transferRequests.insert? t with
  | none => rw [hins] at h; cases h
  | some ts =>
      rw [hins] at h
      cases h
      refine ⟨rfl, rfl, ?_, fun j => ?_⟩
      · rw [Db.termsOf, (Table.insert?_eq_some hins).1]; rfl
      · rw [Db.termsOf, Table.get?_insert hins]
        split_ifs <;> rfl

/-- Everything a call can do to the database. -/
inductive Effect (db : Db) : Step → Db → Prop
  | Unchanged (call : Step) :
      (∀ auth request t key, call = .Complete auth request →
        ¬ Claimable auth request.transferId db t key) →
      Effect db call db
  | Created (env : Env) (auth : AuthenticatedUser) (request : InitiateTransferRequest)
      (nft : NftMetadata) (toUserId : Uuid) (reEncrypted : String) (db' : Db) :
      db.nftMetadata.get? nft.id = some nft → nft.status.val = .Active →
      insertTransfer (pendingTransfer env nft toUserId reEncrypted) db = .ok db' →
      Effect db (.Initiate env auth request) db'
  | Signed (auth : AuthenticatedUser) (request : ConfirmOfferSignedRequest)
      (t : TransferRequest) : Confirmable auth request.transferId db t →
      Effect db (.Confirm auth request) (offerSigned db t)
  | SignedRecorded (auth : AuthenticatedUser) (request : ConfirmOfferSignedRequest)
      (t : TransferRequest) (offerIndex : String) : Confirmable auth request.transferId db t →
      Effect db (.Confirm auth request) ((offerSigned db t).withTransfer request.transferId
        fun t => { t with nftOfferIndex := some offerIndex, status := TransferStatus.completed })
  | HandedOver (auth : AuthenticatedUser) (request : CompleteTransferRequest)
      (t : TransferRequest) (key : String) : Claimable auth request.transferId db t key →
      Effect db (.Complete auth request) (handedOver db t key)
  | HandedOverRecorded (auth : AuthenticatedUser) (request : CompleteTransferRequest)
      (t : TransferRequest) (key xrplTxHash : String) :
      Claimable auth request.transferId db t key →
      Effect db (.Complete auth request) ((handedOver db t key).withTransfer request.transferId
        fun t => { t with xrplTxHash := some xrplTxHash, status := TransferStatus.completed })
  | Finalized (env : Env) (request : FinalizeByOfferRequest) (t : TransferRequest)
      (xrplTxHash : String) : t.status.val ≠ .Completed →
      Effect db (.FinalizeByOffer env request) (db.withTransfer t.id fun t =>
        { t with
          xrplTxHash := some xrplTxHash, nftOfferIndex := none, status := TransferStatus.completed })

theorem step_effect (db : Db) (call : Step) : Effect db call (step u codec db call) := by
  cases call with
  | Initiate env auth request =>
      have hspec := initiateTransfer_spec u codec env auth request db
      simp only [wp, step] at hspec ⊢
      generalize (initiateTransfer u codec env auth request db).1 = r at hspec
      generalize (initiateTransfer u codec env auth request db).2 = db' at hspec ⊢
      cases hspec with
      | Refused e => exact .Unchanged _ (by rintro _ _ _ _ ⟨⟩)
      | Created nft owner toUser reEncrypted _ _ hnft _ _ _ hins =>
          obtain ⟨hfind, hactive⟩ := Option.filter_eq_some_iff.mp hnft
          have hactive : nft.status.val = .Active := by simp_all
          exact .Created env auth request nft _ _ _ (Indexed.get?_of_find? hfind) hactive hins
  | Confirm auth request =>
      have hspec := confirmOfferSigned_spec auth request db
      simp only [wp, step] at hspec ⊢
      generalize (confirmOfferSigned auth request db).1 = r at hspec
      generalize (confirmOfferSigned auth request db).2 = db' at hspec ⊢
      cases hspec with
      | Refused e => exact .Unchanged _ (by rintro _ _ _ _ ⟨⟩)
      | Unrecorded t e hconfirm => exact .Signed auth request t hconfirm
      | Confirmed t idx answer hconfirm _ => exact .SignedRecorded auth request t idx hconfirm
  | Complete auth request =>
      have hspec := completeTransfer_spec auth request db
      simp only [wp, step] at hspec ⊢
      generalize (completeTransfer auth request db).1 = r at hspec
      generalize (completeTransfer auth request db).2 = db' at hspec ⊢
      cases hspec with
      | Refused e hnone =>
          refine .Unchanged _ fun _ _ t key heq => ?_
          obtain ⟨rfl, rfl⟩ := Step.Complete.inj heq
          exact hnone t key
      | Unrecorded t key e hclaim => exact .HandedOver auth request t key hclaim
      | Completed t key newOwner hash hclaim _ =>
          exact .HandedOverRecorded auth request t key hash hclaim
  | FinalizeByOffer env request =>
      have hspec := finalizeTransferByOffer_spec env request db
      simp only [wp, step] at hspec ⊢
      generalize (finalizeTransferByOffer env request db).1 = r at hspec
      generalize (finalizeTransferByOffer env request db).2 = db' at hspec ⊢
      cases hspec with
      | Unchanged answer => exact .Unchanged _ (by rintro _ _ _ _ ⟨⟩)
      | Finalized t hash answer _ _ hstatus => exact .Finalized env request t hash hstatus
  | Cancel auth transferId request =>
      rw [step, (cancelTransfer_spec auth transferId request db).1]
      exact .Unchanged _ (by rintro _ _ _ _ ⟨⟩)

/-! ## What every call preserves -/

/-- The terms of an existing request never change. -/
theorem termsOf_step {db : Db} {j : Uuid} {terms : TransferTerms} (h : db.termsOf j = some terms)
    (call : Step) : (step u codec db call).termsOf j = some terms := by
  have heffect := step_effect u codec db call
  generalize step u codec db call = db' at heffect ⊢
  cases heffect with
  | Unchanged => exact h
  | Created env auth request nft toUserId key _ _ _ hins =>
      obtain ⟨-, -, hnew, hterms⟩ := insertTransfer_eq_ok hins
      have hj : j ≠ (pendingTransfer env nft toUserId key).id := by
        rintro rfl
        exact nomatch hnew.symm.trans h
      rw [hterms, if_neg hj, h]
  | Signed => exact h
  | SignedRecorded => exact (termsOf_withTransfer _ _ _).trans h
  | HandedOver => exact h
  | HandedOverRecorded => exact (termsOf_withTransfer _ _ _).trans h
  | Finalized => exact (termsOf_withTransfer _ _ _).trans h

/-- Only `initiateTransfer` adds a request, under the identifier it generates. -/
theorem termsOf_step_eq_none {db : Db} {call : Step} {j : Uuid} (h : db.termsOf j = none)
    (hcall : ∀ env auth request, call = .Initiate env auth request → env.uuid 0 ≠ j) :
    (step u codec db call).termsOf j = none := by
  have heffect := step_effect u codec db call
  generalize step u codec db call = db' at heffect ⊢
  cases heffect with
  | Unchanged => exact h
  | Created env auth request nft toUserId key _ _ _ hins =>
      obtain ⟨-, -, -, hterms⟩ := insertTransfer_eq_ok hins
      have hj : j ≠ (pendingTransfer env nft toUserId key).id := Ne.symm (hcall env auth request rfl)
      rw [hterms, if_neg hj, h]
  | Signed => exact h
  | SignedRecorded => exact (termsOf_withTransfer _ _ _).trans h
  | HandedOver => exact h
  | HandedOverRecorded => exact (termsOf_withTransfer _ _ _).trans h
  | Finalized => exact (termsOf_withTransfer _ _ _).trans h

/-- Only `completeTransfer` changes owners. -/
theorem ownerOf_step {db : Db} {call : Step} (hcall : ∀ auth request, call ≠ .Complete auth request)
    (nft : Uuid) : (step u codec db call).ownerOf nft = db.ownerOf nft := by
  have heffect := step_effect u codec db call
  generalize step u codec db call = db' at heffect ⊢
  cases heffect with
  | Unchanged => rfl
  | Created env auth request row toUserId key _ _ _ hins =>
      rw [Db.ownerOf, (insertTransfer_eq_ok hins).1, Db.ownerOf]
  | Signed auth request t => exact ownerOf_offerSigned db nft t
  | SignedRecorded auth request t => exact ownerOf_offerSigned db nft t
  | HandedOver auth request => exact absurd rfl (hcall auth request)
  | HandedOverRecorded auth request => exact absurd rfl (hcall auth request)
  | Finalized => rfl

end Transfers

end Vaulted
