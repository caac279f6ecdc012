import Vaulted.Library.Handover
import Vaulted.Transfer.HonestRequest
import Vaulted.Transfer.System

/-!
# A transfer moves its NFT once

`completeTransfer` asks of a transfer request that the caller is its recipient, that its status
is `completed` and that it carries a key (`Claimable`).  It asks neither who owns the NFT nor
whether the request has been claimed before, and it leaves the status `completed`; so a claimed
transfer can be claimed again, and an older one of the same NFT overrides a newer one.

* `MovesOnce` — what transfers are for: whoever completes one takes the NFT from its sender,
  and that transfer has moved nothing before.
* `Current` — no claim names a transfer that was already there at an earlier claim of its NFT.
* `Current.movesOnce` — the runs of current claims are handovers (`abs_step`), and they move
  each NFT once per transfer.
* `not_movesOnce` — three claims on two transfers that are not, the last one taking an NFT back.
-/

namespace Vaulted

def TransferTerms.offer (terms : TransferTerms) : Handover.Offer Uuid Uuid where
  asset := terms.nft
  giver := terms.sender
  taker := terms.recipient

namespace Transfers

variable (u : Umbral) (codec : TextCodec)

/-! ## The property -/

/-- Whoever completes a transfer takes the NFT from its sender, and no earlier call on that
transfer has moved an NFT. -/
def MovesOnce (db : Db) (calls : List Step) : Prop :=
  ∀ pre auth request post answer, calls = pre ++ .Complete auth request :: post →
    (completeTransfer auth request (exec u codec db pre)).1 = .ok answer →
    ∃ t, (exec u codec db pre).transferRequests.get? request.transferId = some t
      ∧ (exec u codec db pre).ownerOf t.nftMetadataId = some t.fromUserId
      ∧ ∀ pre₁ call post₁, pre = pre₁ ++ call :: post₁ → call.concerns request.transferId →
          ∀ nft, (step u codec (exec u codec db pre₁) call).ownerOf nft
            = (exec u codec db pre₁).ownerOf nft

/-! ## The condition -/

/-- The request that a call of `completeTransfer` goes on to claim. -/
def claimed (auth : AuthenticatedUser) (id : Uuid) (db : Db) : Option TransferRequest :=
  (db.transferRequests.get? id).filter fun t =>
    (db.walletOf t.toUserId).any (Text.eqIgnoreAsciiCase auth.walletAddress)
      && decide (t.status.val = .Completed) && t.reEncryptedAesKey.isSome

/-- The requests of an NFT. -/
def transfersOf (nft : Uuid) (db : Db) : List Uuid :=
  (db.transferRequests.rows.filter fun t => decide (t.nftMetadataId = nft)).map TransferRequest.id

/-- The requests that are there when a call claims one of their NFT. -/
def settled (db : Db) : Step → List Uuid
  | .Complete auth request =>
      match claimed auth request.transferId db with
      | some t => transfersOf t.nftMetadataId db
      | none => []
  | _ => []

/-- A claim names a request that was not there at any earlier claim of its NFT. A claim leaves the
status of its request at `completed`, and other requests for the NFT as they are, so that each of
them could be claimed later. -/
def fresh (h : List Uuid) (db : Db) : Step → Prop
  | .Complete auth request =>
      claimed auth request.transferId db ≠ none → request.transferId ∉ h
  | _ => True

/-- Every claim of a run is fresh. -/
def Current (db : Db) (calls : List Step) : Prop :=
  Runs.Admits (step u codec) settled fresh db calls

lemma claimed_of_claimable {auth : AuthenticatedUser} {id : Uuid} {db : Db} {t : TransferRequest}
    {key : String} (h : Claimable auth id db t key) : claimed auth id db = some t := by
  obtain ⟨w, hw, hauth⟩ := h.recipient
  simp [claimed, h.found, hw, hauth, h.completed, h.reEncrypted]

lemma claimable_of_claimed {auth : AuthenticatedUser} {id : Uuid} {db : Db} {t : TransferRequest}
    (h : claimed auth id db = some t) : ∃ key, Claimable auth id db t key := by
  obtain ⟨hfound, hchecks⟩ := Option.filter_eq_some_iff.mp h
  simp only [Bool.and_eq_true, decide_eq_true_eq] at hchecks
  obtain ⟨⟨hrecipient, hcompleted⟩, hkey⟩ := hchecks
  obtain ⟨w, hw, hauth⟩ := (Option.any_eq_true _ _).mp hrecipient
  obtain ⟨key, hkey⟩ := Option.isSome_iff_exists.mp hkey
  exact ⟨key, hfound, ⟨w, hw, hauth⟩, hcompleted, hkey⟩

lemma mem_transfersOf {nft j : Uuid} {db : Db} :
    j ∈ transfersOf nft db ↔ ∃ terms, db.termsOf j = some terms ∧ terms.nft = nft := by
  simp only [transfersOf, List.mem_map, List.mem_filter, decide_eq_true_eq, Db.termsOf,
    Option.map_eq_some_iff]
  constructor
  · rintro ⟨t, ⟨ht, hnft⟩, hid⟩
    exact ⟨t.terms, ⟨t, Table.get?_eq_some.mpr ⟨ht, hid⟩, rfl⟩, hnft⟩
  · rintro ⟨_, ⟨t, ht, rfl⟩, hnft⟩
    exact ⟨t, ⟨Table.mem_of_get? ht, hnft⟩, Table.key_of_get? ht⟩

lemma settled_of_claimable {auth : AuthenticatedUser} {request : CompleteTransferRequest} {db : Db}
    {t : TransferRequest} {key : String} (h : Claimable auth request.transferId db t key) :
    settled db (.Complete auth request) = transfersOf t.nftMetadataId db := by
  simp only [settled, claimed_of_claimable h]

/-! ## Current claims are handovers -/

/-- The owners, and as live offers the requests that no claim has settled. -/
def abs (h : List Uuid) (db : Db) : Handover.State Uuid Uuid Uuid where
  owner := db.ownerOf
  live j := if j ∈ h then none else (db.termsOf j).map TransferTerms.offer

lemma abs_congr {h : List Uuid} {db db' : Db} (howner : ∀ j, db'.ownerOf j = db.ownerOf j)
    (hterms : ∀ j, db'.termsOf j = db.termsOf j) : abs h db' = abs h db := by
  simp only [abs, funext howner, hterms]

/-- Making a request is making an offer. -/
lemma abs_insertTransfer {h : List Uuid} {db db' : Db} (hh : ∀ j ∈ h, db.termsOf j ≠ none)
    {t : TransferRequest} (hins : insertTransfer t db = .ok db') :
    abs h db' = (abs h db).offer t.id t.terms.offer := by
  obtain ⟨hnfts, -, hnew, hterms⟩ := insertTransfer_eq_ok hins
  have howner : db'.ownerOf = db.ownerOf := by
    funext j
    rw [Db.ownerOf, hnfts, Db.ownerOf]
  have hlive : (abs h db').live = Function.update (abs h db).live t.id (some t.terms.offer) := by
    funext j
    by_cases hj : j = t.id
    · have hnot : t.id ∉ h := fun hmem => hh t.id hmem hnew
      simp only [hj, Function.update_self, abs, if_neg hnot, hterms, if_pos, Option.map_some]
    · rw [Function.update_of_ne hj]
      simp only [abs, hterms, if_neg hj]
  rw [Handover.State.offer, ← hlive]
  simp only [abs, howner]

/-- Claiming a live request is handing its NFT over. -/
lemma abs_handedOver {h : List Uuid} {db db' : Db} {t : TransferRequest} {key : String}
    (howner : ∀ j, db'.ownerOf j = (handedOver db t key).ownerOf j)
    (hterms : ∀ j, db'.termsOf j = db.termsOf j)
    (hgiver : db.ownerOf t.nftMetadataId = some t.fromUserId) :
    abs (h ++ transfersOf t.nftMetadataId db) db' = (abs h db).handOver t.terms.offer := by
  have howners : db'.ownerOf = Function.update db.ownerOf t.nftMetadataId (some t.toUserId) := by
    funext j
    rw [howner, ownerOf_handedOver]
    by_cases hj : j = t.nftMetadataId
    · rw [if_pos hj, hj, Function.update_self, hgiver, Option.map_some]
    · rw [if_neg hj, Function.update_of_ne hj]
  have hlive : ∀ j, (abs (h ++ transfersOf t.nftMetadataId db) db').live j
      = ((abs h db).handOver t.terms.offer).live j := by
    intro j
    simp only [abs, Handover.State.handOver, List.mem_append, mem_transfersOf, hterms]
    by_cases hj : j ∈ h
    · simp [hj]
    · cases hterm : db.termsOf j with
      | none => simp
      | some terms =>
          by_cases hnft : terms.nft = t.nftMetadataId <;>
            simp [hj, hnft, TransferTerms.offer, TransferRequest.terms, Option.filter_some]
  rw [Handover.State.handOver]
  simp only [abs] at hlive ⊢
  exact congrArg₂ Handover.State.mk howners (funext hlive)

/-- **Every fresh call is a step of the handover system**: nothing, an offer, or the acceptance
of a live one. -/
theorem abs_step {h : List Uuid} {db : Db} (hh : ∀ j ∈ h, db.termsOf j ≠ none)
    (hsound : Handover.Sound (abs h db)) {call : Step} (hfresh : fresh h db call) :
    Handover.Step (abs h db) (abs (h ++ settled db call) (step u codec db call)) := by
  have heffect := step_effect u codec db call
  generalize step u codec db call = db' at heffect
  have stutter : ∀ {call db'}, settled db call = [] → (∀ j, db'.ownerOf j = db.ownerOf j) →
      (∀ j, db'.termsOf j = db.termsOf j) →
      Handover.Step (abs h db) (abs (h ++ settled db call) db') := by
    intro call db' hsettled howner hterms
    rw [hsettled, List.append_nil, abs_congr howner hterms]
    exact .Stutter
  -- a live request was made by the owner of its NFT
  have accept : ∀ {auth request t key db'}, Claimable auth request.transferId db t key →
      fresh h db (.Complete auth request) →
      (∀ j, db'.ownerOf j = (handedOver db t key).ownerOf j) →
      (∀ j, db'.termsOf j = db.termsOf j) →
      Handover.Step (abs h db) (abs (h ++ settled db (.Complete auth request)) db') := by
    intro auth request t key db' hclaim hfresh howner hterms
    have hlive : (abs h db).live request.transferId = some t.terms.offer := by
      have hnot : request.transferId ∉ h := hfresh (by simp [claimed_of_claimable hclaim])
      simp [abs, hnot, Db.termsOf, hclaim.found]
    rw [settled_of_claimable hclaim, abs_handedOver howner hterms (hsound _ _ hlive)]
    exact .Accept _ _ hlive
  cases heffect with
  | Unchanged call hnone =>
      refine stutter ?_ (fun _ => rfl) fun _ => rfl
      cases call with
      | Complete auth request =>
          have hnot : claimed auth request.transferId db = none := by
            refine Option.eq_none_iff_forall_ne_some.mpr fun t ht => ?_
            obtain ⟨key, hclaim⟩ := claimable_of_claimed ht
            exact hnone auth request t key rfl hclaim
          simp only [settled, hnot]
      | _ => rfl
  | Created env auth request nft toUserId key _ hnft _ hins =>
      have hsettled : settled db (.Initiate env auth request) = [] := rfl
      rw [hsettled, List.append_nil, abs_insertTransfer hh hins]
      obtain ⟨-, -, hnew, -⟩ := insertTransfer_eq_ok hins
      refine .Offer _ _ ?_ ?_
      · simp only [abs, hnew, Option.map_none, ite_self]
      · have howner : db.ownerOf nft.id = some nft.ownerId := by rw [Db.ownerOf, hnft]; rfl
        exact howner
  | Signed auth request t =>
      exact stutter rfl (ownerOf_offerSigned db · t) fun _ => rfl
  | SignedRecorded auth request t offerIndex =>
      refine stutter rfl (fun j => ?_) fun j => ?_
      · exact ownerOf_offerSigned db j t
      · exact termsOf_withTransfer (offerSigned db t) _ j
  | HandedOver auth request t key hclaim =>
      exact accept hclaim hfresh (fun _ => rfl) fun _ => rfl
  | HandedOverRecorded auth request t key hash hclaim =>
      refine accept hclaim hfresh (fun j => ?_) fun j => ?_
      · rfl
      · exact termsOf_withTransfer (handedOver db t key) _ j
  | Finalized env request t hash =>
      exact stutter rfl (fun _ => rfl) fun j => termsOf_withTransfer _ _ j

/-! ## Runs of current claims -/

/-- Settled requests exist, and the others were made by the owners of their NFTs. So a request that
is not settled can be claimed without taking the NFT from anybody but its sender. -/
def Inv (h : List Uuid) (db : Db) : Prop :=
  (∀ j ∈ h, db.termsOf j ≠ none) ∧ Handover.Sound (abs h db)

lemma inv_init {db : Db} (hinit : db.transferRequests.rows = []) : Inv [] db := by
  refine ⟨fun _ hj => absurd hj List.not_mem_nil, fun j offer hlive => ?_⟩
  have hnone : db.transferRequests.get? j = none := by simp [Table.get?, hinit]
  simp [abs, Db.termsOf, hnone] at hlive

lemma inv_step {h : List Uuid} {db : Db} {call : Step} (hinv : Inv h db) (hfresh : fresh h db call) :
    Inv (h ++ settled db call) (step u codec db call) := by
  obtain ⟨hexist, hsound⟩ := hinv
  refine ⟨fun j hj => ?_, (abs_step u codec hexist hsound hfresh).sound hsound⟩
  have hold : ∃ terms, db.termsOf j = some terms := by
    rcases List.mem_append.mp hj with hj | hj
    · exact Option.ne_none_iff_exists'.mp (hexist j hj)
    · cases call with
      | Complete auth request =>
          simp only [settled] at hj
          split at hj
          · obtain ⟨terms, hterms, -⟩ := mem_transfersOf.mp hj
            exact ⟨terms, hterms⟩
          · cases hj
      | _ => cases hj
  obtain ⟨terms, hterms⟩ := hold
  rw [termsOf_step u codec hterms]
  exact Option.some_ne_none _

/-- A call on a request that no claim has settled moves nothing. -/
lemma ownerOf_step_of_unsettled {db : Db} {call : Step} {id : Uuid} (hcall : call.concerns id)
    (hid : id ∉ settled db call) (nft : Uuid) :
    (step u codec db call).ownerOf nft = db.ownerOf nft := by
  cases call with
  | Complete auth request =>
      have heffect := step_effect u codec db (.Complete auth request)
      generalize step u codec db (.Complete auth request) = db' at heffect ⊢
      have claims : ∀ {t key}, Claimable auth request.transferId db t key → False := by
        intro t key hclaim
        rw [settled_of_claimable hclaim, mem_transfersOf] at hid
        have hcall : request.transferId = id := hcall
        refine hid ⟨t.terms, ?_, rfl⟩
        rw [← hcall, Db.termsOf, hclaim.found, Option.map_some]
      cases heffect with
      | Unchanged => rfl
      | HandedOver _ _ t key hclaim => exact (claims hclaim).elim
      | HandedOverRecorded _ _ t key hash hclaim => exact (claims hclaim).elim
  | Initiate | Confirm | FinalizeByOffer | Cancel =>
      exact ownerOf_step u codec (by rintro _ _ ⟨⟩) nft

/-- **As long as every claim is fresh, each transfer moves its NFT at most once, and only away from
the owner who made it.** `completeTransfer` asks neither who the owner is nor whether the transfer
has been claimed before. What keeps the owner and the sender of a request together is that no
request is claimed which was there at an earlier claim of its NFT. -/
theorem movesOnce_of_current {db : Db} (hinit : db.transferRequests.rows = []) {calls : List Step}
    (hcurrent : Current u codec db calls) : MovesOnce u codec db calls := by
  rintro pre auth request post answer rfl hok
  have hfresh := hcurrent pre _ post rfl
  have hstep : ∀ h s call, Inv h s → fresh h s call →
      Inv (h ++ settled s call) (step u codec s call) := fun _ _ _ => inv_step u codec
  have hinv : Inv (Runs.history (step u codec) settled db pre) (exec u codec db pre) :=
    Runs.invariant_run (inv_init hinit) hstep hcurrent.front
  have hspec := completeTransfer_spec auth request (exec u codec db pre)
  rw [Autocommit.Prog.wp, hok] at hspec
  generalize (completeTransfer auth request (exec u codec db pre)).2 = db' at hspec
  cases hspec with
  | Completed t key newOwner hash hclaim _ =>
      have hnot : request.transferId ∉ Runs.history (step u codec) settled db pre :=
        hfresh (by simp [claimed_of_claimable hclaim])
      have hlive : (abs (Runs.history (step u codec) settled db pre) (exec u codec db pre)).live
          request.transferId = some t.terms.offer := by
        simp [abs, hnot, Db.termsOf, hclaim.found]
      refine ⟨t, hclaim.found, hinv.2 _ _ hlive, fun pre₁ call post₁ hpre hcall nft => ?_⟩
      refine ownerOf_step_of_unsettled u codec hcall (fun hmem => hnot ?_) nft
      exact (Runs.mem_history _ _).mpr ⟨pre₁, call, post₁, hpre, hmem⟩

/-! ## One transfer, three claims -/

section Sample

open Sample

/-- Alice offers the NFT to Bob and to Carol and signs both offers; Bob claims it, then Carol. -/
def overriding : List Step :=
  [.Initiate (env ⟨"t1"⟩) (caller alice) (request 2 "rBob"),
   .Initiate (env ⟨"t2"⟩) (caller alice) (request 3 "rCarol"),
   .Confirm (caller alice) { transferId := ⟨"t1"⟩, offerIndex := "01" },
   .Confirm (caller alice) { transferId := ⟨"t2"⟩, offerIndex := "02" },
   .Complete (caller bob) { transferId := ⟨"t1"⟩, xrplTxHash := "0A" },
   .Complete (caller carol) { transferId := ⟨"t2"⟩, xrplTxHash := "0B" }]

/-- Bob's claim. -/
def claim : CompleteTransferRequest := { transferId := ⟨"t1"⟩, xrplTxHash := "0A" }

/-- The requests of `overriding`, once they are made. -/
def requested : Db := db [transfer ⟨"t1"⟩ 2 "rBob", transfer ⟨"t2"⟩ 3 "rCarol"] (by decide)

lemma exec_overriding : exec Umbral.symbolic JsonText.compact (db [] List.nodup_nil) overriding
    = exec Umbral.symbolic JsonText.compact requested (overriding.drop 2) := by
  have hbob : (db [] List.nodup_nil).userOf "rBob" = some (user 2 "rBob") := rfl
  have hcarol : (db [] List.nodup_nil).userOf "rCarol" = some (user 3 "rCarol") := rfl
  have hfirst := initiateTransfer_alice ⟨"t1"⟩ [] List.nodup_nil hbob (by decide) (by decide)
  have hsecond := initiateTransfer_alice ⟨"t2"⟩ ([] ++ [transfer ⟨"t1"⟩ 2 "rBob"]) (by decide)
    hcarol (by decide) (by decide)
  rw [overriding, exec, Runs.exec_cons, step_initiate hfirst, Runs.exec_cons, step_initiate hsecond]
  rfl

/-- Bob claims the NFT again, from Carol, who claimed it from him; Alice sold it to both. -/
theorem not_movesOnce : ¬ MovesOnce Umbral.symbolic JsonText.compact (db [] List.nodup_nil)
    (overriding ++ [.Complete (caller bob) claim]) := by
  intro h
  have hok : (completeTransfer (caller bob) claim
      (exec Umbral.symbolic JsonText.compact (db [] List.nodup_nil) overriding)).1
        = .ok { success := true, newOwner := "rBob" } := by
    rw [exec_overriding]
    exact Autocommit.Prog.eq_ok_of_toOption (by decide +kernel)
  have howner : (exec Umbral.symbolic JsonText.compact (db [] List.nodup_nil) overriding).ownerOf
      nft.id = some carol.id := by
    rw [exec_overriding]
    decide +kernel
  have hterms : ((exec Umbral.symbolic JsonText.compact (db [] List.nodup_nil) overriding).termsOf
      claim.transferId).map (fun terms => (terms.nft, terms.sender)) = some (nft.id, alice.id) := by
    rw [exec_overriding]
    decide +kernel
  obtain ⟨t, ht, hgiver, -⟩ := h overriding (caller bob) claim [] _ rfl hok
  rw [Db.termsOf, ht, Option.map_some, Option.map_some, Option.some_inj] at hterms
  obtain ⟨hnft, hfrom⟩ := Prod.mk.inj hterms
  have hgiver : (exec Umbral.symbolic JsonText.compact (db [] List.nodup_nil) overriding).ownerOf
      nft.id = some alice.id := by rw [← hnft, ← hfrom]; exact hgiver
  exact absurd (howner.symm.trans hgiver) (by decide)

/-- Alice sells the NFT to Bob, once. -/
def selling : List Step :=
  [.Initiate (env ⟨"t1"⟩) (caller alice) (request 2 "rBob"),
   .Confirm (caller alice) { transferId := ⟨"t1"⟩, offerIndex := "01" },
   .Complete (caller bob) claim]

lemma exec_selling : exec Umbral.symbolic JsonText.compact (db [] List.nodup_nil) selling
    = exec Umbral.symbolic JsonText.compact (db [transfer ⟨"t1"⟩ 2 "rBob"] (by decide))
        (selling.drop 1) := by
  have hbob : (db [] List.nodup_nil).userOf "rBob" = some (user 2 "rBob") := rfl
  have hfirst := initiateTransfer_alice ⟨"t1"⟩ [] List.nodup_nil hbob (by decide) (by decide)
  rw [selling, exec, Runs.exec_cons, step_initiate hfirst]
  rfl

theorem selling_movesOnce :
    (exec Umbral.symbolic JsonText.compact (db [] List.nodup_nil) selling).ownerOf nft.id
        = some bob.id
      ∧ MovesOnce Umbral.symbolic JsonText.compact (db [] List.nodup_nil) selling := by
  refine ⟨by rw [exec_selling]; decide +kernel, movesOnce_of_current _ _ rfl ?_⟩
  -- only the third call claims, and no claim comes before it
  show Current _ _ _ ((([] ++ [_]) ++ [_]) ++ [_])
  refine Runs.admits_concat.mpr ⟨Runs.admits_concat.mpr ⟨Runs.admits_concat.mpr
    ⟨Runs.admits_nil, True.intro⟩, True.intro⟩, fun _ => List.not_mem_nil⟩

end Sample

end Transfers

end Vaulted
