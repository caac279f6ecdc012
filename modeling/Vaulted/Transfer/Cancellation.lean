import Vaulted.Transfer.HonestRequest
import Vaulted.Transfer.System

/-!
# Cancelling a transfer

`cancelTransfer` writes the status `cancelled`.  The first migration admits it, the second one
replaces the constraint by a list of other cancellations, so the statement is refused, and with
it the call: `cancelTransfer_refused` is the error that the sender of an open transfer gets.

* `CancelsFinally` — what a cancellation is for: it goes through, and the transfer is out of
  every later run.
* `not_cancelsFinally` — no call achieves that.
-/

namespace Vaulted.Transfers

open Autocommit.Prog

variable (u : Umbral) (codec : TextCodec)

/-- The call succeeds, the request is cancelled and its NFT active; and in no run from there does
that request move an NFT or come back to `pending` or `completed`. It is asked of one call, with
every run that may follow. -/
def CancelsFinally (db : Db) (auth : AuthenticatedUser) (id : Uuid)
    (request : CancelTransferRequest) : Prop :=
  let db' := (cancelTransfer auth id request db).2
  (∃ answer, (cancelTransfer auth id request db).1 = .ok answer)
    ∧ (∃ t nft, db'.transferRequests.get? id = some t ∧ t.status.val.isCancelled = true
      ∧ db'.nftMetadata.get? t.nftMetadataId = some nft ∧ nft.status.val = .Active)
    ∧ ∀ calls, (∀ t, (exec u codec db' calls).transferRequests.get? id = some t →
        t.status.val ≠ .Pending ∧ t.status.val ≠ .Completed)
      ∧ ∀ pre call post, calls = pre ++ call :: post → call.concerns id → ∀ nft,
        (step u codec (exec u codec db' pre) call).ownerOf nft = (exec u codec db' pre).ownerOf nft

/-- An open transfer and the caller who may cancel it. -/
structure Cancellable (auth : AuthenticatedUser) (id : Uuid) (request : CancelTransferRequest)
    (db : Db) : Prop where
  caller : Text.eqIgnoreAsciiCase auth.walletAddress request.walletAddress = true
  openTransfer : ∃ t nft sender, transferWithNft id db = some (t, nft)
    ∧ db.walletOf t.fromUserId = some sender
    ∧ Text.eqIgnoreAsciiCase sender request.walletAddress = true
    ∧ (t.status.val = .Pending ∨ t.status.val = .Completed)

/-- **The sender of an open transfer gets the violated constraint for an answer**, and the
database stays as it is. -/
theorem cancelTransfer_refused {auth : AuthenticatedUser} {id : Uuid}
    {request : CancelTransferRequest} {db : Db} (h : Cancellable auth id request db) :
    cancelTransfer auth id request db
      = (.error (.checkViolation "transfer_requests" "transfer_requests_status_check"), db) := by
  obtain ⟨t, nft, sender, ht, hsender, hwallet, hstatus⟩ := h.openTransfer
  obtain ⟨t', ht', -⟩ := Option.bind_eq_some_iff.mp ht
  have hopen : (decide (t.status.val = .Pending) || decide (t.status.val = .Completed)) = true := by
    simpa using hstatus
  have hupdate : db.updateTransfer id .Cancelled (fun t => t)
      = .error (.checkViolation "transfer_requests" "transfer_requests_status_check") := by
    simp [Db.updateTransfer, transferStatusCheck, ht']
  rw [cancelTransfer, run_require h.caller, run_read, run_expect ht]
  dsimp only
  rw [run_read, run_expect hsender, run_require hwallet, run_require hopen]
  exact run_write_error hupdate

/-- **No call cancels a transfer.** The handler sets the status `cancelled`, which the `CHECK`
constraint of the table does not list: the update is refused whatever is in the database, the call
answers with an error, and nothing has changed. -/
theorem not_cancelsFinally (db : Db) (auth : AuthenticatedUser) (id : Uuid)
    (request : CancelTransferRequest) : ¬ CancelsFinally u codec db auth id request := by
  rintro ⟨⟨answer, hok⟩, -⟩
  obtain ⟨-, e, herror⟩ := cancelTransfer_spec auth id request db
  exact nomatch hok.symm.trans herror

/-! ## A pending transfer -/

section Sample

open Sample

/-- Alice offers her NFT to Bob. -/
def offering : List Step := [.Initiate (env ⟨"t1"⟩) (caller alice) (request 2 "rBob")]

lemma exec_offering : exec Umbral.symbolic JsonText.compact (db [] List.nodup_nil) offering
    = db [transfer ⟨"t1"⟩ 2 "rBob"] (by decide) := by
  have hbob : (db [] List.nodup_nil).userOf "rBob" = some (user 2 "rBob") := rfl
  have hfirst := initiateTransfer_alice ⟨"t1"⟩ [] List.nodup_nil hbob (by decide) (by decide)
  rw [offering, exec, Runs.exec_cons, step_initiate hfirst]
  rfl

/-- Alice cannot cancel the transfer that she has just made. -/
theorem offering_not_cancellable : ∃ t,
    (exec Umbral.symbolic JsonText.compact (db [] List.nodup_nil) offering).transferRequests.get?
        ⟨"t1"⟩ = some t
      ∧ t.status.val = .Pending ∧ t.fromUserId = alice.id
      ∧ ¬ CancelsFinally Umbral.symbolic JsonText.compact
        (exec Umbral.symbolic JsonText.compact (db [] List.nodup_nil) offering) (caller alice)
        ⟨"t1"⟩ { walletAddress := "rAlice" } := by
  refine ⟨transfer ⟨"t1"⟩ 2 "rBob", by rw [exec_offering]; rfl, rfl, rfl, ?_⟩
  rintro ⟨⟨answer, hok⟩, -⟩
  obtain ⟨-, e, herror⟩ := cancelTransfer_spec (caller alice) ⟨"t1"⟩ { walletAddress := "rAlice" }
    (exec Umbral.symbolic JsonText.compact (db [] List.nodup_nil) offering)
  exact nomatch hok.symm.trans herror

end Sample

end Vaulted.Transfers
