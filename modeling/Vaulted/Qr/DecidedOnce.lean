import Vaulted.Oracle.QrApproval
import Vaulted.Qr.LoginOnce

/-!
# A QR request is decided once

A confirmation loads its request, checks it, inserts the row of the device or of the grant and then
marks the request as approved; a poll loads the request and may mark it as expired.  Both marks are
set by the id of the request, whatever its status has become.

* `run` — any number of calls, whose statements interleave in any order.
* `DecidedOnce` — a request that is no longer pending stays as it is decided, one that was reported
  as expired is expired, and what has been created for a request goes with its approval.
* `Undisturbed` — a statement that decides a request, or creates something for it, finds it pending,
  and no other confirmation in between the two.
* `decidedOnce_of_undisturbed` — that is enough.
* `not_decidedOnce` — a request expires while it is being confirmed.
-/

namespace Vaulted.QrApproval

open Interleaving QrAuth QrLogin

/-! ## The system -/

/-- The database, and the calls under way. -/
abbrev Server := State Db Call Answer Moment Reply

/-- The request that a call is about. -/
def Call.request : Call → Option (QrTable × Uuid)
  | .Confirm t req => (parseUuid req.requestId).map fun id => (t, id)
  | .Status t requestId => (parseUuid requestId).map fun id => (t, id)
  | .StartPairing _ => none
  | .StartSigning _ => none
  | .StartFileGrant _ => none

/-- Does an answer say that the request has expired? -/
def Reply.expired : Reply → Bool
  | .Status _ (.ok r) => decide (r.status = .Expired)
  | .Confirmed t (.error e) => decide (e = requestExpired t) || decide (e = notPending t .Expired)
      || decide (e = grantExpirationPassed)
  | .Status _ (.error _) => false
  | .Confirmed _ (.ok _) => false
  | .Started _ _ => false

/-- The approval with which a row has been created. -/
def created (call : Call) : (stmt : Statement) → Answer stmt → Option Approval
  | .RegisterDevice _, answer =>
      match call, answer with
      | .Confirm .DevicePairing req, .ok id =>
          some
            { deviceId := req.authorizingDeviceId
              signingPublicKey := req.signingPublicKey
              signature := req.signature
              created := some id }
      | _, _ => none
  | .InsertGrant g, answer =>
      match call, answer with
      | .Confirm .FileGrant req, .ok _ =>
          some
            { deviceId := req.authorizingDeviceId
              signingPublicKey := req.signingPublicKey
              signature := g.ownerSignature
              created := some g.id }
      | _, _ => none
  | _, _ => none

inductive Event
  | Expired (t : QrTable) (id : Uuid)
  | Created (i : Nat) (t : QrTable) (id : Uuid) (approval : Approval)

section System

variable (ed : Ed25519) (codec : TextCodec) (rfc3339 : DateTime → String) (state : AppState)

abbrev step (s : Server) (l : Label Call Moment) : Server :=
  Interleaving.step QrApproval.exec (handle ed codec rfc3339 state) s l

/-- The server after a run. -/
abbrev run (s : Server) (ls : List (Label Call Moment)) : Server :=
  Runs.exec (step ed codec rfc3339 state) s ls

/-- The requests that a step reports as expired. -/
def reports (s : Server) (l : Label Call Moment) : List Event :=
  (finished QrApproval.exec (handle ed codec rfc3339 state) s l).filterMap fun (call, reply) =>
    if reply.expired then call.request.map fun (t, id) => .Expired t id else none

/-- The row that a step creates. -/
def creates (s : Server) : Label Call Moment → List Event
  | .Start _ _ => []
  | .Step i m =>
      (executes s (.Step i m)).toList.flatMap fun (call, stmt, _) =>
        call.request.toList.flatMap fun (t, id) =>
          ((created call stmt (QrApproval.exec stmt m s.store).1).map (.Created i t id)).toList

def emit (s : Server) (l : Label Call Moment) : List Event :=
  reports ed codec rfc3339 state s l ++ creates s l

/-- The request bears an approval. -/
structure ApprovedBy {t : QrTable} (approval : Approval) (row : QrRequest t) : Prop where
  status : row.status = .Approved
  device : row.approvedByDeviceId = some approval.deviceId
  marked : mark approval t row.columns = row.columns

/-- The `i`-th call is about to mark the request as approved. -/
def AboutTo (s : Server) (i : Nat) (t : QrTable) (id : Uuid) (approval : Approval) : Prop :=
  ∃ call k, s.threads[i]? = some ⟨call, .Exec (.Approve t id approval) k⟩

/-- Requests of all three kinds are decided once, and whatever has been created for a request or
reported about it agrees with the decision. -/
structure DecidedOnce (s : Server) (ls : List (Label Call Moment)) : Prop where
  /-- A request is decided once: the status of one that is no longer pending stays. -/
  kept : ∀ pre mid post, ls = pre ++ (mid ++ post) → ∀ t id row,
    ((run ed codec rfc3339 state s pre).store.qrRequests t).get? id = some row →
    row.status ≠ .Pending →
    ∃ row', ((run ed codec rfc3339 state s (pre ++ mid)).store.qrRequests t).get? id = some row'
      ∧ row'.status = row.status
  /-- A request that was reported as expired is. -/
  expired : ∀ pre post, ls = pre ++ post → ∀ t id,
    .Expired t id ∈ Runs.history (step ed codec rfc3339 state) (emit ed codec rfc3339 state) s pre →
    ∃ row, ((run ed codec rfc3339 state s pre).store.qrRequests t).get? id = some row
      ∧ row.status = .Expired
  /-- What was created for a request goes with its approval: the request bears it, or is pending
  and will bear it as soon as the call goes on. -/
  created : ∀ pre post, ls = pre ++ post → ∀ i t id approval,
    .Created i t id approval
      ∈ Runs.history (step ed codec rfc3339 state) (emit ed codec rfc3339 state) s pre →
    ∃ row, ((run ed codec rfc3339 state s pre).store.qrRequests t).get? id = some row
      ∧ (ApprovedBy approval row
        ∨ row.status = .Pending ∧ AboutTo (run ed codec rfc3339 state s pre) i t id approval)

/-! ## The condition -/

def FindsPending (db : Db) (t : QrTable) (id : Uuid) : Prop :=
  ∃ row, (db.qrRequests t).get? id = some row ∧ row.status = .Pending

/-- The request that a statement decides, or creates something for. -/
def target (call : Call) : Statement → Option (QrTable × Uuid)
  | .Expire t id => some (t, id)
  | .Approve t id _ => some (t, id)
  | .RegisterDevice _ => call.request
  | .InsertGrant _ => call.request
  | _ => none

/-- Does a confirmation create a row before it marks the request as approved? -/
def createsRow : QrTable → Bool
  | .DevicePairing => true
  | .XrplSigning => false
  | .FileGrant => true

/-- The statements whose error leaves a poll or a created row without its request. -/
def mustSucceed : Statement → Bool
  | .Expire _ _ => true
  | .Approve t _ _ => createsRow t
  | _ => false

/-- Is the call about to mark the request as approved? -/
def waits (t : QrTable) (id : Uuid) (thread : Thread Call Answer Moment Reply) : Bool :=
  match thread.rest with
  | .Exec (.Approve t' id' _) _ => decide (t' = t) && decide (id' = id)
  | _ => false

/-- A statement finds its request pending, and no other call between the row that it has created
and the approval. -/
structure Undisturbed (s : Server) (i : Nat) (m : Moment) (call : Call) (stmt : Statement) :
    Prop where
  succeeds : mustSucceed stmt = true → m.failure = none
  pending : ∀ p ∈ target call stmt, m.failure = none → FindsPending s.store p.1 p.2
  alone : ∀ p ∈ target call stmt, m.failure = none → createsRow p.1 = true →
    ∀ q ∈ s.threads.zipIdx, q.2 ≠ i → waits p.1 p.2 q.1 = false

def guard (s : Server) : Label Call Moment → Prop
  | .Start _ _ => True
  | .Step i m => ∀ p ∈ executes s (.Step i m), Undisturbed s i m p.1 p.2.1

instance (db : Db) (t : QrTable) (id : Uuid) : Decidable (FindsPending db t id) :=
  decidable_of_iff
    ((((db.qrRequests t).get? id).any fun row => decide (row.status = .Pending)) = true)
    (by simp [FindsPending, Option.any_eq_true])

instance (s : Server) (i : Nat) (m : Moment) (call : Call) (stmt : Statement) :
    Decidable (Undisturbed s i m call stmt) :=
  decidable_of_iff ((mustSucceed stmt = true → m.failure = none)
    ∧ (∀ p ∈ target call stmt, m.failure = none → FindsPending s.store p.1 p.2)
    ∧ ∀ p ∈ target call stmt, m.failure = none → createsRow p.1 = true →
      ∀ q ∈ s.threads.zipIdx, q.2 ≠ i → waits p.1 p.2 q.1 = false)
    ⟨fun ⟨h₁, h₂, h₃⟩ => ⟨h₁, h₂, h₃⟩, fun h => ⟨h.1, h.2, h.3⟩⟩

instance (s : Server) : (l : Label Call Moment) → Decidable (guard s l)
  | .Start _ _ => inferInstanceAs (Decidable True)
  | .Step i m =>
      inferInstanceAs (Decidable (∀ p ∈ executes s (.Step i m), Undisturbed s i m p.1 p.2.1))

end System

/-! ## The handlers -/

/-- Why an answer may say that the request has expired: it has just been set to expired, or was so
when it was loaded. -/
def TellsExpired (call : Call) : (stmt : Statement) → Answer stmt → Prop
  | .Expire t id, _ => call.request = some (t, id)
  | .Load t id, r =>
      call.request = some (t, id) ∧ ∃ row, r = .ok (some row) ∧ row.status = .Expired
  | _, _ => False

/-- A request is marked as approved right after a row has been created for it. -/
def approvalFlow (call : Call) : Flow Answer Reply where
  begins _ := True
  refuses reply := reply.expired = false
  next stmt r stmt' := ∀ approval, created call stmt r = some approval →
    ∃ t id, call.request = some (t, id) ∧ createsRow t = true ∧ stmt' = .Approve t id approval
  ends stmt r reply := created call stmt r = none
    ∧ (reply.expired = true → TellsExpired call stmt r)

/-- A part of a handler that reports no request as expired. -/
abbrev Quiet (call : Call) (p : Handling) : Prop :=
  p.Flows (approvalFlow call) (fun reply => reply.expired = false) fun _ => True

section Flows

variable {call : Call}

lemma Quiet.follows {p : Handling} (hp : Quiet call p) {stmt : Statement} {r : Answer stmt}
    (hnone : created call stmt r = none) :
    p.Flows (approvalFlow call) ((approvalFlow call).ends stmt r)
      ((approvalFlow call).next stmt r) := by
  cases p with
  | Done reply => exact ⟨hnone, fun h => absurd h (by rw [hp]; exact Bool.false_ne_true)⟩
  | Exec stmt' k => exact ⟨fun approval h => (by rw [hnone] at h; cases h), hp.2⟩

/-- A statement that creates nothing. -/
lemma Quiet.exec {stmt : Statement} {k : Answer stmt → Moment → Handling}
    (hnone : ∀ r, created call stmt r = none) (hk : ∀ r m, Quiet call (k r m)) :
    Quiet call (.Exec stmt k) :=
  ⟨trivial, fun r m => (hk r m).follows (hnone r)⟩

lemma expired_confirmed {t : QrTable} {e : ApiError} (h : e ≠ requestExpired t)
    (h' : e ≠ notPending t .Expired) (h'' : e ≠ grantExpirationPassed) :
    (Reply.Confirmed t (.error e)).expired = false := by
  simp [Reply.expired, h, h', h'']

lemma loaded_eq_error {α : Type} {text : String} {answer : Except String α} {e : ApiError}
    (h : loaded text answer = .error e) : ∃ message, e = .Database message := by
  cases answer with
  | error s => exact ⟨_, (Except.error.inj h).symm⟩
  | ok a => cases h

/-- A row that a handler goes on with is the one that it has loaded. -/
lemma loaded_row {α : Type} {text : String} {answer : Except String (Option α)} {row? : Option α}
    {e : ApiError} {row : α} (h : loaded text answer = .ok row?) (hrow : okOr row? e = .ok row) :
    answer = .ok (some row) := by
  rw [Pre.eq_ok_of_mapErr h, okOr_eq_ok hrow]

section Refusals

variable (t : QrTable)

lemma expired_loaded {α : Type} {text : String} {answer : Except String α} {e : ApiError}
    (h : loaded text answer = .error e) : (Reply.Confirmed t (.error e)).expired = false := by
  obtain ⟨message, rfl⟩ := loaded_eq_error h
  exact expired_confirmed nofun nofun nofun

lemma expired_unauthorized {text : String} (h : text ≠ (texts t).request ++ " expired")
    (h' : text ≠ "requested grant expiration has passed") :
    (Reply.Confirmed t (.error (.Unauthorized text))).expired = false :=
  expired_confirmed (fun heq => h (ApiError.Unauthorized.inj heq)) nofun
    fun heq => h' (ApiError.Unauthorized.inj heq)

lemma expired_verified {ed : Ed25519} {publicKeyHex signature : String} {message : List UInt8}
    {e : ApiError} (h : verifyEd25519Hex ed publicKeyHex message signature = .error e) :
    (Reply.Confirmed t (.error e)).expired = false := by
  obtain ⟨text, htext, rfl⟩ := Ed25519.verifyWith_eq_error h
  clear h
  revert text
  cases t <;> decide

lemma expired_notPending {status : QrRequestStatus} (h : status ≠ .Expired) :
    (Reply.Confirmed t (.error (notPending t status))).expired = false := by
  refine expired_confirmed nofun (fun heq => h ?_) nofun
  have htext := ApiError.BadRequest.inj heq
  revert htext
  cases t <;> cases status <;> decide

end Refusals

/-- **The request of a confirmation** is reported as expired when it is found so, or set so. -/
lemma flows_pendingRequest {t : QrTable} {req : QrConfirmRequest}
    {k : Uuid → QrRequest t → Moment → Handling}
    (hk : ∀ id row m, (Call.Confirm t req).request = some (t, id) →
      Quiet (.Confirm t req) (k id row m)) : Quiet (.Confirm t req) (pendingRequest t req k) := by
  refine Proc.flows_check (fun e he => ?_) fun id hid => ?_
  · rw [okOr_eq_error he]
    exact expired_confirmed nofun (fun heq => absurd (ApiError.BadRequest.inj heq)
      (by cases t <;> decide)) nofun
  have hrequest : (Call.Confirm t req).request = some (t, id) := by
    rw [Call.request, okOr_eq_ok hid]
    rfl
  have quiet : ∀ {r : Answer (.Load t id)} {reply : Reply}, reply.expired = false →
      (approvalFlow (.Confirm t req)).ends (.Load t id) r reply :=
    fun h => ⟨rfl, fun hexpired => absurd hexpired (by rw [h]; exact Bool.false_ne_true)⟩
  refine ⟨trivial, fun row? m => ?_⟩
  refine Proc.flows_check (fun e he => quiet (expired_loaded t he)) fun row? hrow? => ?_
  refine Proc.flows_check (fun e he => quiet ?_) fun row hrow => ?_
  · rw [okOr_eq_error he]
    exact expired_confirmed nofun nofun nofun
  refine Proc.flows_check (fun e he => quiet ?_) fun _ _ => ?_
  · rw [ensure_eq_error he]
    exact expired_unauthorized t (by cases t <;> decide) (by cases t <;> decide)
  refine Proc.flows_check (fun e he => ?_) fun _ _ => ?_
  · rw [ensure_eq_error he]
    by_cases hstatus : row.status = .Expired
    · rw [loaded_row hrow? hrow]
      exact ⟨rfl, fun _ => ⟨hrequest, row, rfl, hstatus⟩⟩
    · exact quiet (expired_notPending t hstatus)
  split_ifs
  · refine ⟨nofun, fun _ _ => ⟨rfl, fun _ => hrequest⟩⟩
  · exact (hk id row m hrequest).follows rfl

lemma quiet_failed (t : QrTable) (message : String) :
    Quiet call (.Done (.Confirmed t (.error (.Database message)))) :=
  expired_confirmed nofun nofun nofun

lemma quiet_signer {t : QrTable} {req : QrConfirmRequest} {k : Moment → Handling}
    (hk : ∀ m, Quiet call (k m)) : Quiet call (signer t req k) := by
  refine Quiet.exec (fun _ => rfl) fun identity? m => ?_
  refine Proc.flows_check (fun e he => expired_loaded t he) fun identity? _ => ?_
  refine Proc.flows_check (fun e he => ?_) fun identity _ => ?_
  · rw [okOr_eq_error he]
    exact expired_unauthorized t (by cases t <;> decide) (by decide)
  refine Proc.flows_check (fun e he => ?_) fun _ _ => hk m
  rw [ensure_eq_error he]
  exact expired_unauthorized t (by cases t <;> decide) (by decide)

lemma quiet_markApproved {t : QrTable} {req : QrConfirmRequest} {id : Uuid} {row? : Option Uuid}
    {subject : String} : Quiet call (markApproved t req id row? subject) := by
  refine Quiet.exec (fun _ => rfl) fun approved _ => ?_
  exact Proc.flows_check (fun e he => expired_loaded t he) fun _ _ => rfl

/-- **A row is created right before the approval**, which bears the same signature. -/
lemma follows_markApproved {t : QrTable} {req : QrConfirmRequest} {id : Uuid} {row? : Option Uuid}
    {subject : String} {stmt : Statement} {r : Answer stmt} {approval : Approval}
    (hcreated : created call stmt r = some approval) (hrequest : call.request = some (t, id))
    (htable : createsRow t = true)
    (happroval : approval =
      { deviceId := req.authorizingDeviceId
        signingPublicKey := req.signingPublicKey
        signature := req.signature
        created := row? }) :
    (markApproved t req id row? subject).Flows (approvalFlow call)
      ((approvalFlow call).ends stmt r) ((approvalFlow call).next stmt r) := by
  refine ⟨fun approval' h => ⟨t, id, hrequest, htable, ?_⟩, quiet_markApproved.2⟩
  rw [hcreated] at h
  rw [← Option.some.inj h, happroval]

lemma flows_qrStatus {t : QrTable} {requestId : String} {details : QrRequest t → Details t} :
    Quiet (.Status t requestId) (qrStatus t requestId details) := by
  refine Proc.flows_check (fun _ _ => rfl) fun id hid => ?_
  have hrequest : (Call.Status t requestId).request = some (t, id) := by
    rw [Call.request, okOr_eq_ok hid]
    rfl
  have quiet : ∀ {r : Answer (.Load t id)} {reply : Reply}, reply.expired = false →
      (approvalFlow (.Status t requestId)).ends (.Load t id) r reply :=
    fun h => ⟨rfl, fun hexpired => absurd hexpired (by rw [h]; exact Bool.false_ne_true)⟩
  refine ⟨trivial, fun row? m => ?_⟩
  refine Proc.flows_check (fun _ _ => quiet rfl) fun row? hrow? => ?_
  refine Proc.flows_check (fun _ _ => quiet rfl) fun row hrow => ?_
  split_ifs
  · exact ⟨nofun, fun _ _ => ⟨rfl, fun _ => hrequest⟩⟩
  · rw [loaded_row hrow? hrow]
    exact ⟨rfl, fun hexpired => ⟨hrequest, row, rfl, of_decide_eq_true hexpired⟩⟩

/-- No answer to a start reports a request as expired. -/
lemma quiet_started {ε β γ : Type} {answer : Except ε β → Reply}
    {o : Except ε γ} {k : γ → Handling} (hanswer : ∀ e, (answer (.error e)).expired = false)
    (hk : ∀ c, Quiet call (k c)) : Quiet call (.check answer o k) :=
  Proc.flows_check (fun e _ => hanswer e) fun c _ => hk c

section Starts

variable {codec : TextCodec} {rfc3339 : DateTime → String} {state : AppState}

lemma quiet_storeRequest {t : QrTable} {row : QrRequest t} {details : Started t} :
    Quiet call (storeRequest t state row details) := by
  refine Quiet.exec (fun _ => rfl) fun inserted _ => ?_
  exact Proc.flows_check (fun _ _ => rfl) fun _ _ => rfl

-- or the elaborator computes the checks that are still to come, at each of them
attribute [local irreducible] Proc.Flows

lemma quiet_startQrDevicePairing {req : QrPairDeviceStartRequest} :
    Quiet call (startQrDevicePairing state req) := by
  unfold startQrDevicePairing
  refine quiet_started (fun _ => rfl) fun _ => ?_
  refine Quiet.exec (fun _ => rfl) fun identity? m => ?_
  refine quiet_started (fun _ => rfl) fun identity? => ?_
  exact quiet_started (fun _ => rfl) fun _ => quiet_storeRequest

lemma quiet_startQrXrplSigning {req : QrXrplSigningStartRequest} :
    Quiet call (startQrXrplSigning codec state req) := by
  unfold startQrXrplSigning
  refine quiet_started (fun _ => rfl) fun _ => ?_
  refine quiet_started (fun _ => rfl) fun _ => ?_
  refine quiet_started (fun _ => rfl) fun _ => ?_
  refine Quiet.exec (fun _ => rfl) fun identity? m => ?_
  refine quiet_started (fun _ => rfl) fun identity? => ?_
  exact quiet_started (fun _ => rfl) fun _ => quiet_storeRequest

lemma quiet_startQrFileGrantApproval {req : QrFileGrantStartRequest} :
    Quiet call (startQrFileGrantApproval codec rfc3339 state req) := by
  unfold startQrFileGrantApproval
  refine quiet_started (fun _ => rfl) fun _ => ?_
  refine quiet_started (fun _ => rfl) fun _ => ?_
  refine quiet_started (fun _ => rfl) fun _ => ?_
  refine quiet_started (fun _ => rfl) fun _ => ?_
  refine Quiet.exec (fun _ => rfl) fun vo? _ => ?_
  refine quiet_started (fun _ => rfl) fun vo? => ?_
  refine quiet_started (fun _ => rfl) fun vo => ?_
  refine quiet_started (fun _ => rfl) fun _ => ?_
  refine Quiet.exec (fun _ => rfl) fun recipient? m => ?_
  refine quiet_started (fun _ => rfl) fun recipient? => ?_
  refine quiet_started (fun _ => rfl) fun _ => ?_
  refine quiet_started (fun _ => rfl) fun _ => ?_
  exact quiet_started (fun _ => rfl) fun _ => quiet_storeRequest

end Starts

/-- **Every handler follows the flow.** -/
theorem flows_handle (ed : Ed25519) (codec : TextCodec) (rfc3339 : DateTime → String)
    (state : AppState) (call : Call) (m : Moment) :
    (handle ed codec rfc3339 state call m).Flows (approvalFlow call) (approvalFlow call).refuses
      (approvalFlow call).begins := by
  cases call with
  | StartPairing req => exact quiet_startQrDevicePairing
  | StartSigning req => exact quiet_startQrXrplSigning
  | StartFileGrant req => exact quiet_startQrFileGrantApproval
  | Confirm t req =>
      cases t with
      | DevicePairing =>
          refine flows_pendingRequest fun id row _ hrequest => ?_
          refine quiet_signer fun m => ?_
          refine Proc.flows_check (fun e he => expired_verified _ he) fun _ _ => ?_
          refine ⟨trivial, fun deviceId? _ => ?_⟩
          cases deviceId? with
          | error e => exact (quiet_failed _ _).follows rfl
          | ok deviceId => exact follows_markApproved rfl hrequest rfl rfl
      | XrplSigning =>
          refine flows_pendingRequest fun id row _ hrequest => ?_
          refine quiet_signer fun m => ?_
          exact Proc.flows_check (fun e he => expired_verified _ he) fun _ _ => quiet_markApproved
      | FileGrant =>
          refine flows_pendingRequest fun id row m hrequest => ?_
          split_ifs
          · exact ⟨trivial, fun _ _ => ⟨rfl, fun _ => hrequest⟩⟩
          refine quiet_signer fun m => ?_
          refine Quiet.exec (fun _ => rfl) fun vo? _ => ?_
          refine Proc.flows_check (fun e he => expired_loaded _ he) fun vo? _ => ?_
          refine Proc.flows_check (fun e he => ?_) fun vo _ => ?_
          · rw [okOr_eq_error he]
            exact expired_confirmed nofun nofun nofun
          refine Proc.flows_check (fun e he => ?_) fun _ _ => ?_
          · rw [ensure_eq_error he]
            exact expired_unauthorized _ (by decide) (by decide)
          refine Proc.flows_check (fun e he => ?_) fun _ _ => ?_
          · rw [ensure_eq_error he]
            exact expired_unauthorized _ (by decide) (by decide)
          refine Proc.flows_check (fun e he => expired_verified _ he) fun _ _ => ?_
          refine ⟨trivial, fun inserted _ => ?_⟩
          cases inserted with
          | error e => exact (quiet_failed _ _).follows rfl
          | ok _ => exact follows_markApproved rfl hrequest rfl rfl
  | Status t requestId => cases t <;> exact flows_qrStatus

end Flows

/-! ## A statement -/

@[simp] lemma withRequests_self (t : QrTable) (requests : Table (@QrRequest.id t)) (db : Db) :
    (withRequests t requests db).qrRequests t = requests := by
  simp only [withRequests, Function.update_self]

lemma withRequests_of_ne {t t' : QrTable} (requests : Table (@QrRequest.id t)) (db : Db)
    (h : t' ≠ t) : (withRequests t requests db).qrRequests t' = db.qrRequests t' := by
  simp only [withRequests, Function.update_of_ne h]

/-- What a statement makes of a request. -/
inductive Rewrites {t : QrTable} (m : Moment) (stmt : Statement) (row : QrRequest t) :
    QrRequest t → Prop
  | Kept : Rewrites m stmt row row
  | Expired : m.failure = none → stmt = .Expire t row.id → Rewrites m stmt row (expire row)
  | Approved (approval : Approval) : m.failure = none → stmt = .Approve t row.id approval →
      Rewrites m stmt row (approve approval m.now row)

lemma get?_updated {t t' : QrTable} {db : Db} {id id' : Uuid} {f : QrRequest t' → QrRequest t'}
    {hf : ∀ r, (f r).id = r.id} {row : QrRequest t} (hrow : (db.qrRequests t).get? id = some row)
    {P : QrRequest t → Prop} (hkept : P row)
    (hupdated : ∀ h : t' = t, id' = id → P (h ▸ f (h ▸ row))) :
    ∃ row', ((withRequests t' ((db.qrRequests t').update id' f hf) db).qrRequests t).get? id
      = some row' ∧ P row' := by
  by_cases htable : t' = t
  · subst htable
    rw [withRequests_self, Table.get?_update]
    split_ifs with hid
    · exact ⟨f row, by rw [← hid, hrow]; rfl, hupdated rfl hid.symm⟩
    · exact ⟨row, hrow, hkept⟩
  · rw [withRequests_of_ne _ _ (Ne.symm htable)]
    exact ⟨row, hrow, hkept⟩

theorem rewrites_exec {t : QrTable} {db : Db} {m : Moment} {stmt : Statement} {id : Uuid}
    {row : QrRequest t} (hrow : (db.qrRequests t).get? id = some row) :
    ∃ row', ((exec stmt m db).2.qrRequests t).get? id = some row' ∧ Rewrites m stmt row row' := by
  obtain rfl : row.id = id := Table.key_of_get? hrow
  have kept : ∀ {db' : Db}, db'.qrRequests = db.qrRequests →
      ∃ row', (db'.qrRequests t).get? row.id = some row' ∧ Rewrites m stmt row row' :=
    fun h => ⟨row, by rw [h]; exact hrow, .Kept⟩
  unfold exec
  cases hm : m.failure with
  | some e => exact kept rfl
  | none =>
      cases stmt with
      | Insert t' new =>
          simp only [effect]
          split
          · exact kept rfl
          · split
            · next requests hinsert =>
                refine ⟨row, ?_, .Kept⟩
                by_cases htable : t' = t
                · subst htable
                  rw [withRequests_self, Table.get?_insert hinsert, if_neg, hrow]
                  intro hid
                  rw [hid, (Table.insert?_eq_some hinsert).1] at hrow
                  cases hrow
                · rw [withRequests_of_ne _ _ (Ne.symm htable), hrow]
            · exact kept rfl
      | Load t' id' => exact kept rfl
      | Expire t' id' =>
          refine get?_updated hrow .Kept fun htable hid => ?_
          subst htable hid
          exact .Expired hm rfl
      | LoadIdentity identityId => exact kept rfl
      | LoadVaultObject vaultObjectId => exact kept rfl
      | RegisterDevice device =>
          simp only [effect]
          split_ifs
          · exact kept rfl
          · split <;> exact kept rfl
      | InsertGrant g =>
          simp only [effect]
          split
          · next db' hupsert =>
              obtain rfl := VaultObjects.upsertGrant_eq_ok hupsert
              exact kept rfl
          · exact kept rfl
      | Approve t' id' approval =>
          refine get?_updated hrow .Kept fun htable hid => ?_
          subst htable hid
          exact .Approved approval hm rfl

/-- **A request that is no longer pending stays.** -/
lemma stays_exec {t : QrTable} {s : Server} {i : Nat} {m : Moment} {call : Call}
    {stmt : Statement} (hundisturbed : Undisturbed s i m call stmt) {id : Uuid} {row : QrRequest t}
    (hrow : (s.store.qrRequests t).get? id = some row) (hdecided : row.status ≠ .Pending) :
    ((exec stmt m s.store).2.qrRequests t).get? id = some row := by
  obtain rfl : row.id = id := Table.key_of_get? hrow
  have undecided : m.failure = none → (t, row.id) ∈ target call stmt → False := by
    intro hm htarget
    obtain ⟨row', hrow', hpending⟩ := hundisturbed.pending _ htarget hm
    rw [Option.some.inj (hrow.symm.trans hrow')] at hdecided
    exact hdecided hpending
  obtain ⟨row', hrow', hrewrites⟩ := (rewrites_exec hrow : ∃ row',
    ((exec stmt m s.store).2.qrRequests t).get? row.id = some row' ∧ Rewrites m stmt row row')
  cases hrewrites with
  | Kept => exact hrow'
  | Expired hm hstmt =>
      subst hstmt
      exact (undecided hm rfl).elim
  | Approved approval hm hstmt =>
      subst hstmt
      exact (undecided hm rfl).elim

lemma approvedBy_approve {t : QrTable} (approval : Approval) (now : Time) (row : QrRequest t) :
    ApprovedBy approval (approve approval now row) := by
  refine ⟨rfl, rfl, ?_⟩
  cases t <;> rfl

/-! ## A step -/

section Step

variable {ed : Ed25519} {codec : TextCodec} {rfc3339 : DateTime → String} {state : AppState}

theorem stays_step {t : QrTable} {s : Server} {l : Label Call Moment} (hguard : guard s l)
    {id : Uuid} {row : QrRequest t} (hrow : (s.store.qrRequests t).get? id = some row)
    (hdecided : row.status ≠ .Pending) :
    ((step ed codec rfc3339 state s l).store.qrRequests t).get? id = some row := by
  have hsteps := steps_step QrApproval.exec (handle ed codec rfc3339 state) s l
  generalize hs' : Interleaving.step QrApproval.exec (handle ed codec rfc3339 state) s l = s'
    at hsteps
  rw [step, hs']
  cases hsteps with
  | Started call m => exact hrow
  | Idle i m => exact hrow
  | Executed i m call stmt k hthread hexecutes => exact stays_exec (hguard _ hexecutes) hrow hdecided

/-- A statement that creates a row is about the request of its call, and has not failed. -/
lemma target_of_created {call : Call} {stmt : Statement} {m : Moment} {db : Db}
    {approval : Approval} (h : created call stmt (exec stmt m db).1 = some approval) :
    target call stmt = call.request ∧ m.failure = none
      ∧ (∀ t id, stmt ≠ .Expire t id) ∧ ∀ t id a, stmt ≠ .Approve t id a := by
  have hm : ∀ {e}, m.failure = some e → (exec stmt m db).1 = .error e := by
    intro e he
    simp only [exec, he]
  cases hfailure : m.failure with
  | some e =>
      rw [hm hfailure] at h
      cases stmt <;> simp [created] at h
  | none =>
      cases stmt with
      | RegisterDevice device => exact ⟨rfl, rfl, nofun, nofun⟩
      | InsertGrant g => exact ⟨rfl, rfl, nofun, nofun⟩
      | _ => cases h

/-- **A request that is reported as expired is.** -/
lemma expired_of_reported {s : Server} (hflowing : Flowing approvalFlow s)
    {l : Label Call Moment} (hguard : guard s l) {t : QrTable} {id : Uuid}
    (hreported : .Expired t id ∈ reports ed codec rfc3339 state s l) :
    ∃ row, ((step ed codec rfc3339 state s l).store.qrRequests t).get? id = some row
      ∧ row.status = .Expired := by
  obtain ⟨⟨call, reply⟩, hfin, hevent⟩ := List.mem_filterMap.mp hreported
  obtain ⟨hexpired, hrequest⟩ : reply.expired = true ∧ call.request = some (t, id) := by
    simp only at hevent
    split_ifs at hevent with hexpired
    obtain ⟨⟨t', id'⟩, hrequest, heq⟩ := Option.map_eq_some_iff.mp hevent
    cases heq
    exact ⟨hexpired, hrequest⟩
  have hsteps := steps_step QrApproval.exec (handle ed codec rfc3339 state) s l
  generalize hs' : Interleaving.step QrApproval.exec (handle ed codec rfc3339 state) s l = s'
    at hsteps
  rw [step, hs']
  cases hsteps with
  | Started call' m =>
      obtain ⟨rfl, hquiet⟩ := Thread.of_mem_finished (flows_handle ed codec rfc3339 state call' m) hfin
      rw [show reply.expired = false from hquiet] at hexpired
      cases hexpired
  | Idle i m _ hnone =>
      rw [hnone] at hfin
      cases hfin
  | Executed i m call' stmt k hthread hexecutes hfinished =>
      rw [hfinished] at hfin
      have hflows := hflowing.advance hthread (exec stmt m s.store).1 m
      obtain ⟨rfl, -, htells⟩ := Thread.of_mem_finished
        (t := advance exec call' stmt k m s.store) hflows hfin
      have hundisturbed := hguard _ hexecutes
      have htells := htells hexpired
      cases stmt with
      | Expire t' id' =>
          cases hrequest.symm.trans htells
          have hm := hundisturbed.succeeds rfl
          obtain ⟨row, hrow, -⟩ := hundisturbed.pending (t, id) rfl hm
          refine ⟨expire row, ?_, rfl⟩
          simp only [exec, hm, effect]
          rw [withRequests_self, Table.get?_update_self, hrow]
          rfl
      | Load t' id' =>
          obtain ⟨hrequest', row, hanswer, hstatus⟩ := htells
          cases hrequest.symm.trans hrequest'
          refine ⟨row, ?_, hstatus⟩
          cases hm : m.failure with
          | some e => simp [exec, hm] at hanswer
          | none =>
              simp only [exec, hm, effect] at hanswer ⊢
              exact Except.ok.inj hanswer
      | _ => cases htells

/-- **A row is created for a request that is pending**, and the call goes on to approve it. -/
lemma aboutTo_of_created {s : Server} (hflowing : Flowing approvalFlow s) {l : Label Call Moment}
    (hguard : guard s l) {i : Nat} {t : QrTable} {id : Uuid} {approval : Approval}
    (hcreated : .Created i t id approval ∈ creates s l) :
    createsRow t = true ∧ ∃ row,
      ((step ed codec rfc3339 state s l).store.qrRequests t).get? id = some row
        ∧ row.status = .Pending ∧ AboutTo (step ed codec rfc3339 state s l) i t id approval := by
  cases l with
  | Start call m => cases hcreated
  | Step j m =>
      obtain ⟨⟨call, stmt, m'⟩, hexecutes, hcreated⟩ := List.mem_flatMap.mp hcreated
      obtain ⟨⟨t', id'⟩, hrequest, hcreated⟩ := List.mem_flatMap.mp hcreated
      obtain ⟨approval', happroval, heq⟩ :=
        Option.map_eq_some_iff.mp (Option.mem_toList.mp hcreated)
      cases heq
      have hexecutes := Option.mem_toList.mp hexecutes
      have hrequest : call.request = some (t, id) := Option.mem_toList.mp hrequest
      obtain ⟨htarget, hm, hexpire, happrove⟩ := target_of_created happroval
      have hundisturbed := hguard _ hexecutes
      obtain ⟨row, hrow, hpending⟩ :=
        hundisturbed.pending (t, id) (htarget.trans hrequest) hm
      obtain ⟨row', hrow', hrewrites⟩ :
          ∃ row', ((exec stmt m s.store).2.qrRequests t).get? id = some row'
            ∧ Rewrites m stmt row row' := rewrites_exec hrow
      have hsteps := steps_step QrApproval.exec (handle ed codec rfc3339 state) s (.Step i m)
      generalize hs' : Interleaving.step QrApproval.exec (handle ed codec rfc3339 state) s
        (.Step i m) = s' at hsteps
      rw [step, hs']
      cases hsteps with
      | Idle _ _ hnone =>
          rw [hnone] at hexecutes
          cases hexecutes
      | Executed _ _ call' stmt' k hthread hexecutes' =>
          cases hexecutes.symm.trans hexecutes'
          have hlt := (List.getElem?_eq_some_iff.mp hthread).1
          have hflows := hflowing.advance hthread (exec stmt m s.store).1 m
          cases hrest : k (exec stmt m s.store).1 m with
          | Done reply =>
              rw [hrest] at hflows
              have hnone : created call stmt (exec stmt m s.store).1 = none := hflows.1
              rw [happroval] at hnone
              cases hnone
          | Exec stmt' k' =>
              rw [hrest] at hflows
              obtain ⟨t', id', hrequest', htable, rfl⟩ := hflows.1 approval happroval
              cases hrequest.symm.trans hrequest'
              refine ⟨htable, row, ?_, hpending, call, k', ?_⟩
              · cases hrewrites with
                | Kept => exact hrow'
                | Expired _ hstmt => exact absurd hstmt (hexpire _ _)
                | Approved a _ hstmt => exact absurd hstmt (happrove _ _ _)
              · rw [List.getElem?_set_self hlt, advance, hrest]

/-- The call that is about to mark a request as approved is seen by the others. -/
lemma AboutTo.waits {s : Server} {i : Nat} {t : QrTable} {id : Uuid} {approval : Approval}
    (h : AboutTo s i t id approval) :
    ∃ q ∈ s.threads.zipIdx, q.2 = i ∧ QrApproval.waits t id q.1 = true := by
  obtain ⟨call, k, hthread⟩ := h
  refine ⟨(_, i), List.mem_zipIdx_iff_getElem?.mpr hthread, rfl, ?_⟩
  simp [QrApproval.waits]

/-- **What has been created goes with its approval**, also after the next step. -/
lemma goesOn_step {s : Server} {l : Label Call Moment} (hguard : guard s l) {i : Nat}
    {t : QrTable} {id : Uuid} {approval : Approval} (htable : createsRow t = true)
    {row : QrRequest t} (hrow : (s.store.qrRequests t).get? id = some row)
    (hgoes : ApprovedBy approval row ∨ row.status = .Pending ∧ AboutTo s i t id approval) :
    ∃ row', ((step ed codec rfc3339 state s l).store.qrRequests t).get? id = some row'
      ∧ (ApprovedBy approval row' ∨ row'.status = .Pending
        ∧ AboutTo (step ed codec rfc3339 state s l) i t id approval) := by
  obtain rfl : row.id = id := Table.key_of_get? hrow
  rcases hgoes with happroved | ⟨hpending, habout⟩
  · refine ⟨row, stays_step hguard hrow ?_, .inl happroved⟩
    rw [happroved.status]
    exact nofun
  have hsteps := steps_step QrApproval.exec (handle ed codec rfc3339 state) s l
  generalize hs' : Interleaving.step QrApproval.exec (handle ed codec rfc3339 state) s l = s'
    at hsteps
  rw [step, hs']
  obtain ⟨call₀, k₀, hthread₀⟩ := habout
  cases hsteps with
  | Started call m =>
      refine ⟨row, hrow, .inr ⟨hpending, call₀, k₀, ?_⟩⟩
      rw [List.getElem?_append_left (List.getElem?_eq_some_iff.mp hthread₀).1, hthread₀]
  | Idle j m => exact ⟨row, hrow, .inr ⟨hpending, call₀, k₀, hthread₀⟩⟩
  | Executed j m call stmt k hthread hexecutes =>
      have hundisturbed := hguard _ hexecutes
      by_cases hij : j = i
      · -- the call itself goes on, and approves the request
        subst hij
        cases hthread₀.symm.trans hthread
        have hm := hundisturbed.succeeds htable
        refine ⟨approve approval m.now row, ?_, .inl (approvedBy_approve _ _ _)⟩
        simp only [exec, hm, effect]
        rw [withRequests_self, Table.get?_update_self, hrow]
        rfl
      · -- another call leaves the request alone, since this one waits
        have alone : m.failure = none → (t, row.id) ∈ target call stmt → False := by
          intro hm htarget
          obtain ⟨q, hq, hindex, hwaits⟩ := AboutTo.waits ⟨call₀, k₀, hthread₀⟩
          have hnot := hundisturbed.alone _ htarget hm htable q hq (by rw [hindex]; exact Ne.symm hij)
          rw [hwaits] at hnot
          cases hnot
        obtain ⟨row', hrow', hrewrites⟩ :
            ∃ row', ((exec stmt m s.store).2.qrRequests t).get? row.id = some row'
              ∧ Rewrites m stmt row row' := rewrites_exec hrow
        cases hrewrites with
        | Kept =>
            refine ⟨row, hrow', .inr ⟨hpending, call₀, k₀, ?_⟩⟩
            rw [List.getElem?_set_ne hij, hthread₀]
        | Expired hm hstmt =>
            subst hstmt
            exact (alone hm rfl).elim
        | Approved a hm hstmt =>
            subst hstmt
            exact (alone hm rfl).elim

end Step

/-! ## A run -/

section Run

variable {ed : Ed25519} {codec : TextCodec} {rfc3339 : DateTime → String} {state : AppState}

/-- What has been reported and created so far is as it should be. The invariant of a run: a row that
was inserted for a request is borne out by its approval, or by the call that is about to approve it.
-/
structure Settled (past : List Event) (s : Server) : Prop where
  flowing : Flowing approvalFlow s
  expired : ∀ t id, .Expired t id ∈ past →
    ∃ row, (s.store.qrRequests t).get? id = some row ∧ row.status = .Expired
  created : ∀ i t id approval, .Created i t id approval ∈ past → createsRow t = true
    ∧ ∃ row, (s.store.qrRequests t).get? id = some row
      ∧ (ApprovedBy approval row ∨ row.status = .Pending ∧ AboutTo s i t id approval)

theorem Settled.step {past : List Event} {s : Server} (hsettled : Settled past s)
    {l : Label Call Moment} (hguard : guard s l) :
    Settled (past ++ emit ed codec rfc3339 state s l) (step ed codec rfc3339 state s l) where
  flowing := hsettled.flowing.step (flows_handle ed codec rfc3339 state) l
  expired := by
    intro t id hmem
    rcases List.mem_append.mp hmem with hold | hnew
    · obtain ⟨row, hrow, hstatus⟩ := hsettled.expired t id hold
      exact ⟨row, stays_step hguard hrow (by rw [hstatus]; exact nofun), hstatus⟩
    · rcases List.mem_append.mp hnew with hreported | hcreated
      · exact expired_of_reported hsettled.flowing hguard hreported
      · cases l with
        | Start call m => cases hcreated
        | Step i m => simp [creates, List.mem_flatMap] at hcreated
  created := by
    intro i t id approval hmem
    rcases List.mem_append.mp hmem with hold | hnew
    · obtain ⟨htable, row, hrow, hgoes⟩ := hsettled.created i t id approval hold
      exact ⟨htable, goesOn_step hguard htable hrow hgoes⟩
    · rcases List.mem_append.mp hnew with hreported | hcreated
      · obtain ⟨p, -, hevent⟩ := List.mem_filterMap.mp hreported
        simp only at hevent
        split_ifs at hevent
        obtain ⟨p, -, heq⟩ := Option.map_eq_some_iff.mp hevent
        cases heq
      · obtain ⟨htable, row, hrow, hgoes⟩ := aboutTo_of_created hsettled.flowing hguard hcreated
        exact ⟨htable, row, hrow, .inr hgoes⟩

/-- **Where no decision is disturbed, requests are decided once.** The approving and the expiring
updates do not ask for the status either, and the device or the grant of a request is inserted by an
earlier statement than the one that approves it. -/
theorem decidedOnce_of_undisturbed {s : Server} {ls : List (Label Call Moment)}
    (hidle : s.threads = [])
    (hundisturbed : Runs.Guarded (step ed codec rfc3339 state) guard s ls) :
    DecidedOnce ed codec rfc3339 state s ls := by
  have hinit : Settled [] s := by
    refine ⟨fun thread hthread => ?_, nofun, nofun⟩
    rw [hidle] at hthread
    cases hthread
  have hsettled : ∀ pre post, ls = pre ++ post → Settled
      (Runs.history (step ed codec rfc3339 state) (emit ed codec rfc3339 state) s pre)
      (run ed codec rfc3339 state s pre) := by
    rintro pre post rfl
    exact Runs.invariant_run (I := Settled) hinit (fun _ _ _ h hguard => h.step hguard)
      hundisturbed.front.admits
  constructor
  · rintro pre mid post rfl t id row hrow hdecided
    refine ⟨row, ?_, rfl⟩
    rw [run, Runs.exec_append]
    exact Runs.preserved_guarded (P := fun s => (s.store.qrRequests t).get? id = some row)
      (fun s l hrow hguard => stays_step hguard hrow hdecided) hrow hundisturbed.back.front
  · intro pre post heq
    exact (hsettled pre post heq).expired
  · intro pre post heq i t id approval hmem
    exact ((hsettled pre post heq).created i t id approval hmem).2

end Run

/-! ## A request that expires while it is confirmed -/

namespace Sample

open Tombstone.Sample RecipientKey.Sample KeyBinding.Sample

def requestId : String := "00000000-0000-0000-0000-000000000001"

/-- A pairing request that expires in a minute. -/
def pairing : QrRequest .DevicePairing where
  id := ⟨requestId⟩
  identityId := "alice"
  challenge := "c"
  status := .Pending
  approvedByDeviceId := none
  expiresAt := 60000000
  approvedAt := none
  columns := { desktopDeviceName := none, desktopDevicePublicKey := "k", pairedDeviceId := none }

def requests : (t : QrTable) → Table (@QrRequest.id t)
  | .DevicePairing => ⟨[pairing], List.nodup_singleton _⟩
  | .XrplSigning => .empty
  | .FileGrant => .empty

def server : Server where
  store := { registered with qrRequests := requests }
  threads := []

/-- The confirmation that Alice has signed on her phone. -/
def confirmation : QrConfirmRequest where
  requestId := requestId
  identityId := "alice"
  authorizingDeviceId := "phone"
  signingPublicKey := Text.hexEncode (signingKey 1)
  signature := Text.hexEncode (Ed25519.sign (signingKey 1)
    (Text.utf8 (pairDeviceSignatureMessage requestId "c" (oracleUrl oracle) "k" none "phone")))

/-- The given time, at which no statement fails. -/
def moment (now : Time) : Moment where
  now := now
  uuid _ := ⟨"d"⟩
  nonce := []
  failure := none

def confirm : Label Call Moment := .Start (.Confirm .DevicePairing confirmation) (moment 0)

def poll : Label Call Moment := .Start (.Status .DevicePairing requestId) (moment 0)

/-- The poll goes on after the request has expired. -/
def expiring : List (Label Call Moment) :=
  [confirm, poll, .Step 0 (moment 0), .Step 1 (moment 61000000), .Step 1 (moment 61000000)]

/-- The confirmation goes on. -/
def approving : List (Label Call Moment) :=
  [.Step 0 (moment 61000000), .Step 0 (moment 61000000), .Step 0 (moment 61000000)]

/-- The status of the request after a run. -/
def statusAfter (ls : List (Label Call Moment)) : Option QrRequestStatus :=
  (((run Ed25519.transparent JsonText.compact (fun _ => "") oracle server
    ls).store.qrRequests .DevicePairing).get? ⟨requestId⟩).map (·.status)

/-- What is left of the confirmation when its request has been loaded: the signature is
accepted. -/
def confirming : Handling :=
  signer .DevicePairing confirmation fun m =>
  .Exec (.RegisterDevice (pairedDevice m confirmation pairing.columns)) fun deviceId? _ =>
  .check (.Confirmed .DevicePairing)
    (loaded "Failed to register paired device: " deviceId?) fun deviceId =>
  markApproved .DevicePairing confirmation ⟨requestId⟩ (some deviceId) deviceId.text

/-- A confirmation that finds its request pending goes on with it. -/
lemma step_pendingRequest {t : QrTable} {req : QrConfirmRequest}
    {k : Uuid → QrRequest t → Moment → Handling} {call : Call} {db : Db} {id : Uuid}
    {row : QrRequest t} {m : Moment} (threads : List (Thread Call Answer Moment Reply))
    (hid : parseUuid req.requestId = some id) (hrow : (db.qrRequests t).get? id = some row)
    (hidentity : row.identityId = req.identityId) (hpending : row.status = .Pending)
    (hfresh : ¬ row.expiresAt < m.now) (hm : m.failure = none) :
    step Ed25519.transparent JsonText.compact (fun _ => "") oracle
      ⟨db, ⟨call, pendingRequest t req k⟩ :: threads⟩ (.Step 0 m)
    = ⟨db, ⟨call, k id row m⟩ :: threads⟩ := by
  have hexec : exec (.Load t id) m db = (.ok (some row), db) := by
    rw [exec, hm, effect, hrow]
  unfold pendingRequest
  rw [hid]
  have hstep : ∀ l : Statement, ∀ next : Answer l → Moment → Handling,
      step Ed25519.transparent JsonText.compact (fun _ => "") oracle
        ⟨db, ⟨call, .Exec l next⟩ :: threads⟩ (.Step 0 m)
      = ⟨(exec l m db).2, ⟨call, next (exec l m db).1 m⟩ :: threads⟩ := fun _ _ => rfl
  refine (hstep _ _).trans ?_
  rw [hexec]
  simp only [loaded, Pre.mapErr, okOr, Option.elim_some, Proc.check, ensure, hidentity, hpending,
    hfresh, decide_true, if_true, if_false]

/-- The confirmation loads its request. -/
lemma step_load (threads : List (Thread Call Answer Moment Reply)) :
    step Ed25519.transparent JsonText.compact (fun _ => "") oracle
      ⟨server.store, ⟨.Confirm .DevicePairing confirmation,
        confirmQrDevicePairing Ed25519.transparent oracle confirmation⟩ :: threads⟩
      (.Step 0 (moment 0))
    = ⟨server.store, ⟨.Confirm .DevicePairing confirmation, confirming⟩ :: threads⟩ := by
  have hsigned : verifyEd25519Hex Ed25519.transparent confirmation.signingPublicKey
      (Text.utf8 (pairDeviceSignatureMessage confirmation.requestId pairing.challenge
        (oracleUrl oracle) pairing.columns.desktopDevicePublicKey pairing.columns.desktopDeviceName
        confirmation.authorizingDeviceId)) confirmation.signature = .ok () :=
    Ed25519.verifyWith_sign List.length_replicate
  have hid : parseUuid confirmation.requestId = some ⟨requestId⟩ := by decide +kernel
  have hrow : (server.store.qrRequests .DevicePairing).get? ⟨requestId⟩ = some pairing := rfl
  unfold confirmQrDevicePairing
  rw [step_pendingRequest threads hid hrow rfl rfl (by decide) rfl, hsigned]
  rfl

/-- The confirmation and the poll, each before its next statement. -/
def loadedServer : Server where
  store := server.store
  threads := [⟨.Confirm .DevicePairing confirmation, confirming⟩,
    ⟨.Status .DevicePairing requestId, qrDevicePairingStatus requestId⟩]

lemma run_loaded (ls : List (Label Call Moment)) :
    run Ed25519.transparent JsonText.compact (fun _ => "") oracle server
      (confirm :: poll :: .Step 0 (moment 0) :: ls)
    = run Ed25519.transparent JsonText.compact (fun _ => "") oracle loadedServer ls :=
  congrArg (run Ed25519.transparent JsonText.compact (fun _ => "") oracle · ls) (step_load _)

/-- **A request that a poll has set to expired is approved**, and the device is paired. -/
theorem not_decidedOnce : ¬ DecidedOnce Ed25519.transparent JsonText.compact (fun _ => "") oracle
    server (expiring ++ approving) := by
  intro hdecided
  have hexpired : statusAfter expiring = some .Expired := by
    rw [statusAfter, expiring, run_loaded]
    decide +kernel
  have happroved : statusAfter (expiring ++ approving) = some .Approved := by
    rw [statusAfter, expiring, List.cons_append, List.cons_append, List.cons_append, run_loaded]
    decide +kernel
  obtain ⟨row, hrow, hstatus⟩ := Option.map_eq_some_iff.mp hexpired
  obtain ⟨row', hrow', hsame⟩ := hdecided.kept expiring approving [] (by simp) .DevicePairing
    ⟨requestId⟩ row hrow (by rw [hstatus]; exact nofun)
  rw [statusAfter, hrow', Option.map_some, hsame, hstatus] at happroved
  cases happroved

/-- The poll comes after the confirmation. -/
def inTurns : List (Label Call Moment) :=
  [confirm, .Step 0 (moment 0), .Step 0 (moment 0), .Step 0 (moment 0), .Step 0 (moment 0), poll,
    .Step 1 (moment 61000000)]

theorem decidedOnce_of_turns : DecidedOnce Ed25519.transparent JsonText.compact (fun _ => "")
    oracle server inTurns := by
  have hundisturbed : Runs.Guarded (step Ed25519.transparent JsonText.compact (fun _ => "") oracle)
      guard server inTurns := by
    refine ⟨trivial, by decide +kernel, ?_⟩
    have hload : step Ed25519.transparent JsonText.compact (fun _ => "") oracle
        (step Ed25519.transparent JsonText.compact (fun _ => "") oracle server confirm)
        (.Step 0 (moment 0))
      = ⟨server.store, [⟨.Confirm .DevicePairing confirmation, confirming⟩]⟩ := step_load []
    rw [hload]
    decide +kernel
  exact decidedOnce_of_undisturbed rfl hundisturbed

end Sample

end Vaulted.QrApproval
