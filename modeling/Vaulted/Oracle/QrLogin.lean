import Vaulted.Library.Interleaving
import Vaulted.Oracle.QrAuth

/-!
# QR login, statement by statement

The three handlers of the QR login, as programs that other calls may interleave with: a desktop
starts a request and polls its status, a phone confirms it.

* `Moment` — the world at one statement of a handler.
* `Statement` — the queries and updates of the three handlers.
* `startQrLogin`, `confirmQrLogin`, `qrLoginStatus` — the handlers.
* `run_confirmQrLogin` — a confirmation alone does what `QrAuth.confirmQrLogin` does.
-/

namespace Vaulted

/-- The world at one statement of a handler, and when it goes on. -/
structure Moment where
  now : Time
  /-- The identifiers that the handler may generate then, by their place in the program text. -/
  uuid : Nat → Uuid
  /-- The bytes of a challenge. -/
  nonce : List UInt8
  /-- Why the statement fails, if it does. -/
  failure : Option String

namespace QrLogin

open Interleaving QrAuth Autocommit.Prog

/-! ## Statements -/

inductive Statement
  | Insert (row : QrLoginRequest)
  | Load (id : Uuid)
  | Expire (id : Uuid)
  | LoadIdentity (identityId : String)
  | Approve (id : Uuid) (identityId deviceId : String) (accessToken refreshToken : Claims)
  | Consume (id : Uuid)

/-- What a statement answers. -/
@[reducible] def Value : Statement → Type
  | .Insert _ => Unit
  | .Load _ => Option QrLoginRequest
  | .Expire _ => Unit
  | .LoadIdentity _ => Option VaultedIdentity
  | .Approve _ _ _ _ _ => Unit
  | .Consume _ => Unit

/-- The answer of a statement, or the text of its error. -/
abbrev Answer (s : Statement) : Type := Except String (Value s)

/-- The row after an approval. -/
def approve (identityId deviceId : String) (accessToken refreshToken : Claims)
    (r : QrLoginRequest) : QrLoginRequest :=
  { r with
    status := .Approved
    identityId := some identityId
    approvedByDeviceId := some deviceId
    accessToken := some accessToken
    refreshToken := some refreshToken }

def expire (r : QrLoginRequest) : QrLoginRequest := { r with status := .Expired }

def consume (r : QrLoginRequest) : QrLoginRequest := { r with status := .Consumed }

section Keys

variable (r : QrLoginRequest)

lemma expire_id : (expire r).id = r.id := rfl

lemma consume_id : (consume r).id = r.id := rfl

end Keys

/-- `UPDATE qr_login_requests … WHERE id = $1`. -/
def update (id : Uuid) (f : QrLoginRequest → QrLoginRequest) (hf : ∀ r, (f r).id = r.id)
    (db : Db) : Db :=
  { db with qrLoginRequests := db.qrLoginRequests.update id f hf }

/-- A statement that the database does not fail. -/
def effect : (s : Statement) → Db → Answer s × Db
  | .Insert row, db =>
      match db.qrLoginRequests.insert? row with
      | some qrLoginRequests => (.ok (), { db with qrLoginRequests })
      | none => (.error (ApiError.databaseText
          "duplicate key value violates unique constraint \"qr_login_requests_pkey\""), db)
  | .Load id, db => (.ok (db.qrLoginRequests.get? id), db)
  | .Expire id, db => (.ok (), update id expire expire_id db)
  | .LoadIdentity identityId, db => (.ok (Identity.activeIdentity identityId db), db)
  | .Approve id identityId deviceId accessToken refreshToken, db =>
      (.ok (), update id (approve identityId deviceId accessToken refreshToken) (fun _ => rfl) db)
  | .Consume id, db => (.ok (), update id consume consume_id db)

def exec (s : Statement) (m : Moment) (db : Db) : Answer s × Db :=
  match m.failure with
  | some e => (.error e, db)
  | none => effect s db

/-! ## Handlers -/

structure QrLoginStartRequest where
  desktopDeviceName : Option String
  desktopDevicePublicKey : Option String

structure QrLoginStartResponse where
  loginRequestId : String
  challenge : String
  oracleUrl : String
  expiresAt : Time
  deriving DecidableEq

structure QrLoginStatusResponse where
  status : QrLoginStatus
  accessToken : Option Claims
  refreshToken : Option Claims
  identityId : Option String
  expiresIn : Option Nat
  deriving DecidableEq

inductive Call
  | Start (req : QrLoginStartRequest)
  | Confirm (req : QrLoginConfirmRequest)
  | Status (loginRequestId : String)

inductive Reply
  | Started (answer : Except ApiError QrLoginStartResponse)
  | Confirmed (answer : Except ApiError QrLoginConfirmResponse)
  | Status (answer : Except ApiError QrLoginStatusResponse)

/-- A handler under way. -/
abbrev Handling := Proc Answer Moment Reply

/-- The error with which a handler passes on that of a statement. -/
def loaded {α : Type} (text : String) (answer : Except String α) : Except ApiError α :=
  Pre.mapErr (fun e => .Database (text ++ e)) answer

def startQrLogin (state : AppState) (req : QrLoginStartRequest) (m : Moment) : Handling :=
  let row : QrLoginRequest :=
    { id := m.uuid 0
      challenge := Text.hexEncode m.nonce
      status := .Pending
      desktopDeviceName := req.desktopDeviceName
      desktopDevicePublicKey := req.desktopDevicePublicKey
      identityId := none
      approvedByDeviceId := none
      accessToken := none
      refreshToken := none
      expiresAt := m.now + 120000000 }
  .Exec (.Insert row) fun inserted _ =>
  .check .Started (loaded "Failed to create QR login request: " inserted) fun _ =>
  .Done (.Started (.ok
    { loginRequestId := row.id.text
      challenge := row.challenge
      oracleUrl := oracleUrl state
      expiresAt := row.expiresAt }))

def confirmQrLogin (ed : Ed25519) (state : AppState) (req : QrLoginConfirmRequest) : Handling :=
  .check .Confirmed (okOr (parseUuid req.loginRequestId)
    (.BadRequest "Invalid login_request_id")) fun loginId =>
  .Exec (.Load loginId) fun qrRow? m =>
  .check .Confirmed (loaded "Failed to load QR login request: " qrRow?) fun qrRow? =>
  .check .Confirmed (okOr qrRow? (.NotFound "QR login request not found")) fun qrRow =>
  match validatePendingQrLoginStatus qrRow.status qrRow.expiresAt m.now with
  | .error err =>
      if qrRow.expiresAt < m.now ∧ qrRow.status = .Pending then
        .Exec (.Expire loginId) fun _ _ => .Done (.Confirmed (.error err))
      else .Done (.Confirmed (.error err))
  | .ok _ =>
      .Exec (.LoadIdentity req.identityId) fun identity? m =>
      .check .Confirmed (loaded "Failed to load identity: " identity?) fun identity? =>
      .check .Confirmed (okOr identity? (.Unauthorized "Unknown Vaulted identity")) fun identity =>
      .check .Confirmed (ensure (decide (identity.signingPublicKey = req.signingPublicKey))
        (.Unauthorized "Signing public key does not match identity")) fun _ =>
      .check .Confirmed (verifyEd25519Hex ed req.signingPublicKey (Text.utf8
        (qrLoginSignatureMessage req.loginRequestId qrRow.challenge (oracleUrl state) req.deviceId))
        req.signature) fun _ =>
      .Exec (.Approve loginId req.identityId req.deviceId
        (.newAccessDeviceBound m.now (m.uuid 0) req.identityId state.jwtExpirationHours "user"
          req.deviceId)
        (.newRefreshDeviceBound m.now (m.uuid 1) req.identityId 30 req.deviceId)) fun approved _ =>
      .check .Confirmed (loaded "Failed to approve QR login: " approved) fun _ =>
      .Done (.Confirmed (.ok { approved := true, status := .Approved }))

def qrLoginStatus (state : AppState) (loginRequestId : String) : Handling :=
  .check .Status (okOr (parseUuid loginRequestId)
    (.BadRequest "Invalid login_request_id")) fun loginId =>
  .Exec (.Load loginId) fun row? m =>
  .check .Status (loaded "Failed to load QR login status: " row?) fun row? =>
  .check .Status (okOr row? (.NotFound "QR login request not found")) fun row =>
  if row.status = .Pending ∧ row.expiresAt < m.now then
    .Exec (.Expire loginId) fun _ _ =>
    .Done (.Status (.ok
      { status := .Expired
        accessToken := none
        refreshToken := none
        identityId := row.identityId
        expiresIn := none }))
  else if row.status = .Approved then
    .Exec (.Consume loginId) fun _ _ =>
    .Done (.Status (.ok
      { status := .Approved
        accessToken := row.accessToken
        refreshToken := row.refreshToken
        identityId := row.identityId
        expiresIn := some (state.jwtExpirationHours * 3600) }))
  else
    .Done (.Status (.ok
      { status := row.status
        accessToken := none
        refreshToken := none
        identityId := row.identityId
        expiresIn := none }))

def handle (ed : Ed25519) (state : AppState) : Call → Moment → Handling
  | .Start req, m => startQrLogin state req m
  | .Confirm req, _ => confirmQrLogin ed state req
  | .Status loginRequestId, _ => qrLoginStatus state loginRequestId

/-! ## A handler alone -/

/-- **A confirmation that nothing interleaves with** does what the handler does as a whole. -/
theorem run_confirmQrLogin (ed : Ed25519) (state : AppState) (req : QrLoginConfirmRequest)
    {m : Moment} {env : Env} (hm : m.failure = none) (hnow : env.now = m.now)
    (huuid : env.uuid = m.uuid) (db : Db) :
    (QrLogin.confirmQrLogin ed state req).run exec (fun _ => m) db
      = (.Confirmed (QrAuth.confirmQrLogin ed state env req db).1,
          (QrAuth.confirmQrLogin ed state env req db).2) := by
  obtain ⟨now, uuid, _, _, _, _, _⟩ := env
  obtain rfl : now = m.now := hnow
  obtain rfl : uuid = m.uuid := huuid
  unfold QrLogin.confirmQrLogin QrAuth.confirmQrLogin
  cases hid : parseUuid req.loginRequestId with
  | none => rfl
  | some id =>
      rw [run_expect rfl, run_read]
      simp only [okOr, Option.elim, Proc.check, Proc.run, exec, hm, effect, loaded, Pre.mapErr]
      cases hrow : db.qrLoginRequests.get? id with
      | none => rfl
      | some row =>
          rw [run_expect rfl]
          dsimp only
          cases hpending : validatePendingQrLoginStatus row.status row.expiresAt m.now with
          | error err =>
              dsimp only
              by_cases hexpired : row.expiresAt < m.now ∧ row.status = .Pending
              · rw [if_pos hexpired, decide_eq_true hexpired.1, decide_eq_true hexpired.2]
                simp only [Proc.run, exec, hm]
                rfl
              · rw [if_neg hexpired, ← Bool.decide_and, decide_eq_false hexpired]
                rfl
          | ok _ =>
              dsimp only [Proc.run]
              rw [run_read]
              simp only [exec, hm, effect]
              cases hidentity : Identity.activeIdentity req.identityId db with
              | none => rfl
              | some identity =>
                  rw [run_expect rfl]
                  dsimp only
                  by_cases hkey : identity.signingPublicKey = req.signingPublicKey
                  · rw [run_require (decide_eq_true hkey), decide_eq_true hkey]
                    cases hsigned : verifyEd25519Hex ed req.signingPublicKey
                      (Text.utf8 (qrLoginSignatureMessage req.loginRequestId row.challenge
                        (oracleUrl state) req.deviceId)) req.signature with
                    | error e => rfl
                    | ok _ =>
                        simp only [ensure, if_true, Proc.run, exec, hm]
                        rfl
                  · rw [decide_eq_false hkey]
                    rfl

end QrLogin

end Vaulted
