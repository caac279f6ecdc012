import Vaulted.Oracle.Identity

/-!
# QR login

`confirm_qr_login` of `api/qr_auth.rs`: a phone approves the login of a desktop by signing its
request with the key of an identity.
-/

namespace Vaulted.QrAuth

open Autocommit.Prog

/-! ## Checks -/

/-- The digits of a UUID between its hyphens. -/
def hyphenatedDigits (body : List Char) : List Char :=
  if body.length = 36 ∧ [8, 13, 18, 23].all fun i => body[i]? == some '-' then
    body.take 8 ++ (body.drop 9).take 4 ++ (body.drop 14).take 4 ++ (body.drop 19).take 4
      ++ body.drop 24
  else []

/-- `Uuid::parse_str`: the digits alone, or with hyphens, and then also in braces or as a URN. -/
def parseUuid (s : String) : Option Uuid :=
  let chars := s.toList
  let urn := "urn:uuid:".toList
  let digits :=
    if chars.length = 32 then chars
    else if urn.isPrefixOf chars then hyphenatedDigits (chars.drop urn.length)
    else if chars.head? = some '{' ∧ chars.getLast? = some '}' then
      hyphenatedDigits chars.tail.dropLast
    else hyphenatedDigits chars
  if digits.length = 32 ∧ digits.all Text.isAsciiHexdigit then
    let lower := digits.map Char.toLower
    some ⟨String.ofList (lower.take 8 ++ '-' :: (lower.drop 8).take 4 ++ '-' :: (lower.drop 12).take 4
      ++ '-' :: (lower.drop 16).take 4 ++ '-' :: lower.drop 20)⟩
  else none

def verifyEd25519Hex (ed : Ed25519) :=
  ed.verifyWith
    { publicKey := "Invalid signing public key"
      publicKeyLength := "Invalid signing public key length"
      encoding := "Invalid signature encoding"
      length := "Invalid signature length"
      signature := "Invalid QR login signature" }
    Text.hexDecode

def qrLoginSignatureMessage (loginRequestId challenge oracleUrl deviceId : String) : String :=
  "Vaulted QR Login v1\nlogin_request_id:" ++ loginRequestId ++ "\nchallenge:" ++ challenge
    ++ "\noracle_url:" ++ oracleUrl ++ "\ndevice_id:" ++ deviceId

def validatePendingQrLoginStatus (status : QrLoginStatus) (expiresAt now : Time) :
    Except ApiError Unit := do
  ensure (decide (status = .Pending)) (.BadRequest ("QR login request is " ++ status.text))
  ensure (!decide (expiresAt < now)) (.Unauthorized "QR login request expired")

def oracleUrl (state : AppState) : String :=
  state.publicUrl.getD ("http://" ++ state.host ++ ":" ++ toString state.port)

/-! ## Confirming -/

structure QrLoginConfirmRequest where
  loginRequestId : String
  identityId : String
  deviceId : String
  signingPublicKey : String
  signature : String

structure QrLoginConfirmResponse where
  approved : Bool
  status : QrLoginStatus
  deriving DecidableEq

/-- `UPDATE qr_login_requests … WHERE id = $1`. -/
def updateQrLogin (id : Uuid) (f : QrLoginRequest → QrLoginRequest)
    (hf : ∀ r, (f r).id = r.id := by intro _; rfl) (db : Db) : Except ApiError Db :=
  .ok { db with qrLoginRequests := db.qrLoginRequests.update id f hf }

/-- What an approval stores. -/
def approved (state : AppState) (env : Env) (req : QrLoginConfirmRequest) (r : QrLoginRequest) :
    QrLoginRequest :=
  { r with
    status := .Approved
    identityId := some req.identityId
    approvedByDeviceId := some req.deviceId
    accessToken := some (.newAccessDeviceBound env.now (env.uuid 0) req.identityId
      state.jwtExpirationHours "user" req.deviceId)
    refreshToken := some (.newRefreshDeviceBound env.now (env.uuid 1) req.identityId 30
      req.deviceId) }

def confirmQrLogin (ed : Ed25519) (state : AppState) (env : Env) (req : QrLoginConfirmRequest) :
    Handler QrLoginConfirmResponse := do
  let loginId ← expect (parseUuid req.loginRequestId) (.BadRequest "Invalid login_request_id")
  let qrRow? ← read fun db => db.qrLoginRequests.get? loginId
  let qrRow ← expect qrRow? (.NotFound "QR login request not found")
  match validatePendingQrLoginStatus qrRow.status qrRow.expiresAt env.now with
  | .error err => do
      let expired := decide (qrRow.expiresAt < env.now) && decide (qrRow.status = .Pending)
      write fun db =>
        if expired then updateQrLogin loginId (fun r => { r with status := .Expired })
          (fun _ => rfl) db
        else .ok db
      fail err
  | .ok _ => do
      let identity? ← read (Identity.activeIdentity req.identityId)
      let identity ← expect identity? (.Unauthorized "Unknown Vaulted identity")
      require (decide (identity.signingPublicKey = req.signingPublicKey))
        (.Unauthorized "Signing public key does not match identity")
      lift (verifyEd25519Hex ed req.signingPublicKey (Text.utf8 (qrLoginSignatureMessage
        req.loginRequestId qrRow.challenge (oracleUrl state) req.deviceId)) req.signature)
      write (updateQrLogin loginId (approved state env req) (fun _ => rfl))
      pure { approved := true, status := .Approved }

/-! ## What a call can do -/

/-- What `confirmQrLogin` asks of a request: it is pending, and an active identity has signed its
challenge. -/
structure Approvable (ed : Ed25519) (state : AppState) (env : Env) (req : QrLoginConfirmRequest)
    (db : Db) (row : QrLoginRequest) (identity : VaultedIdentity) : Prop where
  loginId : parseUuid req.loginRequestId = some row.id
  found : db.qrLoginRequests.get? row.id = some row
  pending : validatePendingQrLoginStatus row.status row.expiresAt env.now = .ok ()
  registered : Identity.activeIdentity req.identityId db = some identity
  key : identity.signingPublicKey = req.signingPublicKey
  signed : verifyEd25519Hex ed req.signingPublicKey (Text.utf8 (qrLoginSignatureMessage
    req.loginRequestId row.challenge (oracleUrl state) req.deviceId)) req.signature = .ok ()

inductive ConfirmsQrLogin (ed : Ed25519) (state : AppState) (env : Env)
    (req : QrLoginConfirmRequest) (db : Db) : Except ApiError QrLoginConfirmResponse → Db → Prop
  | Refused (e : ApiError) (qrLoginRequests : Table QrLoginRequest.id) :
      ConfirmsQrLogin ed state env req db (.error e) { db with qrLoginRequests }
  | Approved (row : QrLoginRequest) (identity : VaultedIdentity)
      (answer : QrLoginConfirmResponse) : Approvable ed state env req db row identity →
      ConfirmsQrLogin ed state env req db (.ok answer)
        { db with
          qrLoginRequests :=
            db.qrLoginRequests.update row.id (approved state env req) (fun _ => rfl) }

/-- A confirmation touches no other table, and one that succeeds was signed with the key stored
for the identity. -/
theorem confirmQrLogin_spec (ed : Ed25519) (state : AppState) (env : Env)
    (req : QrLoginConfirmRequest) (db : Db) :
    wp (confirmQrLogin ed state env req) (ConfirmsQrLogin ed state env req db) db := by
  have refused : ∀ e : ApiError, ConfirmsQrLogin ed state env req db (.error e) db :=
    fun e => .Refused e db.qrLoginRequests
  refine wp_expect_bind (fun _ => refused _) fun loginId hid => ?_
  refine wp_read_bind (wp_expect_bind (fun _ => refused _) fun row hrow => ?_)
  obtain rfl : row.id = loginId := Table.key_of_get? hrow
  split
  · refine wp_write_bind (fun _ _ => refused _) fun db₁ hdb₁ => wp_fail ?_
    split at hdb₁ <;> cases hdb₁
    · exact .Refused _ _
    · exact refused _
  · next hpending =>
      refine wp_read_bind (wp_expect_bind (fun _ => refused _) fun identity hidentity => ?_)
      refine wp_require_bind (fun _ => refused _) fun hkey => ?_
      refine wp_lift_bind (fun _ _ => refused _) fun _ hverify => ?_
      refine wp_write_bind (fun _ _ => refused _) fun db₁ hdb₁ => wp_pure ?_
      cases hdb₁
      exact .Approved row identity _
        ⟨hid, hrow, hpending, hidentity, of_decide_eq_true hkey, hverify⟩

end Vaulted.QrAuth
