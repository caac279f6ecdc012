import Vaulted.Identity.KeyBinding
import Vaulted.Token.Revocation

/-!
# Logging out

A logout revokes the token that it comes with for an hour from then on, whatever the token's own
expiry is.

* `Call` — authenticated requests, logouts, refreshes and the background task.
* `Issued` — the access tokens of the four logins, and how long they are good (`exp_of_issued`).
* `Complete` — a token that a logout came with authenticates no request after it.
* `Covering` — a logout reaches past the last second of its token.
* `complete_of_covering` — such logouts are complete where the stores do not fail.
* `not_complete` — the token of a QR login, which is good for a day, comes back after an hour.
-/

namespace Vaulted.LoggedOut

open Autocommit.Prog Tokens
open Revocation (Covers Reliable gone home revokedUntil)

/-! ## The system -/

inductive Call
  | Request (env : StoreEnv) (token : Bearer) (fingerprint : Option String)
  | Logout (check : StoreEnv) (token : Bearer) (fingerprint : Option String) (now : Time)
      (revoke : StoreEnv)
  | Refresh (check revoke : StoreEnv) (env : Env) (token : Bearer)
  | Cleanup (env : StoreEnv)

namespace Call

def start : Call → Time
  | Request env _ _ => env.now
  | Logout check _ _ _ _ => check.now
  | Refresh check _ _ _ => check.now
  | Cleanup env => env.now

def finish : Call → Time
  | Request env _ _ => env.seen
  | Logout _ _ _ _ revoke => revoke.seen
  | Refresh _ revoke _ _ => revoke.seen
  | Cleanup env => env.seen

/-- The stores do not fail during the call. -/
def Reliable : Call → Prop
  | Request env _ _ => Revocation.Reliable env
  | Logout check _ _ _ revoke => Revocation.Reliable check ∧ Revocation.Reliable revoke
  | Refresh check revoke _ _ => Revocation.Reliable check ∧ Revocation.Reliable revoke
  | Cleanup env => Revocation.Reliable env

def IsLogout : Call → Prop
  | Logout _ _ _ _ _ => True
  | _ => False

end Call

def step (s : Server) : Call → Server
  | .Request _ _ _ => s
  | .Logout check token fingerprint now revoke =>
      match authenticate check token fingerprint s.stores with
      | .ok user => (logout user now revoke s).2
      | .error _ => s
  | .Refresh check revoke env token => (refreshToken check revoke env token s).2
  | .Cleanup env => { s with stores := s.stores.cleanupExpired env }

/-- The server after a run of calls. -/
abbrev exec (s : Server) (calls : List Call) : Server := Runs.exec step s calls

/-- The calls are made one after the other. -/
def Ordered (calls : List Call) : Prop :=
  calls.Pairwise fun earlier later => earlier.finish ≤ later.start

/-- The request is authenticated by the token. -/
def Authenticates (token : Claims) (s : Server) : Call → Prop
  | .Request env bearer fingerprint => bearer = .ok token
      ∧ ∃ user, authenticate env bearer fingerprint s.stores = .ok user
  | .Logout check bearer fingerprint _ _ => bearer = .ok token
      ∧ ∃ user, authenticate check bearer fingerprint s.stores = .ok user
  | _ => False

/-! ## The tokens -/

section Issued

variable (x : XrplCrypto) (ed : Ed25519) (codec : TextCodec) (state : AppState)

/-- The access tokens that the Oracle issues. -/
inductive Issued : Claims → Prop
  | WalletLogin (env : Env) (store : StoreEnv) (req : AuthRequest) (s : Server)
      (answer : TokenResponse) : (getToken x env store req s).1 = .ok answer →
      Issued answer.accessToken
  | IdentityLogin (env : Env) (req : Identity.IdentityTokenRequest) (db : Db)
      (answer : Identity.IdentityTokenResponse) :
      (Identity.identityToken ed codec env req db).1 = .ok answer → Issued answer.accessToken
  | Refreshed (check revoke : StoreEnv) (env : Env) (token : Bearer) (s : Server)
      (answer : TokenResponse) : (refreshToken check revoke env token s).1 = .ok answer →
      Issued answer.accessToken
  | QrLogin (env : Env) (req : QrAuth.QrLoginConfirmRequest) (db : Db)
      (answer : QrAuth.QrLoginConfirmResponse) (row : QrLoginRequest) (token : Claims) :
      (QrAuth.confirmQrLogin ed state env req db).1 = .ok answer →
      QrAuth.parseUuid req.loginRequestId = some row.id →
      (QrAuth.confirmQrLogin ed state env req db).2.qrLoginRequests.get? row.id = some row →
      row.accessToken = some token → Issued token

end Issued

/-- Once the token has come with a logout, it authenticates no request, for however long it would
still be good. -/
def Complete (token : Claims) (s : Server) (calls : List Call) : Prop :=
  ∀ pre out mid call post, calls = pre ++ out :: (mid ++ call :: post) → out.IsLogout →
    Authenticates token (exec s pre) out → ¬ Authenticates token (exec s (pre ++ out :: mid)) call

/-- **A token is good for an hour, or for as long as the configuration says.** -/
theorem exp_of_issued {x : XrplCrypto} {ed : Ed25519} {codec : TextCodec} {state : AppState}
    {token : Claims} (h : Issued x ed codec state token) :
    ∃ hours, (hours = 1 ∨ hours = state.jwtExpirationHours)
      ∧ ∃ now : Time, token.exp = (now + hours * 3600000000).timestamp := by
  cases h with
  | WalletLogin env store req s answer h =>
      have hspec := getToken_spec x env store req s
      simp only [wp, h] at hspec
      generalize (getToken x env store req s).2 = s' at hspec
      cases hspec with
      | Issued role =>
          refine ⟨1, .inl rfl, env.now, ?_⟩
          unfold walletTokens
          cases req.deviceFingerprint <;> rfl
  | IdentityLogin env req db answer h =>
      exact ⟨1, .inl rfl, env.now, by rw [Identity.accessToken_of_identityToken h]; rfl⟩
  | Refreshed check revoke env token s answer h =>
      have hspec := refreshToken_spec check revoke env token s
      simp only [wp, h] at hspec
      generalize (refreshToken check revoke env token s).2 = s' at hspec
      cases hspec with
      | Refreshed claims role => exact ⟨1, .inl rfl, env.now, rfl⟩
  | QrLogin env req db answer row token h hid hrow htoken =>
      have hspec := QrAuth.confirmQrLogin_spec ed state env req db
      simp only [wp, h] at hspec
      generalize (QrAuth.confirmQrLogin ed state env req db).2 = db' at hspec hrow
      cases hspec with
      | Approved old identity _ happrovable =>
          have hold : old.id = row.id := Option.some.inj (happrovable.loginId.symm.trans hid)
          have hget := (Table.get?_update db.qrLoginRequests old.id (QrAuth.approved state env req)
            (fun _ => rfl) row.id).trans (if_pos hold.symm)
          rw [happrovable.found] at hget
          obtain rfl := Option.some.inj (hrow.symm.trans hget)
          exact ⟨state.jwtExpirationHours, .inr rfl, env.now, by rw [← Option.some.inj htoken]; rfl⟩

/-! ## The condition -/

/-- The request looks its token up before the token has expired; a logout with the token revokes
it past its last second; and no refresh token has its id. -/
def guard (token : Claims) (s : Server) : Call → Prop
  | .Request env bearer _ => bearer = .ok token → env.seen < gone token
  | .Logout check bearer _ now revoke => (bearer = .ok token → check.seen < gone token)
      ∧ ∀ claims, bearer = .ok claims → claims.jti = token.jti →
        gone token ≤ revokedUntil revoke token.jti.text (now.timestamp + 3600) s.stores
  | .Refresh _ _ _ bearer => ∀ claims, bearer = .ok claims → claims.jti ≠ token.jti
  | .Cleanup _ => True

/-- The logouts of a run reach past the last second of the token, and it is looked up in time. -/
def Covering (token : Claims) (s : Server) (calls : List Call) : Prop :=
  Runs.Guarded step (guard token) s calls

/-! ## A step -/

/-- The store that is used has the token past its last second. -/
def Kept (token : Claims) (ℓ : Revocation.Level) (s : Server) : Prop :=
  home s.stores = ℓ ∧ Covers (gone token) token.jti.text s.stores ℓ

/-- A logout revokes the token that it comes with. -/
lemma step_logout {s : Server} {check : StoreEnv} {bearer : Bearer} {fingerprint : Option String}
    {user : AuthenticatedUser} (now : Time) (revoke : StoreEnv)
    (h : authenticate check bearer fingerprint s.stores = .ok user) :
    ∃ claims, bearer = .ok claims ∧ step s (.Logout check bearer fingerprint now revoke)
      = revoked revoke claims.jti.text (now.timestamp + 3600) s := by
  obtain ⟨claims, hclaims, -, -, rfl⟩ := authenticate_eq_ok h
  refine ⟨claims, (verifyToken_eq_ok hclaims).1, ?_⟩
  simp only [step, h]
  rfl

lemma Kept.revoked {token : Claims} {ℓ : Revocation.Level} {s : Server} (hkept : Kept token ℓ s)
    {revoke : StoreEnv} {jti : Uuid} {exp : Nat}
    (hlasts : jti = token.jti → gone token ≤ revokedUntil revoke token.jti.text exp s.stores) :
    Kept token ℓ (Tokens.revoked revoke jti.text exp s) := by
  refine ⟨(Revocation.home_blacklistToken _ _ _ _).trans hkept.1, hkept.2.blacklistToken ?_⟩
  intro hjti
  rw [hjti]
  exact hlasts (Uuid.ext hjti)

/-- **A token that has been revoked past its last second stays so**, until it is gone. -/
theorem Kept.step {token : Claims} {ℓ : Revocation.Level} {s : Server} {call : Call}
    (hkept : Kept token ℓ s) (hguard : guard token s call) (hfinish : call.finish < gone token) :
    Kept token ℓ (step s call) := by
  cases call with
  | Request env bearer fingerprint => exact hkept
  | Logout check bearer fingerprint now revoke =>
      cases hauth : authenticate check bearer fingerprint s.stores with
      | error e =>
          simp only [LoggedOut.step, hauth]
          exact hkept
      | ok user =>
          obtain ⟨claims, hclaims, hstep⟩ := step_logout now revoke hauth
          rw [hstep]
          exact hkept.revoked fun hjti => hguard.2 claims hclaims hjti
  | Refresh check revoke env bearer =>
      have hspec := refreshToken_spec check revoke env bearer s
      simp only [wp, LoggedOut.step] at hspec ⊢
      generalize (refreshToken check revoke env bearer s).1 = r at hspec
      generalize (refreshToken check revoke env bearer s).2 = s' at hspec ⊢
      have other : ∀ claims, Refreshable check bearer s claims →
          Kept token ℓ (Tokens.revoked revoke claims.jti.text claims.exp s) := by
        intro claims hrefreshable
        obtain ⟨c, hc, hrest⟩ := bind_eq_ok hrefreshable.verified
        obtain ⟨_, -, hrest⟩ := bind_eq_ok hrest
        obtain rfl := Except.ok.inj hrest
        have hbearer := (verifyToken_eq_ok (Pre.eq_ok_of_mapErr hc)).1
        exact hkept.revoked fun hjti => absurd hjti (hguard c hbearer)
      cases hspec with
      | Refused e => exact hkept
      | Spent claims e hrefreshable => exact other claims hrefreshable
      | Refreshed claims role hrefreshable => exact other claims hrefreshable
  | Cleanup env => exact ⟨hkept.1, hkept.2.cleanupExpired hfinish⟩

/-- A token that is kept authenticates nothing before it is gone. -/
lemma Kept.not_authenticates {token : Claims} {s : Server} {call : Call}
    (hkept : Kept token (home s.stores) s) (hreliable : call.Reliable)
    (hguard : guard token s call) : ¬ Authenticates token s call := by
  have refused : ∀ {env : StoreEnv} {fingerprint : Option String}, Reliable env →
      env.seen < gone token → ∀ user,
      authenticate env (.ok token) fingerprint s.stores ≠ .ok user := by
    intro env fingerprint henv hnow user hauth
    obtain ⟨claims, hclaims, -, hlive, -⟩ := authenticate_eq_ok hauth
    obtain rfl := Except.ok.inj (verifyToken_eq_ok hclaims).1
    rw [hkept.2.isTokenBlacklisted (Revocation.consults_home henv) hnow] at hlive
    cases hlive
  intro hauth
  cases call with
  | Request env bearer fingerprint =>
      obtain ⟨rfl, user, hauth⟩ := hauth
      exact refused hreliable (hguard rfl) user hauth
  | Logout check bearer fingerprint now revoke =>
      obtain ⟨rfl, user, hauth⟩ := hauth
      exact refused hreliable.1 (hguard.1 rfl) user hauth
  | Refresh check revoke env bearer => exact hauth
  | Cleanup env => exact hauth

/-! ## A run -/

lemma Authenticates.start_lt {token : Claims} {s : Server} {call : Call}
    (h : Authenticates token s call) : call.start < gone token := by
  have early : ∀ {env : StoreEnv} {bearer : Bearer} {fingerprint : Option String}
      {user : AuthenticatedUser}, bearer = .ok token →
      authenticate env bearer fingerprint s.stores = .ok user → env.now < gone token := by
    rintro env bearer fingerprint user rfl hauth
    obtain ⟨claims, hclaims, -⟩ := authenticate_eq_ok hauth
    obtain rfl := Except.ok.inj (verifyToken_eq_ok hclaims).1
    exact Revocation.lt_gone_of_verifyToken hclaims
  cases call with
  | Request env bearer fingerprint =>
      obtain ⟨hbearer, user, hauth⟩ := h
      exact early hbearer hauth
  | Logout check bearer fingerprint now revoke =>
      obtain ⟨hbearer, user, hauth⟩ := h
      exact early hbearer hauth
  | Refresh check revoke env bearer => exact absurd h id
  | Cleanup env => exact absurd h id

lemma Kept.exec {token : Claims} {ℓ : Revocation.Level} {s : Server} {calls : List Call}
    (hkept : Kept token ℓ s) (hearly : ∀ call ∈ calls, call.finish < gone token)
    (hguarded : Runs.Guarded LoggedOut.step (guard token) s calls) :
    Kept token ℓ (exec s calls) := by
  induction calls generalizing s with
  | nil => exact hkept
  | cons call calls ih =>
      exact ih (hkept.step hguarded.1 (hearly call List.mem_cons_self))
        (fun later hlater => hearly later (List.mem_cons_of_mem _ hlater)) hguarded.2

/-- **A logout that reaches past the last second of its token is complete**, on whichever of the
four paths the token has been issued. A logout revokes for one hour, whereas a token of the QR login
is good for as long as the configuration says. -/
theorem complete_of_covering {token : Claims} {s : Server} {calls : List Call}
    (hordered : Ordered calls) (hreliable : ∀ call ∈ calls, call.Reliable)
    (hcovering : Covering token s calls) : Complete token s calls := by
  rintro pre out mid call post rfl hlogout hout hcall
  have hguards := hcovering.back
  -- the logout
  obtain ⟨check, bearer, fingerprint, now, revoke, rfl⟩ : ∃ check bearer fingerprint now revoke,
      out = .Logout check bearer fingerprint now revoke := by
    cases out with
    | Logout check bearer fingerprint now revoke => exact ⟨_, _, _, _, _, rfl⟩
    | Request env bearer fingerprint => exact absurd hlogout id
    | Refresh check revoke env bearer => exact absurd hlogout id
    | Cleanup env => exact absurd hlogout id
  obtain ⟨rfl, user, hauth⟩ := hout
  obtain ⟨claims, hclaims, hstep⟩ := step_logout now revoke hauth
  obtain rfl := Except.ok.inj hclaims
  have hrevoke : Reliable revoke :=
    (hreliable (.Logout check (.ok token) fingerprint now revoke) (by simp)).2
  have hkept : Kept token (home (exec s pre).stores)
      (step (exec s pre) (.Logout check (.ok token) fingerprint now revoke)) := by
    rw [hstep]
    refine ⟨Revocation.home_blacklistToken _ _ _ _, ?_⟩
    rw [← Revocation.level_eq_home hrevoke]
    exact Revocation.covers_blacklistToken (hguards.1.2 token rfl rfl)
  -- the calls in between are over before the token is
  have hearly : ∀ c ∈ mid, c.finish < gone token := by
    intro c hc
    have hle := (List.pairwise_cons.mp (List.pairwise_append.mp hordered).2.1).2
    exact lt_of_le_of_lt ((List.pairwise_append.mp hle).2.2 c hc _ (List.mem_cons_self))
      hcall.start_lt
  have hlast := hkept.exec hearly hguards.2.front
  rw [exec, Runs.exec_append, Runs.exec_cons] at hcall
  refine Kept.not_authenticates ?_ (hreliable call (by simp)) hguards.2.back.1 hcall
  rw [hlast.1]
  exact hlast

/-! ## The token of a QR login

It is good for a day, and Alice logs out with it after a second. -/

namespace Sample

open Transfers.Sample Tombstone.Sample RecipientKey.Sample KeyBinding.Sample

/-- An Oracle with the default lifetime of tokens. -/
def daily : AppState := { oracle with jwtExpirationHours := 24 }

def loginId : String := "00000000-0000-0000-0000-000000000001"

def login : QrLoginRequest where
  id := ⟨loginId⟩
  challenge := "c"
  status := .Pending
  desktopDeviceName := none
  desktopDevicePublicKey := none
  identityId := none
  approvedByDeviceId := none
  accessToken := none
  refreshToken := none
  expiresAt := 300000000

def waiting : Db := { registered with qrLoginRequests := ⟨[login], List.nodup_singleton _⟩ }

def confirmation : QrAuth.QrLoginConfirmRequest where
  loginRequestId := loginId
  identityId := "alice"
  deviceId := "phone"
  signingPublicKey := Text.hexEncode (signingKey 1)
  signature := Text.hexEncode (Ed25519.sign (signingKey 1)
    (Text.utf8 (QrAuth.qrLoginSignatureMessage loginId "c" (QrAuth.oracleUrl daily) "phone")))

/-- The token that lasts for the given number of hours. -/
def token (hours : Nat) : Claims :=
  .newAccessDeviceBound 0 ⟨"t"⟩ "alice" hours "user" "phone"

def server : Server := ⟨waiting, .empty false⟩

/-- A call to the stores at the given time. -/
def during (now : Time) : StoreEnv := Revocation.Sample.during now true

def logsOut (hours : Nat) : Call :=
  .Logout (during 1000000) (.ok (token hours)) (some "phone") 1000000 (during 1000000)

/-- A request at the given time. -/
def request (hours : Nat) (now : Time) : Call :=
  .Request (during now) (.ok (token hours)) (some "phone")

lemma token_issued : Issued .transparent Ed25519.transparent JsonText.compact daily
    (token 24) := by
  have hok : ((QrAuth.confirmQrLogin Ed25519.transparent daily (env ⟨"t"⟩) confirmation
      waiting).1.toOption).isSome = true := by decide +kernel
  have hrow : (QrAuth.confirmQrLogin Ed25519.transparent daily (env ⟨"t"⟩) confirmation
      waiting).2.qrLoginRequests.get? login.id
        = some (QrAuth.approved daily (env ⟨"t"⟩) confirmation login) := by decide +kernel
  have hid : QrAuth.parseUuid loginId
      = some (QrAuth.approved daily (env ⟨"t"⟩) confirmation login).id := by decide +kernel
  obtain ⟨answer, hanswer⟩ := Option.isSome_iff_exists.mp hok
  exact .QrLogin _ confirmation waiting answer _ _ (eq_ok_of_toOption hanswer) hid hrow rfl

/-- **An hour after the logout, the token of a QR login is good again.** -/
theorem not_complete :
    Issued .transparent Ed25519.transparent JsonText.compact daily (token 24)
    ∧ ¬ Complete (token 24) server [logsOut 24, request 24 3602000000] := by
  refine ⟨token_issued, fun hcomplete => ?_⟩
  have authenticated : ∀ {check : StoreEnv} {s : Server},
      (authenticate check (.ok (token 24)) (some "phone") s.stores).toOption.isSome = true →
      ∃ user, authenticate check (.ok (token 24)) (some "phone") s.stores = .ok user := by
    intro check s h
    obtain ⟨user, huser⟩ := Option.isSome_iff_exists.mp h
    exact ⟨user, eq_ok_of_toOption huser⟩
  refine hcomplete [] _ [] _ [] rfl trivial ⟨rfl, authenticated ?_⟩ ⟨rfl, authenticated ?_⟩
  · decide +kernel
  · decide +kernel

/-- A token that is good for an hour, and looked up in its last second. -/
theorem complete_of_hour : Complete (token 1) server [logsOut 1, request 1 3600000000] := by
  have hreliable : ∀ now, Revocation.Reliable (during now) := fun _ _ => ⟨rfl, rfl⟩
  refine complete_of_covering (by simp [Ordered, logsOut, request, Call.finish, Call.start, during,
    Revocation.Sample.during, StoreEnv.seen]) ?_ ?_
  · simp [logsOut, request, Call.Reliable, hreliable]
  · refine ⟨⟨fun _ => by decide, fun claims hclaims _ => ?_⟩, fun _ => by decide, trivial⟩
    decide +kernel

end Sample

end Vaulted.LoggedOut
