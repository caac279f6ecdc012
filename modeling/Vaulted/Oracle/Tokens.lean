import Vaulted.Oracle.QrAuth
import Vaulted.Oracle.TokenStores
import Vaulted.Oracle.XrplVerify

/-!
# Access and refresh tokens

`auth.rs` and `api/auth.rs`: the login of a wallet, the check that every authenticated request
goes through, logout, and the rotation of refresh tokens.

* `Server` — the database together with the stores of `TokenStores`.
* `verifyToken`, `authenticate` — the claims of a token, and the caller of a request.
* `getLoginChallenge`, `getChallenge`, `getToken`, `logout`, `refreshToken` — the handlers.
-/

namespace Vaulted

def Claims.isExpired (c : Claims) (now : Time) : Bool := decide (c.exp < now.timestamp)

/-- What the requests about tokens see. -/
structure Server where
  db : Db
  stores : TokenStores

namespace Tokens

open Autocommit.Prog

/-- A handler on the database and on the token stores. -/
abbrev ServerHandler (α : Type) := Autocommit.Prog Server ApiError α

/-! ## Verifying a token -/

inductive AuthError
  | MissingAuth
  | InvalidAuthHeader
  | InvalidToken
  | InvalidSignature
  | TokenExpired
  | TokenRevoked
  | DeviceMismatch
  deriving DecidableEq, Repr

/-- The text of an error (`Display`). -/
def AuthError.display : AuthError → String
  | .MissingAuth => "Missing authorization header"
  | .InvalidAuthHeader => "Invalid authorization header format"
  | .InvalidToken => "Invalid token"
  | .InvalidSignature => "Invalid signature"
  | .TokenExpired => "Token expired"
  | .TokenRevoked => "Token has been revoked"
  | .DeviceMismatch => "Device fingerprint mismatch"

/-- A token as a request brings it: claims that the Oracle has signed, or what is wrong with the
header or the text before the claims are looked at. -/
abbrev Bearer := Except AuthError Claims

def verifyToken (now : Time) (token : Bearer) : Except AuthError Claims := do
  let claims ← token
  if claims.isExpired now then .error .TokenExpired else .ok claims

/-- The extractor of `AuthenticatedUser`; `fingerprint` is the header `X-Device-Fingerprint`. -/
def authenticate (env : StoreEnv) (token : Bearer) (fingerprint : Option String)
    (stores : TokenStores) : Except AuthError AuthenticatedUser := do
  let claims ← verifyToken env.now token
  if claims.typ = .Refresh then .error .InvalidToken
  else if stores.isTokenBlacklisted env claims.jti.text then .error .TokenRevoked
  else match claims.dfp with
    | some tokenDfp =>
        let requestDfp := fingerprint.getD ""
        if Text.isEmpty requestDfp then .error .DeviceMismatch
        else if requestDfp = tokenDfp then .ok claims.user
        else .error .DeviceMismatch
    | none => .ok claims.user

/-! ## Statements -/

/-- `SELECT COALESCE(role, 'user') FROM users WHERE wallet_address = $1`. -/
def userRole (wallet : String) (s : Server) : Option String := (s.db.userOf wallet).map User.role

/-- A change of the token stores. -/
def onStores (f : TokenStores → TokenStores) : ServerHandler Unit :=
  write fun s => .ok { s with stores := f s.stores }

/-! ## The login of a wallet -/

structure ChallengeResponse where
  challenge : String
  expiresIn : Nat
  deriving DecidableEq

def loginChallenge (env : Env) : String :=
  "xrpl-vault-auth-login:" ++ (env.uuid 0).text ++ ":" ++ toString (Time.timestamp env.now)

def getLoginChallenge (env : Env) (store : StoreEnv) : ServerHandler ChallengeResponse := do
  onStores (TokenStores.storeChallenge store (env.uuid 0).text (loginChallenge env) "*")
  pure { challenge := loginChallenge env, expiresIn := 300 }

def isWalletAddress (wallet : String) : Bool :=
  Text.startsWith wallet "r" && decide (25 ≤ Text.len wallet)

def walletChallenge (env : Env) (wallet : String) : String :=
  "xrpl-vault-auth:" ++ wallet ++ ":" ++ (env.uuid 0).text ++ ":"
    ++ toString (Time.timestamp env.now)

def getChallenge (env : Env) (store : StoreEnv) (wallet : String) :
    ServerHandler ChallengeResponse := do
  require (isWalletAddress wallet) (.Validation "Invalid wallet address")
  onStores (TokenStores.storeChallenge store (env.uuid 0).text (walletChallenge env wallet) wallet)
  pure { challenge := walletChallenge env wallet, expiresIn := 300 }

structure AuthRequest where
  walletAddress : String
  publicKey : String
  signature : String
  challenge : String
  deviceFingerprint : Option String
  deriving DecidableEq

structure TokenResponse where
  accessToken : Claims
  tokenType : String
  expiresIn : Nat
  refreshToken : Option Claims
  role : Option String
  deriving DecidableEq

/-- The tokens of an answer. -/
def TokenResponse.tokens (answer : TokenResponse) : List Claims :=
  answer.accessToken :: answer.refreshToken.toList

def isLoginChallenge (challenge : String) : Bool :=
  Text.startsWith challenge "xrpl-vault-auth:" || Text.startsWith challenge "xrpl-vault-auth-login:"

/-- The pair of tokens of a wallet login. -/
def walletTokens (env : Env) (req : AuthRequest) (role : String) : TokenResponse where
  accessToken := match req.deviceFingerprint with
    | some dfp => .newAccessDeviceBound env.now (env.uuid 0) req.walletAddress 1 role dfp
    | none => .newAccessWithRole env.now (env.uuid 0) req.walletAddress 1 role
  tokenType := "Bearer"
  expiresIn := 3600
  refreshToken := some (match req.deviceFingerprint with
    | some dfp => .newRefreshDeviceBound env.now (env.uuid 1) req.walletAddress 7 dfp
    | none => .newRefresh env.now (env.uuid 1) req.walletAddress 7)
  role := some role

def getToken (x : XrplCrypto) (env : Env) (store : StoreEnv) (req : AuthRequest) :
    ServerHandler TokenResponse := do
  require (isWalletAddress req.walletAddress) (.Validation "Invalid wallet address")
  require (isLoginChallenge req.challenge) (.Validation "Invalid challenge format")
  let found ← read fun s =>
    (s.stores.verifyAndConsumeChallenge store req.challenge req.walletAddress).1
  onStores fun stores =>
    (stores.verifyAndConsumeChallenge store req.challenge req.walletAddress).2
  require found (.Unauthorized
    "Challenge not found, expired, or already used. Please request a new challenge.")
  let userExists ← read fun s => (s.db.userOf req.walletAddress).isSome
  require userExists (.NotFound
    ("User " ++ req.walletAddress ++ " not registered. Please register first."))
  let isValid ← lift (Pre.mapErr (fun e => .Unauthorized ("Invalid signature: " ++ e.display))
    (XrplVerify.verifyXrplSignature x req.publicKey req.challenge req.signature))
  require isValid (.Unauthorized "Signature verification failed")
  let role ← read (userRole req.walletAddress)
  pure (walletTokens env req (role.getD "user"))

/-! ## Logout -/

/-- `now` is the clock when the handler picks the time up to which the token is revoked. -/
def logout (auth : AuthenticatedUser) (now : Time) (store : StoreEnv) : ServerHandler Unit :=
  onStores (TokenStores.blacklistToken store auth.tokenId (now.timestamp + 3600))

/-! ## Refreshing -/

def refreshRevoked : ApiError := .Unauthorized ("Refresh token has been revoked. "
  ++ "Possible token theft detected — please re-authenticate.")

/-- The successors of a refresh token. -/
def refreshedTokens (env : Env) (claims : Claims) (role : String) : TokenResponse where
  accessToken := .newAccessWithRole env.now (env.uuid 0) claims.sub 1 role
  tokenType := "Bearer"
  expiresIn := 3600
  refreshToken := some (.newRefresh env.now (env.uuid 1) claims.sub 7)
  role := some role

/-- The claims of a refresh token that is not expired. -/
def verifyRefreshToken (now : Time) (token : Bearer) : Except ApiError Claims := do
  let claims ← Pre.mapErr (fun e => ApiError.Unauthorized ("Invalid refresh token: " ++ e.display))
    (verifyToken now token)
  ensure (decide (claims.typ = .Refresh)) (.Unauthorized "Not a refresh token")
  .ok claims

/-- `check` and `revoke` are the two calls to the token stores. -/
def refreshToken (check revoke : StoreEnv) (env : Env) (token : Bearer) :
    ServerHandler TokenResponse := do
  let claims ← lift (verifyRefreshToken check.now token)
  let revoked ← read fun s => s.stores.isTokenBlacklisted check claims.jti.text
  require (!revoked) refreshRevoked
  onStores (TokenStores.blacklistToken revoke claims.jti.text claims.exp)
  let role? ← read (userRole claims.sub)
  let role ← expect role? (.Unauthorized "User no longer exists")
  pure (refreshedTokens env claims role)

/-! ## What a call can do -/

lemma verifyToken_eq_ok {now : Time} {token : Bearer} {claims : Claims}
    (h : verifyToken now token = .ok claims) :
    token = .ok claims ∧ claims.isExpired now = false := by
  obtain ⟨c, hc, hlive⟩ := bind_eq_ok h
  split_ifs at hlive with hexpired
  obtain rfl := Except.ok.inj hlive
  exact ⟨hc, by simpa using hexpired⟩

/-- A caller has an access token that is neither expired nor revoked. -/
lemma authenticate_eq_ok {env : StoreEnv} {token : Bearer} {fingerprint : Option String}
    {stores : TokenStores} {user : AuthenticatedUser}
    (h : authenticate env token fingerprint stores = .ok user) :
    ∃ claims, verifyToken env.now token = .ok claims ∧ claims.typ ≠ .Refresh
      ∧ stores.isTokenBlacklisted env claims.jti.text = false ∧ user = claims.user := by
  obtain ⟨claims, hclaims, h⟩ := bind_eq_ok h
  split_ifs at h with htyp hrevoked
  refine ⟨claims, hclaims, htyp, by simpa using hrevoked, ?_⟩
  cases hdfp : claims.dfp with
  | none =>
      rw [hdfp] at h
      exact (Except.ok.inj h).symm
  | some dfp =>
      simp only [hdfp] at h
      split_ifs at h
      exact (Except.ok.inj h).symm

/-- What `getToken` asks of a login: a challenge that is taken out, a known wallet, and a
signature under the key that the request brings. -/
structure Presentable (x : XrplCrypto) (store : StoreEnv) (req : AuthRequest) (s : Server) : Prop
    where
  wallet : isWalletAddress req.walletAddress = true
  format : isLoginChallenge req.challenge = true
  found : (s.stores.verifyAndConsumeChallenge store req.challenge req.walletAddress).1 = true
  known : (s.db.userOf req.walletAddress).isSome = true
  signed : XrplVerify.verifyXrplSignature x req.publicKey req.challenge req.signature = .ok true

/-- The server after the challenge has been looked for. -/
def consumed (store : StoreEnv) (req : AuthRequest) (s : Server) : Server :=
  { s with stores := (s.stores.verifyAndConsumeChallenge store req.challenge req.walletAddress).2 }

inductive LogsIn (x : XrplCrypto) (env : Env) (store : StoreEnv) (req : AuthRequest) (s : Server) :
    Except ApiError TokenResponse → Server → Prop
  | Refused (e : ApiError) : LogsIn x env store req s (.error e) s
  | Spent (e : ApiError) : LogsIn x env store req s (.error e) (consumed store req s)
  | Issued (role : String) : Presentable x store req s →
      LogsIn x env store req s (.ok (walletTokens env req role)) (consumed store req s)

theorem getToken_spec (x : XrplCrypto) (env : Env) (store : StoreEnv) (req : AuthRequest)
    (s : Server) : wp (getToken x env store req) (LogsIn x env store req s) s := by
  refine wp_require_bind (fun _ => .Refused _) fun hwallet => ?_
  refine wp_require_bind (fun _ => .Refused _) fun hformat => wp_read_bind ?_
  refine wp_write_bind (fun _ h => nomatch h) fun s₁ hs₁ => ?_
  cases hs₁
  refine wp_require_bind (fun _ => .Spent _) fun hfound => wp_read_bind ?_
  refine wp_require_bind (fun _ => .Spent _) fun hknown => ?_
  refine wp_lift_bind (fun _ _ => .Spent _) fun isValid hsigned => ?_
  refine wp_require_bind (fun _ => .Spent _) fun hvalid => wp_read_bind (wp_pure ?_)
  rw [hvalid] at hsigned
  exact .Issued _ ⟨hwallet, hformat, hfound, hknown, Pre.eq_ok_of_mapErr hsigned⟩

/-- What `refreshToken` asks of a token before it revokes it. -/
structure Refreshable (check : StoreEnv) (token : Bearer) (s : Server) (claims : Claims) : Prop
    where
  verified : verifyRefreshToken check.now token = .ok claims
  live : s.stores.isTokenBlacklisted check claims.jti.text = false

/-- The server after a token has been revoked. -/
def revoked (revoke : StoreEnv) (jti : String) (exp : Nat) (s : Server) : Server :=
  { s with stores := s.stores.blacklistToken revoke jti exp }

inductive Refreshes (check revoke : StoreEnv) (env : Env) (token : Bearer) (s : Server) :
    Except ApiError TokenResponse → Server → Prop
  | Refused (e : ApiError) : Refreshes check revoke env token s (.error e) s
  | Spent (claims : Claims) (e : ApiError) : Refreshable check token s claims →
      Refreshes check revoke env token s (.error e) (revoked revoke claims.jti.text claims.exp s)
  | Refreshed (claims : Claims) (role : String) : Refreshable check token s claims →
      userRole claims.sub s = some role →
      Refreshes check revoke env token s (.ok (refreshedTokens env claims role))
        (revoked revoke claims.jti.text claims.exp s)

theorem refreshToken_spec (check revoke : StoreEnv) (env : Env) (token : Bearer) (s : Server) :
    wp (refreshToken check revoke env token) (Refreshes check revoke env token s) s := by
  refine wp_lift_bind (fun _ _ => .Refused _) fun claims hclaims => wp_read_bind ?_
  refine wp_require_bind (fun _ => .Refused _) fun hlive => ?_
  have hrefreshable : Refreshable check token s claims := ⟨hclaims, by simpa using hlive⟩
  refine wp_write_bind (fun _ h => nomatch h) fun s₁ hs₁ => ?_
  cases hs₁
  refine wp_read_bind (wp_expect_bind (fun _ => .Spent claims _ hrefreshable) fun role hrole => ?_)
  exact wp_pure (.Refreshed claims role hrefreshable hrole)

end Tokens

end Vaulted
