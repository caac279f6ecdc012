import Mathlib.Data.List.Basic
import Vaulted.Desktop.ClientError
import Vaulted.Library.Interleaving

/-!
# The Oracle client of a session

`get_oracle_client_with_timeout` of `state.rs` gives a client the access token of the session, and
refreshes it when it is about to expire.  The session is behind a lock that every access takes anew,
and a refresh is a request to the Oracle; meanwhile other calls go on.

* `Session` — the tokens of a session, of `session.rs`.
* `Oracle` — the other end of a refresh: a refresh token is good for one.
* `Statement`, `exec` — what is done under the lock, and the request.
* `getOracleClient` — the call.
-/

namespace Vaulted.OracleClient

open Interleaving

/-! ## The session -/

/-- The answer to a refresh, as `refresh_oracle_token_internal` reads it. -/
structure RefreshResponse where
  accessToken : String
  refreshToken : Option String
  expiresIn : Int
  role : Option String
  deriving DecidableEq

/-- Times are in microseconds. -/
structure Session where
  expiresAt : Int
  oracleToken : Option String
  oracleTokenExpiresAt : Option Int
  refreshToken : Option String
  role : Option String
  deriving DecidableEq

/-- What is cleared after a refresh has failed. -/
inductive Cleared
  | Tokens
  | RefreshToken
  | OracleToken
  deriving DecidableEq

namespace Session

def isExpired (s : Session) (now : Int) : Bool := s.expiresAt < now

def updateTokens (s : Session) (now : Int) (r : RefreshResponse) : Session :=
  { s with
    oracleToken := some r.accessToken
    oracleTokenExpiresAt := some (now + r.expiresIn * 1000000)
    refreshToken := r.refreshToken.or s.refreshToken
    role := r.role.or s.role }

def oracleTokenNeedsRefresh (s : Session) (now : Int) : Bool :=
  match s.oracleTokenExpiresAt with
  | some expiresAt => expiresAt - now < 300000000
  | none => s.oracleToken.isSome

def oracleTokenIsExpired (s : Session) (now : Int) : Bool :=
  match s.oracleTokenExpiresAt with
  | some expiresAt => expiresAt < now
  | none => false

def clear (s : Session) : Cleared → Session
  | .Tokens => { s with oracleToken := none, oracleTokenExpiresAt := none, refreshToken := none }
  | .RefreshToken => { s with refreshToken := none }
  | .OracleToken => { s with oracleToken := none, oracleTokenExpiresAt := none }

end Session

/-! ## The Oracle -/

/-- The refresh tokens that there are, and those that have not been used. -/
structure Oracle where
  issued : List String
  live : List String

/-- The tokens that a refresh gets. -/
structure NewTokens where
  accessToken : String
  refreshToken : String
  expiresIn : Int
  role : Option String

def NewTokens.response (new : NewTokens) : RefreshResponse where
  accessToken := new.accessToken
  refreshToken := some new.refreshToken
  expiresIn := new.expiresIn
  role := new.role

def Oracle.refresh (o : Oracle) (token : String) (new : NewTokens) :
    Except String RefreshResponse × Oracle :=
  if token ∈ o.live then
    (.ok new.response,
      { issued := new.refreshToken :: o.issued
        live := new.refreshToken :: o.live.filter (· ≠ token) })
  else (.error "Refresh failed: HTTP 401 Unauthorized", o)

/-! ## Statements -/

/-- A request arrives and is answered, does not arrive, or is not answered. -/
inductive Network
  | Answered
  | Unreachable
  | Unanswered
  deriving DecidableEq

/-- The world at one statement: how the clock is read from then on, and what becomes of a
request. -/
structure Moment where
  now : Nat → Int
  network : Network
  new : NewTokens

structure Memory where
  session : Option Session
  oracle : Oracle

/-- What is cleared is whatever there is; the session that the call has read is only noted. -/
inductive Statement
  | GetSession
  | Refresh (refreshToken : String)
  | UpdateTokens (response : RefreshResponse)
  | Clear (what : Cleared) (read : Session)

abbrev Answer : Statement → Type
  | .GetSession => Except ClientError Session
  | .Refresh _ => Except String RefreshResponse
  | .UpdateTokens _ => Unit
  | .Clear _ _ => Unit

def exec : (stmt : Statement) → Moment → Memory → Answer stmt × Memory
  | .GetSession, m, s =>
      match s.session with
      | some session =>
          (if session.isExpired (m.now 0) then .error .SessionExpired else .ok session, s)
      | none => (.error .NoSession, s)
  | .Refresh refreshToken, m, s =>
      match m.network with
      | .Answered =>
          ((s.oracle.refresh refreshToken m.new).1,
            { s with oracle := (s.oracle.refresh refreshToken m.new).2 })
      | .Unreachable => (.error "HTTP error: error sending request", s)
      | .Unanswered =>
          (.error "HTTP error: operation timed out",
            { s with oracle := (s.oracle.refresh refreshToken m.new).2 })
  | .UpdateTokens response, m, s =>
      ((), { s with session := s.session.map (·.updateTokens (m.now 0) response) })
  | .Clear what _, _, s => ((), { s with session := s.session.map (·.clear what) })

/-! ## The call -/

/-- What a call answers: the token that its client has. -/
abbrev Reply := Except ClientError (Option String)

abbrev Rest := Proc Answer Moment Reply

/-- The access token has expired. -/
def refreshExpired (session : Session) : Rest :=
  match session.refreshToken with
  | some refreshToken =>
      .Exec (.Refresh refreshToken) fun answer _ =>
      match answer with
      | .ok response =>
          .Exec (.UpdateTokens response) fun _ _ => .Done (.ok (some response.accessToken))
      | .error _ =>
          .Exec (.Clear .Tokens session) fun _ _ =>
          .Done (.error (.Auth "Token expired and refresh failed. Please sign in again."))
  | none =>
      .Exec (.Clear .OracleToken session) fun _ _ =>
      .Done (.error (.Auth "Oracle token expired. Please sign in again."))

/-- The access token is about to expire, and still good if it cannot be refreshed. -/
def refreshProactively (session : Session) (token : String) : Rest :=
  match session.refreshToken with
  | some refreshToken =>
      .Exec (.Refresh refreshToken) fun answer _ =>
      match answer with
      | .ok response =>
          .Exec (.UpdateTokens response) fun _ _ => .Done (.ok (some response.accessToken))
      | .error _ =>
          .Exec (.Clear .RefreshToken session) fun _ m =>
          if !session.oracleTokenIsExpired (m.now 0) then .Done (.ok (some token))
          else
            .Exec (.Clear .OracleToken session) fun _ _ =>
            .Done (.error (.Auth "Session expired. Please sign in again."))
  | none => .Done (.ok (some token))

def getOracleClient : Rest :=
  .Exec .GetSession fun session m =>
  match session with
  | .error _ => .Done (.ok none)
  | .ok session =>
      match session.oracleToken with
      | none => .Done (.ok none)
      | some token =>
          if session.oracleTokenIsExpired (m.now 1) then refreshExpired session
          else if session.oracleTokenNeedsRefresh (m.now 2) then refreshProactively session token
          else .Done (.ok (some token))

/-- The session, the Oracle and the calls under way. -/
abbrev Client := State Memory Unit Answer Moment Reply

abbrev step (s : Client) (l : Label Unit Moment) : Client :=
  Interleaving.step exec (fun _ _ => getOracleClient) s l

end Vaulted.OracleClient
