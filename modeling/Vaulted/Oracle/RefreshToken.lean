import Vaulted.Library.Interleaving
import Vaulted.Oracle.Tokens

/-!
# The rotation of refresh tokens, statement by statement

`refresh_token` as a program that other requests may interleave with.

* `TokenMoment` — the world at one statement.
* `Statement` — the lookup in the blacklist, the write to it, and the lookup of the user.
* `refreshToken` — the handler; `run_refreshToken` — alone, it does what `Tokens.refreshToken` does.
-/

namespace Vaulted

/-- The world at one statement of the handler, and when it goes on. -/
structure TokenMoment where
  store : StoreEnv
  uuid : Nat → Uuid
  /-- Why a query fails, if it does. -/
  failure : Option String

/-- What the handler sees of the world. -/
def TokenMoment.env (m : TokenMoment) : Env :=
  { (default : Env) with now := m.store.now, uuid := m.uuid }

namespace RefreshToken

open Interleaving Tokens Autocommit.Prog

/-! ## Statements -/

inductive Statement
  | IsBlacklisted (jti : String)
  | Blacklist (jti : String) (exp : Nat)
  | UserRole (wallet : String)

/-- What a statement answers. -/
@[reducible] def Answer : Statement → Type
  | .IsBlacklisted _ => Bool
  | .Blacklist _ _ => Unit
  | .UserRole _ => Except String (Option String)

def exec : (s : Statement) → TokenMoment → Server → Answer s × Server
  | .IsBlacklisted jti, m, s => (s.stores.isTokenBlacklisted m.store jti, s)
  | .Blacklist jti exp, m, s => ((), revoked m.store jti exp s)
  | .UserRole wallet, m, s =>
      match m.failure with
      | some e => (.error e, s)
      | none => (.ok (userRole wallet s), s)

/-! ## The handler -/

/-- A refresh under way. -/
abbrev Handling := Proc Answer TokenMoment (Except ApiError TokenResponse)

def refreshToken (token : Bearer) (m : TokenMoment) : Handling :=
  .check id (verifyRefreshToken m.store.now token) fun claims =>
  .Exec (.IsBlacklisted claims.jti.text) fun isBlacklisted _ =>
  .check id (ensure (!isBlacklisted) refreshRevoked) fun _ =>
  .Exec (.Blacklist claims.jti.text claims.exp) fun _ _ =>
  .Exec (.UserRole claims.sub) fun role? m =>
  .check id (Pre.mapErr .Database role?) fun role? =>
  .check id (okOr role? (.Unauthorized "User no longer exists")) fun role =>
  .Done (.ok (refreshedTokens m.env claims role))

/-! ## The handler alone -/

lemma run_onStores {α : Type} {f : TokenStores → TokenStores} {g : Unit → ServerHandler α}
    {s : Server} : (onStores f >>= g) s = g () { s with stores := f s.stores } := rfl

/-- **A refresh that nothing interleaves with** does what the handler does as a whole. -/
theorem run_refreshToken (token : Bearer) (check revoke look : TokenMoment)
    (hlook : look.failure = none) (s : Server) :
    (refreshToken token check).run exec (fun n => [check, revoke].getD n look) s
      = Tokens.refreshToken check.store revoke.store look.env token s := by
  unfold refreshToken Tokens.refreshToken
  cases hverified : verifyRefreshToken check.store.now token with
  | error e => rfl
  | ok claims =>
      rw [run_lift rfl, run_read]
      cases hlive : s.stores.isTokenBlacklisted check.store claims.jti.text with
      | true =>
          simp only [Proc.check, Proc.run, exec, List.getD_cons_zero, hlive]
          rfl
      | false =>
          rw [run_require (c := !false) rfl, run_onStores, run_read]
          simp only [Proc.check, Proc.run, exec, List.getD_cons_zero, hlive]
          simp only [ensure, Bool.not_false, if_true, Proc.run, exec, List.getD_cons_succ,
            List.getD_cons_zero, List.getD_nil, hlook, Pre.mapErr]
          have hrevoked : ({ s with
                stores := s.stores.blacklistToken revoke.store claims.jti.text claims.exp } : Server)
              = revoked revoke.store claims.jti.text claims.exp s := rfl
          rw [hrevoked]
          cases userRole claims.sub (revoked revoke.store claims.jti.text claims.exp s) with
          | none => rfl
          | some role => rfl

end RefreshToken

end Vaulted
