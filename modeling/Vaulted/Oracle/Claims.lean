import Vaulted.Oracle.StorageToken

/-!
# Token claims

The claims of `auth.rs` and their constructors.  A token is its claims, signed by the Oracle; the
signature is not modelled.
-/

namespace Vaulted

inductive TokenType
  | Access
  | Refresh
  deriving DecidableEq, Repr

structure Claims where
  sub : String
  iat : Nat
  exp : Nat
  typ : TokenType
  jti : Uuid
  role : String
  dfp : Option String
  deriving DecidableEq

namespace Claims

def newAccess (now : Time) (jti : Uuid) (walletAddress : String) (expiresInHours : Nat) :
    Claims where
  sub := walletAddress
  iat := now / 1000000
  exp := (now + expiresInHours * 3600000000) / 1000000
  typ := .Access
  jti := jti
  role := "user"
  dfp := none

def newAccessWithRole (now : Time) (jti : Uuid) (walletAddress : String) (expiresInHours : Nat)
    (role : String) : Claims :=
  { newAccess now jti walletAddress expiresInHours with role }

def newAccessDeviceBound (now : Time) (jti : Uuid) (walletAddress : String)
    (expiresInHours : Nat) (role deviceFingerprint : String) : Claims :=
  { newAccessWithRole now jti walletAddress expiresInHours role with
    dfp := some deviceFingerprint }

def newRefresh (now : Time) (jti : Uuid) (walletAddress : String) (expiresInDays : Nat) :
    Claims where
  sub := walletAddress
  iat := now / 1000000
  exp := (now + expiresInDays * 86400000000) / 1000000
  typ := .Refresh
  jti := jti
  role := "user"
  dfp := none

def newRefreshDeviceBound (now : Time) (jti : Uuid) (walletAddress : String)
    (expiresInDays : Nat) (deviceFingerprint : String) : Claims :=
  { newRefresh now jti walletAddress expiresInDays with dfp := some deviceFingerprint }

end Claims

end Vaulted
