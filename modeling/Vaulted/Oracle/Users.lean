import Vaulted.Oracle.Identity
import Vaulted.Oracle.Vault

/-!
# Users

`api/users.rs`: a wallet and the PRE public key under which files are encrypted to it.
Registration is public and never touches a user who exists; `updatePublicKey` is for the wallet
itself.
-/

namespace Vaulted.Users

open Autocommit.Prog

/-! ## POST /api/v1/users/register -/

structure RegisterUserRequest where
  walletAddress : String
  prePublicKey : String

structure RegisterUserResponse where
  userId : Uuid
  walletAddress : String
  created : Bool
  deriving DecidableEq

def registerUser (env : Env) (request : RegisterUserRequest) : Handler RegisterUserResponse := do
  require (Text.startsWith request.walletAddress "r" && decide (25 ≤ Text.len request.walletAddress))
    (.Validation "Invalid wallet address")
  require (Identity.isPrePublicKey request.prePublicKey) (.Validation "Invalid PRE public key format")
  let existing ← read fun db => db.userOf request.walletAddress
  match existing with
  | some user =>
      pure { userId := user.id, walletAddress := request.walletAddress, created := false }
  | none => do
      let walletAddress ← lift (varchar 35 request.walletAddress)
      write (Vaults.insertUser
        { id := env.uuid 0, walletAddress, prePublicKey := request.prePublicKey })
      pure { userId := env.uuid 0, walletAddress := request.walletAddress, created := true }

/-! ## PUT /api/v1/users/update-key -/

structure UpdateKeyRequest where
  prePublicKey : String

/-- `UPDATE users SET pre_public_key = $1 WHERE wallet_address = $2`. -/
def setPublicKey (prePublicKey walletAddress : String) (db : Db) : Db :=
  { db with
    users := db.users.update walletAddress (fun user => { user with prePublicKey })
      (fun _ => rfl) (fun _ => rfl) }

def updatePublicKey (auth : AuthenticatedUser) (request : UpdateKeyRequest) : Handler Json := do
  require (Identity.isPrePublicKey request.prePublicKey) (.Validation "Invalid PRE public key format")
  let updated ← read fun db => (db.userOf auth.walletAddress).isSome
  write fun db => .ok (setPublicKey request.prePublicKey auth.walletAddress db)
  require updated (.NotFound "User not found")
  pure (.Obj [("success", .Boolean true), ("message", .Str "Public key updated")])

/-! ## GET /api/v1/users/:wallet_address/public-key -/

structure UserPublicKeyResponse where
  walletAddress : String
  prePublicKey : String
  deriving DecidableEq

def getPublicKey (walletAddress : String) : Handler UserPublicKeyResponse := do
  let user? ← read fun db => db.userOf walletAddress
  let user ← expect user? (.NotFound ("User " ++ walletAddress ++ " not found"))
  pure { walletAddress, prePublicKey := user.prePublicKey }

/-! ## What a call can do -/

inductive RegistersUser (env : Env) (request : RegisterUserRequest) (db : Db) : Db → Prop
  | Unchanged : RegistersUser env request db db
  | Registered (walletAddress : String) (db' : Db) : db.userOf request.walletAddress = none →
      varchar 35 request.walletAddress = .ok walletAddress →
      Vaults.insertUser { id := env.uuid 0, walletAddress, prePublicKey := request.prePublicKey } db
        = .ok db' →
      RegistersUser env request db db'

theorem registerUser_spec (env : Env) (request : RegisterUserRequest) (db : Db) :
    wp (registerUser env request) (fun _ => RegistersUser env request db) db := by
  refine wp_require_bind (fun _ => .Unchanged) fun _ => ?_
  refine wp_require_bind (fun _ => .Unchanged) fun _ => wp_read_bind ?_
  cases hexisting : db.userOf request.walletAddress with
  | some user => exact wp_pure .Unchanged
  | none =>
      refine wp_lift_bind (fun _ _ => .Unchanged) fun w hw => ?_
      refine wp_write_bind (fun _ _ => .Unchanged) fun db' hdb' => wp_pure ?_
      exact .Registered w db' hexisting hw hdb'

/-- Only the row of the caller's wallet is written. -/
theorem updatePublicKey_spec (auth : AuthenticatedUser) (request : UpdateKeyRequest) (db : Db) :
    wp (updatePublicKey auth request) (fun _ db' => db' = db
      ∨ Identity.isPrePublicKey request.prePublicKey = true
        ∧ db' = setPublicKey request.prePublicKey auth.walletAddress db) db := by
  refine wp_require_bind (fun _ => .inl rfl) fun hkey => wp_read_bind ?_
  refine wp_write_bind (fun _ h => nomatch h) fun db' hdb' => ?_
  cases hdb'
  exact wp_require_bind (fun _ => .inr ⟨hkey, rfl⟩) fun _ => wp_pure (.inr ⟨hkey, rfl⟩)

end Vaulted.Users
