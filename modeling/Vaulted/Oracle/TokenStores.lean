import Vaulted.Library.Table
import Vaulted.Library.Text
import Vaulted.Oracle.StorageToken

/-!
# Challenges and revoked tokens

What `services/app_state.rs` keeps in Redis, if there is one, and else in PostgreSQL or in the
memory of the process: the challenges of the wallet login, and the ids of revoked tokens.

* `TokenStores` — the three stores.
* `StoreEnv` — what the outside world does during one call: the clock, and which calls to Redis
  and to the database fail.
* `storeChallenge`, `verifyAndConsumeChallenge` — a challenge is put away and taken out once.
* `blacklistToken`, `isTokenBlacklisted` — a token is revoked and looked up, each with the
  fallbacks of its own.
* `cleanupExpired` — the background task.
-/

namespace Vaulted

/-- The seconds of a point in time (`timestamp`). -/
def Time.timestamp (t : Time) : Nat := t / 1000000

/-- The start of a second. -/
def Time.ofSeconds (seconds : Nat) : Time := seconds * 1000000

/-! ## The stores -/

/-- A value that Redis keeps until `expiresAt`. -/
structure RedisChallenge where
  nonce : String
  challenge : String
  wallet : String
  expiresAt : Time
  deriving DecidableEq

/-- A revoked token in Redis, or a row of `token_blacklist`. -/
structure Revocation where
  jti : String
  expiresAt : Time
  deriving DecidableEq

structure Redis where
  challenges : Table RedisChallenge.nonce
  blacklist : Table Revocation.jti

structure StoredChallenge where
  nonce : String
  challenge : String
  walletAddress : String
  createdAt : Time
  deriving DecidableEq

/-- A revoked token in memory, with the second in which it goes. -/
structure MemoryRevocation where
  jti : String
  exp : Nat
  deriving DecidableEq

structure TokenStores where
  /-- Redis, where it has been configured and could be reached at the start. -/
  redis : Option Redis
  /-- The table `token_blacklist`. -/
  database : Table Revocation.jti
  challengeStore : Table StoredChallenge.nonce
  tokenBlacklist : Table MemoryRevocation.jti

/-- The stores of a process that starts. -/
def TokenStores.empty (redis : Bool) : TokenStores where
  redis := if redis then some ⟨.empty, .empty⟩ else none
  database := .empty
  challengeStore := .empty
  tokenBlacklist := .empty

structure StoreEnv where
  /-- The clock of the Oracle. -/
  now : Time
  /-- How much later the stores see the call. -/
  lag : Time
  /-- Does the `n`-th Redis command of the call succeed? -/
  redis : Nat → Bool
  /-- Does the `n`-th database statement of the call succeed? -/
  database : Nat → Bool
  /-- Which of several entries an iteration over a hash map finds first. -/
  pick : Nat

/-- The clock of the stores. -/
def StoreEnv.seen (env : StoreEnv) : Time := env.now + env.lag

namespace TokenStores

/-! ## Challenges -/

/-- How long a challenge is good: five minutes. -/
def challengeTtl : Time := 300 * 1000000

def setChallenge (row : RedisChallenge) (redis : Redis) : Redis :=
  { redis with
    challenges := redis.challenges.upsert row
      (fun old => { row with nonce := old.nonce }) (fun _ => rfl) }

/-- The entry of a `HashMap` is replaced. -/
def rememberChallenge (row : StoredChallenge) (s : TokenStores) : TokenStores :=
  { s with
    challengeStore := s.challengeStore.upsert row
      (fun old => { row with nonce := old.nonce }) (fun _ => rfl) }

def storeChallenge (env : StoreEnv) (nonce challenge wallet : String) (s : TokenStores) :
    TokenStores :=
  match s.redis, env.redis 0 with
  | some redis, true =>
      { s with redis := some (setChallenge
          { nonce, challenge, wallet, expiresAt := env.seen + challengeTtl } redis) }
  | _, _ => rememberChallenge
      { nonce, challenge, walletAddress := wallet, createdAt := env.seen } s

/-- The parts of a text between the colons. -/
def splitColon (s : String) : List String := (s.toList.splitOn ':').map String.ofList

def challengeNonce (challenge : String) : Option String :=
  match splitColon challenge with
  | "xrpl-vault-auth" :: _ :: nonce :: _ :: _ => some nonce
  | "xrpl-vault-auth-login" :: nonce :: _ :: _ => some nonce
  | _ => none

def challengeWalletMatches (storedWallet wallet : String) : Bool :=
  decide (storedWallet = "*") || Text.eqIgnoreAsciiCase storedWallet wallet

/-- Redis: `GET`, and `DEL` if the challenge matches; a `DEL` that fails is not noticed. -/
def consumeInRedis (env : StoreEnv) (nonce challenge wallet : String) (redis : Redis) :
    Bool × Redis :=
  match (redis.challenges.get? nonce).filter fun r => decide (env.seen < r.expiresAt) with
  | some row =>
      if env.redis 0 && decide (row.challenge = challenge)
          && challengeWalletMatches row.wallet wallet then
        (true, if env.redis 1 then
            { redis with challenges := redis.challenges.deleteWhere fun r => decide (r.nonce = nonce) }
          else redis)
      else (false, redis)
  | none => (false, redis)

/-- The entries that a challenge can be found as. -/
def matchingChallenges (env : StoreEnv) (challenge wallet : String) (s : TokenStores) :
    List StoredChallenge :=
  s.challengeStore.rows.filter fun r => decide (r.challenge = challenge)
    && challengeWalletMatches r.walletAddress wallet
    && decide (env.seen < r.createdAt + challengeTtl)

def consumeInMemory (env : StoreEnv) (challenge wallet : String) (s : TokenStores) :
    Bool × TokenStores :=
  let rows := matchingChallenges env challenge wallet s
  match rows[env.pick % rows.length]? with
  | some row =>
      (true,
        { s with
          challengeStore := s.challengeStore.deleteWhere fun r => decide (r.nonce = row.nonce) })
  | none => (false, s)

def verifyAndConsumeChallenge (env : StoreEnv) (challenge wallet : String) (s : TokenStores) :
    Bool × TokenStores :=
  match s.redis, challengeNonce challenge with
  | some redis, some nonce =>
      let (found, redis) := consumeInRedis env nonce challenge wallet redis
      (found, { s with redis := some redis })
  | _, _ => consumeInMemory env challenge wallet s

/-! ## Revoked tokens -/

def setRevoked (row : Revocation) (redis : Redis) : Redis :=
  { redis with
    blacklist := redis.blacklist.upsert row (fun old => { row with jti := old.jti }) (fun _ => rfl) }

/-- `INSERT INTO token_blacklist … ON CONFLICT (jti) DO NOTHING`. -/
def insertRevoked (row : Revocation) (s : TokenStores) : TokenStores :=
  { s with database := s.database.upsert row (fun old => old) (fun _ => rfl) }

/-- The entry of a `HashMap` is replaced. -/
def rememberRevoked (row : MemoryRevocation) (s : TokenStores) : TokenStores :=
  { s with
    tokenBlacklist := s.tokenBlacklist.upsert row
      (fun old => { row with jti := old.jti }) (fun _ => rfl) }

def blacklistToken (env : StoreEnv) (jti : String) (exp : Nat) (s : TokenStores) : TokenStores :=
  let ttl := max (exp - env.now.timestamp) 1
  match s.redis, env.redis 0 with
  | some redis, true =>
      { s with redis := some (setRevoked
          { jti, expiresAt := env.seen + Time.ofSeconds ttl } redis) }
  | _, _ =>
      if env.database 0 then insertRevoked { jti, expiresAt := Time.ofSeconds exp } s
      else rememberRevoked { jti, exp } s

def isTokenBlacklisted (env : StoreEnv) (jti : String) (s : TokenStores) : Bool :=
  match s.redis, env.redis 0 with
  | some redis, true => (redis.blacklist.get? jti).any fun r => decide (env.seen < r.expiresAt)
  | _, _ =>
      (env.database 0
          && (s.database.get? jti).any fun r => decide (env.seen < r.expiresAt))
        || (s.tokenBlacklist.get? jti).isSome

/-! ## The background task -/

def cleanupExpired (env : StoreEnv) (s : TokenStores) : TokenStores :=
  { s with
    challengeStore :=
      s.challengeStore.deleteWhere fun r => !decide (env.now < r.createdAt + 600 * 1000000)
    tokenBlacklist := s.tokenBlacklist.deleteWhere fun r => !decide (env.now.timestamp < r.exp)
    database := if env.database 0 then
        s.database.deleteWhere fun r => decide (r.expiresAt < env.seen)
      else s.database }

end TokenStores

end Vaulted
