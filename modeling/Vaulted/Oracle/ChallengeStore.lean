import Vaulted.Library.Interleaving
import Vaulted.Oracle.TokenStores

/-!
# Challenges, command by command

`store_challenge` and `verify_and_consume_challenge` of `services/app_state.rs` as programs: every
Redis command is a statement, and so is everything that is done under the lock of the memory.

* `Fate` — what becomes of a Redis command.
* `exec` — what a statement answers, and does to the stores.
* `storeChallenge`, `verifyAndConsumeChallenge` — the two programs; `program` — those of the
  requests.
* `run_storeChallenge`, `run_verifyAndConsumeChallenge` — alone, they do what the operations of
  `TokenStores` do.
-/

namespace Vaulted.ChallengeStore

open Interleaving TokenStores

/-! ## The stores -/

/-- A command is executed and answered, is not executed, or is executed and its answer lost. -/
inductive Fate
  | Answered
  | Refused
  | Lost
  deriving DecidableEq

inductive RedisError
  | IoError
  deriving DecidableEq

structure World where
  /-- The clock of the store that executes the statement. -/
  now : Time
  redis : Fate
  /-- Which of several entries an iteration over a hash map finds first. -/
  pick : Nat

inductive Statement
  | Set (nonce challenge wallet : String)
  | Get (nonce : String)
  | Del (nonce : String)
  | Insert (nonce challenge wallet : String)
  | TakeMatching (challenge wallet : String)
  deriving DecidableEq

abbrev Result : Statement → Type
  | .Set _ _ _ => Except RedisError Unit
  | .Get _ => Except RedisError (Option RedisChallenge)
  | .Del _ => Except RedisError Unit
  | .Insert _ _ _ => Unit
  | .TakeMatching _ _ => Bool

/-- What a statement answers, and when it was executed. -/
structure Answer (stmt : Statement) where
  result : Result stmt
  time : Time

/-- What the Oracle hears of a Redis command. -/
def heard {α : Type} (w : World) (result : α) : Except RedisError α :=
  match w.redis with
  | .Answered => .ok result
  | .Refused => .error .IoError
  | .Lost => .error .IoError

/-- A Redis command that writes. -/
def onRedis (w : World) (f : Redis → Redis) (s : TokenStores) : TokenStores :=
  if w.redis = .Refused then s else { s with redis := s.redis.map f }

def delChallenge (nonce : String) (redis : Redis) : Redis :=
  { redis with challenges := redis.challenges.deleteWhere fun r => decide (r.nonce = nonce) }

/-- The challenge of a nonce, until it expires. -/
def liveChallenge (now : Time) (nonce : String) (s : TokenStores) : Option RedisChallenge :=
  (s.redis.bind fun redis => redis.challenges.get? nonce).filter fun r => decide (now < r.expiresAt)

/-- The process finds its memory as it is. -/
def World.env (w : World) : StoreEnv := ⟨w.now, 0, fun _ => true, fun _ => true, w.pick⟩

def exec (stmt : Statement) (w : World) (s : TokenStores) : Answer stmt × TokenStores :=
  match stmt with
  | .Set nonce challenge wallet =>
      (⟨heard w (), w.now⟩,
        onRedis w (setChallenge { nonce, challenge, wallet, expiresAt := w.now + challengeTtl }) s)
  | .Get nonce => (⟨heard w (liveChallenge w.now nonce s), w.now⟩, s)
  | .Del nonce => (⟨heard w (), w.now⟩, onRedis w (delChallenge nonce) s)
  | .Insert nonce challenge wallet =>
      (⟨(), w.now⟩,
        rememberChallenge { nonce, challenge, walletAddress := wallet, createdAt := w.now } s)
  | .TakeMatching challenge wallet =>
      (⟨(consumeInMemory w.env challenge wallet s).1, w.now⟩,
        (consumeInMemory w.env challenge wallet s).2)

/-! ## The programs -/

inductive Reply
  | Stored
  | Verified (accepted : Bool)
  deriving DecidableEq

abbrev Rest := Proc Answer World Reply

/-- `redis` tells whether the process has a connection to Redis. -/
def storeChallenge (redis : Bool) (nonce challenge wallet : String) : Rest :=
  let fallback : Rest := .Exec (.Insert nonce challenge wallet) fun _ _ => .Done .Stored
  if redis then
    .Exec (.Set nonce challenge wallet) fun answer _ =>
      match answer.result with
      | .ok _ => .Done .Stored
      | .error _ => fallback
  else fallback

/-- Is it the challenge that Redis has, and does the wallet match? -/
def isConsumable (challenge wallet : String) : Except RedisError (Option RedisChallenge) → Bool
  | .ok (some row) =>
      decide (row.challenge = challenge) && challengeWalletMatches row.wallet wallet
  | .ok none => false
  | .error _ => false

def verifyAndConsumeChallenge (redis : Bool) (challenge wallet : String) : Rest :=
  match redis, challengeNonce challenge with
  | true, some nonce =>
      .Exec (.Get nonce) fun answer _ =>
        if isConsumable challenge wallet answer.result then
          .Exec (.Del nonce) fun _ _ => .Done (.Verified true)
        else .Done (.Verified false)
  | _, _ => .Exec (.TakeMatching challenge wallet) fun answer _ => .Done (.Verified answer.result)

inductive Request
  | Store (nonce challenge wallet : String)
  | Verify (challenge wallet : String)
  deriving DecidableEq

def program (redis : Bool) : Request → World → Rest
  | .Store nonce challenge wallet, _ => storeChallenge redis nonce challenge wallet
  | .Verify challenge wallet, _ => verifyAndConsumeChallenge redis challenge wallet

/-- The stores, and the calls under way. -/
abbrev System := State TokenStores Request Answer World Reply

abbrev step (redis : Bool) (s : System) (l : Label Request World) : System :=
  Interleaving.step exec (program redis) s l

/-- The system of a process that starts. -/
def started (redis : Bool) : System := ⟨.empty redis, []⟩

/-! ## One call alone -/

/-- The world of a call that nothing interrupts. -/
def worlds (env : StoreEnv) (n : Nat) : World :=
  ⟨env.seen, if env.redis n then .Answered else .Refused, env.pick⟩

/-- **A challenge is put away as `TokenStores.storeChallenge` says.** -/
theorem run_storeChallenge (env : StoreEnv) (nonce challenge wallet : String) (s : TokenStores) :
    (storeChallenge s.redis.isSome nonce challenge wallet).run exec (worlds env) s
      = (.Stored, TokenStores.storeChallenge env nonce challenge wallet s) := by
  obtain ⟨redis, database, challengeStore, tokenBlacklist⟩ := s
  cases redis with
  | none => rfl
  | some redis =>
      cases h : env.redis 0 <;>
        simp [storeChallenge, Proc.run, exec, worlds, heard, onRedis, TokenStores.storeChallenge, h]

/-- `GET` decides, and what it finds is dropped if Redis executes the `DEL`. -/
lemma consumeInRedis_eq (env : StoreEnv) (nonce challenge wallet : String) (redis : Redis) :
    consumeInRedis env nonce challenge wallet redis
      = if isConsumable challenge wallet (heard (worlds env 0)
            ((redis.challenges.get? nonce).filter fun r => decide (env.seen < r.expiresAt))) then
          (true, if env.redis 1 then delChallenge nonce redis else redis)
        else (false, redis) := by
  unfold consumeInRedis
  cases (redis.challenges.get? nonce).filter fun r => decide (env.seen < r.expiresAt) with
  | none => cases h : env.redis 0 <;> simp [heard, worlds, isConsumable, h]
  | some row => cases h : env.redis 0 <;> simp [heard, worlds, isConsumable, delChallenge, h]

/-- **A challenge is taken out as `TokenStores.verifyAndConsumeChallenge` says.** -/
theorem run_verifyAndConsumeChallenge (env : StoreEnv) (challenge wallet : String)
    (s : TokenStores) :
    (verifyAndConsumeChallenge s.redis.isSome challenge wallet).run exec (worlds env) s
      = (.Verified (s.verifyAndConsumeChallenge env challenge wallet).1,
          (s.verifyAndConsumeChallenge env challenge wallet).2) := by
  obtain ⟨redis, database, challengeStore, tokenBlacklist⟩ := s
  cases redis with
  | none => rfl
  | some redis =>
      cases hnonce : challengeNonce challenge with
      | none =>
          simp only [verifyAndConsumeChallenge, TokenStores.verifyAndConsumeChallenge, hnonce,
            Option.isSome, Proc.run]
          rfl
      | some nonce =>
          simp only [verifyAndConsumeChallenge, TokenStores.verifyAndConsumeChallenge, hnonce,
            Option.isSome, consumeInRedis_eq]
          change Proc.run exec (if isConsumable challenge wallet (heard (worlds env 0)
              ((redis.challenges.get? nonce).filter fun r => decide (env.seen < r.expiresAt)))
            then .Exec (.Del nonce) fun _ _ => .Done (Reply.Verified true)
            else .Done (Reply.Verified false)) _ _ = _
          split_ifs with hfound hdel
          · simp [Proc.run, exec, onRedis, worlds, hdel]
          · simp [Proc.run, exec, onRedis, worlds, hdel]
          · rfl

end Vaulted.ChallengeStore
