import Vaulted.Library.Runs
import Vaulted.Oracle.Tokens

/-!
# A revoked token stays revoked

A token is revoked in the first of three stores that takes it, and looked up in the first that
answers.  Each choice is made anew, by the calls that happen to fail.

* `Level` — the stores; `level` and `Consults` — which one a revocation is written to, and which
  ones a lookup reads.
* `entry` — until when a store has a token.  `entry_blacklistToken`, `entry_cleanupExpired` and
  `isTokenBlacklisted_iff` say what each operation makes of it.
* `Covers` — a store has a token until some time, and still has it after each operation; `home`
  — the store in question where nothing fails.
* `StaysRevoked` — once revoked, a token is found revoked as long as it would be accepted.
* `Steady` — it is revoked past its last second, and looked up where it has been put.
* `staysRevoked_of_steady` — that is enough.
* `not_staysRevoked` — Redis takes a token, and is down at the lookup.
-/

namespace Vaulted.Revocation

open Tokens TokenStores

/-! ## The stores -/

inductive Level
  | Redis
  | Database
  | Memory
  deriving DecidableEq

/-- Redis is there, and answers the call. -/
def usesRedis (env : StoreEnv) (s : TokenStores) : Bool := s.redis.isSome && env.redis 0

/-- The store that a revocation is written to. -/
def level (env : StoreEnv) (s : TokenStores) : Level :=
  if usesRedis env s then .Redis else if env.database 0 then .Database else .Memory

/-- The stores that a lookup reads. -/
def Consults (env : StoreEnv) (s : TokenStores) : Level → Prop
  | .Redis => usesRedis env s = true
  | .Database => usesRedis env s = false ∧ env.database 0 = true
  | .Memory => usesRedis env s = false

/-- Until when a store has a token. -/
def entry (jti : String) (s : TokenStores) : Level → Option Time
  | .Redis => s.redis.bind fun redis => (redis.blacklist.get? jti).map Revocation.expiresAt
  | .Database => (s.database.get? jti).map Revocation.expiresAt
  | .Memory => (s.tokenBlacklist.get? jti).map fun r => Time.ofSeconds r.exp

/-- Until when a token is revoked that is revoked up to the second `exp`.  A row that is in the
database already is not replaced. -/
def revokedUntil (env : StoreEnv) (jti : String) (exp : Nat) (s : TokenStores) : Time :=
  match level env s with
  | .Redis => env.seen + Time.ofSeconds (max (exp - env.now.timestamp) 1)
  | .Database => (entry jti s .Database).getD (Time.ofSeconds exp)
  | .Memory => Time.ofSeconds exp

/-! ## What the operations do -/

/-- The three ways in which a token is revoked. -/
lemma blacklistToken_cases (env : StoreEnv) (jti : String) (exp : Nat) (s : TokenStores) :
    (∃ redis, s.redis = some redis ∧ level env s = .Redis
      ∧ blacklistToken env jti exp s = { s with redis := some (setRevoked
          { jti, expiresAt := env.seen + Time.ofSeconds (max (exp - env.now.timestamp) 1) } redis) })
    ∨ (level env s = .Database
      ∧ blacklistToken env jti exp s = insertRevoked { jti, expiresAt := Time.ofSeconds exp } s)
    ∨ level env s = .Memory ∧ blacklistToken env jti exp s = rememberRevoked { jti, exp } s := by
  unfold blacklistToken level usesRedis
  cases s.redis with
  | none => cases env.database 0 <;> simp
  | some redis => cases env.redis 0 <;> cases env.database 0 <;> simp

/-- **A revocation writes one store.** -/
theorem entry_blacklistToken (env : StoreEnv) (jti : String) (exp : Nat) (s : TokenStores)
    (jti' : String) (ℓ : Level) :
    entry jti' (blacklistToken env jti exp s) ℓ
      = if ℓ = level env s ∧ jti' = jti then some (revokedUntil env jti exp s)
        else entry jti' s ℓ := by
  rcases blacklistToken_cases env jti exp s with
    ⟨redis, hredis, hlevel, hstores⟩ | ⟨hlevel, hstores⟩ | ⟨hlevel, hstores⟩
  · rw [hstores, revokedUntil, hlevel]
    cases ℓ with
    | Redis =>
        simp only [entry, hredis, Option.bind_some, setRevoked, Table.get?_upsert, true_and]
        split_ifs
        · cases redis.blacklist.get? jti <;> rfl
        · rfl
    | Database => simp [entry]
    | Memory => simp [entry]
  · rw [hstores, revokedUntil, hlevel]
    cases ℓ with
    | Redis => simp [entry, insertRevoked]
    | Database =>
        simp only [entry, insertRevoked, Table.get?_upsert, true_and]
        split_ifs
        · cases s.database.get? jti <;> rfl
        · rfl
    | Memory => simp [entry, insertRevoked]
  · rw [hstores, revokedUntil, hlevel]
    cases ℓ with
    | Redis => simp [entry, rememberRevoked]
    | Database => simp [entry, rememberRevoked]
    | Memory =>
        simp only [entry, rememberRevoked, Table.get?_upsert, true_and]
        split_ifs
        · cases s.tokenBlacklist.get? jti <;> rfl
        · rfl

/-- The background task drops what is over. -/
theorem entry_cleanupExpired (env : StoreEnv) (s : TokenStores) {jti : String} {ℓ : Level}
    {t : Time} (h : entry jti s ℓ = some t) (ht : env.seen < t) :
    entry jti (cleanupExpired env s) ℓ = some t := by
  cases ℓ with
  | Redis => exact h
  | Database =>
      obtain ⟨row, hrow, rfl⟩ := Option.map_eq_some_iff.mp h
      have hkept : (cleanupExpired env s).database.get? jti = some row := by
        simp only [cleanupExpired]
        split_ifs
        · have hlive : decide (row.expiresAt < env.seen) = false := decide_eq_false (not_lt.mpr ht.le)
          rw [Table.get?_deleteWhere, hrow, Option.filter_some, hlive]
          rfl
        · exact hrow
      rw [entry, hkept]
      rfl
  | Memory =>
      obtain ⟨row, hrow, rfl⟩ := Option.map_eq_some_iff.mp h
      have hsecond : env.now.timestamp < row.exp := by
        have hnow : env.now < row.exp * 1000000 := lt_of_le_of_lt (Nat.le_add_right _ _) ht
        exact Nat.div_lt_of_lt_mul (by rwa [Nat.mul_comm])
      have hkept : (cleanupExpired env s).tokenBlacklist.get? jti = some row := by
        simp only [cleanupExpired]
        rw [Table.get?_deleteWhere, hrow, Option.filter_some, decide_eq_true hsecond]
        rfl
      rw [entry, hkept]
      rfl

/-- **A lookup finds what the stores that it reads have.**  In memory, nothing is over. -/
theorem isTokenBlacklisted_iff (env : StoreEnv) (jti : String) (s : TokenStores) :
    isTokenBlacklisted env jti s = true
      ↔ ∃ ℓ t, Consults env s ℓ ∧ entry jti s ℓ = some t ∧ (ℓ = .Memory ∨ env.seen < t) := by
  have hlevels : ∀ p : Level → Prop, (∃ ℓ, p ℓ) ↔ p .Redis ∨ p .Database ∨ p .Memory :=
    fun p => ⟨fun ⟨ℓ, h⟩ => by cases ℓ <;> simp [h], by rintro (h | h | h) <;> exact ⟨_, h⟩⟩
  rw [hlevels]
  unfold isTokenBlacklisted
  cases hredis : s.redis with
  | none =>
      simp [Consults, usesRedis, hredis, entry, Option.any_eq_true, Option.isSome_iff_exists]
  | some redis =>
      cases hr : env.redis 0 <;>
      simp [Consults, usesRedis, hredis, hr, entry, Option.any_eq_true,
        Option.isSome_iff_exists]

/-! ## Keeping a token -/

/-- A store has the token until the given time. -/
def Covers (late : Time) (jti : String) (s : TokenStores) (ℓ : Level) : Prop :=
  ∃ t, entry jti s ℓ = some t ∧ late ≤ t

variable {late : Time} {jti : String} {s : TokenStores} {ℓ : Level}

lemma covers_blacklistToken {env : StoreEnv} {exp : Nat} (h : late ≤ revokedUntil env jti exp s) :
    Covers late jti (blacklistToken env jti exp s) (level env s) :=
  ⟨_, (entry_blacklistToken env jti exp s jti _).trans (if_pos ⟨rfl, rfl⟩), h⟩

/-- Another revocation of the same token may only prolong it. -/
lemma Covers.blacklistToken (hcovers : Covers late jti s ℓ) {env : StoreEnv} {jti' : String}
    {exp : Nat} (hlasts : jti' = jti → late ≤ revokedUntil env jti' exp s) :
    Covers late jti (blacklistToken env jti' exp s) ℓ := by
  obtain ⟨t, ht, hlate⟩ := hcovers
  by_cases hwrites : ℓ = level env s ∧ jti = jti'
  · obtain ⟨rfl, rfl⟩ := hwrites
    exact covers_blacklistToken (hlasts rfl)
  · exact ⟨t, (entry_blacklistToken env jti' exp s jti ℓ).trans ((if_neg hwrites).trans ht), hlate⟩

lemma Covers.cleanupExpired (hcovers : Covers late jti s ℓ) {env : StoreEnv}
    (hnow : env.seen < late) : Covers late jti (cleanupExpired env s) ℓ := by
  obtain ⟨t, ht, hlate⟩ := hcovers
  exact ⟨t, entry_cleanupExpired env s ht (lt_of_lt_of_le hnow hlate), hlate⟩

lemma Covers.isTokenBlacklisted (hcovers : Covers late jti s ℓ) {env : StoreEnv}
    (hconsults : Consults env s ℓ) (hnow : env.seen < late) :
    isTokenBlacklisted env jti s = true := by
  obtain ⟨t, ht, hlate⟩ := hcovers
  exact (isTokenBlacklisted_iff _ _ _).mpr ⟨ℓ, t, hconsults, ht, .inr (lt_of_lt_of_le hnow hlate)⟩

/-! ## Stores that do not fail -/

def Reliable (env : StoreEnv) : Prop := ∀ n, env.redis n = true ∧ env.database n = true

/-- The store that is used where nothing fails. -/
def home (s : TokenStores) : Level := if s.redis.isSome then .Redis else .Database

lemma level_eq_home {env : StoreEnv} (h : Reliable env) : level env s = home s := by
  simp [level, home, usesRedis, (h 0).1, (h 0).2]

lemma consults_home {env : StoreEnv} (h : Reliable env) : Consults env s (home s) := by
  unfold home
  cases hredis : s.redis <;> simp [Consults, usesRedis, hredis, (h 0).1, (h 0).2]

@[simp] lemma home_blacklistToken (env : StoreEnv) (jti : String) (exp : Nat) (s : TokenStores) :
    home (TokenStores.blacklistToken env jti exp s) = home s := by
  rcases blacklistToken_cases env jti exp s with
    ⟨redis, hredis, -, hstores⟩ | ⟨-, hstores⟩ | ⟨-, hstores⟩ <;> rw [hstores]
  · simp [home, hredis]
  · rfl
  · rfl

/-! ## The system -/

inductive Call
  | Blacklist (env : StoreEnv) (jti : String) (exp : Nat)
  | Check (env : StoreEnv) (jti : String)
  | Cleanup (env : StoreEnv)

namespace Call

def env : Call → StoreEnv
  | Blacklist env _ _ => env
  | Check env _ => env
  | Cleanup env => env

end Call

def step (s : TokenStores) : Call → TokenStores
  | .Blacklist env jti exp => blacklistToken env jti exp s
  | .Check _ _ => s
  | .Cleanup env => cleanupExpired env s

/-- The stores after a run of calls. -/
abbrev exec (s : TokenStores) (calls : List Call) : TokenStores := Runs.exec step s calls

/-- The calls are made one after the other. -/
def Ordered (calls : List Call) : Prop :=
  calls.Pairwise fun earlier later => earlier.env.seen ≤ later.env.now

/-- Once a token is revoked up to its expiry or beyond, it is found revoked at every instant at
which it would still be accepted. -/
def StaysRevoked (token : Claims) (s : TokenStores) (calls : List Call) : Prop :=
  ∀ pre env exp mid env' post,
    calls = pre ++ .Blacklist env token.jti.text exp :: (mid ++ .Check env' token.jti.text :: post) →
    token.exp ≤ exp → verifyToken env'.seen (.ok token) = .ok token →
    isTokenBlacklisted env' token.jti.text
      (exec s (pre ++ .Blacklist env token.jti.text exp :: mid)) = true

/-! ## The condition -/

/-- The first instant at which a token is not accepted any more. -/
def gone (token : Claims) : Time := Time.ofSeconds (token.exp + 1)

/-- The store that a call puts the token into. -/
def emit (token : Claims) (s : TokenStores) : Call → List Level
  | .Blacklist env jti _ => if jti = token.jti.text then [level env s] else []
  | .Check _ _ => []
  | .Cleanup _ => []

/-- The token is revoked past its last second, and a lookup reads a store it has been put into. The
last second counts because a token is still accepted in the second of its expiry, when an entry up
to that instant is over. -/
def guard (token : Claims) (written : List Level) (s : TokenStores) : Call → Prop
  | .Blacklist env jti exp => jti = token.jti.text → gone token ≤ revokedUntil env jti exp s
  | .Check env jti => jti = token.jti.text → written ≠ [] → ∃ ℓ ∈ written, Consults env s ℓ
  | .Cleanup _ => True

def Steady (token : Claims) (s : TokenStores) (calls : List Call) : Prop :=
  Runs.Admits step (emit token) (guard token) s calls

/-! ## A run -/

/-- The stores have the token past its last second wherever it has been put: what a careful
revocation has put there no call takes out before. -/
def Kept (token : Claims) (written : List Level) (s : TokenStores) : Prop :=
  ∀ ℓ ∈ written, Covers (gone token) token.jti.text s ℓ

lemma Kept.step {token : Claims} {written : List Level} {s : TokenStores} {call : Call}
    (hkept : Kept token written s)
    (hguard : guard token written s call ∧ call.env.seen < gone token) :
    Kept token (written ++ emit token s call) (step s call) := by
  intro ℓ hℓ
  cases call with
  | Blacklist env jti exp =>
      rcases List.mem_append.mp hℓ with hold | hnew
      · exact (hkept ℓ hold).blacklistToken hguard.1
      · simp only [emit] at hnew
        split_ifs at hnew with hjti
        · rw [List.mem_singleton.mp hnew]
          subst hjti
          exact covers_blacklistToken (hguard.1 rfl)
        · cases hnew
  | Check env jti => exact hkept ℓ (by simpa [emit] using hℓ)
  | Cleanup env => exact (hkept ℓ (by simpa [emit] using hℓ)).cleanupExpired hguard.2

lemma lt_gone_of_verifyToken {token : Claims} {now : Time}
    (h : verifyToken now (.ok token) = .ok token) : now < gone token := by
  have hlive := (verifyToken_eq_ok h).2
  have hsecond : now.timestamp ≤ token.exp := not_lt.mp (of_decide_eq_false hlive)
  exact (Nat.div_lt_iff_lt_mul (by decide)).mp (Nat.lt_succ_of_le hsecond)

/-- **A token that is revoked past its last second, and looked up where it has been put, stays
revoked.** An entry goes into the first store that takes it, and is looked up in the first one that
answers: these are different ones as soon as Redis fails or comes back. -/
theorem staysRevoked_of_steady {token : Claims} {s : TokenStores} {calls : List Call}
    (hordered : Ordered calls) (hsteady : Steady token s calls) : StaysRevoked token s calls := by
  intro pre env exp mid env' post heq _ hverify
  have hlive := lt_gone_of_verifyToken hverify
  have heq : calls = (pre ++ .Blacklist env token.jti.text exp :: mid)
      ++ .Check env' token.jti.text :: post := by rw [heq]; simp
  generalize hbefore : pre ++ .Blacklist env token.jti.text exp :: mid = before at heq ⊢
  subst heq
  -- everything before the lookup is over before the token is
  have hearly : Runs.Admits step (emit token)
      (fun written s call => guard token written s call ∧ call.env.seen < gone token) s before := by
    intro a call b hab
    refine ⟨hsteady a call (b ++ .Check env' token.jti.text :: post) (by rw [hab]; simp), ?_⟩
    have hle := (List.pairwise_append.mp hordered).2.2 call (by rw [hab]; simp) _
      (List.mem_cons_self)
    exact lt_of_le_of_lt (hle.trans (Nat.le_add_right _ _)) hlive
  have hkept : Kept token (Runs.history step (emit token) s before) (exec s before) :=
    Runs.invariant_run (fun ℓ hℓ => nomatch hℓ) (fun _ _ _ => Kept.step) hearly
  have hwritten : Runs.history step (emit token) s before ≠ [] := by
    refine List.ne_nil_of_mem (a := level env (exec s pre)) ?_
    rw [Runs.mem_history]
    exact ⟨pre, _, mid, hbefore.symm, by simp [emit]⟩
  obtain ⟨ℓ, hℓ, hconsults⟩ := hsteady before _ post rfl rfl hwritten
  exact (hkept ℓ hℓ).isTokenBlacklisted hconsults hlive

/-! ## A lookup without Redis -/

namespace Sample

/-- A call at the given time, with Redis up or down. -/
def during (now : Time) (redis : Bool) : StoreEnv where
  now := now
  lag := 0
  redis _ := redis
  database _ := true
  pick := 0

def token : Claims := .newAccess 0 ⟨"t"⟩ "rAlice" 1

/-- **Redis takes a token, and is down at the lookup.** -/
theorem not_staysRevoked : ¬ StaysRevoked token (.empty true)
    [.Blacklist (during 0 true) "t" 3600, .Check (during 1 false) "t"] := by
  intro hstays
  have hrevoked := hstays [] (during 0 true) 3600 [] (during 1 false) [] rfl (by decide) (by decide)
  exact absurd hrevoked (by decide +kernel)

/-- A token that is revoked for longer, and looked up in Redis again. -/
theorem staysRevoked_in_redis : StaysRevoked token (.empty true)
    [.Blacklist (during 0 true) "t" 3601, .Check (during 1 true) "t"] := by
  refine staysRevoked_of_steady (by simp [Ordered, Call.env, during, StoreEnv.seen]) ?_
  have hcalls : [Call.Blacklist (during 0 true) "t" 3601, .Check (during 1 true) "t"]
      = [.Blacklist (during 0 true) "t" 3601] ++ [.Check (during 1 true) "t"] := rfl
  rw [Steady, hcalls, Runs.admits_concat, ← List.nil_append [Call.Blacklist _ _ _],
    Runs.admits_concat]
  refine ⟨⟨Runs.admits_nil, fun _ => by decide⟩, fun _ _ => ⟨.Redis, by decide, rfl⟩⟩

end Sample

end Vaulted.Revocation
