import Vaulted.Library.Runs
import Vaulted.Oracle.Tokens
import Vaulted.Transfer.HonestRequest

/-!
# The login of a wallet

A wallet logs in by signing a challenge.  The signature is checked under the key that the request
brings; that the key belongs to the wallet is not.

* `Pending` — a challenge that waits for its login; `pending` — those of the token stores.
* `Event` — a challenge is issued, or taken out by a login.
* `Backed` — every pending challenge has been issued, and none has been taken out as often as it
  has been issued.
* `Authentic` — whoever gets a token has signed, with the key of his wallet, a challenge that was
  issued for it, is not expired and not used up.
* `Careful` — nobody logs in with a key that is not the wallet's; the stores drop what is taken
  out; and no two wallets differ by their letter case alone.
* `authentic_of_careful` — that is enough.
* `not_authentic` — Mallory's key opens Alice's account.
-/

namespace Vaulted.WalletLogin

open Autocommit.Prog Tokens TokenStores

/-! ## Pending challenges -/

/-- A challenge, the wallet it is for, and when it expires. -/
structure Pending where
  challenge : String
  wallet : String
  expiresAt : Time
  deriving DecidableEq

def ofRedis (r : RedisChallenge) : Pending := ⟨r.challenge, r.wallet, r.expiresAt⟩

def ofMemory (r : StoredChallenge) : Pending :=
  ⟨r.challenge, r.walletAddress, r.createdAt + challengeTtl⟩

/-- The challenges in Redis and in memory. -/
def pending (s : TokenStores) : List Pending :=
  (s.redis.elim [] fun redis => redis.challenges.rows.map ofRedis)
    ++ s.challengeStore.rows.map ofMemory

/-- Is it the challenge in question? -/
def Pending.is (challenge : String) (p : Pending) : Bool := decide (p.challenge = challenge)

/-- How often a challenge is pending. -/
def copies (challenge : String) (s : TokenStores) : Nat := (pending s).countP (Pending.is challenge)

lemma storeChallenge_cases (env : StoreEnv) (nonce challenge wallet : String) (s : TokenStores) :
    (∃ redis, s.redis = some redis ∧ storeChallenge env nonce challenge wallet s
        = { s with redis := some (setChallenge
            { nonce, challenge, wallet, expiresAt := env.seen + challengeTtl } redis) })
      ∨ storeChallenge env nonce challenge wallet s = rememberChallenge
          { nonce, challenge, walletAddress := wallet, createdAt := env.seen } s := by
  unfold storeChallenge
  cases hredis : s.redis with
  | none => exact .inr rfl
  | some redis =>
      cases env.redis 0 with
      | true => exact .inl ⟨redis, rfl, rfl⟩
      | false => exact .inr rfl

/-- A challenge is put away once. -/
theorem copies_storeChallenge (env : StoreEnv) (nonce challenge wallet : String) (s : TokenStores)
    (c : String) : copies c (storeChallenge env nonce challenge wallet s)
      ≤ copies c s + if decide (challenge = c) then 1 else 0 := by
  rcases storeChallenge_cases env nonce challenge wallet s with ⟨redis, hredis, heq⟩ | heq
  · have hle := Table.countP_upsert_le redis.challenges
      (r := { nonce, challenge, wallet, expiresAt := env.seen + challengeTtl })
      (f := fun old => ⟨old.nonce, challenge, wallet, env.seen + challengeTtl⟩)
      (fun _ => rfl) (q := Pending.is c ∘ ofRedis) (fun _ => rfl)
    rw [heq]
    simp only [copies, pending, hredis, setChallenge, Option.elim, List.countP_append,
      List.countP_map]
    exact (Nat.add_le_add_right hle _).trans (Nat.le_of_eq (Nat.add_right_comm _ _ _))
  · have hle := Table.countP_upsert_le s.challengeStore
      (r := { nonce, challenge, walletAddress := wallet, createdAt := env.seen })
      (f := fun old => ⟨old.nonce, challenge, wallet, env.seen⟩) (fun _ => rfl)
      (q := Pending.is c ∘ ofMemory) (fun _ => rfl)
    rw [heq]
    simp only [copies, pending, rememberChallenge, List.countP_append, List.countP_map]
    exact (Nat.add_le_add_left hle _).trans (Nat.le_of_eq (Nat.add_assoc _ _ _).symm)

/-- What is pending after a challenge has been put away. -/
lemma mem_pending_storeChallenge {env : StoreEnv} {nonce challenge wallet : String}
    {s : TokenStores} {p : Pending}
    (h : p ∈ pending (storeChallenge env nonce challenge wallet s)) :
    p ∈ pending s ∨ p = ⟨challenge, wallet, env.seen + challengeTtl⟩ := by
  rcases storeChallenge_cases env nonce challenge wallet s with ⟨redis, hredis, heq⟩ | heq
  · rw [heq] at h
    rcases List.mem_append.mp h with hnew | hmemory
    · obtain ⟨r, hr, rfl⟩ := List.mem_map.mp hnew
      rcases Table.mem_upsert hr with hold | rfl | ⟨old, -, rfl⟩
      · refine .inl (List.mem_append_left _ ?_)
        rw [hredis]
        exact List.mem_map_of_mem hold
      · exact .inr rfl
      · exact .inr rfl
    · exact .inl (List.mem_append_right _ hmemory)
  · rw [heq] at h
    rcases List.mem_append.mp h with hredis | hnew
    · exact .inl (List.mem_append_left _ hredis)
    · obtain ⟨r, hr, rfl⟩ := List.mem_map.mp hnew
      rcases Table.mem_upsert hr with hold | rfl | ⟨old, -, rfl⟩
      · exact .inl (List.mem_append_right _ (List.mem_map_of_mem hold))
      · exact .inr rfl
      · exact .inr rfl

/-- What a login that finds its challenge does: it is pending for the wallet, not expired, and
taken out, unless Redis fails to drop it. -/
structure Takes (env : StoreEnv) (challenge wallet : String) (s s' : TokenStores) : Prop where
  found : ∃ p ∈ pending s, p.challenge = challenge
    ∧ challengeWalletMatches p.wallet wallet = true ∧ env.seen < p.expiresAt
  rest : ∀ p ∈ pending s', p ∈ pending s
  fewer : ∀ c, copies c s' ≤ copies c s
  taken : (s.redis.isSome = true → env.redis 1 = true) → copies challenge s' < copies challenge s

/-- A challenge in Redis is found by the nonce that its text names. -/
lemma takes_inRedis {env : StoreEnv} {nonce challenge wallet : String} {s : TokenStores}
    {redis : Redis} (hredis : s.redis = some redis)
    (hfound : (consumeInRedis env nonce challenge wallet redis).1 = true) :
    Takes env challenge wallet s
      { s with redis := some (consumeInRedis env nonce challenge wallet redis).2 } := by
  unfold consumeInRedis at hfound ⊢
  cases hrow : (redis.challenges.get? nonce).filter fun r => decide (env.seen < r.expiresAt) with
  | none => simp [hrow] at hfound
  | some row =>
      simp only [hrow] at hfound ⊢
      by_cases htakes : (env.redis 0 && decide (row.challenge = challenge)
          && challengeWalletMatches row.wallet wallet) = true
      swap
      · simp [htakes] at hfound
      simp only [htakes, if_true]
      obtain ⟨hget, hlive⟩ := Option.filter_eq_some_iff.mp hrow
      simp only [Bool.and_eq_true, decide_eq_true_eq] at htakes
      obtain ⟨⟨-, rfl⟩, hwallet⟩ := htakes
      have hmem : ofRedis row ∈ redis.challenges.rows.map ofRedis :=
        List.mem_map_of_mem (Table.mem_of_get? hget)
      refine ⟨⟨ofRedis row, ?_, rfl, hwallet, of_decide_eq_true hlive⟩, ?_, ?_, ?_⟩
      · exact List.mem_append_left _ (by rw [hredis]; exact hmem)
      · intro p hp
        rcases List.mem_append.mp hp with hp | hp
        · refine List.mem_append_left _ ?_
          rw [hredis]
          split_ifs at hp
          · exact (List.filter_sublist.map _).subset hp
          · exact hp
        · exact List.mem_append_right _ hp
      · intro c
        simp only [copies, pending, hredis, Option.elim, List.countP_append]
        refine Nat.add_le_add_right ?_ _
        split_ifs
        · exact (List.filter_sublist.map _).countP_le
        · exact le_rfl
      · intro hdel
        have hdel := hdel (by rw [hredis]; rfl)
        simp only [copies, pending, hredis, hdel, if_true, Option.elim, List.countP_append,
          List.countP_map]
        exact Nat.add_lt_add_right (Table.countP_deleteWhere_lt (Table.mem_of_get? hget)
          (decide_eq_true (Table.key_of_get? hget)) (decide_eq_true rfl)) _

lemma takes_inMemory {env : StoreEnv} {challenge wallet : String} {s : TokenStores}
    (hfound : (consumeInMemory env challenge wallet s).1 = true) :
    Takes env challenge wallet s (consumeInMemory env challenge wallet s).2 := by
  unfold consumeInMemory at hfound ⊢
  cases hrow : (matchingChallenges env challenge wallet s)[env.pick %
      (matchingChallenges env challenge wallet s).length]? with
  | none => simp [hrow] at hfound
  | some row =>
      simp only [hrow]
      obtain ⟨hmem, hmatch⟩ := List.mem_filter.mp (List.mem_of_getElem? hrow)
      simp only [Bool.and_eq_true, decide_eq_true_eq] at hmatch
      obtain ⟨⟨rfl, hwallet⟩, hlive⟩ := hmatch
      refine ⟨⟨ofMemory row, ?_, rfl, hwallet, hlive⟩, ?_, ?_, ?_⟩
      · exact List.mem_append_right _ (List.mem_map_of_mem hmem)
      · intro p hp
        rcases List.mem_append.mp hp with hp | hp
        · exact List.mem_append_left _ hp
        · exact List.mem_append_right _ ((List.filter_sublist.map _).subset hp)
      · intro c
        simp only [copies, pending, List.countP_append]
        exact Nat.add_le_add_left (List.filter_sublist.map _).countP_le _
      · intro _
        simp only [copies, pending, List.countP_append, List.countP_map]
        exact Nat.add_lt_add_left (Table.countP_deleteWhere_lt hmem
          (decide_eq_true rfl) (decide_eq_true rfl)) _

/-- **A login takes a challenge that is pending for its wallet**, or leaves all of them. -/
theorem verifyAndConsumeChallenge_cases (env : StoreEnv) (challenge wallet : String)
    (s : TokenStores) :
    ((s.verifyAndConsumeChallenge env challenge wallet).1 = true
      ∧ Takes env challenge wallet s (s.verifyAndConsumeChallenge env challenge wallet).2)
    ∨ s.verifyAndConsumeChallenge env challenge wallet = (false, s) := by
  have memory : (consumeInMemory env challenge wallet s).1 = true
      ∨ consumeInMemory env challenge wallet s = (false, s) := by
    unfold consumeInMemory
    dsimp only
    split
    · exact .inl rfl
    · exact .inr rfl
  unfold verifyAndConsumeChallenge
  cases hredis : s.redis with
  | none => exact memory.imp_left fun h => ⟨h, takes_inMemory h⟩
  | some redis =>
      cases challengeNonce challenge with
      | none => exact memory.imp_left fun h => ⟨h, takes_inMemory h⟩
      | some nonce =>
          have inRedis : (consumeInRedis env nonce challenge wallet redis).1 = true
              ∨ consumeInRedis env nonce challenge wallet redis = (false, redis) := by
            unfold consumeInRedis
            split
            · split_ifs
              · exact .inl rfl
              · exact .inl rfl
              · exact .inr rfl
            · exact .inr rfl
          refine inRedis.imp (fun h => ⟨h, takes_inRedis hredis h⟩) fun h => ?_
          simp only [h, ← hredis]

/-! ## The system -/

inductive Call
  | GetLoginChallenge (env : Env) (store : StoreEnv)
  | GetChallenge (env : Env) (store : StoreEnv) (wallet : String)
  | GetToken (env : Env) (store : StoreEnv) (req : AuthRequest)
  | Cleanup (store : StoreEnv)

/-- A challenge is issued, or taken out by a login. -/
inductive Event
  | Issued (p : Pending)
  | Used (challenge : String)
  deriving DecidableEq

/-- How often a challenge has been issued. -/
def issues (challenge : String) (history : List Event) : Nat :=
  history.countP fun
    | .Issued p => p.is challenge
    | .Used _ => false

/-- How often a challenge has been taken out. -/
def uses (challenge : String) (history : List Event) : Nat := history.count (.Used challenge)

/-- Does a login get as far as to look for its challenge, and find it? -/
def finds (store : StoreEnv) (req : AuthRequest) (s : Server) : Bool :=
  isWalletAddress req.walletAddress && isLoginChallenge req.challenge
    && (s.stores.verifyAndConsumeChallenge store req.challenge req.walletAddress).1

section System

variable (x : XrplCrypto) (sha256 : List UInt8 → List UInt8)

def step (s : Server) : Call → Server
  | .GetLoginChallenge env store => (getLoginChallenge env store s).2
  | .GetChallenge env store wallet => (getChallenge env store wallet s).2
  | .GetToken env store req => (getToken x env store req s).2
  | .Cleanup store => { s with stores := s.stores.cleanupExpired store }

def emit (s : Server) : Call → List Event
  | .GetLoginChallenge env store =>
      [.Issued ⟨loginChallenge env, "*", store.seen + challengeTtl⟩]
  | .GetChallenge env store wallet =>
      if isWalletAddress wallet then
        [.Issued ⟨walletChallenge env wallet, wallet, store.seen + challengeTtl⟩]
      else []
  | .GetToken _ store req => if finds store req s then [.Used req.challenge] else []
  | .Cleanup _ => []

/-- The server after a run of calls. -/
abbrev exec (s : Server) (calls : List Call) : Server := Runs.exec (step x) s calls

/-- What has been issued and taken out in a run. -/
abbrev history (s : Server) (calls : List Call) : List Event :=
  Runs.history (step x) emit s calls

/-- The login is one of the wallet: its key has signed a challenge that has been issued for it, or
for any wallet, that is not expired, and that has been issued more often than it has been used. -/
structure LoginOf (wallet : String) (past : List Event) (store : StoreEnv) (req : AuthRequest) :
    Prop where
  key : XrplVerify.deriveAddressFromPublicKey x sha256 req.publicKey = .ok wallet
  signed : XrplVerify.verifyXrplSignature x req.publicKey req.challenge req.signature = .ok true
  issued : ∃ p, .Issued p ∈ past ∧ p.challenge = req.challenge ∧ (p.wallet = wallet ∨ p.wallet = "*")
    ∧ store.seen < p.expiresAt
  unused : uses req.challenge past < issues req.challenge past

/-- Whoever gets tokens has logged in with the wallet that they name: with the key of the wallet,
and a challenge that has been issued for it and not been used. -/
def Authentic (s : Server) (calls : List Call) : Prop :=
  ∀ pre env store req post answer, calls = pre ++ .GetToken env store req :: post →
    (getToken x env store req (exec x s pre)).1 = .ok answer →
    ∀ token ∈ answer.tokens, LoginOf x sha256 token.sub (history x s pre) store req

/-! ## The condition -/

/-- A key that signs is the wallet's; Redis drops a challenge that is taken out; and no challenge
for another spelling of the wallet is pending, since wallets are compared without regard to letter
case. The first one is what the handler leaves to the client. -/
def guard (s : Server) : Call → Prop
  | .GetToken _ store req =>
      (XrplVerify.verifyXrplSignature x req.publicKey req.challenge req.signature = .ok true →
        XrplVerify.deriveAddressFromPublicKey x sha256 req.publicKey = .ok req.walletAddress)
      ∧ (s.stores.redis.isSome = true → store.redis 1 = true)
      ∧ ∀ p ∈ pending s.stores, p.challenge = req.challenge →
        challengeWalletMatches p.wallet req.walletAddress = true →
        p.wallet = req.walletAddress ∨ p.wallet = "*"
  | _ => True

/-- Every call of the run meets the condition. -/
def Careful (s : Server) (calls : List Call) : Prop :=
  Runs.Admits (step x) emit (fun _ s call => guard x sha256 s call) s calls

end System

/-! ## A step -/

/-- What is pending has been issued, and not taken out yet. Challenges are counted, since one text
may be issued more than once. -/
structure Backed (past : List Event) (s : Server) : Prop where
  issued : ∀ p ∈ pending s.stores, .Issued p ∈ past
  count : ∀ c, uses c past + copies c s.stores ≤ issues c past

lemma issues_append (c : String) (past past' : List Event) :
    issues c (past ++ past') = issues c past + issues c past' := List.countP_append

lemma uses_append (c : String) (past past' : List Event) :
    uses c (past ++ past') = uses c past + uses c past' := List.count_append

lemma Backed.issue {past : List Event} {s : Server} (hbacked : Backed past s) (store : StoreEnv)
    (nonce challenge wallet : String) :
    Backed (past ++ [.Issued ⟨challenge, wallet, store.seen + challengeTtl⟩])
      { s with stores := storeChallenge store nonce challenge wallet s.stores } where
  issued := by
    intro p hp
    rcases mem_pending_storeChallenge hp with hold | rfl
    · exact List.mem_append_left _ (hbacked.issued p hold)
    · exact List.mem_append_right _ (List.mem_singleton_self _)
  count := by
    intro c
    have hold := hbacked.count c
    have hnew := copies_storeChallenge store nonce challenge wallet s.stores c
    have hissued : issues c [.Issued ⟨challenge, wallet, store.seen + challengeTtl⟩]
        = if decide (challenge = c) then 1 else 0 := by
      simp [issues, Pending.is]
    rw [issues_append, uses_append, hissued]
    have hnone : uses c [.Issued ⟨challenge, wallet, store.seen + challengeTtl⟩] = 0 := by
      simp [uses]
    dsimp only
    omega

/-- A login that finds no challenge leaves all of them. -/
lemma getToken_stores (x : XrplCrypto) (env : Env) (store : StoreEnv) (req : AuthRequest)
    (s : Server) : (getToken x env store req s).2 = if finds store req s then consumed store req s
      else s := by
  have hcases := verifyAndConsumeChallenge_cases store req.challenge req.walletAddress s.stores
  show wp (getToken x env store req) (fun _ s' => s' = _) s
  refine wp_require_bind (fun hwallet => by simp [finds, hwallet]) fun hwallet => ?_
  refine wp_require_bind (fun hformat => by simp [finds, hformat]) fun hformat => wp_read_bind ?_
  refine wp_write_bind (fun _ h => nomatch h) fun s₁ hs₁ => ?_
  obtain rfl : s₁ = if finds store req s then consumed store req s else s := by
    rw [← Except.ok.inj hs₁]
    rcases hcases with ⟨hfound, -⟩ | hnone
    · simp [finds, hwallet, hformat, hfound, consumed]
    · simp [finds, hnone]
  refine wp_require_bind (fun _ => rfl) fun _ => wp_read_bind ?_
  refine wp_require_bind (fun _ => rfl) fun _ => ?_
  refine wp_lift_bind (fun _ _ => rfl) fun _ _ => ?_
  exact wp_require_bind (fun _ => rfl) fun _ => wp_read_bind (wp_pure rfl)

/-- The background task drops challenges. -/
lemma Backed.cleanup {past : List Event} {s : Server} (hbacked : Backed past s)
    (store : StoreEnv) : Backed past { s with stores := s.stores.cleanupExpired store } where
  issued := by
    intro p hp
    refine hbacked.issued p ?_
    rcases List.mem_append.mp hp with hp | hp
    · exact List.mem_append_left _ hp
    · exact List.mem_append_right _ ((List.filter_sublist.map _).subset hp)
  count := by
    intro c
    refine le_trans (Nat.add_le_add_left ?_ _) (hbacked.count c)
    simp only [copies, pending, List.countP_append]
    exact Nat.add_le_add_left (List.filter_sublist.map _).countP_le _

/-- **No challenge is taken out more often than it has been issued.** -/
theorem Backed.step {x : XrplCrypto} {sha256 : List UInt8 → List UInt8} {past : List Event}
    {s : Server} {call : Call} (hbacked : Backed past s) (hguard : guard x sha256 s call) :
    Backed (past ++ emit s call) (step x s call) := by
  cases call with
  | GetLoginChallenge env store => exact hbacked.issue store _ _ _
  | GetChallenge env store wallet =>
      simp only [WalletLogin.step, emit, getChallenge]
      cases hwallet : isWalletAddress wallet with
      | true => exact hbacked.issue store _ _ _
      | false =>
          rw [if_neg Bool.false_ne_true, List.append_nil]
          exact hbacked
  | GetToken env store req =>
      simp only [WalletLogin.step, emit, getToken_stores]
      split_ifs with hfinds
      · rcases verifyAndConsumeChallenge_cases store req.challenge req.walletAddress s.stores with
          ⟨-, htakes⟩ | hnone
        · have htaken := htakes.taken hguard.2.1
          refine ⟨fun p hp => List.mem_append_left _ (hbacked.issued p (htakes.rest p hp)), ?_⟩
          intro c
          have hold := hbacked.count c
          have hfewer := htakes.fewer c
          have hissued : issues c [.Used req.challenge] = 0 := by simp [issues]
          rw [issues_append, uses_append, hissued]
          simp only [consumed]
          by_cases hc : req.challenge = c
          · subst hc
            have hused : uses req.challenge [.Used req.challenge] = 1 := by simp [uses]
            omega
          · have hused : uses c [.Used req.challenge] = 0 := by simp [uses, hc]
            omega
        · simp [finds, hnone] at hfinds
      · rw [List.append_nil]
        exact hbacked
  | Cleanup store =>
      simp only [emit, List.append_nil]
      exact hbacked.cleanup store

/-- All tokens of a login name its wallet. -/
lemma sub_of_mem_tokens {env : Env} {req : AuthRequest} {role : String} {token : Claims}
    (h : token ∈ (walletTokens env req role).tokens) : token.sub = req.walletAddress := by
  cases hdfp : req.deviceFingerprint with
  | none =>
      simp only [TokenResponse.tokens, walletTokens, hdfp, Option.toList, List.mem_cons,
        List.not_mem_nil, or_false] at h
      rcases h with rfl | rfl <;> rfl
  | some dfp =>
      simp only [TokenResponse.tokens, walletTokens, hdfp, Option.toList, List.mem_cons,
        List.not_mem_nil, or_false] at h
      rcases h with rfl | rfl <;> rfl

/-! ## A run -/

/-- **Whoever logs in with the key of the wallet, where challenges are dropped and wallets told
apart, gets a token for it.** The handler verifies the signature with the key that comes with the
request, and does not derive the address of that key. -/
theorem authentic_of_careful {x : XrplCrypto} {sha256 : List UInt8 → List UInt8} {s : Server}
    {calls : List Call} (hempty : pending s.stores = []) (hcareful : Careful x sha256 s calls) :
    Authentic x sha256 s calls := by
  rintro pre env store req post answer rfl hok token htoken
  have hinit : Backed [] s := by
    refine ⟨fun p hp => ?_, fun c => ?_⟩
    · rw [hempty] at hp
      cases hp
    · simp [copies, hempty, uses, issues]
  have hbacked : Backed (history x s pre) (exec x s pre) :=
    Runs.invariant_run (I := Backed) hinit (fun _ _ _ h hguard => Backed.step h hguard)
      hcareful.front
  obtain ⟨hkey, -, hspelling⟩ := hcareful pre _ post rfl
  have hspec := getToken_spec x env store req (exec x s pre)
  simp only [wp, hok] at hspec
  generalize (getToken x env store req (exec x s pre)).2 = s' at hspec
  cases hspec with
  | Issued role hpresentable =>
      have hsub := sub_of_mem_tokens htoken
      rcases verifyAndConsumeChallenge_cases store req.challenge req.walletAddress
        (exec x s pre).stores with ⟨-, htakes⟩ | hnone
      · obtain ⟨p, hp, hchallenge, hwallet, hlive⟩ := htakes.found
        have hcopies : 0 < copies req.challenge (exec x s pre).stores :=
          List.countP_pos_iff.mpr ⟨p, hp, decide_eq_true hchallenge⟩
        have hcount := hbacked.count req.challenge
        rw [hsub]
        exact
          { key := hkey hpresentable.signed
            signed := hpresentable.signed
            issued := ⟨p, hbacked.issued p hp, hchallenge, hspelling p hp hchallenge hwallet, hlive⟩
            unused := by omega }
      · have hfound := hpresentable.found
        rw [hnone] at hfound
        cases hfound

/-! ## The key of somebody else -/

namespace Sample

open Transfers.Sample

/-- The hexadecimal text of the `n`-th Ed25519 key of XRPL. -/
def key (n : UInt8) : String := Text.hexEncode (0xED :: List.replicate 32 n)

/-- The wallet of a key. -/
def walletOf (n : UInt8) : String :=
  (XrplVerify.deriveAddressFromPublicKey .transparent (fun m => m) (key n)).toOption.getD ""

/-- The database with the wallet of the first key. -/
def server : Server where
  db := { (default : Db) with users := ⟨⟨[user 1 (walletOf 1)], by decide⟩, by decide⟩ }
  stores := .empty false

/-- A call to the stores after a second. -/
def store : StoreEnv where
  now := 1000000
  lag := 0
  redis _ := true
  database _ := true
  pick := 0

def challenge : String := loginChallenge (env ⟨"c"⟩)

/-- A login into the first wallet, signed with the `n`-th key. -/
def request (n : UInt8) : AuthRequest where
  walletAddress := walletOf 1
  publicKey := key n
  signature := Text.hexEncode (Ed25519.sign (List.replicate 32 n)
    (XrplVerify.sha512FirstHalf .transparent (Text.utf8 challenge)))
  challenge := challenge
  deviceFingerprint := none

def issue : Call := .GetLoginChallenge (env ⟨"c"⟩) store

def login (n : UInt8) : Call := .GetToken (env ⟨"t"⟩) store (request n)

/-- **Mallory's key opens Alice's account**: nobody compares it with her wallet. -/
theorem not_authentic : ¬ Authentic .transparent (fun m => m) server [issue, login 2] := by
  intro hauthentic
  have hok : (getToken .transparent (env ⟨"t"⟩) store (request 2)
      (exec .transparent server [issue])).1.toOption
        = some (walletTokens (env ⟨"t"⟩) (request 2) "user") := by decide +kernel
  have hlogin := hauthentic [issue] _ _ _ [] _ rfl (eq_ok_of_toOption hok) _
    (List.mem_cons_self)
  exact absurd (congrArg Except.toOption hlogin.key) (by decide +kernel)

/-- Alice logs in with the key of her wallet. -/
theorem authentic_of_key : Authentic .transparent (fun m => m) server [issue, login 1] := by
  refine authentic_of_careful rfl ?_
  have hcalls : [issue, login 1] = ([] ++ [issue]) ++ [login 1] := rfl
  rw [Careful, hcalls, Runs.admits_concat, Runs.admits_concat]
  refine ⟨⟨Runs.admits_nil, trivial⟩, fun _ => ?_, ?_, ?_⟩
  · have hderives : (XrplVerify.deriveAddressFromPublicKey .transparent (fun m => m)
        (request 1).publicKey).toOption = some (request 1).walletAddress := by decide +kernel
    exact eq_ok_of_toOption hderives
  · intro _
    rfl
  · decide +kernel

end Sample

end Vaulted.WalletLogin
