import Vaulted.Library.OneTime
import Vaulted.Oracle.ChallengeStore

/-!
# A challenge is consumed once

Calls that put challenges away and take them out run at the same time.

* `entries` — what a statement tells of the challenges: one is issued, or tried.
* `ConsumedOnce` — challenges are permits that are used once, and every call answers what it has
  done.
* `guard` — what the code leaves to luck: Redis answers, and no challenge is tried between the
  `GET` that finds it and its `DEL`.
* `challengeFlow` — what follows which statement.
* `Shelf` — what the stores hold is what is outstanding, but for what is about to be dropped.
* `consumedOnce_of_answered` — the guard is enough.
* `not_consumedOnce`, `not_consumedOnce_fallback` — a challenge that two calls take out, and one
  that nobody can take out.
-/

namespace Vaulted.ChallengeStore

open Interleaving TokenStores
open OneTime (Event Legal IssuedOnce Consistent)

/-! ## What is observed -/

/-- For whom a challenge is good, and how long. -/
structure Permit where
  wallet : String
  expiresAt : Time
  deriving DecidableEq

/-- Who tries a challenge, and when. -/
structure Attempt where
  wallet : String
  time : Time
  deriving DecidableEq

/-- A challenge whose wallet was not known when it was issued is good for any. -/
def IssuedTo (issued wallet : String) : Prop := issued = "*" ∨ issued = wallet

instance (issued wallet : String) : Decidable (IssuedTo issued wallet) :=
  inferInstanceAs (Decidable (_ ∨ _))

def Permit.Grants (p : Permit) (q : Attempt) : Prop :=
  IssuedTo p.wallet q.wallet ∧ q.time < p.expiresAt

abbrev Entry := Event String Permit Attempt

/-- What a statement of a request tells. -/
def entries : Request → (stmt : Statement) → Answer stmt → List Entry
  | .Store _ _ _, .Set _ challenge wallet, ⟨.ok _, time⟩ =>
      [.Issued challenge ⟨wallet, time + challengeTtl⟩]
  | .Store _ _ _, .Insert _ challenge wallet, ⟨_, time⟩ =>
      [.Issued challenge ⟨wallet, time + challengeTtl⟩]
  | .Verify challenge wallet, .Get _, ⟨found, time⟩ =>
      [.Tried challenge ⟨wallet, time⟩ (isConsumable challenge wallet found)]
  | .Verify challenge wallet, .TakeMatching _ _, ⟨found, time⟩ =>
      [.Tried challenge ⟨wallet, time⟩ found]
  | _, _, _ => []

/-- A call that stores a challenge has issued it; a call that verifies one has tried it once, and
answers what came of it. -/
def Agrees : Request → List Entry → Reply → Prop
  | .Store _ challenge wallet, h, reply =>
      reply = .Stored ∧ ∃ expiresAt, h = [.Issued challenge ⟨wallet, expiresAt⟩]
  | .Verify challenge wallet, h, reply =>
      ∃ time accepted, reply = .Verified accepted ∧ h = [.Tried challenge ⟨wallet, time⟩ accepted]

section System

variable (redis : Bool) (ls : List (Label Request World))

/-- The system after a run. -/
abbrev run : System := Runs.exec (step redis) (started redis) ls

/-- What a run tells, with the calls. -/
abbrev journal : List (Nat × Entry) :=
  Runs.history (step redis) (logged exec entries) (started redis) ls

/-- Every challenge is a permit that is used once, and every call answers what it has done. The
order is that of the statements which store a challenge and take it out. -/
structure ConsumedOnce : Prop where
  consistent : Consistent Permit.Grants ((journal redis ls).map Prod.snd)
  answered : ∀ i request reply, (run redis ls).threads[i]? = some ⟨request, .Done reply⟩ →
    Agrees request (entriesOf i (journal redis ls)) reply

end System

/-! ## The condition -/

/-- A call is about to drop the challenge of the nonce. -/
def Deleting (s : System) (nonce : String) : Prop := Pending s fun _ stmt => stmt = .Del nonce

instance (s : System) (nonce : String) : Decidable (Deleting s nonce) :=
  inferInstanceAs (Decidable (Pending s fun _ stmt => stmt = .Del nonce))

def Request.Stores (nonce challenge : String) : Request → Prop
  | .Store nonce' challenge' _ => nonce' = nonce ∨ challenge' = challenge
  | .Verify _ _ => False

instance (nonce challenge : String) : (request : Request) →
    Decidable (request.Stores nonce challenge)
  | .Store nonce' challenge' _ =>
      inferInstanceAs (Decidable (nonce' = nonce ∨ challenge' = challenge))
  | .Verify _ _ => inferInstanceAs (Decidable False)

/-- No call that is done has stored the nonce or the challenge. -/
def Fresh (s : System) (nonce challenge : String) : Prop :=
  ∀ t ∈ s.threads, t.next = none → ¬ t.request.Stores nonce challenge

instance (s : System) (nonce challenge : String) : Decidable (Fresh s nonce challenge) :=
  inferInstanceAs (Decidable (∀ t ∈ s.threads, t.next = none → ¬ t.request.Stores nonce challenge))

/-- Where Redis has the challenge that the call looks for, it says so, no other call is about to
drop it, and its wallet is not just another spelling. -/
def Answers (s : System) (w : World) (nonce : String) : Request → Prop
  | .Verify challenge wallet =>
      ∀ row ∈ liveChallenge w.now nonce s.store,
        isConsumable challenge wallet (.ok (some row)) = true →
          w.redis = .Answered ∧ ¬ Deleting s nonce ∧ IssuedTo row.wallet wallet
  | .Store _ _ _ => True

instance (s : System) (w : World) (nonce : String) : (request : Request) →
    Decidable (Answers s w nonce request)
  | .Verify challenge wallet =>
      inferInstanceAs (Decidable (∀ row ∈ liveChallenge w.now nonce s.store,
        isConsumable challenge wallet (.ok (some row)) = true →
          w.redis = .Answered ∧ ¬ Deleting s nonce ∧ IssuedTo row.wallet wallet))
  | .Store _ _ _ => inferInstanceAs (Decidable True)

def Careful (s : System) (w : World) (request : Request) : Statement → Prop
  | .Set nonce challenge _ =>
      w.redis = .Answered ∧ Fresh s nonce challenge ∧ challengeNonce challenge = some nonce
  | .Get nonce => Answers s w nonce request
  | .Del _ => w.redis ≠ .Refused
  | .Insert nonce challenge _ => Fresh s nonce challenge
  | .TakeMatching challenge wallet =>
      ∀ row ∈ matchingChallenges w.env challenge wallet s.store, IssuedTo row.walletAddress wallet

instance (s : System) (w : World) (request : Request) : (stmt : Statement) →
    Decidable (Careful s w request stmt)
  | .Set nonce challenge _ =>
      inferInstanceAs (Decidable
        (w.redis = .Answered ∧ Fresh s nonce challenge ∧ challengeNonce challenge = some nonce))
  | .Get nonce => inferInstanceAs (Decidable (Answers s w nonce request))
  | .Del _ => inferInstanceAs (Decidable (w.redis ≠ .Refused))
  | .Insert nonce challenge _ => inferInstanceAs (Decidable (Fresh s nonce challenge))
  | .TakeMatching challenge wallet =>
      inferInstanceAs (Decidable (∀ row ∈ matchingChallenges w.env challenge wallet s.store,
        IssuedTo row.walletAddress wallet))

/-- The statement that a step executes is careful. -/
def guard (s : System) (l : Label Request World) : Prop :=
  ∀ request stmt w, executes s l = some (request, stmt, w) → Careful s w request stmt

instance (s : System) (l : Label Request World) : Decidable (guard s l) :=
  decidable_of_iff (∀ p ∈ executes s l, Careful s p.2.2 p.1 p.2.1)
    ⟨fun h request stmt w hexecutes => h (request, stmt, w) hexecutes,
      fun h p hexecutes => h p.1 p.2.1 p.2.2 hexecutes⟩

/-! ## What is outstanding -/

def permit (r : RedisChallenge) : Permit := ⟨r.wallet, r.expiresAt⟩

/-- The history `h` fits challenges of which `rows` are stored, and those whose nonce is `taken`
have been accepted already. -/
structure Shelf (h : List Entry) (rows : RedisChallenge → Prop) (taken : String → Prop) :
    Prop where
  legal : Legal Permit.Grants (fun _ => none) h
  once : IssuedOnce h
  outstanding : ∀ challenge p, OneTime.after h challenge = some p
    ↔ ∃ r, rows r ∧ r.challenge = challenge ∧ permit r = p ∧ ¬ taken r.nonce
  unique : ∀ r r', rows r → rows r' → r.nonce = r'.nonce ∨ r.challenge = r'.challenge → r = r'

namespace Shelf

variable {h : List Entry} {rows rows' : RedisChallenge → Prop} {taken taken' : String → Prop}

lemma congr (hs : Shelf h rows taken) (hrows : ∀ r, rows' r ↔ rows r)
    (htaken : ∀ r, rows r → (taken' r.nonce ↔ taken r.nonce)) : Shelf h rows' taken' where
  legal := hs.legal
  once := hs.once
  outstanding := by
    intro challenge p
    rw [hs.outstanding]
    refine exists_congr fun r => ?_
    rw [hrows]
    refine and_congr_right fun hr => ?_
    rw [htaken r hr]
  unique r r' hr hr' := hs.unique r r' ((hrows r).mp hr) ((hrows r').mp hr')

lemma empty : Shelf [] (fun _ => False) taken where
  legal := trivial
  once := List.Pairwise.nil
  outstanding challenge p := by simp [OneTime.after]
  unique r r' hr := hr.elim

/-- A challenge that is new is issued. -/
lemma issued (hs : Shelf h rows taken) {r : RedisChallenge} (hnew : ∀ p, .Issued r.challenge p ∉ h)
    (hrows : ∀ r', rows r' → r'.nonce ≠ r.nonce ∧ r'.challenge ≠ r.challenge)
    (htaken : ¬ taken r.nonce) :
    Shelf (h ++ [.Issued r.challenge (permit r)]) (fun r' => rows r' ∨ r' = r) taken where
  legal := hs.legal.append ⟨trivial, trivial⟩
  once := by
    refine OneTime.issuedOnce_concat.mpr ⟨hs.once, fun k p p' hmem heq => ?_⟩
    rw [← (Event.Issued.inj heq).1] at hmem
    exact hnew p hmem
  outstanding := by
    intro challenge p
    rw [OneTime.after, Runs.exec_concat, OneTime.effect, Function.update_apply]
    split_ifs with hchallenge
    · subst hchallenge
      constructor
      · intro hp
        exact ⟨r, .inr rfl, rfl, Option.some.inj hp, htaken⟩
      · rintro ⟨r', hr' | rfl, heq, rfl, -⟩
        · exact absurd heq (hrows r' hr').2
        · rfl
    · rw [hs.outstanding]
      constructor
      · rintro ⟨r', hr', hrest⟩
        exact ⟨r', .inl hr', hrest⟩
      · rintro ⟨r', hr' | rfl, heq, hrest⟩
        · exact ⟨r', hr', heq, hrest⟩
        · exact absurd heq.symm hchallenge
  unique := by
    have hother : ∀ r', rows r' → ¬ (r'.nonce = r.nonce ∨ r'.challenge = r.challenge) :=
      fun r' hr' => not_or.mpr (hrows r' hr')
    rintro r₁ r₂ (h₁ | rfl) (h₂ | rfl) heq
    · exact hs.unique r₁ r₂ h₁ h₂ heq
    · exact absurd heq (hother r₁ h₁)
    · exact absurd (heq.imp Eq.symm Eq.symm) (hother r₂ h₂)
    · rfl

/-- A challenge that is there is accepted, and then it counts as taken. -/
lemma accepted (hs : Shelf h rows taken) {r : RedisChallenge} {q : Attempt} (hr : rows r)
    (htaken : ¬ taken r.nonce) (hgrants : (permit r).Grants q) :
    Shelf (h ++ [.Tried r.challenge q true]) rows
      (fun nonce => taken nonce ∨ nonce = r.nonce) where
  legal := by
    refine hs.legal.append ⟨iff_of_true rfl ⟨permit r, ?_, hgrants⟩, trivial⟩
    exact (hs.outstanding _ _).mpr ⟨r, hr, rfl, rfl, htaken⟩
  once := OneTime.issuedOnce_concat.mpr ⟨hs.once, fun _ _ _ _ heq => by cases heq⟩
  outstanding := by
    intro challenge p
    rw [OneTime.after, Runs.exec_concat, OneTime.effect, Function.update_apply]
    split_ifs with hchallenge
    · refine iff_of_false (fun hp => by cases hp) ?_
      rintro ⟨r', hr', heq, -, hnot⟩
      rw [hs.unique r' r hr' hr (.inr (heq.trans hchallenge))] at hnot
      exact hnot (.inr rfl)
    · rw [hs.outstanding]
      refine exists_congr fun r' => and_congr_right fun hr' => and_congr_right fun heq =>
        and_congr_right fun _ => not_congr (or_iff_left fun hnonce => hchallenge ?_).symm
      rw [← heq, hs.unique r' r hr' hr (.inl hnonce)]
  unique := hs.unique

/-- A challenge is refused when none that is there grants the attempt. -/
lemma refused (hs : Shelf h rows taken) {challenge : String} {q : Attempt}
    (hnone : ∀ r, rows r → r.challenge = challenge → ¬ taken r.nonce → ¬ (permit r).Grants q) :
    Shelf (h ++ [.Tried challenge q false]) rows taken where
  legal := by
    refine hs.legal.append ⟨iff_of_false Bool.false_ne_true ?_, trivial⟩
    rintro ⟨p, hp, hgrants⟩
    obtain ⟨r, hr, heq, rfl, htaken⟩ := (hs.outstanding _ _).mp hp
    exact hnone r hr heq htaken hgrants
  once := OneTime.issuedOnce_concat.mpr ⟨hs.once, fun _ _ _ _ heq => by cases heq⟩
  outstanding := by
    intro challenge' p
    rw [OneTime.after, Runs.exec_concat, OneTime.effect]
    exact hs.outstanding challenge' p
  unique := hs.unique

/-- What is taken may go. -/
lemma dropped (hs : Shelf h rows taken) {nonce : String} (htaken : taken nonce)
    (hothers : ∀ r, rows r → r.nonce ≠ nonce → (taken' r.nonce ↔ taken r.nonce)) :
    Shelf h (fun r => rows r ∧ r.nonce ≠ nonce) taken' where
  legal := hs.legal
  once := hs.once
  outstanding := by
    intro challenge p
    rw [hs.outstanding]
    refine exists_congr fun r => ?_
    constructor
    · rintro ⟨hr, heq, hp, hnot⟩
      have hnonce : r.nonce ≠ nonce := by
        rintro rfl
        exact hnot htaken
      exact ⟨⟨hr, hnonce⟩, heq, hp, fun h => hnot ((hothers r hr hnonce).mp h)⟩
    · rintro ⟨⟨hr, hnonce⟩, heq, hp, hnot⟩
      exact ⟨hr, heq, hp, fun h => hnot ((hothers r hr hnonce).mpr h)⟩
  unique r r' hr hr' := hs.unique r r' hr.1 hr'.1

end Shelf

/-! ## The flow -/

/-- The statements of a request. -/
def About (redis : Bool) : Request → Statement → Prop
  | .Store nonce challenge wallet, stmt =>
      (redis = true ∧ stmt = .Set nonce challenge wallet) ∨ stmt = .Insert nonce challenge wallet
  | .Verify challenge wallet, stmt =>
      (redis = true ∧ ∃ nonce, challengeNonce challenge = some nonce
          ∧ (stmt = .Get nonce ∨ stmt = .Del nonce))
        ∨ ((redis = true → challengeNonce challenge = none) ∧ stmt = .TakeMatching challenge wallet)

/-- A request begins with the store that it has been told. -/
def Begins (redis : Bool) : Statement → Prop
  | .Set _ _ _ => redis = true
  | .Get _ => redis = true
  | .Insert _ _ _ => redis = false
  | .TakeMatching _ _ => True
  | .Del _ => False

/-- Does the call find its challenge under the nonce? -/
def Finds (nonce : String) : Request → (stmt : Statement) → Answer stmt → Prop
  | .Verify challenge wallet, .Get nonce', answer =>
      nonce' = nonce ∧ isConsumable challenge wallet answer.result = true
  | _, _, _ => False

/-- Memory takes what Redis does not; and what is found is dropped. -/
def Next (request : Request) : (stmt : Statement) → Answer stmt → Statement → Prop
  | .Set nonce challenge wallet, answer, stmt =>
      (∃ e, answer.result = .error e) ∧ stmt = .Insert nonce challenge wallet
  | .Get nonce, answer, stmt => Finds nonce request (.Get nonce) answer ∧ stmt = .Del nonce
  | _, _, _ => False

def challengeFlow (redis : Bool) (request : Request) : Flow Answer Reply where
  begins stmt := About redis request stmt ∧ Begins redis stmt
  refuses _ := False
  next stmt answer stmt' := About redis request stmt' ∧ Next request stmt answer stmt'
  ends stmt answer _ := ∀ nonce, ¬ Finds nonce request stmt answer

/-- **Both programs follow the flow.** -/
theorem flows_program (redis : Bool) (request : Request) (w : World) :
    (program redis request w).Flows (challengeFlow redis request)
      (challengeFlow redis request).refuses (challengeFlow redis request).begins := by
  cases request with
  | Store nonce challenge wallet =>
      rw [program, storeChallenge]
      cases redis with
      | true =>
          refine ⟨⟨.inl ⟨rfl, rfl⟩, rfl⟩, fun answer _ => ?_⟩
          obtain ⟨result, time⟩ := answer
          cases (result : Except RedisError Unit) with
          | ok _ => exact fun _ h => h
          | error e => exact ⟨⟨.inr rfl, ⟨e, rfl⟩, rfl⟩, fun _ _ _ h => h⟩
      | false => exact ⟨⟨.inr rfl, rfl⟩, fun _ _ _ h => h⟩
  | Verify challenge wallet =>
      simp only [program]
      unfold verifyAndConsumeChallenge
      have memory : (redis = true → challengeNonce challenge = none) →
          Proc.Flows (E := World) (challengeFlow redis (.Verify challenge wallet))
            (challengeFlow redis (.Verify challenge wallet)).refuses
            (challengeFlow redis (.Verify challenge wallet)).begins
            (.Exec (.TakeMatching challenge wallet) fun answer _ =>
              .Done (.Verified answer.result)) :=
        fun hmode => ⟨⟨.inr ⟨hmode, rfl⟩, trivial⟩, fun _ _ _ h => h⟩
      cases redis with
      | false => exact memory fun h => by cases h
      | true =>
          cases hnonce : challengeNonce challenge with
          | none => exact memory fun _ => hnonce
          | some nonce =>
              refine ⟨⟨.inl ⟨rfl, nonce, hnonce, .inl rfl⟩, rfl⟩, fun answer _ => ?_⟩
              dsimp only
              split_ifs with hfound
              · exact ⟨⟨.inl ⟨rfl, nonce, hnonce, .inr rfl⟩, ⟨rfl, hfound⟩, rfl⟩, fun _ _ _ h => h⟩
              · exact fun _ h => hfound h.2

/-- **Every call answers what it has done.** -/
theorem agrees_program (redis : Bool) (request : Request) (w : World) :
    (program redis request w).Accounts (fun _ _ => True) (entries request) (Agrees request) [] := by
  cases request with
  | Store nonce challenge wallet =>
      rw [program, storeChallenge]
      cases redis with
      | true =>
          rintro ⟨result, time⟩ _ -
          cases (result : Except RedisError Unit) with
          | ok _ => exact ⟨rfl, _, rfl⟩
          | error e => exact fun _ _ _ => ⟨rfl, _, rfl⟩
      | false => exact fun _ _ _ => ⟨rfl, _, rfl⟩
  | Verify challenge wallet =>
      simp only [program]
      unfold verifyAndConsumeChallenge
      split
      · rintro ⟨found, time⟩ _ -
        dsimp only
        split_ifs with hfound
        · exact fun _ _ _ => ⟨time, true, rfl, by simp [entries, hfound]⟩
        · exact ⟨time, false, rfl, by simp [entries, hfound]⟩
      · rintro ⟨found, time⟩ _ -
        exact ⟨time, found, rfl, rfl⟩

/-! ## The stores -/

def ofMemory (r : StoredChallenge) : RedisChallenge :=
  ⟨r.nonce, r.challenge, r.walletAddress, r.createdAt + challengeTtl⟩

/-- The challenges in Redis and in memory. -/
def kept (s : TokenStores) : List RedisChallenge :=
  (s.redis.elim [] fun redis => redis.challenges.rows) ++ s.challengeStore.rows.map ofMemory

/-- One of the two is in use. -/
structure Mode (redis : Bool) (s : TokenStores) : Prop where
  connected : s.redis.isSome = redis
  memory : redis = true → s.challengeStore.rows = []

section Stores

variable {redis : Bool} {s : TokenStores} {w : World} {nonce challenge wallet : String}

lemma kept_of_redis {r : Redis} (hr : s.redis = some r) (hmemory : s.challengeStore.rows = []) :
    kept s = r.challenges.rows := by
  simp [kept, hr, hmemory]

lemma kept_of_memory (hs : s.redis = none) : kept s = s.challengeStore.rows.map ofMemory := by
  simp [kept, hs]

lemma Mode.inRedis (hs : Mode true s) :
    ∃ r, s.redis = some r ∧ kept s = r.challenges.rows := by
  obtain ⟨r, hr⟩ := Option.isSome_iff_exists.mp hs.connected
  exact ⟨r, hr, kept_of_redis hr (hs.memory rfl)⟩

lemma Mode.inMemory (hs : Mode false s) : s.redis = none :=
  Option.not_isSome_iff_eq_none.mp (by rw [hs.connected]; exact Bool.false_ne_true)

/-- A `SET` of a new nonce adds a challenge. -/
lemma kept_set (hs : Mode true s) (hw : w.redis = .Answered)
    (hnew : ∀ r ∈ kept s, r.nonce ≠ nonce) :
    kept (exec (.Set nonce challenge wallet) w s).2
      = kept s ++ [⟨nonce, challenge, wallet, w.now + challengeTtl⟩] := by
  obtain ⟨r, hr, hkept⟩ := hs.inRedis
  rw [hkept] at hnew ⊢
  have hmemory := hs.memory rfl
  simp only [exec, onRedis, hw, hr, Option.map_some]
  rw [if_neg (by decide)]
  simp only [kept, hmemory, Option.elim, List.map_nil, List.append_nil, setChallenge]
  exact Table.rows_upsert_of_none (Table.get?_eq_none.mpr hnew)

lemma kept_insert (hs : Mode false s) (hnew : ∀ r ∈ kept s, r.nonce ≠ nonce) :
    kept (exec (.Insert nonce challenge wallet) w s).2
      = kept s ++ [⟨nonce, challenge, wallet, w.now + challengeTtl⟩] := by
  have hnone := hs.inMemory
  rw [kept_of_memory hnone] at hnew ⊢
  have hget : s.challengeStore.get? nonce = none :=
    Table.get?_eq_none.mpr fun r hr => hnew _ (List.mem_map_of_mem hr)
  rw [exec, kept_of_memory (s := rememberChallenge _ s) hnone, rememberChallenge,
    Table.rows_upsert_of_none hget, List.map_append]
  rfl

/-- A `DEL` that is executed drops the challenge. -/
lemma mem_kept_del (hs : Mode true s) (hw : w.redis ≠ .Refused) {r : RedisChallenge} :
    r ∈ kept (exec (.Del nonce) w s).2 ↔ r ∈ kept s ∧ r.nonce ≠ nonce := by
  obtain ⟨redis, hr, hkept⟩ := hs.inRedis
  have hmemory := hs.memory rfl
  simp only [exec, onRedis, hr, Option.map_some]
  rw [if_neg hw, hkept]
  simp [kept, hmemory, delChallenge, Table.deleteWhere]

/-- Redis finds the challenge of a nonce until it expires. -/
lemma liveChallenge_eq_some (hs : Mode true s) {row : RedisChallenge} {now : Time} :
    liveChallenge now nonce s = some row
      ↔ row ∈ kept s ∧ row.nonce = nonce ∧ now < row.expiresAt := by
  obtain ⟨redis, hr, hkept⟩ := hs.inRedis
  rw [liveChallenge, hr, Option.bind_some, Option.filter_eq_some_iff, Table.get?_eq_some, hkept,
    decide_eq_true_eq, and_assoc]

/-- Memory gives a challenge that matches, if there is one. -/
lemma consumeInMemory_cases (env : StoreEnv) (challenge wallet : String) (s : TokenStores) :
    (matchingChallenges env challenge wallet s = []
        ∧ consumeInMemory env challenge wallet s = (false, s))
      ∨ ∃ row ∈ matchingChallenges env challenge wallet s,
        consumeInMemory env challenge wallet s = (true,
          { s with
            challengeStore :=
              s.challengeStore.deleteWhere fun r => decide (r.nonce = row.nonce) }) := by
  unfold consumeInMemory
  dsimp only
  cases hrow : (matchingChallenges env challenge wallet s)[env.pick %
      (matchingChallenges env challenge wallet s).length]? with
  | some row => exact .inr ⟨row, List.mem_of_getElem? hrow, rfl⟩
  | none =>
      refine .inl ⟨?_, rfl⟩
      rw [List.getElem?_eq_none_iff] at hrow
      by_contra hne
      exact absurd (Nat.mod_lt _ (List.length_pos_iff.mpr hne)) (Nat.not_lt.mpr hrow)

/-- Memory drops a challenge. -/
lemma mem_kept_deleteWhere (hs : Mode false s) {r : RedisChallenge} :
    r ∈ kept { s with
        challengeStore := s.challengeStore.deleteWhere fun r => decide (r.nonce = nonce) }
      ↔ r ∈ kept s ∧ r.nonce ≠ nonce := by
  have hnone := hs.inMemory
  simp only [kept, hnone, Option.elim, List.nil_append, Table.deleteWhere, List.mem_map,
    List.mem_filter]
  constructor
  · rintro ⟨row, ⟨hmem, hne⟩, rfl⟩
    exact ⟨⟨row, hmem, rfl⟩, by simpa [ofMemory] using hne⟩
  · rintro ⟨⟨row, hmem, rfl⟩, hne⟩
    exact ⟨row, ⟨hmem, by simpa [ofMemory] using hne⟩, rfl⟩

lemma kept_deleteWhere_subset {p : StoredChallenge → Bool} {r : RedisChallenge}
    (h : r ∈ kept { s with challengeStore := s.challengeStore.deleteWhere p }) : r ∈ kept s := by
  rcases List.mem_append.mp h with h | h
  · exact List.mem_append_left _ h
  · exact List.mem_append_right _ ((List.filter_sublist.map _).subset h)

/-- What is in memory matches when it is the challenge, for the wallet, and not expired. -/
lemma mem_matchingChallenges {row : StoredChallenge} :
    row ∈ matchingChallenges w.env challenge wallet s
      ↔ row ∈ s.challengeStore.rows ∧ row.challenge = challenge
        ∧ challengeWalletMatches row.walletAddress wallet = true
        ∧ w.now < row.createdAt + challengeTtl := by
  have henv : w.env.seen = w.now := rfl
  simp only [matchingChallenges, List.mem_filter, Bool.and_eq_true, decide_eq_true_eq, henv,
    and_assoc]

lemma challengeWalletMatches_of_issuedTo {issued : String} (h : IssuedTo issued wallet) :
    challengeWalletMatches issued wallet = true := by
  rcases h with rfl | rfl
  · simp [challengeWalletMatches]
  · simp [challengeWalletMatches, Text.eqIgnoreAsciiCase]

/-- No statement but an `INSERT` changes which of the two is in use. -/
lemma Mode.exec {redis : Bool} (hs : Mode redis s) (stmt : Statement)
    (hinsert : ∀ nonce challenge wallet, stmt = .Insert nonce challenge wallet → redis = false) :
    Mode redis (exec stmt w s).2 := by
  have onRedis : ∀ f, Mode redis (onRedis w f s) := by
    intro f
    unfold ChallengeStore.onRedis
    split_ifs
    · exact hs
    · exact ⟨by rw [Option.isSome_map]; exact hs.connected, hs.memory⟩
  cases stmt with
  | Set nonce challenge wallet => exact onRedis _
  | Get nonce => exact hs
  | Del nonce => exact onRedis _
  | Insert nonce challenge wallet =>
      refine ⟨hs.connected, fun h => ?_⟩
      rw [hinsert _ _ _ rfl] at h
      cases h
  | TakeMatching challenge wallet =>
      rcases consumeInMemory_cases w.env challenge wallet s with ⟨-, heq⟩ | ⟨row, -, heq⟩
      · rw [ChallengeStore.exec, heq]
        exact hs
      · rw [ChallengeStore.exec, heq]
        refine ⟨hs.connected, fun h => ?_⟩
        simp [Table.deleteWhere, hs.memory h]

end Stores

/-! ## A step -/

/-- A call that is done has stored the challenge under the nonce. -/
def StoredBy (s : System) (nonce challenge : String) : Prop :=
  ∃ t ∈ s.threads, t.next = none ∧ ∃ wallet, t.request = .Store nonce challenge wallet

/-- A call is about to turn to memory. -/
def FallingBack (s : System) : Prop :=
  Pending s fun _ stmt => ∃ nonce challenge wallet, stmt = .Insert nonce challenge wallet

/-- What is stored and not about to be dropped is outstanding, and everything that is known of a
nonce or a challenge comes from a call that has stored it. The invariant of a run, with the calls
under way in it. -/
structure Kept (redis : Bool) (journal : List (Nat × Entry)) (s : System) : Prop where
  flowing : Flowing (challengeFlow redis) s
  mode : Mode redis s.store
  inTurn : redis = true → ¬ FallingBack s
  shelf : Shelf (journal.map Prod.snd) (· ∈ kept s.store) (Deleting s)
  rows : ∀ r ∈ kept s.store, StoredBy s r.nonce r.challenge
    ∧ (redis = true → challengeNonce r.challenge = some r.nonce)
  dels : ∀ nonce, Deleting s nonce → ∃ challenge, StoredBy s nonce challenge
  issued : ∀ challenge p, (.Issued challenge p : Entry) ∈ journal.map Prod.snd →
    ∃ nonce, StoredBy s nonce challenge

lemma StoredBy.not_fresh {s : System} {nonce challenge nonce' challenge' : String}
    (h : StoredBy s nonce' challenge') (hfresh : Fresh s nonce challenge) :
    nonce' ≠ nonce ∧ challenge' ≠ challenge := by
  obtain ⟨t, hmem, hnext, wallet, hrequest⟩ := h
  have hstores := hfresh t hmem hnext
  rw [hrequest] at hstores
  exact not_or.mp hstores

/-- The new nonce and the new challenge are unknown. -/
lemma Kept.unknown {redis : Bool} {journal : List (Nat × Entry)} {s : System}
    (hs : Kept redis journal s) {nonce challenge : String} (hfresh : Fresh s nonce challenge) :
    (∀ r ∈ kept s.store, r.nonce ≠ nonce ∧ r.challenge ≠ challenge) ∧ ¬ Deleting s nonce
      ∧ ∀ p, (.Issued challenge p : Entry) ∉ journal.map Prod.snd := by
  refine ⟨fun r hr => (hs.rows r hr).1.not_fresh hfresh, fun hdel => ?_, fun p hissued => ?_⟩
  · obtain ⟨challenge', hstored⟩ := hs.dels nonce hdel
    exact (hstored.not_fresh hfresh).1 rfl
  · obtain ⟨nonce', hstored⟩ := hs.issued challenge p hissued
    exact (hstored.not_fresh hfresh).2 rfl

section Executed

variable {redis : Bool} {journal : List (Nat × Entry)} {s : System} {i : Nat} {request : Request}
  {stmt : Statement} {k : Answer stmt → World → Rest} {w : World}

/-- The system after a call has executed its statement. -/
abbrev executed (s : System) (i : Nat) (request : Request) (stmt : Statement)
    (k : Answer stmt → World → Rest) (w : World) : System :=
  { store := (exec stmt w s.store).2
    threads := s.threads.set i (advance exec request stmt k w s.store) }

lemma StoredBy.executed {nonce challenge : String} (h : StoredBy s nonce challenge)
    (hthread : s.threads[i]? = some ⟨request, .Exec stmt k⟩) :
    StoredBy (executed s i request stmt k w) nonce challenge := by
  obtain ⟨t, hmem, hnext, hrequest⟩ := h
  refine ⟨t, ?_, hnext, hrequest⟩
  obtain ⟨j, hj⟩ := List.getElem?_of_mem hmem
  have hij : i ≠ j := by
    rintro rfl
    obtain rfl := Option.some.inj (hthread.symm.trans hj)
    cases hnext
  exact List.mem_of_getElem? ((List.getElem?_set_ne hij).trans hj)

/-- A call that has not to go on is done. -/
lemma Kept.done (hs : Kept redis journal s)
    (hthread : s.threads[i]? = some ⟨request, .Exec stmt k⟩)
    (hlast : ∀ stmt', ¬ Next request stmt (exec stmt w s.store).1 stmt') {nonce challenge : String}
    {wallet : String} (hrequest : request = .Store nonce challenge wallet) :
    StoredBy (executed s i request stmt k w) nonce challenge := by
  have hlt := (List.getElem?_eq_some_iff.mp hthread).1
  refine ⟨_, List.mem_of_getElem? (List.getElem?_set_self hlt), ?_, wallet, hrequest⟩
  rcases hs.flowing.goesOn hthread (exec stmt w s.store).1 w with
    ⟨stmt', k', hrest, -, hnext⟩ | ⟨a, hrest, -⟩
  · exact absurd hnext (hlast stmt')
  · rw [advance, Thread.next, hrest]

/-- A call is about to drop what it has found, or what it was about to drop before. -/
lemma Kept.deleting_executed (hs : Kept redis journal s)
    (hthread : s.threads[i]? = some ⟨request, .Exec stmt k⟩) {nonce : String}
    (h : Deleting (executed s i request stmt k w) nonce) :
    Deleting s nonce ∨ Finds nonce request stmt (exec stmt w s.store).1 := by
  refine h.of_executed.imp_right fun ⟨stmt', hnext, hdel⟩ => ?_
  subst hdel
  rcases hs.flowing.goesOn hthread (exec stmt w s.store).1 w with
    ⟨stmt', k', hrest, -, hflow⟩ | ⟨a, hrest, -⟩
  · rw [advance, Thread.next, hrest] at hnext
    obtain rfl := Option.some.inj hnext
    cases stmt with
    | Get nonce' =>
        obtain ⟨hfinds, hdel⟩ := hflow
        obtain rfl := Statement.Del.inj hdel
        exact hfinds
    | Set nonce' challenge wallet => cases hflow.2
    | Del nonce' => exact hflow.elim
    | Insert nonce' challenge wallet => exact hflow.elim
    | TakeMatching challenge wallet => exact hflow.elim
  · rw [advance, Thread.next, hrest] at hnext
    cases hnext

/-- What a call finds it is about to drop. -/
lemma Kept.deleting_of_finds (hs : Kept redis journal s)
    (hthread : s.threads[i]? = some ⟨request, .Exec stmt k⟩) {nonce : String}
    (h : Finds nonce request stmt (exec stmt w s.store).1) :
    Deleting (executed s i request stmt k w) nonce := by
  rcases hs.flowing.goesOn hthread (exec stmt w s.store).1 w with
    ⟨stmt', k', hrest, -, hnext⟩ | ⟨a, -, hends⟩
  · cases request with
    | Store nonce' challenge wallet => exact h.elim
    | Verify challenge wallet =>
        cases stmt with
        | Get nonce' =>
            obtain rfl := h.1
            exact pending_advance hthread hrest hnext.2
        | Set nonce' challenge wallet => exact h.elim
        | Del nonce' => exact h.elim
        | Insert nonce' challenge wallet => exact h.elim
        | TakeMatching challenge wallet => exact h.elim
  · exact absurd h (hends nonce)

/-- What is left to show of a statement. -/
lemma Kept.extend (hs : Kept redis journal s)
    (hthread : s.threads[i]? = some ⟨request, .Exec stmt k⟩)
    (hmode : Mode redis (exec stmt w s.store).2)
    (hinTurn : redis = true → ∀ nonce challenge wallet,
      ¬ Next request stmt (exec stmt w s.store).1 (.Insert nonce challenge wallet))
    (hshelf : Shelf (journal.map Prod.snd ++ entries request stmt (exec stmt w s.store).1)
      (· ∈ kept (exec stmt w s.store).2) (Deleting (executed s i request stmt k w)))
    (hrows : ∀ r ∈ kept (exec stmt w s.store).2, r ∈ kept s.store
      ∨ StoredBy (executed s i request stmt k w) r.nonce r.challenge
        ∧ (redis = true → challengeNonce r.challenge = some r.nonce))
    (hissued : ∀ challenge p,
      (.Issued challenge p : Entry) ∈ entries request stmt (exec stmt w s.store).1 →
        ∃ nonce, StoredBy (executed s i request stmt k w) nonce challenge)
    (hfinds : ∀ nonce, Finds nonce request stmt (exec stmt w s.store).1 →
      ∃ r ∈ kept s.store, r.nonce = nonce) :
    Kept redis (journal ++ (entries request stmt (exec stmt w s.store).1).map (Prod.mk i))
      (executed s i request stmt k w) := by
  have hjournal : (journal
      ++ (entries request stmt (exec stmt w s.store).1).map (Prod.mk i)).map Prod.snd
      = journal.map Prod.snd ++ entries request stmt (exec stmt w s.store).1 := by
    simp [Function.comp_def]
  refine ⟨?_, hmode, ?_, ?_, ?_, ?_, ?_⟩
  · have hflowing : Flowing (challengeFlow redis) (step redis s (.Step i w)) :=
      hs.flowing.step (flows_program redis) (.Step i w)
    simpa only [Interleaving.step, hthread] using hflowing
  · intro hredis hfalling
    rcases hfalling.of_executed with h | ⟨stmt', hnext, nonce, challenge, wallet, rfl⟩
    · exact hs.inTurn hredis h
    · rcases hs.flowing.goesOn hthread (exec stmt w s.store).1 w with
        ⟨stmt', k', hrest, -, hflow⟩ | ⟨a, hrest, -⟩
      · rw [advance, Thread.next, hrest] at hnext
        obtain rfl := Option.some.inj hnext
        exact hinTurn hredis _ _ _ hflow
      · rw [advance, Thread.next, hrest] at hnext
        cases hnext
  · rw [hjournal]
    exact hshelf
  · intro r hr
    rcases hrows r hr with hold | hnew
    · exact (hs.rows r hold).imp_left fun h => h.executed hthread
    · exact hnew
  · intro nonce hdel
    rcases hs.deleting_executed hthread hdel with h | h
    · obtain ⟨challenge, hstored⟩ := hs.dels nonce h
      exact ⟨challenge, hstored.executed hthread⟩
    · obtain ⟨r, hr, rfl⟩ := hfinds nonce h
      exact ⟨_, (hs.rows r hr).1.executed hthread⟩
  · intro challenge p hmem
    rw [hjournal] at hmem
    rcases List.mem_append.mp hmem with h | h
    · obtain ⟨nonce, hstored⟩ := hs.issued challenge p h
      exact ⟨nonce, hstored.executed hthread⟩
    · exact hissued challenge p h

/-- A statement that neither finds nor drops leaves what is about to be dropped. -/
lemma Kept.deleting_iff (hs : Kept redis journal s)
    (hthread : s.threads[i]? = some ⟨request, .Exec stmt k⟩) {nonce : String}
    (hfinds : ¬ Finds nonce request stmt (exec stmt w s.store).1) (hdel : stmt ≠ .Del nonce) :
    Deleting (executed s i request stmt k w) nonce ↔ Deleting s nonce :=
  ⟨fun h => (hs.deleting_executed hthread h).resolve_right hfinds,
    fun h => (h.executed hthread _ _).resolve_left hdel⟩

/-- The statements of a call are its own. -/
lemma Kept.about (hs : Kept redis journal s)
    (hthread : s.threads[i]? = some ⟨request, .Exec stmt k⟩) : About redis request stmt := by
  rcases hs.flowing.admits hthread with h | ⟨_, _, h⟩
  · exact h.1
  · exact h.1

/-- A call stores its challenge. -/
lemma Kept.issue (hs : Kept redis journal s)
    (hthread : s.threads[i]? = some ⟨request, .Exec stmt k⟩) {r : RedisChallenge} {wallet : String}
    (hrequest : request = .Store r.nonce r.challenge wallet)
    (hfresh : Fresh s r.nonce r.challenge)
    (hnamed : redis = true → challengeNonce r.challenge = some r.nonce)
    (hmode : Mode redis (exec stmt w s.store).2)
    (hkept : kept (exec stmt w s.store).2 = kept s.store ++ [r])
    (hentries : entries request stmt (exec stmt w s.store).1 = [.Issued r.challenge (permit r)])
    (hlast : ∀ stmt', ¬ Next request stmt (exec stmt w s.store).1 stmt')
    (hdel : ∀ nonce, stmt ≠ .Del nonce) :
    Kept redis (journal ++ (entries request stmt (exec stmt w s.store).1).map (Prod.mk i))
      (executed s i request stmt k w) := by
  have hfinds : ∀ nonce, ¬ Finds nonce request stmt (exec stmt w s.store).1 := by
    intro nonce h
    rw [hrequest] at h
    exact h.elim
  have hstored := hs.done (w := w) hthread hlast hrequest
  obtain ⟨hrows, hnot, hnew⟩ := hs.unknown hfresh
  refine hs.extend hthread hmode (fun _ _ _ _ => hlast _) ?_ ?_ ?_ fun nonce h => (hfinds nonce h).elim
  · rw [hentries]
    refine (hs.shelf.issued hnew hrows hnot).congr (fun r' => ?_) fun r' _ => ?_
    · rw [hkept, List.mem_append, List.mem_singleton]
    · exact hs.deleting_iff hthread (hfinds _) (hdel _)
  · intro r' hr'
    rw [hkept, List.mem_append, List.mem_singleton] at hr'
    refine hr'.imp_right ?_
    rintro rfl
    exact ⟨hstored, hnamed⟩
  · intro challenge p hmem
    rw [hentries, List.mem_singleton] at hmem
    rw [(Event.Issued.inj hmem).1]
    exact ⟨_, hstored⟩

/-- What Redis finds is consumable when Redis says so. -/
lemma isConsumable_heard {challenge wallet : String} {found : Option RedisChallenge} :
    isConsumable challenge wallet (heard w found) = true
      ↔ w.redis = .Answered ∧ ∃ row, found = some row ∧ row.challenge = challenge
        ∧ challengeWalletMatches row.wallet wallet = true := by
  cases hw : w.redis with
  | Answered => cases found <;> simp [heard, hw, isConsumable]
  | Refused => simp [heard, hw, isConsumable]
  | Lost => simp [heard, hw, isConsumable]

/-- A challenge is looked up in Redis. -/
lemma Kept.get {nonce : String} {k : Answer (.Get nonce) → World → Rest} (hs : Kept redis journal s)
    (hthread : s.threads[i]? = some ⟨request, .Exec (.Get nonce) k⟩)
    (hcareful : Careful s w request (.Get nonce)) :
    Kept redis (journal ++ (entries request (.Get nonce) (exec (.Get nonce) w s.store).1).map
        (Prod.mk i)) (executed s i request (.Get nonce) k w) := by
  cases request with
  | Store nonce' challenge wallet =>
      rcases hs.about hthread with ⟨-, h⟩ | h <;> cases h
  | Verify challenge wallet =>
      obtain ⟨rfl, hnonce⟩ : redis = true ∧ challengeNonce challenge = some nonce := by
        rcases hs.about hthread with ⟨hredis, nonce', hnonce, h | h⟩ | ⟨-, h⟩
        · rw [Statement.Get.inj h]
          exact ⟨hredis, hnonce⟩
        · cases h
        · cases h
      have hlive : ∀ {row}, liveChallenge w.now nonce s.store = some row
          ↔ row ∈ kept s.store ∧ row.nonce = nonce ∧ w.now < row.expiresAt :=
        liveChallenge_eq_some hs.mode
      have hfinds : ∀ nonce', Finds nonce' (.Verify challenge wallet) (.Get nonce)
          (exec (.Get nonce) w s.store).1 ↔ nonce = nonce' ∧ isConsumable challenge wallet
            (heard w (liveChallenge w.now nonce s.store)) = true := fun _ => Iff.rfl
      have hentries : entries (.Verify challenge wallet) (.Get nonce)
          (exec (.Get nonce) w s.store).1 = [.Tried challenge ⟨wallet, w.now⟩
            (isConsumable challenge wallet (heard w (liveChallenge w.now nonce s.store)))] := rfl
      have hissued : ∀ challenge' p, (.Issued challenge' p : Entry)
          ∈ entries (.Verify challenge wallet) (.Get nonce) (exec (.Get nonce) w s.store).1 →
          ∃ nonce', StoredBy (executed s i (.Verify challenge wallet) (.Get nonce) k w) nonce'
            challenge' := by
        intro challenge' p hmem
        rw [hentries, List.mem_singleton] at hmem
        cases hmem
      have hinTurn : true = true → ∀ nonce' challenge' wallet', ¬ Next (.Verify challenge wallet)
          (.Get nonce) (exec (.Get nonce) w s.store).1 (.Insert nonce' challenge' wallet') := by
        rintro - nonce' challenge' wallet' ⟨-, h⟩
        cases h
      refine hs.extend hthread hs.mode hinTurn ?_ (fun r hr => .inl hr) hissued ?_
      · rw [hentries]
        cases hfound : isConsumable challenge wallet
            (heard w (liveChallenge w.now nonce s.store)) with
        | true =>
            obtain ⟨-, row, hrow, rfl, hwallet⟩ := isConsumable_heard.mp hfound
            obtain ⟨-, hdel, hissuedTo⟩ := hcareful row hrow
              (by simp [isConsumable, hwallet])
            obtain ⟨hmem, hkey, htime⟩ := hlive.mp hrow
            rw [← hkey] at hdel
            refine (hs.shelf.accepted (q := ⟨wallet, w.now⟩) hmem hdel ⟨hissuedTo, htime⟩).congr
              (fun _ => Iff.rfl) fun r _ => ⟨fun h => ?_, ?_⟩
            · refine (hs.deleting_executed hthread h).imp_right fun h => ?_
              rw [hkey, ((hfinds _).mp h).1]
            · rintro (h | h)
              · exact (h.executed hthread _ _).resolve_left fun h => by cases h
              · exact hs.deleting_of_finds hthread ((hfinds _).mpr ⟨by rw [h, hkey], hfound⟩)
        | false =>
            refine (hs.shelf.refused fun r hr hchallenge hdel hgrants => ?_).congr
              (fun _ => Iff.rfl) fun r _ => hs.deleting_iff hthread (fun h => ?_) (by simp)
            · -- Redis has the challenge, and says so
              have hkey : r.nonce = nonce := by
                have hnamed := (hs.rows r hr).2 rfl
                rw [hchallenge, hnonce] at hnamed
                exact (Option.some.inj hnamed).symm
              have hrow := hlive.mpr ⟨hr, hkey, hgrants.2⟩
              have hwallet : challengeWalletMatches r.wallet wallet = true :=
                challengeWalletMatches_of_issuedTo hgrants.1
              have hw := (hcareful r hrow (by simpa [isConsumable, hchallenge] using hwallet)).1
              rw [isConsumable_heard.mpr ⟨hw, r, hrow, hchallenge, hwallet⟩] at hfound
              cases hfound
            · rw [((hfinds _).mp h).2] at hfound
              cases hfound
      · intro nonce' h
        obtain ⟨rfl, hfound⟩ := (hfinds _).mp h
        obtain ⟨-, row, hrow, -⟩ := isConsumable_heard.mp hfound
        exact ⟨row, (hlive.mp hrow).1, (hlive.mp hrow).2.1⟩

/-- Only Redis has to be told twice. -/
lemma Kept.connected_of_deleting (hs : Kept redis journal s) {nonce : String}
    (h : Deleting s nonce) : redis = true := by
  obtain ⟨j, request, stmt, k, hthread, rfl⟩ := h
  have habout := hs.about hthread
  cases request with
  | Store nonce' challenge wallet => rcases habout with ⟨-, h⟩ | h <;> cases h
  | Verify challenge wallet =>
      rcases habout with ⟨hredis, -⟩ | ⟨-, h⟩
      · exact hredis
      · cases h

/-- A challenge is looked up in memory. -/
lemma Kept.takeMatching {challenge wallet : String}
    {k : Answer (.TakeMatching challenge wallet) → World → Rest} (hs : Kept redis journal s)
    (hthread : s.threads[i]? = some ⟨request, .Exec (.TakeMatching challenge wallet) k⟩)
    (hcareful : Careful s w request (.TakeMatching challenge wallet)) :
    Kept redis (journal ++ (entries request (.TakeMatching challenge wallet)
        (exec (.TakeMatching challenge wallet) w s.store).1).map (Prod.mk i))
      (executed s i request (.TakeMatching challenge wallet) k w) := by
  cases request with
  | Store nonce' challenge' wallet' =>
      rcases hs.about hthread with ⟨-, h⟩ | h <;> cases h
  | Verify challenge' wallet' =>
      obtain ⟨hnone, rfl, rfl⟩ : (redis = true → challengeNonce challenge' = none)
          ∧ challenge = challenge' ∧ wallet = wallet' := by
        rcases hs.about hthread with ⟨-, nonce, -, h | h⟩ | ⟨hnone, h⟩
        · cases h
        · cases h
        · exact ⟨hnone, Statement.TakeMatching.inj h⟩
      have hdeleting : ∀ nonce, Deleting (executed s i (.Verify challenge wallet)
          (.TakeMatching challenge wallet) k w) nonce ↔ Deleting s nonce :=
        fun nonce => hs.deleting_iff hthread (fun h => h) (by simp)
      have hmode : Mode redis (exec (.TakeMatching challenge wallet) w s.store).2 :=
        hs.mode.exec _ (by simp)
      refine hs.extend hthread hmode (fun _ _ _ _ h => h) ?_ ?_ ?_ fun _ h => h.elim
      · simp only [entries, exec]
        rcases consumeInMemory_cases w.env challenge wallet s.store with
          ⟨hempty, heq⟩ | ⟨row, hrow, heq⟩
        · rw [heq]
          refine (hs.shelf.refused fun r hr hchallenge _ hgrants => ?_).congr (fun _ => Iff.rfl)
            fun r _ => hdeleting r.nonce
          cases redis with
          | true =>
              -- what Redis has is named by its nonce
              have hnamed := (hs.rows r hr).2 rfl
              rw [hchallenge, hnone rfl] at hnamed
              cases hnamed
          | false =>
              rw [kept_of_memory hs.mode.inMemory] at hr
              obtain ⟨row, hmem, rfl⟩ := List.mem_map.mp hr
              have hrow := mem_matchingChallenges.mpr ⟨hmem, hchallenge,
                challengeWalletMatches_of_issuedTo hgrants.1, hgrants.2⟩
              rw [hempty] at hrow
              cases hrow
        · rw [heq]
          obtain ⟨hmem, rfl, -, htime⟩ := mem_matchingChallenges.mp hrow
          cases redis with
          | true =>
              rw [hs.mode.memory rfl] at hmem
              cases hmem
          | false =>
              have hr : ofMemory row ∈ kept s.store := by
                rw [kept_of_memory hs.mode.inMemory]
                exact List.mem_map_of_mem hmem
              have hdel : ¬ Deleting s (ofMemory row).nonce :=
                fun h => Bool.false_ne_true (hs.connected_of_deleting h)
              have haccepted := hs.shelf.accepted (q := ⟨wallet, w.now⟩) hr hdel
                ⟨hcareful row hrow, htime⟩
              exact (haccepted.dropped (.inr rfl) fun r _ hne => (or_iff_left hne).symm).congr
                (fun r => mem_kept_deleteWhere hs.mode) fun r _ => hdeleting r.nonce
      · intro r hr
        simp only [exec] at hr
        rcases consumeInMemory_cases w.env challenge wallet s.store with
          ⟨-, heq⟩ | ⟨row, -, heq⟩
        · rw [heq] at hr
          exact .inl hr
        · rw [heq] at hr
          exact .inl (kept_deleteWhere_subset hr)
      · intro challenge' p hmem
        rw [entries, List.mem_singleton] at hmem
        cases hmem

/-- What has been found is dropped. -/
lemma Kept.del {nonce : String} {k : Answer (.Del nonce) → World → Rest} (hs : Kept redis journal s)
    (hthread : s.threads[i]? = some ⟨request, .Exec (.Del nonce) k⟩) (hw : w.redis ≠ .Refused) :
    Kept redis (journal ++ (entries request (.Del nonce) (exec (.Del nonce) w s.store).1).map
        (Prod.mk i)) (executed s i request (.Del nonce) k w) := by
  have hdel : Deleting s nonce := ⟨i, request, _, k, hthread, rfl⟩
  obtain rfl := hs.connected_of_deleting hdel
  have hentries : entries request (.Del nonce) (exec (.Del nonce) w s.store).1 = [] := by
    cases request <;> rfl
  have hfinds : ∀ nonce', ¬ Finds nonce' request (.Del nonce) (exec (.Del nonce) w s.store).1 := by
    intro nonce' h
    cases request <;> exact h
  refine hs.extend hthread (hs.mode.exec _ (by simp)) (fun _ _ _ _ h => h) ?_ ?_ ?_
    fun nonce' h => (hfinds nonce' h).elim
  · rw [hentries, List.append_nil]
    refine (hs.shelf.dropped hdel fun r _ hne => ?_).congr (fun r => mem_kept_del hs.mode hw)
      fun _ _ => Iff.rfl
    exact hs.deleting_iff hthread (hfinds _) fun h => hne (Statement.Del.inj h).symm
  · intro r hr
    exact .inl ((mem_kept_del hs.mode hw).mp hr).1
  · intro challenge p hmem
    rw [hentries] at hmem
    cases hmem

/-- **What a careful statement keeps.** -/
theorem Kept.executed (hs : Kept redis journal s)
    (hthread : s.threads[i]? = some ⟨request, .Exec stmt k⟩) (hcareful : Careful s w request stmt) :
    Kept redis (journal ++ (entries request stmt (exec stmt w s.store).1).map (Prod.mk i))
      (executed s i request stmt k w) := by
  cases stmt with
  | Set nonce challenge wallet =>
      cases request with
      | Verify challenge' wallet' =>
          rcases hs.about hthread with ⟨-, nonce', -, h | h⟩ | ⟨-, h⟩ <;> cases h
      | Store nonce' challenge' wallet' =>
          obtain ⟨rfl, rfl, rfl, rfl⟩ : redis = true ∧ nonce = nonce' ∧ challenge = challenge'
              ∧ wallet = wallet' := by
            rcases hs.about hthread with ⟨hredis, h⟩ | h
            · exact ⟨hredis, Statement.Set.inj h⟩
            · cases h
          obtain ⟨hw, hfresh, hnamed⟩ := hcareful
          refine hs.issue (r := ⟨nonce, challenge, wallet, w.now + challengeTtl⟩) hthread rfl hfresh
            (fun _ => hnamed) (hs.mode.exec _ (by simp)) ?_ ?_ ?_ (by simp)
          · exact kept_set hs.mode hw fun r hr => ((hs.unknown hfresh).1 r hr).1
          · simp [entries, exec, heard, hw, permit]
          · rintro stmt' ⟨⟨e, he⟩, -⟩
            simp [exec, heard, hw] at he
  | Insert nonce challenge wallet =>
      cases request with
      | Verify challenge' wallet' =>
          rcases hs.about hthread with ⟨-, nonce', -, h | h⟩ | ⟨-, h⟩ <;> cases h
      | Store nonce' challenge' wallet' =>
          obtain ⟨rfl, rfl, rfl⟩ : nonce = nonce' ∧ challenge = challenge' ∧ wallet = wallet' := by
            rcases hs.about hthread with ⟨-, h⟩ | h
            · cases h
            · exact Statement.Insert.inj h
          cases redis with
          | true => exact absurd ⟨i, _, _, k, hthread, nonce, challenge, wallet, rfl⟩ (hs.inTurn rfl)
          | false =>
              exact hs.issue (r := ⟨nonce, challenge, wallet, w.now + challengeTtl⟩) hthread rfl
                hcareful (fun h => by cases h) (hs.mode.exec _ fun _ _ _ _ => rfl)
                (kept_insert hs.mode fun r hr => ((hs.unknown hcareful).1 r hr).1) rfl
                (fun _ h => h) (by simp)
  | Get nonce => exact hs.get hthread hcareful
  | Del nonce => exact hs.del hthread hcareful
  | TakeMatching challenge wallet => exact hs.takeMatching hthread hcareful

end Executed

/-! ## A run -/

section Run

variable {redis : Bool}

lemma begins_of_next {request : Request} {w : World} {stmt : Statement}
    (h : Thread.next ⟨request, program redis request w⟩ = some stmt) : Begins redis stmt := by
  have hflows := flows_program redis request w
  cases hrest : program redis request w with
  | Done reply =>
      rw [Thread.next, hrest] at h
      cases h
  | Exec stmt' k =>
      rw [Thread.next, hrest] at h
      obtain rfl := Option.some.inj h
      rw [hrest] at hflows
      exact hflows.1.2

lemma kept_start {journal : List (Nat × Entry)} {s : System} (hs : Kept redis journal s)
    (request : Request) (w : World) : Kept redis journal (step redis s (.Start request w)) := by
  have hstored : ∀ {nonce challenge}, StoredBy s nonce challenge →
      StoredBy (step redis s (.Start request w)) nonce challenge := by
    rintro nonce challenge ⟨t, hmem, h⟩
    exact ⟨t, List.mem_append_left _ hmem, h⟩
  have hdel : ∀ nonce, Deleting (step redis s (.Start request w)) nonce ↔ Deleting s nonce := by
    refine fun nonce => ⟨fun h => h.of_started.resolve_right ?_, fun h => h.started _⟩
    rintro ⟨stmt, hnext, rfl⟩
    exact begins_of_next hnext
  refine ⟨hs.flowing.step (flows_program redis) (.Start request w), hs.mode, ?_, ?_, ?_, ?_, ?_⟩
  · intro hredis h
    rcases h.of_started with h | ⟨stmt, hnext, nonce, challenge, wallet, rfl⟩
    · exact hs.inTurn hredis h
    · rw [begins_of_next hnext] at hredis
      cases hredis
  · exact hs.shelf.congr (fun _ => Iff.rfl) fun r _ => hdel r.nonce
  · exact fun r hr => (hs.rows r hr).imp_left hstored
  · intro nonce h
    obtain ⟨challenge, h⟩ := hs.dels nonce ((hdel nonce).mp h)
    exact ⟨challenge, hstored h⟩
  · intro challenge p h
    obtain ⟨nonce, h⟩ := hs.issued challenge p h
    exact ⟨nonce, hstored h⟩

lemma kept_step {journal : List (Nat × Entry)} {s : System} (hs : Kept redis journal s)
    {l : Label Request World} (hguard : guard s l) :
    Kept redis (journal ++ logged exec entries s l) (step redis s l) := by
  cases l with
  | Start request w =>
      rw [logged, List.append_nil]
      exact kept_start hs request w
  | Step i w =>
      cases hthread : s.threads[i]? with
      | none => simpa only [step, Interleaving.step, logged, hthread, List.append_nil] using hs
      | some t =>
          obtain ⟨request, rest⟩ := t
          cases rest with
          | Done reply =>
              simpa only [step, Interleaving.step, logged, hthread, List.append_nil] using hs
          | Exec stmt k =>
              have hexecutes : executes s (.Step i w) = some (request, stmt, w) := by
                simp only [executes, hthread]
              simpa only [step, Interleaving.step, logged, hthread] using
                hs.executed hthread (hguard request stmt w hexecutes)

lemma kept_started : Kept redis [] (started redis) where
  flowing _ h := by cases h
  mode := by cases redis <;> exact ⟨rfl, fun _ => rfl⟩
  inTurn := by
    rintro - ⟨i, request, stmt, k, hthread, -⟩
    cases hthread
  shelf := by
    have hempty : Shelf [] (fun _ => False) (Deleting (started redis)) := .empty
    refine hempty.congr (fun r => iff_of_false ?_ not_false) fun _ h => h.elim
    cases redis <;> exact List.not_mem_nil
  rows := by cases redis <;> exact fun _ h => by cases h
  dels := by
    rintro nonce ⟨i, request, stmt, k, hthread, -⟩
    cases hthread
  issued _ _ h := by cases h

/-- **A challenge is consumed once**, as long as Redis answers and nothing comes between the `GET`
that finds a challenge and its `DEL`. The memory of the Oracle needs no such condition: there a
challenge is found and taken out in one step. -/
theorem consumedOnce_of_answered {ls : List (Label Request World)}
    (hguard : Runs.Guarded (step redis) guard (started redis) ls) : ConsumedOnce redis ls where
  consistent := by
    have hkept : Kept redis (journal redis ls) (run redis ls) :=
      Runs.invariant_run (I := Kept redis) kept_started (fun _ _ _ h hguard => kept_step h hguard)
        hguard.admits
    exact hkept.shelf.legal.consistent hkept.shelf.once
  answered := by
    intro i request reply hdone
    exact (accounts_run (fun _ _ _ => trivial) (agrees_program redis) _ ls).threads i _ hdone

end Run

/-! ## What goes wrong -/

namespace Sample

def challenge : String := "xrpl-vault-auth-login:n:0"

/-- Redis answers at a point in time, or does not. -/
def atTime (time : Nat) (fate : Fate) : World := ⟨time, fate, 0⟩

/-- A challenge is stored, and verified by two calls, one after the other. -/
def inTurn : List (Label Request World) :=
  [.Start (.Store "n" challenge "*") (atTime 0 .Answered), .Step 0 (atTime 0 .Answered),
    .Start (.Verify challenge "r") (atTime 1 .Answered), .Step 1 (atTime 1 .Answered),
    .Step 1 (atTime 1 .Answered),
    .Start (.Verify challenge "r") (atTime 2 .Answered), .Step 2 (atTime 2 .Answered)]

theorem consumedOnce_inTurn : ConsumedOnce true inTurn :=
  consumedOnce_of_answered (by decide +kernel)

/-- Two calls find the challenge before either of them drops it. -/
def raced : List (Label Request World) :=
  [.Start (.Store "n" challenge "*") (atTime 0 .Answered), .Step 0 (atTime 0 .Answered),
    .Start (.Verify challenge "r") (atTime 1 .Answered),
    .Start (.Verify challenge "s") (atTime 1 .Answered), .Step 1 (atTime 1 .Answered),
    .Step 2 (atTime 1 .Answered), .Step 1 (atTime 2 .Answered), .Step 2 (atTime 2 .Answered)]

lemma journal_raced : (journal true raced).map Prod.snd
    = [.Issued challenge ⟨"*", challengeTtl⟩, .Tried challenge ⟨"r", 1⟩ true,
      .Tried challenge ⟨"s", 1⟩ true] := by decide +kernel

/-- **Two calls take one challenge out.** -/
theorem not_consumedOnce : ¬ ConsumedOnce true raced := by
  rintro ⟨hconsistent, -⟩
  rw [journal_raced] at hconsistent
  exact hconsistent.once [.Issued challenge ⟨"*", challengeTtl⟩] [] [] challenge _ _ rfl

/-- Redis refuses the challenge, and answers again when it is looked up. -/
def fallenBack : List (Label Request World) :=
  [.Start (.Store "n" challenge "*") (atTime 0 .Refused), .Step 0 (atTime 0 .Refused),
    .Step 0 (atTime 0 .Answered), .Start (.Verify challenge "r") (atTime 1 .Answered),
    .Step 1 (atTime 1 .Answered)]

lemma journal_fallenBack : (journal true fallenBack).map Prod.snd
    = [.Issued challenge ⟨"*", challengeTtl⟩, .Tried challenge ⟨"r", 1⟩ false] := by decide +kernel

/-- **A challenge in memory is not looked for there.** -/
theorem not_consumedOnce_fallback : ¬ ConsumedOnce true fallenBack := by
  rintro ⟨hconsistent, -⟩
  rw [journal_fallenBack] at hconsistent
  obtain ⟨q, hq⟩ := hconsistent.first [.Issued challenge ⟨"*", challengeTtl⟩] [] challenge
    ⟨"*", challengeTtl⟩ ⟨"r", 1⟩ rfl (List.mem_singleton.mpr rfl) ⟨.inl rfl, by decide⟩
  simp at hq

end Sample

end Vaulted.ChallengeStore
