import Vaulted.Library.Turns
import Vaulted.Token.ChallengeOnce

/-!
# Challenges that are put away and taken out in turns

The two models of the challenges agree on whole runs: where every call ends before the next one
begins, the Redis commands and the fallback in memory are the calls of `TokenStores`.

* `ChallengeCall` — a call, and what happens to the stores meanwhile; `serve` — it is one step.
* `inTurns` — the labels of a run in turns.
* `run_inTurns` — the two have the same answers, and leave the same stores.
-/

namespace Vaulted.ChallengeStore

open Interleaving TokenStores

/-- A call, and the world that it is served in. -/
structure ChallengeCall where
  request : Request
  env : StoreEnv

/-- The two statements of a call at most, with nothing in between. -/
def ChallengeCall.visit (c : ChallengeCall) : Visit Request World where
  request := c.request
  start := worlds c.env 0
  worlds := [worlds c.env 0, worlds c.env 1]

def inTurns (calls : List ChallengeCall) : List (Label Request World) :=
  turns 0 (calls.map ChallengeCall.visit)

/-- The call as one step. -/
def ChallengeCall.serve (c : ChallengeCall) (s : TokenStores) : Reply × TokenStores :=
  match c.request with
  | .Store nonce challenge wallet =>
      (.Stored, TokenStores.storeChallenge c.env nonce challenge wallet s)
  | .Verify challenge wallet =>
      (.Verified (s.verifyAndConsumeChallenge c.env challenge wallet).1,
        (s.verifyAndConsumeChallenge c.env challenge wallet).2)

/-- A call executes two statements at most. -/
lemma within_program (redis : Bool) (request : Request) (w : World) :
    (program redis request w).Within 2 := by
  cases request with
  | Store nonce challenge wallet =>
      cases redis with
      | false => exact fun _ _ => Proc.within_done 1 _
      | true =>
          intro answer _
          dsimp only
          split
          · exact Proc.within_done 1 _
          · exact fun _ _ => Proc.within_done 0 _
  | Verify challenge wallet =>
      show (verifyAndConsumeChallenge redis challenge wallet).Within 2
      unfold verifyAndConsumeChallenge
      split
      · intro answer _
        dsimp only
        split_ifs
        · exact fun _ _ => Proc.within_done 0 _
        · exact Proc.within_done 1 _
      · exact fun _ _ => Proc.within_done 1 _

/-- No call opens or closes the connection to Redis. -/
lemma isSome_serve (c : ChallengeCall) (s : TokenStores) :
    (c.serve s).2.redis.isSome = s.redis.isSome := by
  obtain ⟨request, env⟩ := c
  cases request with
  | Store nonce challenge wallet =>
      show (TokenStores.storeChallenge env nonce challenge wallet s).redis.isSome = _
      unfold TokenStores.storeChallenge
      split
      case h_1 hredis _ => simp [hredis]
      case h_2 => rfl
  | Verify challenge wallet =>
      show (s.verifyAndConsumeChallenge env challenge wallet).2.redis.isSome = _
      unfold TokenStores.verifyAndConsumeChallenge
      split
      case h_1 hredis _ => simp [hredis]
      case h_2 =>
        unfold consumeInMemory
        dsimp only
        split <;> rfl

/-- **A call that takes its turn is one step.** -/
lemma run_visit {redis : Bool} (c : ChallengeCall) {s : TokenStores}
    (hredis : s.redis.isSome = redis) :
    (program redis c.request c.visit.start).run exec c.visit.world s = c.serve s := by
  have hworld : ∀ i < 2, c.visit.world i = worlds c.env i := by
    intro i hi
    match i with
    | 0 => rfl
    | 1 => rfl
  rw [Proc.run_congr exec (within_program redis c.request _) hworld]
  subst hredis
  obtain ⟨request, env⟩ := c
  cases request with
  | Store nonce challenge wallet => exact run_storeChallenge env nonce challenge wallet s
  | Verify challenge wallet => exact run_verifyAndConsumeChallenge env challenge wallet s

/-- **Calls that take turns are steps of the stores**: they get the same answers, and leave the
same stores. -/
theorem run_inTurns (redis : Bool) (calls : List ChallengeCall) :
    (run redis (inTurns calls)).store = (oneByOne ChallengeCall.serve calls (.empty redis)).2
      ∧ (run redis (inTurns calls)).threads.map Thread.rest
        = (oneByOne ChallengeCall.serve calls (.empty redis)).1.map .Done := by
  have hwithin : ∀ c ∈ calls, (program redis c.visit.request c.visit.start).Within
      c.visit.worlds.length := fun c _ => within_program redis c.request _
  have halone : ∀ c ∈ calls, ∀ s : TokenStores, s.redis.isSome = redis →
      (program redis c.visit.request c.visit.start).run exec c.visit.world s = c.serve s
        ∧ (c.serve s).2.redis.isSome = redis :=
    fun c _ s hredis => ⟨run_visit c hredis, (isSome_serve c s).trans hredis⟩
  exact exec_turns_oneByOne hwithin halone (by cases redis <;> rfl)

end Vaulted.ChallengeStore
