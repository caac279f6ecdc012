import Vaulted.Library.Turns
import Vaulted.Token.RefreshRotation

/-!
# Refreshes that take turns

The two models of a refresh agree on whole runs: where every refresh ends before the next one
begins, the pool of `Token.RefreshRotation` is the server of `Oracle.Tokens`, on which a refresh is
one step.

* `Refresh` — a refresh and its three moments; `inTurn` — the labels of a run in turns.
* `Refresh.serve` — the handler of `Oracle.Tokens`, as one step.
* `run_inTurn` — the two have the same answers, and leave the same server.
-/

namespace Vaulted.RefreshToken

open Interleaving Tokens

/-- A refresh with a token, and the moments of its statements. -/
structure Refresh where
  token : Bearer
  check : TokenMoment
  revoke : TokenMoment
  look : TokenMoment

def Refresh.visit (r : Refresh) : Visit Bearer TokenMoment where
  request := r.token
  start := r.check
  worlds := [r.check, r.revoke, r.look]

/-- The refreshes, each with its statements before the next one. -/
def inTurn (refreshes : List Refresh) : List (Label Bearer TokenMoment) :=
  turns 0 (refreshes.map Refresh.visit)

/-- The handler as one step. -/
def Refresh.serve (r : Refresh) (s : Server) :
    Except ApiError TokenResponse × Server :=
  Tokens.refreshToken r.check.store r.revoke.store r.look.env r.token s

/-- A refresh executes three statements at most. -/
lemma within_refreshToken (token : Bearer) (m : TokenMoment) :
    (refreshToken token m).Within 3 := by
  refine Proc.within_check fun claims _ => ?_
  intro isBlacklisted _
  refine Proc.within_check fun _ _ => ?_
  intro _ _ role? m
  refine Proc.within_check fun _ _ => Proc.within_check fun role _ => ?_
  exact Proc.within_done 0 _

/-- **A refresh that takes its turn is one step.** -/
lemma run_visit {r : Refresh} (hlook : r.look.failure = none) (s : Server) :
    (refreshToken r.token r.check).run exec r.visit.world s = r.serve s := by
  have hworld : r.visit.world = fun i => [r.check, r.revoke].getD i r.look := by
    funext i
    match i with
    | 0 => rfl
    | 1 => rfl
    | 2 => rfl
    | i + 3 => rfl
  rw [hworld]
  exact run_refreshToken r.token r.check r.revoke r.look hlook s

/-- **Refreshes that take turns are steps of the server**: they get the same answers, and leave
the same server. -/
theorem run_inTurn {refreshes : List Refresh} (hlook : ∀ r ∈ refreshes, r.look.failure = none)
    (s : Server) :
    (run ⟨s, []⟩ (inTurn refreshes)).store = (oneByOne Refresh.serve refreshes s).2
      ∧ (run ⟨s, []⟩ (inTurn refreshes)).threads.map Thread.rest
        = (oneByOne Refresh.serve refreshes s).1.map .Done := by
  have hwithin : ∀ r ∈ refreshes,
      (refreshToken r.visit.request r.visit.start).Within r.visit.worlds.length :=
    fun r _ => within_refreshToken r.token r.check
  have halone : ∀ r ∈ refreshes, ∀ s, True →
      (refreshToken r.visit.request r.visit.start).run exec r.visit.world s = r.serve s ∧ True :=
    fun r hr s _ => ⟨run_visit (hlook r hr) s, trivial⟩
  exact exec_turns_oneByOne hwithin halone trivial

namespace Sample

/-- A refresh of the sample server. -/
def refresh (token : Claims) : Refresh where
  token := .ok token
  check := moment
  revoke := moment
  look := moment

/-- A wallet refreshes, and refreshes with the same token again. -/
theorem run_inTurn_twice :
    (∀ r ∈ [refresh walletToken, refresh walletToken], r.look.failure = none)
      ∧ (run ⟨server, []⟩ (inTurn [refresh walletToken, refresh walletToken])).store
        = (oneByOne Refresh.serve [refresh walletToken, refresh walletToken] server).2
      ∧ (run ⟨server, []⟩ (inTurn [refresh walletToken, refresh walletToken])).threads.map
          Thread.rest
        = (oneByOne Refresh.serve [refresh walletToken, refresh walletToken] server).1.map .Done :=
  ⟨by simp [refresh, moment], run_inTurn (by simp [refresh, moment]) server⟩

end Sample

end Vaulted.RefreshToken
