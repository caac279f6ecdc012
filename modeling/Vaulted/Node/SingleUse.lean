import Vaulted.Library.ReplayCache
import Vaulted.Node.Server

/-!
# Storage tokens are used once

A request reads the clock when it checks its token, and consumes the id of the token in a later,
locked step, which drops the ids that have expired by that reading.

* `consumptions` — the locked steps, and which of them were accepted.
* `history_consumptions` — the consumed ids of a node are a replay cache.
* `singleUse_iff` — every id is accepted once exactly where none is presented again after a
  reading beyond its expiry.
* `not_singleUse` — a request is overtaken by a later one, which makes the node forget the id.
-/

namespace Vaulted.Node

open Interleaving ReplayCache

/-! ## The consumed ids are a replay cache -/

/-- **The locked step is a use of a replay cache.** -/
lemma consumeTokenId_eq {jti : String} (hvalid : validTokenId jti = true) (exp now : Int)
    (consumed : ConsumedIds) :
    consumeTokenId jti exp now consumed
      = (if (Cache.use consumed ⟨jti, exp, now⟩).1 then .ok ()
          else .error ⟨.Forbidden, "Token has already been used"⟩,
        (Cache.use consumed ⟨jti, exp, now⟩).2) := by
  have hretain : retain consumed now = Cache.live consumed now := rfl
  rw [consumeTokenId, hvalid, Cache.use, hretain]
  cases hseen : (Cache.live consumed now jti).isSome with
  | true => simp [hseen]
  | false => simp [hseen]

lemma consumeTokenId_invalid {jti : String} (hinvalid : validTokenId jti = false) (exp now : Int)
    (consumed : ConsumedIds) : (consumeTokenId jti exp now consumed).2 = consumed := by
  rw [consumeTokenId, hinvalid]
  rfl

/-! ## The system -/

/-- Runs up to a locked step, with the id that it presents. -/
def attempts (s : Server) (l : Label Request World) : List (Use String Int) :=
  match executes s l with
  | some (_, .ConsumeTokenId jti exp now, _) => if validTokenId jti then [⟨jti, exp, now⟩] else []
  | _ => []

/-- The locked steps; one that is accepted lets a write or delete go on. -/
def consumptions (s : Server) (l : Label Request World) : List (Outcome String Int) :=
  match executes s l with
  | some (_, .ConsumeTokenId jti exp now, _) =>
      if validTokenId jti then
        [⟨⟨jti, exp, now⟩, (consumeTokenId jti exp now s.store.consumedTokenIds).1.isOk⟩]
      else []
  | _ => []

/-- Every id is accepted for a write or delete once at most. -/
def SingleUse (c : Crates) (state : AppState) (s : Server) (ls : List (Label Request World)) :
    Prop :=
  AcceptedOnce (Runs.history (step c state) consumptions s ls)

/-- No id is presented to the locked step after one that has read the clock beyond the expiry which
the id was accepted with: by then the table has dropped it. -/
def RemembersIds (c : Crates) (state : AppState) (s : Server) (ls : List (Label Request World)) :
    Prop :=
  Remembered (Runs.history (step c state) consumptions s ls)

/-! ## A step -/

variable (c : Crates) (state : AppState)

theorem consumedTokenIds_step (s : Server) (l : Label Request World) :
    (step c state s l).store.consumedTokenIds
      = Runs.exec Cache.step s.store.consumedTokenIds (attempts s l) := by
  have hsteps := steps_step exec (handle c state) s l
  generalize hs' : Interleaving.step exec (handle c state) s l = s' at hsteps
  rw [step, hs', attempts]
  cases hsteps with
  | Started request w => rfl
  | Idle i w hnone => rw [hnone]; rfl
  | Executed i w request stmt k hthread hexecutes =>
      rw [hexecutes]
      cases stmt with
      | ConsumeTokenId jti exp now =>
          change (consumeTokenId jti exp now s.store.consumedTokenIds).2 = _
          cases hvalid : validTokenId jti with
          | false => simp [hvalid, consumeTokenId_invalid hvalid exp now]
          | true => simp [hvalid, consumeTokenId_eq hvalid, Cache.step]
      | _ => rfl

lemma consumptions_eq (s : Server) (l : Label Request World) :
    consumptions s l
      = Runs.history Cache.step Cache.outcome s.store.consumedTokenIds (attempts s l) := by
  rw [consumptions, attempts]
  cases executes s l with
  | none => rfl
  | some call =>
      obtain ⟨request, stmt, w⟩ := call
      cases stmt with
      | ConsumeTokenId jti exp now =>
          cases hvalid : validTokenId jti with
          | false => simp [hvalid, Runs.history]
          | true =>
              simp only [hvalid, if_true, Runs.history, Cache.outcome, consumeTokenId_eq hvalid]
              cases (Cache.use s.store.consumedTokenIds ⟨jti, exp, now⟩).1 with
              | false => rfl
              | true => rfl
      | _ => rfl

/-! ## A run -/

/-- **The consumed ids of a node are a replay cache.** -/
theorem history_consumptions (d : Disk) (createdAt : Int) (ls : List (Label Request World)) :
    Runs.history (step c state) consumptions (started d createdAt) ls
      = uses (Runs.history (step c state) attempts (started d createdAt) ls) :=
  (Runs.component (p := fun s : Server => s.store.consumedTokenIds)
    (consumedTokenIds_step c state) consumptions_eq (started d createdAt) ls).2

/-- **A node accepts every id once exactly where it remembers the ids that are presented to it.**
The expiry of a token is checked with a reading of the clock that is older than the lock, and the
table forgets by the readings of whoever holds it. -/
theorem singleUse_iff (d : Disk) (createdAt : Int) (ls : List (Label Request World)) :
    SingleUse c state (started d createdAt) ls ↔ RemembersIds c state (started d createdAt) ls := by
  rw [SingleUse, RemembersIds, history_consumptions]
  exact acceptedOnce_iff _

/-! ## A request that is overtaken -/

namespace Sample

/-- A token for the deletion of a fragment. -/
def deleteToken (issuedAt : Time) (jti key : String) : StorageToken :=
  .newScoped issuedAt ⟨jti⟩ "t" key .Delete 1 (some "n") none

def deletion (issuedAt : Time) (jti key : String) : Request :=
  .Delete key (some (signStorageToken crates oracleKey (deleteToken issuedAt jti key)))

/-- The clock at a second. -/
def second (n : Nat) : World where
  nanos := n * 1000000000
  fails := false
  written := 0

/-- A request reads the clock in the last second of its token.  The token is used by another
request, and forgotten when a third one uses a token of its own a second later. -/
def overtaken : List (Label Request World) :=
  [.Start (deletion 0 "a" "k") (second 60), .Start (deletion 0 "a" "k") (second 60),
    .Step 0 (second 60), .Start (deletion 1000000 "b" "l") (second 61), .Step 2 (second 61),
    .Step 1 (second 61)]

/-- What the clock shows, step by step. -/
def readings (ls : List (Label Request World)) : List Int :=
  ls.map fun
    | .Start _ w => w.nanos
    | .Step _ w => w.nanos

/-- The deletion once its token has been checked. -/
def presents (jti : String) (exp : Nat) (key : String) (w : World) : Rest :=
  .Exec (.ConsumeTokenId jti exp w.timestamp) fun consumed _ =>
  checked consumed fun _ =>
  existingFragmentPath key fun _ =>
  .Exec (.RemoveFile key) fun removed _ =>
  checked (okOrRefuse (ε := IoError) removed .NotFound "Fragment not found") fun _ =>
  .Exec (.RemoveFragment key) fun _ _ =>
  .Done (.ok .NoContent)

lemma handle_deletion {issuedAt : Time} {jti key : String} {n : Nat}
    (hfits : (deleteToken issuedAt jti key).Fits) (hn : n ≤ (deleteToken issuedAt jti key).exp) :
    handle crates node (deletion issuedAt jti key) (second n)
      = presents jti (deleteToken issuedAt jti key).exp key (second n) := by
  have hnow : (second n).timestamp = n := by simp [second, World.timestamp]
  have hauth : node.requireAuth = true := rfl
  have hchecked : authority crates node
      (some (signStorageToken crates oracleKey (deleteToken issuedAt jti key))) key .Delete none
      (second n).timestamp = .ok (some (jti, (deleteToken issuedAt jti key).exp)) := by
    rw [authority, readToken_signed crates_lawful crates_correct rfl trivial hfits, hnow]
    exact checkToken_of_fitting ⟨Int.ofNat_le.mpr hn, rfl, rfl, rfl, rfl⟩ fun _ => rfl
  rw [deletion, handle, deleteFragment, authorize, if_pos hauth, hchecked]
  rfl

/-- What the requests of `overtaken` do, by their keys. -/
def presented (request : Request) (w : World) : Rest :=
  if request.key = "k" then presents "a" 60 "k" w else presents "b" 61 "l" w

lemma handle_overtaken {request : Request} {w : World} (h : .Start request w ∈ overtaken) :
    handle crates node request w = presented request w := by
  simp only [overtaken, List.mem_cons, Label.Start.injEq, reduceCtorEq, List.not_mem_nil, or_false,
    false_or] at h
  rcases h with ⟨rfl, rfl⟩ | ⟨rfl, rfl⟩ | ⟨rfl, rfl⟩
  · exact handle_deletion ⟨by decide, by decide⟩ (by decide)
  · exact handle_deletion ⟨by decide, by decide⟩ (by decide)
  · exact handle_deletion ⟨by decide, by decide⟩ (by decide)

/-- **The id of the first token is accepted twice**, though the clock never goes back. -/
theorem not_singleUse : (readings overtaken).Pairwise (· ≤ ·)
    ∧ ¬ SingleUse crates node (started emptyDisk 0) overtaken := by
  refine ⟨by decide +kernel, fun hsingle => ?_⟩
  have hhistory : Runs.history (step crates node) consumptions (started emptyDisk 0) overtaken
      = [⟨⟨"a", 60, 60⟩, true⟩, ⟨⟨"b", 61, 61⟩, true⟩, ⟨⟨"a", 60, 60⟩, true⟩] := by
    refine (history_congr (fun _ _ => handle_overtaken) _).trans ?_
    decide +kernel
  rw [SingleUse, hhistory] at hsingle
  exact absurd (hsingle 0 2 _ _ rfl rfl rfl rfl rfl) (by decide)

end Sample

end Vaulted.Node
