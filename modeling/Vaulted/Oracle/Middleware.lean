import Mathlib.Logic.Function.Basic
import Vaulted.Library.FixedWindow

/-!
# Requests per minute

`middleware.rs`: how many requests a client may make.

* `RateLimiter.check`, `RateLimiter.cleanup` — the calls of one key are counted in windows of a
  minute; entries of windows that ended long ago are dropped.  Times are readings of a monotonic
  clock in nanoseconds, and the arithmetic on `u32` is checked: `none` is a panic.
* `served` — the calls of a run with their answers.
* `served_eq` — a run answers as the fixed windows of each key do, whatever was cleaned up.
-/

namespace Vaulted.Middleware

open FixedWindow (Window Call)

/-! ## Arithmetic on `u32` -/

def saturatingSub (a b : UInt32) : UInt32 := if b ≤ a then a - b else 0

def checkedSub (a b : UInt32) : Option UInt32 := if b ≤ a then some (a - b) else none

def checkedAdd (a b : UInt32) : Option UInt32 :=
  if a.toNat + b.toNat < UInt32.size then some (a + b) else none

/-! ## The limiter -/

structure RateLimiter where
  limit : UInt32

/-- `Duration::from_secs(60)`. -/
def window : Nat := 60 * 1000000000

/-- The count of a key, and when its window started. -/
structure Entry where
  count : UInt32
  windowStart : Nat
  deriving DecidableEq

abbrev Requests := String → Option Entry

structure Answer where
  allowed : Bool
  remaining : UInt32
  resetAfter : Nat
  deriving DecidableEq

/-- The entry of a key, which is made if it is missing and started again if it has expired. -/
def Requests.entry (requests : Requests) (key : String) (now : Nat) : Entry :=
  let e := (requests key).getD ⟨0, now⟩
  if window ≤ now - e.windowStart then ⟨0, now⟩ else e

def RateLimiter.check (l : RateLimiter) (requests : Requests) (key : String) (now : Nat) :
    Requests × Option Answer :=
  let e := requests.entry key now
  let remaining := saturatingSub l.limit e.count
  let resetAfter := (window - (now - e.windowStart)) / 1000000000
  if l.limit ≤ e.count then
    (Function.update requests key (some e), some ⟨false, 0, resetAfter⟩)
  else
    match checkedAdd e.count 1 with
    | some count =>
        (Function.update requests key (some { e with count }),
          (checkedSub remaining 1).map fun remaining => ⟨true, remaining, resetAfter⟩)
    | none => (Function.update requests key (some e), none)

def RateLimiter.cleanup (requests : Requests) (now : Nat) : Requests := fun key =>
  (requests key).filter fun e => decide (now - e.windowStart < window * 2)

/-! ## Runs -/

inductive Event where
  | Check (key : String) (now : Nat)
  | Cleanup (now : Nat)
  deriving DecidableEq

def Event.now : Event → Nat
  | .Check _ now | .Cleanup now => now

/-- A call of `check`, and its answer unless it panicked. -/
structure Served where
  call : Call String
  answer : Option Answer
  deriving DecidableEq

def step (l : RateLimiter) (requests : Requests) : Event → Requests
  | .Check key now => (l.check requests key now).1
  | .Cleanup now => RateLimiter.cleanup requests now

def emit (l : RateLimiter) (requests : Requests) : Event → List Served
  | .Check key now => [⟨⟨key, now⟩, (l.check requests key now).2⟩]
  | .Cleanup _ => []

/-- The calls of a run from an empty map on, oldest first. -/
def served (l : RateLimiter) (es : List Event) : List Served :=
  Runs.history (step l) (emit l) (fun _ => none) es

/-- The calls of `check` in a run. -/
def calls (es : List Event) : List (Call String) :=
  es.filterMap fun
    | .Check key now => some ⟨key, now⟩
    | .Cleanup _ => none

/-! ## What a call answers -/

/-- The entry, as a window with its count. -/
def Entry.asWindow (e : Entry) : Window := ⟨e.windowStart, e.count.toNat⟩

/-- The answer to a call that falls into a window. -/
def Answer.of (l : RateLimiter) (w : Window) (now : Nat) : Answer where
  allowed := decide (w.count < l.limit.toNat)
  remaining := UInt32.ofNat (l.limit.toNat - w.count - 1)
  resetAfter := (window - (now - w.start)) / 1000000000

lemma checkedAdd_one {a limit : UInt32} (h : a < limit) : checkedAdd a 1 = some (a + 1) := by
  have := limit.toNat_lt
  rw [UInt32.lt_iff_toNat_lt] at h
  rw [checkedAdd, if_pos (by rw [UInt32.toNat_one, UInt32.size]; omega)]

lemma toNat_add_one {a limit : UInt32} (h : a < limit) : (a + 1).toNat = a.toNat + 1 := by
  have := limit.toNat_lt
  rw [UInt32.lt_iff_toNat_lt] at h
  rw [UInt32.toNat_add, UInt32.toNat_one, Nat.mod_eq_of_lt (by omega)]

/-- What is left before a call that is allowed is at least one. -/
lemma checkedSub_remaining {limit count : UInt32} (h : count < limit) :
    checkedSub (saturatingSub limit count) 1
      = some (UInt32.ofNat (limit.toNat - count.toNat - 1)) := by
  have hle : count ≤ limit := UInt32.le_of_lt h
  have hlimit := limit.toNat_lt
  rw [UInt32.lt_iff_toNat_lt] at h
  have hsub := UInt32.toNat_sub_of_le limit count hle
  have hone : (1 : UInt32) ≤ limit - count := by
    rw [UInt32.le_iff_toNat_le, hsub, UInt32.toNat_one]
    omega
  rw [saturatingSub, if_pos hle, checkedSub, if_pos hone, Option.some.injEq, ← UInt32.toNat_inj,
    UInt32.toNat_sub_of_le _ _ hone, hsub, UInt32.toNat_one,
    UInt32.toNat_ofNat_of_lt' (by rw [UInt32.size]; omega)]

/-- A call counts itself in the window it falls into, and no number overflows. -/
lemma check_spec (l : RateLimiter) (requests : Requests) (key : String) (now : Nat) :
    ∃ e : Entry, e.asWindow = (requests.entry key now).asWindow.charge l.limit.toNat
      ∧ l.check requests key now = (Function.update requests key (some e),
        some (Answer.of l (requests.entry key now).asWindow now)) := by
  rw [RateLimiter.check]
  generalize requests.entry key now = e
  by_cases hfull : l.limit ≤ e.count
  · have hle : ¬e.count.toNat < l.limit.toNat := Nat.not_lt_of_le (UInt32.le_iff_toNat_le.mp hfull)
    refine ⟨e, ?_, ?_⟩
    · rw [Entry.asWindow, Window.charge, if_neg hle]
    · dsimp only [Entry.asWindow, Answer.of]
      rw [if_pos hfull, decide_eq_false hle, Nat.sub_eq_zero_of_le (Nat.le_of_not_lt hle)]
      rfl
  · have hroom : e.count < l.limit := UInt32.not_le.mp hfull
    have hlt : e.count.toNat < l.limit.toNat := UInt32.lt_iff_toNat_lt.mp hroom
    refine ⟨{ e with count := e.count + 1 }, ?_, ?_⟩
    · rw [Entry.asWindow, Window.charge, Entry.asWindow, if_pos hlt, toNat_add_one hroom]
    · dsimp only [Entry.asWindow, Answer.of]
      rw [if_neg hfull, checkedAdd_one hroom, checkedSub_remaining hroom, decide_eq_true hlt]
      rfl

/-! ## Runs and windows -/

/-- The entry of a key and its window after all calls: they agree, or the entry is missing where
the window is over for good. -/
inductive Agrees (now : Nat) : Option Entry → Option Window → Prop where
  | kept (e : Entry) : Agrees now (some e) (some e.asWindow)
  | never : Agrees now none none
  | dropped (w : Window) (h : w.start + window ≤ now) : Agrees now none (some w)

lemma Agrees.later {now now' : Nat} {e : Option Entry} {w : Option Window} (h : Agrees now e w)
    (hle : now ≤ now') : Agrees now' e w := by
  cases h with
  | kept e => exact .kept e
  | never => exact .never
  | dropped w h => exact .dropped w (Nat.le_trans h hle)

/-- A call falls into the same window, whether the entry of an old one is still there or not. -/
lemma Agrees.entry {requests : Requests} {key : String} {now : Nat} {w : Option Window}
    (h : Agrees now (requests key) w) :
    (requests.entry key now).asWindow = Window.at window w now := by
  rw [Requests.entry]
  generalize requests key = e at h
  cases h with
  | kept e =>
      rw [Option.getD_some, Window.at]
      by_cases hover : window ≤ now - e.windowStart
      · rw [if_pos hover]
        exact (if_pos hover).symm
      · rw [if_neg hover]
        exact (if_neg hover).symm
  | never =>
      rw [Option.getD_none]
      dsimp only
      split_ifs <;> rfl
  | dropped w h =>
      rw [Option.getD_none, Window.at, if_pos (Nat.le_sub_of_add_le' h)]
      dsimp only
      split_ifs <;> rfl

/-- The clean-up drops entries of windows that are over. -/
lemma Agrees.cleanup {requests : Requests} {key : String} {now : Nat} {w : Option Window}
    (h : Agrees now (requests key) w) : Agrees now (RateLimiter.cleanup requests now key) w := by
  rw [RateLimiter.cleanup]
  generalize requests key = e at h
  cases h with
  | kept e =>
      rw [Option.filter_some]
      split_ifs with hyoung
      · exact .kept e
      · refine .dropped _ ?_
        rw [decide_eq_true_eq, Nat.not_lt] at hyoung
        have hwindow : 0 < window := by decide
        dsimp only [Entry.asWindow]
        omega
  | never => exact .never
  | dropped w h => exact .dropped w h

/-- The outcome of a call, with its answer. -/
def Served.of (l : RateLimiter) (o : FixedWindow.Outcome String) : Served :=
  ⟨o.call, some (Answer.of l o.window o.call.now)⟩

/-- The entries and the windows after the same calls. -/
def Agree (l : RateLimiter) (es : List Event) : Prop :=
  ∀ now, (∀ e ∈ es, e.now ≤ now) → ∀ key,
    Agrees now (Runs.exec (step l) (fun _ => none) es key)
      (FixedWindow.windows window l.limit.toNat (calls es) key)

lemma calls_concat (es : List Event) (e : Event) : calls (es ++ [e]) = calls es ++ calls [e] :=
  List.filterMap_append

/-- **The clean-up is not seen**: a run answers as the windows of its calls do. -/
theorem served_eq (l : RateLimiter) {es : List Event}
    (htimes : es.Pairwise fun a b => a.now ≤ b.now) :
    Agree l es ∧ served l es
      = (FixedWindow.outcomes window l.limit.toNat (calls es)).map (Served.of l) := by
  induction es using List.reverseRecOn with
  | nil => exact ⟨fun _ _ _ => .never, rfl⟩
  | append_singleton es e ih =>
      obtain ⟨hsorted, -, hbefore⟩ := List.pairwise_append.mp htimes
      obtain ⟨hagree, hserved⟩ := ih hsorted
      have hnow : ∀ key, Agrees e.now (Runs.exec (step l) (fun _ => none) es key)
          (FixedWindow.windows window l.limit.toNat (calls es) key) :=
        hagree e.now fun b hb => hbefore b hb e (by simp)
      rw [served] at hserved ⊢
      rw [Runs.history_concat, hserved]
      cases e with
      | Check key now =>
          obtain ⟨e, he, hcheck⟩ := check_spec l (Runs.exec (step l) (fun _ => none) es) key now
          have hentry : ((Runs.exec (step l) (fun _ => none) es).entry key now).asWindow
              = FixedWindow.enter window (FixedWindow.windows window l.limit.toNat (calls es))
                ⟨key, now⟩ := (hnow key).entry
          rw [hentry] at he hcheck
          have hstep : step l (Runs.exec (step l) (fun _ => none) es) (.Check key now)
              = Function.update (Runs.exec (step l) (fun _ => none) es) key (some e) :=
            congrArg Prod.fst hcheck
          have hcalls : calls (es ++ [.Check key now]) = calls es ++ [⟨key, now⟩] :=
            calls_concat es _
          rw [hcalls, FixedWindow.outcomes_concat, List.map_append]
          refine ⟨fun later hlater other => ?_, congrArg _ ?_⟩
          · rw [hcalls, Runs.exec_concat, FixedWindow.windows_concat, hstep, FixedWindow.step]
            rcases eq_or_ne other key with rfl | hne
            · rw [Function.update_self, Function.update_self, ← he]
              exact .kept e
            · rw [Function.update_of_ne hne, Function.update_of_ne hne]
              exact hagree later (fun b hb => hlater b (List.mem_append_left _ hb)) other
          · rw [emit, hcheck]
            rfl
      | Cleanup now =>
          have hcalls : calls (es ++ [.Cleanup now]) = calls es :=
            (calls_concat es _).trans (List.append_nil _)
          rw [hcalls]
          refine ⟨fun later hlater key => ?_, List.append_nil _⟩
          rw [hcalls, Runs.exec_concat, step]
          exact (hnow key).cleanup.later (hlater _ (by simp))

end Vaulted.Middleware
