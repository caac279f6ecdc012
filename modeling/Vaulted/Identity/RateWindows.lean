import Vaulted.Oracle.Middleware

/-!
# What the rate limiter lets through

Every run of `check` calls, with clean-ups between them at any time.

* `allowedIn` — how many calls of a key were allowed in a window of it.
* `Limits` — no call panics; no window lets more than the limit through; a call is refused only
  where its window is used up.
* **`limits`** — every run is so, and answers the same with other clean-ups.
-/

namespace Vaulted.RateWindows

open Middleware FixedWindow

def Served.allowed (o : Served) : Bool := o.answer.any Answer.allowed

/-- The calls of a key that were allowed in its window from `s` on. -/
def allowedIn (key : String) (s : Nat) (os : List Served) : Nat :=
  os.countP fun o => decide (o.call.key = key) && Served.allowed o
    && decide (s ≤ o.call.now ∧ o.call.now < s + Middleware.window)

/-- Every call is answered; in no window more is allowed than the limit; and what is refused comes
when the limit of its window is used up. -/
structure Limits (l : RateLimiter) (es : List Event) : Prop where
  answered : ∀ o ∈ served l es, o.answer.isSome = true
  atMost : ∀ key s, IsWindow Middleware.window key (calls es) s →
    allowedIn key s (served l es) ≤ l.limit.toNat
  usedUp : ∀ pre o post, served l es = pre ++ o :: post → Served.allowed o = false →
    ∃ s, IsWindow Middleware.window o.call.key (calls es) s ∧ s ≤ o.call.now
      ∧ o.call.now < s + Middleware.window ∧ allowedIn o.call.key s pre = l.limit.toNat

lemma allowedIn_map (l : RateLimiter) (key : String) (s : Nat) (os : List (Outcome String)) :
    allowedIn key s (os.map (Served.of l)) = used Middleware.window l.limit.toNat key s os := by
  rw [allowedIn, used, List.countP_map]
  rfl

lemma pairwise_calls {es : List Event} (htimes : es.Pairwise fun a b => a.now ≤ b.now) :
    (calls es).Pairwise fun a b => a.now ≤ b.now := by
  refine htimes.filterMap _ ?_
  rintro (⟨key, now⟩ | now) (⟨key', now'⟩ | now') hle c hc c' hc'
  · cases hc
    cases hc'
    exact hle
  all_goals simp_all

/-- **The limit of every window holds, and clean-ups change nothing.** The counter of a key is what
has been allowed since its window began; a clean-up drops counters whose windows are over, which the
next call would replace anyway. -/
theorem limits (l : RateLimiter) (es : List Event)
    (htimes : es.Pairwise fun a b => a.now ≤ b.now) :
    Limits l es ∧ ∀ es' : List Event, (es'.Pairwise fun a b => a.now ≤ b.now) →
      calls es' = calls es → served l es' = served l es := by
  have hserved := (served_eq l htimes).2
  have hcalls := pairwise_calls htimes
  refine ⟨⟨?_, ?_, ?_⟩, ?_⟩
  · intro o ho
    rw [hserved] at ho
    obtain ⟨x, -, rfl⟩ := List.mem_map.mp ho
    rfl
  · intro key s hs
    rw [hserved, allowedIn_map]
    exact used_le (by decide) hcalls hs
  · intro pre o post hsplit hrefused
    rw [hserved] at hsplit
    obtain ⟨pre, rest, hrest, rfl, hpost⟩ := List.map_eq_append_iff.mp hsplit
    obtain ⟨x, post, rfl, rfl, rfl⟩ := List.map_eq_cons_iff.mp hpost
    obtain ⟨front, back, hcs, rfl, hwindow⟩ := outcomes_split hrest
    have hfront : calls es = (front ++ [x.call]) ++ back := by rw [hcs, List.append_assoc]; rfl
    have hcount : l.limit.toNat ≤ x.window.count := Nat.le_of_not_lt (of_decide_eq_false hrefused)
    rw [hfront] at hcalls ⊢
    obtain ⟨s, hs, hle, hlt, hused⟩ :=
      used_of_refused (by decide) (List.pairwise_append.mp hcalls).1 (hwindow ▸ hcount)
    exact ⟨s, hs.append back, hle, hlt, (allowedIn_map l x.call.key s _).trans hused⟩
  · intro es' htimes' heq
    rw [hserved, (served_eq l htimes').2, heq]

/-! ## One call per minute -/

namespace Sample

/-- Two calls in one window, and one after a clean-up. -/
def events : List Event :=
  [.Check "10.0.0.1" 0, .Check "10.0.0.1" 5, .Cleanup (2 * Middleware.window),
    .Check "10.0.0.1" (2 * Middleware.window)]

theorem limits_once : Limits ⟨1⟩ events
    ∧ ∀ es' : List Event, (es'.Pairwise fun a b => a.now ≤ b.now) →
      calls es' = calls events → served ⟨1⟩ es' = served ⟨1⟩ events :=
  limits ⟨1⟩ events (by decide)

end Sample

end Vaulted.RateWindows
