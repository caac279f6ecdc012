import Mathlib.Logic.Function.Basic
import Vaulted.Library.Runs

/-!
# Limits over fixed windows

The first call of a key opens a window, and so does the first call after a window has ended.  In
one window a key gets `limit` calls.

* `Window`, `enter`, `step` — the window of each key with the calls it has let through, and a call.
* `outcomes` — the calls of a run, each with the window it fell into.
* `opened`, `IsWindow` — the windows of a key, from the times of its calls alone.
* `entered` — what the window of a call has counted, if time does not go back.
* **`used_le`** — no window lets more than `limit` calls through; **`used_of_refused`** — a call is
  refused only where its window has let `limit` through.
-/

namespace FixedWindow

variable {κ : Type} [DecidableEq κ]

structure Window where
  start : Nat
  count : Nat
  deriving DecidableEq

structure Call (κ : Type) where
  key : κ
  now : Nat
  deriving DecidableEq

/-- A call, and the window it fell into, as it was before. -/
structure Outcome (κ : Type) where
  call : Call κ
  window : Window
  deriving DecidableEq

/-- The window a call falls into: the open one, or a new one. -/
def Window.at (width : Nat) : Option Window → Nat → Window
  | some w, now => if width ≤ now - w.start then ⟨now, 0⟩ else w
  | none, now => ⟨now, 0⟩

def Window.charge (limit : Nat) (w : Window) : Window where
  start := w.start
  count := if w.count < limit then w.count + 1 else w.count

def Outcome.accepted (limit : Nat) (o : Outcome κ) : Bool := decide (o.window.count < limit)

section Runs

variable (width limit : Nat)

def enter (s : κ → Option Window) (c : Call κ) : Window := Window.at width (s c.key) c.now

def step (s : κ → Option Window) (c : Call κ) : κ → Option Window :=
  Function.update s c.key (some ((enter width s c).charge limit))

def emit (s : κ → Option Window) (c : Call κ) : List (Outcome κ) := [⟨c, enter width s c⟩]

/-- The calls of a run, from no windows on. -/
def outcomes (cs : List (Call κ)) : List (Outcome κ) :=
  Runs.history (step width limit) (emit width) (fun _ => none) cs

/-- The windows after a run. -/
def windows (cs : List (Call κ)) : κ → Option Window :=
  Runs.exec (step width limit) (fun _ => none) cs

lemma windows_concat (cs : List (Call κ)) (c : Call κ) :
    windows width limit (cs ++ [c]) = step width limit (windows width limit cs) c :=
  Runs.exec_concat _ _ _ _

lemma outcomes_concat (cs : List (Call κ)) (c : Call κ) : outcomes width limit (cs ++ [c])
    = outcomes width limit cs ++ [⟨c, enter width (windows width limit cs) c⟩] :=
  Runs.history_concat _ _ _ _ _

lemma length_outcomes (cs : List (Call κ)) : (outcomes width limit cs).length = cs.length := by
  induction cs using List.reverseRecOn with
  | nil => rfl
  | append_singleton cs c ih => simp [outcomes_concat, ih]

/-! ## The windows of a key -/

/-- The start of the window that is open for a key after one more call. -/
def opening (key : κ) (start : Option Nat) (c : Call κ) : Option Nat :=
  if c.key = key then some (start.elim c.now fun s => if width ≤ c.now - s then c.now else s)
  else start

/-- The start of the window that is open for a key after some calls. -/
def opened (key : κ) (cs : List (Call κ)) : Option Nat := cs.foldl (opening width key) none

/-- At some point of the calls the window of the key was one that starts at `s`. -/
def IsWindow (key : κ) (cs : List (Call κ)) (s : Nat) : Prop :=
  ∃ pre, pre <+: cs ∧ opened width key pre = some s

/-- How many calls of a key were accepted in the window that starts at `s`. -/
def used (key : κ) (s : Nat) (os : List (Outcome κ)) : Nat :=
  os.countP fun o => decide (o.call.key = key) && o.accepted limit
    && decide (s ≤ o.call.now ∧ o.call.now < s + width)

variable {width limit}

/-- A call in a run: those before it make the windows that it finds. -/
lemma outcomes_split {cs : List (Call κ)} {pre post : List (Outcome κ)} {o : Outcome κ}
    (h : outcomes width limit cs = pre ++ o :: post) :
    ∃ front back, cs = front ++ o.call :: back ∧ outcomes width limit front = pre
      ∧ o.window = enter width (windows width limit front) o.call := by
  have hlength := congrArg List.length h
  rw [length_outcomes, List.length_append, List.length_cons] at hlength
  obtain ⟨front, rest, rfl, hfront⟩ : ∃ front rest, cs = front ++ rest
      ∧ front.length = pre.length :=
    ⟨cs.take pre.length, cs.drop pre.length, (List.take_append_drop _ _).symm,
      List.length_take_of_le (by omega)⟩
  cases rest with
  | nil =>
      rw [List.append_nil] at hlength
      omega
  | cons c back =>
      rw [outcomes, Runs.history_append] at h
      obtain ⟨hpre, hrest⟩ := List.append_inj h ((length_outcomes width limit front).trans hfront)
      obtain ⟨rfl, -⟩ := List.cons.inj hrest
      exact ⟨front, back, rfl, hpre, rfl⟩

lemma opened_concat (key : κ) (cs : List (Call κ)) (c : Call κ) :
    opened width key (cs ++ [c]) = opening width key (opened width key cs) c := by
  rw [opened, List.foldl_append]
  rfl

lemma IsWindow.append {key : κ} {cs : List (Call κ)} {s : Nat} (h : IsWindow width key cs s)
    (cs' : List (Call κ)) : IsWindow width key (cs ++ cs') s := by
  obtain ⟨pre, hpre, hs⟩ := h
  exact ⟨pre, hpre.trans (List.prefix_append _ _), hs⟩

lemma isWindow_concat {key : κ} {cs : List (Call κ)} {c : Call κ} {s : Nat} :
    IsWindow width key (cs ++ [c]) s
      ↔ IsWindow width key cs s ∨ opened width key (cs ++ [c]) = some s := by
  constructor
  · rintro ⟨pre, hpre, hs⟩
    rcases List.prefix_concat_iff.mp hpre with rfl | hpre
    · exact .inr hs
    · exact .inl ⟨pre, hpre, hs⟩
  · rintro (hs | hs)
    · exact hs.append _
    · exact ⟨_, List.prefix_rfl, hs⟩

lemma isWindow_nil {key : κ} {s : Nat} : ¬IsWindow width key ([] : List (Call κ)) s := by
  rintro ⟨pre, hpre, hs⟩
  rw [List.prefix_nil.mp hpre] at hs
  cases hs

lemma used_concat (key : κ) (s : Nat) (os : List (Outcome κ)) (o : Outcome κ) :
    used width limit key s (os ++ [o]) = used width limit key s os
      + if o.call.key = key ∧ o.window.count < limit ∧ s ≤ o.call.now ∧ o.call.now < s + width
        then 1 else 0 := by
  simp [used, Outcome.accepted, List.countP_append, List.countP_cons, and_assoc]

lemma used_concat_of_not {key : κ} {s : Nat} {os : List (Outcome κ)} {o : Outcome κ}
    (h : ¬(o.call.key = key ∧ s ≤ o.call.now ∧ o.call.now < s + width)) :
    used width limit key s (os ++ [o]) = used width limit key s os := by
  rw [used_concat, if_neg (fun h' => h ⟨h'.1, h'.2.2⟩), Nat.add_zero]

/-- No call is counted in a window that starts after all of them. -/
lemma used_eq_zero {key : κ} {s : Nat} {cs : List (Call κ)}
    (h : ∀ c ∈ cs, c.key = key → c.now < s) :
    used width limit key s (outcomes width limit cs) = 0 := by
  induction cs using List.reverseRecOn with
  | nil => rfl
  | append_singleton cs c ih =>
      rw [List.forall_mem_append, List.forall_mem_singleton] at h
      rw [outcomes_concat, used_concat_of_not, ih h.1]
      rintro ⟨hkey, hle, -⟩
      exact absurd (h.2 hkey) (Nat.not_lt_of_le hle)

/-- The windows that are kept start where the windows of the key do. -/
lemma opened_eq (key : κ) (cs : List (Call κ)) :
    opened width key cs = (windows width limit cs key).map Window.start := by
  induction cs using List.reverseRecOn with
  | nil => rfl
  | append_singleton cs c ih =>
      rw [opened_concat, ih, windows_concat, step, opening]
      split_ifs with hkey
      · subst hkey
        rw [Function.update_self, enter]
        cases windows width limit cs c.key with
        | none => rfl
        | some w =>
            rw [Option.map_some, Option.elim_some, Option.map_some, Window.charge, Window.at]
            split_ifs <;> rfl
      · rw [Function.update_of_ne (Ne.symm hkey)]

/-! ## What a window has counted -/

/-- What a call of a key would find at some time after the calls of a run. -/
structure Entered (width limit : Nat) (cs : List (Call κ)) (key : κ) (now : Nat) (w : Window) :
    Prop where
  start_le : w.start ≤ now
  lt_end : now < w.start + width
  used : used width limit key w.start (outcomes width limit cs) = w.count
  le : w.count ≤ limit
  older : ∀ s, IsWindow width key cs s → s = w.start ∨ s + width ≤ w.start

lemma Entered.fresh (hwidth : 0 < width) {cs : List (Call κ)} {key : κ} {now : Nat}
    (hbefore : ∀ c ∈ cs, c.key = key → c.now < now)
    (holder : ∀ s, IsWindow width key cs s → s + width ≤ now) :
    Entered width limit cs key now ⟨now, 0⟩ where
  start_le := Nat.le_refl _
  lt_end := Nat.lt_add_of_pos_right hwidth
  used := used_eq_zero hbefore
  le := Nat.zero_le _
  older := fun s hs => .inr (holder s hs)

/-- A call of another key changes nothing. -/
lemma Entered.concat_other {cs : List (Call κ)} {key : κ} {now : Nat} {w : Window}
    (h : Entered width limit cs key now w) {c : Call κ} (hc : c.key ≠ key) :
    Entered width limit (cs ++ [c]) key now w where
  start_le := h.start_le
  lt_end := h.lt_end
  used := by rw [outcomes_concat, used_concat_of_not fun h' => hc h'.1, h.used]
  le := h.le
  older := fun s hs => by
    rw [isWindow_concat, opened_concat, opening, if_neg hc] at hs
    exact h.older s (hs.elim id fun hs => ⟨cs, List.prefix_rfl, hs⟩)

/-- The window of a call is the last one after it. -/
lemma Entered.older_concat {cs : List (Call κ)} {c : Call κ}
    (h : Entered width limit cs c.key c.now (enter width (windows width limit cs) c)) {s : Nat}
    (hs : IsWindow width c.key (cs ++ [c]) s) :
    s = (enter width (windows width limit cs) c).start
      ∨ s + width ≤ (enter width (windows width limit cs) c).start := by
  rcases isWindow_concat.mp hs with hs | hs
  · exact h.older s hs
  · rw [opened_eq, windows_concat, step, Function.update_self] at hs
    exact .inl (Option.some.inj hs).symm

/-- The call itself is counted, if it is accepted. -/
lemma Entered.concat_self {cs : List (Call κ)} {c : Call κ}
    (h : Entered width limit cs c.key c.now (enter width (windows width limit cs) c)) {now : Nat}
    (hnow : c.now ≤ now) (hend : now < (enter width (windows width limit cs) c).start + width) :
    Entered width limit (cs ++ [c]) c.key now
      ((enter width (windows width limit cs) c).charge limit) where
  start_le := Nat.le_trans h.start_le hnow
  lt_end := hend
  used := by
    have hcount := h.used
    rw [outcomes_concat, used_concat, Window.charge, hcount]
    have hstart := h.start_le
    have hin := h.lt_end
    dsimp only
    split_ifs <;> simp_all
  le := by
    have := h.le
    rw [Window.charge]
    dsimp only
    split_ifs <;> omega
  older := fun _ hs => h.older_concat hs

/-- **What a call finds**, if time has not gone back: its window has counted what it let through,
and the others are over. -/
theorem entered (hwidth : 0 < width) {cs : List (Call κ)}
    (htimes : cs.Pairwise fun a b => a.now ≤ b.now) {key : κ} {now : Nat}
    (hlast : ∀ c ∈ cs, c.now ≤ now) :
    Entered width limit cs key now (Window.at width (windows width limit cs key) now) := by
  induction cs using List.reverseRecOn generalizing key now with
  | nil => exact .fresh hwidth (by simp) fun s hs => absurd hs isWindow_nil
  | append_singleton cs c ih =>
      obtain ⟨hsorted, -, hbefore⟩ := List.pairwise_append.mp htimes
      rw [List.forall_mem_append, List.forall_mem_singleton] at hlast
      have hc := @ih hsorted c.key c.now fun b hb => hbefore b hb c (by simp)
      rw [windows_concat, step]
      rcases eq_or_ne key c.key with rfl | hne
      · rw [Function.update_self, Window.at]
        split_ifs with hover
        · have hend := hc.lt_end
          have hover : (enter width (windows width limit cs) c).start + width ≤ now := by
            have hstart : (enter width (windows width limit cs) c).start ≤ c.now := hc.start_le
            change width ≤ now - (enter width (windows width limit cs) c).start at hover
            omega
          refine .fresh hwidth ?_ fun s hs => ?_
          · rw [List.forall_mem_append, List.forall_mem_singleton]
            refine ⟨fun b hb _ => ?_, fun _ => Nat.lt_of_lt_of_le hend hover⟩
            exact Nat.lt_of_le_of_lt (hbefore b hb c (by simp)) (Nat.lt_of_lt_of_le hend hover)
          · have := hc.older_concat hs
            omega
        · refine hc.concat_self hlast.2 ?_
          change ¬width ≤ now - (enter width (windows width limit cs) c).start at hover
          have hstart : (enter width (windows width limit cs) c).start ≤ c.now := hc.start_le
          omega
      · rw [Function.update_of_ne hne]
        exact (ih hsorted hlast.1).concat_other (Ne.symm hne)

/-- **No window lets more calls through than the limit.** -/
theorem used_le (hwidth : 0 < width) {cs : List (Call κ)}
    (htimes : cs.Pairwise fun a b => a.now ≤ b.now) {key : κ} {s : Nat}
    (hs : IsWindow width key cs s) :
    used width limit key s (outcomes width limit cs) ≤ limit := by
  induction cs using List.reverseRecOn with
  | nil => exact absurd hs isWindow_nil
  | append_singleton cs c ih =>
      obtain ⟨hsorted, -, hbefore⟩ := List.pairwise_append.mp htimes
      rcases eq_or_ne c.key key with rfl | hne
      · have hc := @entered _ _ _ limit hwidth cs hsorted c.key c.now
          fun b hb => hbefore b hb c (by simp)
        have hself := hc.concat_self (Nat.le_refl _) hc.lt_end
        rcases hc.older_concat hs with rfl | hover
        · exact hself.used ▸ hself.le
        · have hstart : (enter width (windows width limit cs) c).start ≤ c.now := hc.start_le
          have hwindow : IsWindow width c.key cs s := by
            refine (isWindow_concat.mp hs).resolve_right fun hnew => ?_
            rw [@opened_eq _ _ width limit, windows_concat, step, Function.update_self] at hnew
            have hnew : (enter width (windows width limit cs) c).start = s := Option.some.inj hnew
            omega
          rw [outcomes_concat, used_concat_of_not]
          · exact ih hsorted hwindow
          · rintro ⟨-, -, hlt⟩
            exact absurd (Nat.lt_of_lt_of_le hlt hover) (Nat.not_lt_of_le hstart)
      · have hwindow : IsWindow width key cs s := by
          rw [isWindow_concat, opened_concat, opening, if_neg hne] at hs
          exact hs.elim id fun hs => ⟨cs, List.prefix_rfl, hs⟩
        rw [outcomes_concat, used_concat_of_not fun h => hne h.1]
        exact ih hsorted hwindow

/-- **A call is refused only where its window has let through as many as the limit.** -/
theorem used_of_refused (hwidth : 0 < width) {pre : List (Call κ)} {c : Call κ}
    (htimes : (pre ++ [c]).Pairwise fun a b => a.now ≤ b.now)
    (hrefused : limit ≤ (enter width (windows width limit pre) c).count) :
    ∃ s, IsWindow width c.key (pre ++ [c]) s ∧ s ≤ c.now ∧ c.now < s + width
      ∧ used width limit c.key s (outcomes width limit pre) = limit := by
  obtain ⟨hsorted, -, hbefore⟩ := List.pairwise_append.mp htimes
  have hc := @entered _ _ _ limit hwidth pre hsorted c.key c.now
    fun b hb => hbefore b hb c (by simp)
  refine ⟨_, isWindow_concat.mpr (.inr ?_), hc.start_le, hc.lt_end, ?_⟩
  · rw [@opened_eq _ _ _ limit, windows_concat, step, Function.update_self]
    rfl
  · exact hc.used.trans (Nat.le_antisymm hc.le hrefused)

end Runs

end FixedWindow
