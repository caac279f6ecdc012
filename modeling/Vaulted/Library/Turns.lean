import Vaulted.Library.Interleaving

/-!
# Calls that take turns

A server on which statements interleave, and on which they happen not to: each call runs to its
end before the next one starts.

* `Proc.Within` — the program executes so many statements at most, whatever they are answered.
* `Proc.after` — what is left of a program, and of the store, after statements in given worlds.
* `turns` — the labels of calls that take turns; `serve` — the calls as programs that run alone.
* `exec_turns` — the run of the labels is that of the programs.
* `oneByOne` — calls that are one step each; `exec_turns_oneByOne` — where a program alone is such
  a step, a run in turns is a run of these steps.
-/

namespace Interleaving

variable {S : Type} {R : S → Type} {E α β γ ε σ ρ : Type}

namespace Proc

/-- The program executes at most so many statements. -/
def Within : ℕ → Proc R E α → Prop
  | _, Done _ => True
  | 0, Exec _ _ => False
  | n + 1, Exec _ k => ∀ r e, (k r e).Within n

lemma within_done (n : ℕ) (a : α) : (Done a : Proc R E α).Within n := by
  cases n <;> trivial

lemma within_check {n : ℕ} {answer : Except ε β → α} {o : Except ε γ} {k : γ → Proc R E α}
    (hok : ∀ c, o = .ok c → (k c).Within n) : (check answer o k).Within n := by
  cases o with
  | error e => exact within_done n _
  | ok c => exact hok c rfl

variable (sem : (s : S) → E → σ → R s × σ)

/-- The program and the store, after a statement in each of the worlds. -/
def after : List E → Proc R E α → σ → Proc R E α × σ
  | [], p, s => (p, s)
  | _ :: _, Done a, s => (Done a, s)
  | e :: es, Exec stmt k, s => (k (sem stmt e s).1 e).after es (sem stmt e s).2

lemma after_done (es : List E) (a : α) (s : σ) : (Done a).after sem es s = (Done a, s) := by
  cases es <;> rfl

/-- **A program with worlds enough runs to its end**, as it does alone. -/
lemma after_eq_run {n : ℕ} {p : Proc R E α} (hwithin : p.Within n) {es : List E}
    (hlength : n ≤ es.length) (d : E) (s : σ) :
    p.after sem es s = (Done (p.run sem (fun i => es.getD i d) s).1,
      (p.run sem (fun i => es.getD i d) s).2) := by
  induction es generalizing n p s with
  | nil =>
      obtain rfl : n = 0 := Nat.le_zero.mp hlength
      cases p with
      | Done a => rfl
      | Exec stmt k => exact hwithin.elim
  | cons e es ih =>
      cases p with
      | Done a => rfl
      | Exec stmt k =>
          cases n with
          | zero => exact hwithin.elim
          | succ n => exact ih (hwithin _ e) (Nat.le_of_succ_le_succ hlength) _

/-- The worlds after the last statement do not count. -/
lemma run_congr {n : ℕ} {p : Proc R E α} (hwithin : p.Within n) {e e' : ℕ → E}
    (hsame : ∀ i < n, e i = e' i) (s : σ) : p.run sem e s = p.run sem e' s := by
  induction p generalizing n e e' s with
  | Done a => rfl
  | Exec stmt k ih =>
      cases n with
      | zero => exact hwithin.elim
      | succ n =>
          rw [run_exec, run_exec, hsame 0 (Nat.succ_pos n)]
          exact ih _ _ (hwithin _ _) (fun i hi => hsame (i + 1) (Nat.succ_lt_succ hi)) _

end Proc

section Turns

variable (sem : (s : S) → E → σ → R s × σ) (program : ρ → E → Proc R E α)

/-- The last call executes its statements. -/
lemma exec_steps (threads : List (Thread ρ R E α)) (request : ρ) (es : List E) (p : Proc R E α)
    (s : σ) : Runs.exec (step sem program) ⟨s, threads ++ [⟨request, p⟩]⟩
        (es.map (Label.Step threads.length))
      = ⟨(p.after sem es s).2, threads ++ [⟨request, (p.after sem es s).1⟩]⟩ := by
  induction es generalizing p s with
  | nil => rfl
  | cons e es ih =>
      rw [List.map_cons, Runs.exec_cons]
      cases p with
      | Done a =>
          have hstep : step sem program ⟨s, threads ++ [⟨request, .Done a⟩]⟩
              (.Step threads.length e) = ⟨s, threads ++ [⟨request, .Done a⟩]⟩ := by
            simp [step]
          rw [hstep, ih, Proc.after_done]
          rfl
      | Exec stmt k =>
          have hstep : step sem program ⟨s, threads ++ [⟨request, .Exec stmt k⟩]⟩
              (.Step threads.length e)
            = ⟨(sem stmt e s).2, threads ++ [⟨request, k (sem stmt e s).1 e⟩]⟩ := by
            simp [step, advance]
          rw [hstep, ih]
          rfl

/-- A call, and the worlds of its statements. -/
structure Visit (ρ E : Type) where
  request : ρ
  start : E
  worlds : List E

/-- The world at a statement; at the last one, as long as the call lasts. -/
def Visit.world (v : Visit ρ E) (i : ℕ) : E := v.worlds.getD i (v.worlds.getLastD v.start)

/-- Each call is started, and executes its statements, before the next one. -/
def turns (first : ℕ) : List (Visit ρ E) → List (Label ρ E)
  | [] => []
  | v :: vs => .Start v.request v.start :: (v.worlds.map (Label.Step first) ++ turns (first + 1) vs)

/-- The calls alone, one after the other. -/
def serve : List (Visit ρ E) → σ → List (Thread ρ R E α) × σ
  | [], s => ([], s)
  | v :: vs, s =>
      let answered := (program v.request v.start).run sem v.world s
      let rest := serve vs answered.2
      (⟨v.request, .Done answered.1⟩ :: rest.1, rest.2)

/-- **Calls that take turns are served one after the other.** Each visit brings a world for every
statement that its program may execute, so the program is done before the next one starts; steps
that are left over find nothing to execute. -/
theorem exec_turns {visits : List (Visit ρ E)}
    (hwithin : ∀ v ∈ visits, (program v.request v.start).Within v.worlds.length)
    (threads : List (Thread ρ R E α)) (s : σ) :
    Runs.exec (step sem program) ⟨s, threads⟩ (turns threads.length visits)
      = ⟨(serve sem program visits s).2, threads ++ (serve sem program visits s).1⟩ := by
  induction visits generalizing threads s with
  | nil => rw [turns, Runs.exec_nil, serve, List.append_nil]
  | cons v vs ih =>
      have hstart : step sem program ⟨s, threads⟩ (.Start v.request v.start)
          = ⟨s, threads ++ [⟨v.request, program v.request v.start⟩]⟩ := rfl
      have hanswered : (program v.request v.start).after sem v.worlds s
          = (.Done ((program v.request v.start).run sem v.world s).1,
            ((program v.request v.start).run sem v.world s).2) :=
        Proc.after_eq_run sem (hwithin v List.mem_cons_self) (Nat.le_refl _) _ s
      have hrest := ih (fun v' hv' => hwithin v' (List.mem_cons_of_mem v hv'))
        (threads ++ [⟨v.request, .Done ((program v.request v.start).run sem v.world s).1⟩])
        ((program v.request v.start).run sem v.world s).2
      rw [List.length_append, List.length_singleton, List.append_assoc, List.singleton_append]
        at hrest
      rw [turns, Runs.exec_cons, Runs.exec_append, hstart, exec_steps, hanswered, hrest, serve]

/-! ## Calls that are one step -/

section OneByOne

variable {ι : Type} (alone : ι → σ → α × σ)

/-- The answers of the calls, and the store after them. -/
def oneByOne : List ι → σ → List α × σ
  | [], s => ([], s)
  | c :: cs, s => ((alone c s).1 :: (oneByOne cs (alone c s).2).1, (oneByOne cs (alone c s).2).2)

variable {sem program alone} {visit : ι → Visit ρ E} {I : σ → Prop}

/-- The programs of the calls alone have the answers of the steps. -/
lemma serve_eq_oneByOne {calls : List ι}
    (halone : ∀ c ∈ calls, ∀ s, I s →
      (program (visit c).request (visit c).start).run sem (visit c).world s = alone c s
        ∧ I (alone c s).2)
    {s : σ} (hs : I s) :
    (serve sem program (calls.map visit) s).2 = (oneByOne alone calls s).2
      ∧ (serve sem program (calls.map visit) s).1.map Thread.rest
        = (oneByOne alone calls s).1.map .Done := by
  induction calls generalizing s with
  | nil => exact ⟨rfl, rfl⟩
  | cons c cs ih =>
      obtain ⟨hrun, hstep⟩ := halone c List.mem_cons_self s hs
      obtain ⟨hstore, hanswers⟩ := ih (fun c' hc' => halone c' (List.mem_cons_of_mem c hc')) hstep
      rw [List.map_cons, serve, hrun, oneByOne]
      exact ⟨hstore, congrArg (List.cons _) hanswers⟩

/-- **Where each program alone is a step, a run in turns is a run of the steps.** The programs need
to agree with the steps only at stores that satisfy `I`, which the steps preserve; both the answers
and the store are the same. -/
theorem exec_turns_oneByOne {calls : List ι}
    (hwithin : ∀ c ∈ calls,
      (program (visit c).request (visit c).start).Within (visit c).worlds.length)
    (halone : ∀ c ∈ calls, ∀ s, I s →
      (program (visit c).request (visit c).start).run sem (visit c).world s = alone c s
        ∧ I (alone c s).2)
    {s : σ} (hs : I s) :
    (Runs.exec (step sem program) ⟨s, []⟩ (turns 0 (calls.map visit))).store
        = (oneByOne alone calls s).2
      ∧ (Runs.exec (step sem program) ⟨s, []⟩ (turns 0 (calls.map visit))).threads.map Thread.rest
        = (oneByOne alone calls s).1.map .Done := by
  have hvisits : ∀ v ∈ calls.map visit, (program v.request v.start).Within v.worlds.length := by
    intro v hv
    obtain ⟨c, hc, rfl⟩ := List.mem_map.mp hv
    exact hwithin c hc
  have hrun := exec_turns sem program hvisits [] s
  rw [List.length_nil, List.nil_append] at hrun
  rw [hrun]
  exact serve_eq_oneByOne halone hs

end OneByOne

end Turns

end Interleaving
