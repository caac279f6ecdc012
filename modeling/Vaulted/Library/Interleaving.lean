import Vaulted.Library.Runs

/-!
# Programs whose statements interleave

Several programs talk to one store.  Each executes its statements one by one, and between two of
them the others may execute theirs.

* `Proc` — a program: it is done, or executes a statement and goes on with the answer, and with
  the world as it is by then (clock, random numbers, …).
* `Proc.run` — the program alone; `step` — one statement of one of the threads of a `State`.
* `Proc.Says`, `Proc.Ends` — the program, whoever answers its statements.
* `Steps` — what a step can do; `finished` — the calls that end with it.
* `Flow` — what may follow which statement.  `Proc.Flows` is checked once for each program, and
  then holds of every thread of every run (`Flowing.step`).
* `Proc.Only` — the statements of a program, in a world of which something is known; they are
  those of every thread (`Obeying.step`).
* `Pending` — some thread is about to execute a statement.
* `Proc.Accounts` — what a program logs and what it answers agree.  That too is checked once for
  each program, and then holds of what each thread of a run has logged (`accounts_run`).
-/

namespace Interleaving

/-- A program; `R` is what each statement answers. -/
inductive Proc {S : Type} (R : S → Type) (E α : Type) : Type
  | Done (a : α)
  | Exec (s : S) (k : R s → E → Proc R E α)

variable {S : Type} {R : S → Type} {E α β γ ε σ ρ : Type}

/-- A statement, and what it is answered. -/
structure Exchange {S : Type} (R : S → Type) where
  statement : S
  answer : R statement

/-- What a program may begin with, and what may follow a statement and its answer. -/
structure Flow {S : Type} (R : S → Type) (α : Type) where
  begins : S → Prop
  refuses : α → Prop
  next : (s : S) → R s → S → Prop
  ends : (s : S) → R s → α → Prop

/-- The statements of a flow. -/
def Flow.Admits (F : Flow R α) (s : S) : Prop := F.begins s ∨ ∃ s' r, F.next s' r s

namespace Proc

/-- The program alone, `e n` being the world at its `n`-th statement. -/
def run (sem : (s : S) → E → σ → R s × σ) : Proc R E α → (Nat → E) → σ → α × σ
  | Done a, _, s => (a, s)
  | Exec stmt k, e, s =>
      (k (sem stmt (e 0) s).1 (e 0)).run sem (fun n => e (n + 1)) (sem stmt (e 0) s).2

/-- Go on with the value of a check, or answer with its error. -/
def check (answer : Except ε β → α) (o : Except ε γ) (k : γ → Proc R E α) : Proc R E α :=
  match o with
  | .ok c => k c
  | .error e => Done (answer (.error e))

lemma run_exec (sem : (s : S) → E → σ → R s × σ) (stmt : S) (k : R stmt → E → Proc R E α)
    (e : Nat → E) (s : σ) : (Exec stmt k).run sem e s
      = (k (sem stmt (e 0) s).1 (e 0)).run sem (fun n => e (n + 1)) (sem stmt (e 0) s).2 := rfl

lemma run_check {answer : Except ε β → α} {o : Except ε γ} {c : γ} {k : γ → Proc R E α}
    (h : o = .ok c) (sem : (s : S) → E → σ → R s × σ) (e : Nat → E) (s : σ) :
    (check answer o k).run sem e s = (k c).run sem e s := by
  rw [h]
  rfl

/-- A program that does not answer with an error goes on after a check. -/
lemma ok_of_run_check {answer : Except ε β → α} {o : Except ε γ} {k : γ → Proc R E α}
    {sem : (s : S) → E → σ → R s × σ} {e : Nat → E} {s : σ} {a : α} {s' : σ}
    (h : (check answer o k).run sem e s = (a, s')) (hne : ∀ err, a ≠ answer (.error err)) :
    ∃ c, o = .ok c ∧ (k c).run sem e s = (a, s') := by
  cases o with
  | error err => exact absurd (Prod.mk.inj h).1.symm (hne err)
  | ok c => exact ⟨c, rfl, h⟩

/-- A program from its beginning to its end, with any answers. -/
inductive Says : Proc R E α → List (Exchange R) → Prop
  | Done (a : α) : Says (.Done a) []
  | Exec {s : S} {k : R s → E → Proc R E α} {heard : List (Exchange R)} (r : R s) (e : E)
      (h : Says (k r e) heard) : Says (.Exec s k) (⟨s, r⟩ :: heard)

lemma says_done {a : α} {heard : List (Exchange R)} (h : (Done a : Proc R E α).Says heard) :
    heard = [] := by
  cases h
  rfl

lemma says_exec {s : S} {k : R s → E → Proc R E α} {heard : List (Exchange R)}
    (h : (Exec s k).Says heard) : ∃ r e heard', heard = ⟨s, r⟩ :: heard' ∧ (k r e).Says heard' := by
  cases h with
  | Exec r e h => exact ⟨r, e, _, rfl, h⟩

/-- A program that says anything after a check goes on with its value. -/
lemma says_check {answer : Except ε β → α} {o : Except ε γ} {k : γ → Proc R E α}
    {heard : List (Exchange R)} (h : (check answer o k).Says heard) (hne : heard ≠ []) :
    ∃ c, o = .ok c ∧ (k c).Says heard := by
  cases o with
  | error err => exact absurd (says_done h) hne
  | ok c => exact ⟨c, rfl, h⟩

/-- A program from its beginning to its end, with any answers, and what it answers itself. -/
inductive Ends : Proc R E α → List (Exchange R) → α → Prop
  | Done (a : α) : Ends (.Done a) [] a
  | Exec {s : S} {k : R s → E → Proc R E α} {heard : List (Exchange R)} {a : α} (r : R s) (e : E)
      (h : Ends (k r e) heard a) : Ends (.Exec s k) (⟨s, r⟩ :: heard) a

lemma ends_done {a b : α} {heard : List (Exchange R)}
    (h : (Done a : Proc R E α).Ends heard b) : heard = [] ∧ b = a := by
  cases h
  exact ⟨rfl, rfl⟩

lemma ends_exec {s : S} {k : R s → E → Proc R E α} {heard : List (Exchange R)} {a : α}
    (h : (Exec s k).Ends heard a) :
    ∃ r e heard', heard = ⟨s, r⟩ :: heard' ∧ (k r e).Ends heard' a := by
  cases h with
  | Exec r e h => exact ⟨r, e, _, rfl, h⟩

/-- The program is done with an answer of `D`, or begins with a statement of `X`, and goes on
with the flow. -/
def Flows (F : Flow R α) (D : α → Prop) (X : S → Prop) : Proc R E α → Prop
  | Done a => D a
  | Exec s k => X s ∧ ∀ r e, (k r e).Flows F (F.ends s r) (F.next s r)

lemma flows_check {F : Flow R α} {D : α → Prop} {X : S → Prop} {answer : Except ε β → α}
    {o : Except ε γ} {k : γ → Proc R E α} (herr : ∀ e, o = .error e → D (answer (.error e)))
    (hok : ∀ c, o = .ok c → (k c).Flows F D X) : (check answer o k).Flows F D X := by
  cases o with
  | error e => exact herr e rfl
  | ok c => exact hok c rfl

/-- Every statement of the program is one of `X`, in worlds that are `known`. -/
def Only (known : E → Prop) (X : S → Prop) : Proc R E α → Prop
  | Done _ => True
  | Exec s k => X s ∧ ∀ r e, known e → (k r e).Only known X

lemma only_check {known : E → Prop} {X : S → Prop} {answer : Except ε β → α} {o : Except ε γ}
    {k : γ → Proc R E α} (hok : ∀ c, o = .ok c → (k c).Only known X) :
    (check answer o k).Only known X := by
  cases o with
  | error e => trivial
  | ok c => exact hok c rfl

lemma Only.mono {known : E → Prop} {X Y : S → Prop} (hXY : ∀ s, X s → Y s) {p : Proc R E α}
    (h : p.Only known X) : p.Only known Y := by
  induction p with
  | Done a => trivial
  | Exec s k ih => exact ⟨hXY s h.1, fun r e he => ih r e (h.2 r e he)⟩

end Proc

/-! ## The system -/

/-- A call under way. -/
structure Thread (ρ : Type) {S : Type} (R : S → Type) (E α : Type) where
  request : ρ
  rest : Proc R E α

structure State (σ ρ : Type) {S : Type} (R : S → Type) (E α : Type) where
  store : σ
  threads : List (Thread ρ R E α)

inductive Label (ρ E : Type)
  | Start (request : ρ) (e : E)
  | Step (i : Nat) (e : E)

/-- The statement that a call executes next. -/
def Thread.next (t : Thread ρ R E α) : Option S :=
  match t.rest with
  | .Done _ => none
  | .Exec s _ => some s

/-- The answer of a call that is done. -/
def Thread.finished (t : Thread ρ R E α) : List (ρ × α) :=
  match t.rest with
  | .Done a => [(t.request, a)]
  | .Exec _ _ => []

/-- A call that is done has answered what its program may be done with. -/
lemma Thread.of_mem_finished {F : Flow R α} {D : α → Prop} {X : S → Prop} {t : Thread ρ R E α}
    (ht : t.rest.Flows F D X) {request : ρ} {a : α} (h : (request, a) ∈ t.finished) :
    request = t.request ∧ D a := by
  obtain ⟨request', rest⟩ := t
  cases rest with
  | Done a' =>
      obtain ⟨rfl, rfl⟩ := Prod.mk.inj (List.mem_singleton.mp h)
      exact ⟨rfl, ht⟩
  | Exec s k => cases h

section System

variable (sem : (s : S) → E → σ → R s × σ) (program : ρ → E → Proc R E α)

/-- A thread after its next statement. -/
def advance (request : ρ) (stmt : S) (k : R stmt → E → Proc R E α) (e : E) (s : σ) :
    Thread ρ R E α :=
  ⟨request, k (sem stmt e s).1 e⟩

def step (s : State σ ρ R E α) : Label ρ E → State σ ρ R E α
  | .Start request e => { s with threads := s.threads ++ [⟨request, program request e⟩] }
  | .Step i e =>
      match s.threads[i]? with
      | some ⟨request, .Exec stmt k⟩ =>
          { store := (sem stmt e s.store).2
            threads := s.threads.set i (advance sem request stmt k e s.store) }
      | some ⟨_, .Done _⟩ => s
      | none => s

/-- The calls that end with a step. -/
def finished (s : State σ ρ R E α) : Label ρ E → List (ρ × α)
  | .Start request e => Thread.finished ⟨request, program request e⟩
  | .Step i e =>
      match s.threads[i]? with
      | some ⟨request, .Exec stmt k⟩ => (advance sem request stmt k e s.store).finished
      | some ⟨_, .Done _⟩ => []
      | none => []

/-- The statement that a step executes, and the call that it belongs to. -/
def executes (s : State σ ρ R E α) : Label ρ E → Option (ρ × S × E)
  | .Start _ _ => none
  | .Step i e =>
      match s.threads[i]? with
      | some ⟨request, .Exec stmt _⟩ => some (request, stmt, e)
      | some ⟨_, .Done _⟩ => none
      | none => none

/-! ## What a step can do -/

inductive Steps (s : State σ ρ R E α) : Label ρ E → State σ ρ R E α → Prop
  | Started (request : ρ) (e : E) : Steps s (.Start request e)
      { s with threads := s.threads ++ [⟨request, program request e⟩] }
  | Idle (i : Nat) (e : E) : executes s (.Step i e) = none →
      finished sem program s (.Step i e) = [] → Steps s (.Step i e) s
  | Executed (i : Nat) (e : E) (request : ρ) (stmt : S) (k : R stmt → E → Proc R E α) :
      s.threads[i]? = some ⟨request, .Exec stmt k⟩ →
      executes s (.Step i e) = some (request, stmt, e) →
      finished sem program s (.Step i e) = (advance sem request stmt k e s.store).finished →
      Steps s (.Step i e)
        { store := (sem stmt e s.store).2
          threads := s.threads.set i (advance sem request stmt k e s.store) }

theorem steps_step (s : State σ ρ R E α) (l : Label ρ E) :
    Steps sem program s l (step sem program s l) := by
  cases l with
  | Start request e => exact .Started request e
  | Step i e =>
      cases hthread : s.threads[i]? with
      | none =>
          simp only [step, hthread]
          exact .Idle i e (by simp only [executes, hthread]) (by simp only [finished, hthread])
      | some t =>
          obtain ⟨request, rest⟩ := t
          cases rest with
          | Done a =>
              simp only [step, hthread]
              exact .Idle i e (by simp only [executes, hthread]) (by simp only [finished, hthread])
          | Exec stmt k =>
              simp only [step, hthread]
              exact .Executed i e request stmt k hthread (by simp only [executes, hthread])
                (by simp only [finished, hthread])

/-- Every thread goes on as the flow of its request admits. -/
def Flowing (F : ρ → Flow R α) (s : State σ ρ R E α) : Prop :=
  ∀ t ∈ s.threads, ∃ D X, (∀ stmt, X stmt → (F t.request).Admits stmt)
    ∧ t.rest.Flows (F t.request) D X

variable {sem program}

/-- A run depends on what the programs do for the requests in it. -/
lemma history_congr {ε : Type*} {program' : ρ → E → Proc R E α}
    {emit : State σ ρ R E α → Label ρ E → List ε} {ls : List (Label ρ E)}
    (h : ∀ request e, .Start request e ∈ ls → program request e = program' request e)
    (s : State σ ρ R E α) :
    Runs.history (step sem program) emit s ls = Runs.history (step sem program') emit s ls := by
  induction ls generalizing s with
  | nil => rfl
  | cons l ls ih =>
      have hstep : step sem program s l = step sem program' s l := by
        cases l with
        | Start request e => rw [step, step, h request e List.mem_cons_self]
        | Step i e => rfl
      rw [Runs.history, Runs.history, hstep,
        ih fun request e hmem => h request e (List.mem_cons_of_mem _ hmem)]

/-- A call that ends with a step is a thread that is done. -/
lemma getElem?_of_finished {s : State σ ρ R E α} {l : Label ρ E} {request : ρ} {a : α}
    (h : (request, a) ∈ finished sem program s l) :
    ∃ i : Nat, (step sem program s l).threads[i]? = some ⟨request, .Done a⟩ := by
  have done : ∀ {t : Thread ρ R E α}, (request, a) ∈ t.finished → t = ⟨request, .Done a⟩ := by
    rintro ⟨request', rest⟩ ht
    cases rest with
    | Done a' =>
        obtain ⟨rfl, rfl⟩ := Prod.mk.inj (List.mem_singleton.mp ht)
        rfl
    | Exec s k => cases ht
  have hsteps := steps_step sem program s l
  generalize step sem program s l = s' at hsteps ⊢
  cases hsteps with
  | Started request' e =>
      refine ⟨s.threads.length, ?_⟩
      rw [← done (t := ⟨request', program request' e⟩) h, List.getElem?_concat_length]
  | Idle i e hnone hfinished =>
      rw [hfinished] at h
      cases h
  | Executed i e request' stmt k hthread hexecutes hfinished =>
      rw [hfinished] at h
      refine ⟨i, ?_⟩
      rw [List.getElem?_set_self (List.getElem?_eq_some_iff.mp hthread).1, done h]

/-- **The flow of every program is the flow of every thread of a run.** A thread that executes a
statement goes on with what its flow admits after that answer, whatever the other threads have done
to the store meanwhile. -/
theorem Flowing.step {F : ρ → Flow R α}
    (hprogram : ∀ request e,
      (program request e).Flows (F request) (F request).refuses (F request).begins)
    {s : State σ ρ R E α} (hs : Flowing F s) (l : Label ρ E) :
    Flowing F (step sem program s l) := by
  have hsteps := steps_step sem program s l
  generalize Interleaving.step sem program s l = s' at hsteps ⊢
  cases hsteps with
  | Started request e =>
      intro t ht
      rcases List.mem_append.mp ht with ht | ht
      · exact hs t ht
      · rw [List.mem_singleton.mp ht]
        exact ⟨_, _, fun _ => .inl, hprogram request e⟩
  | Idle i e => exact hs
  | Executed i e request stmt k hthread =>
      intro t ht
      rcases List.mem_or_eq_of_mem_set ht with ht | rfl
      · exact hs t ht
      · obtain ⟨D, X, -, hflows⟩ := hs _ (List.mem_of_getElem? hthread)
        exact ⟨_, _, fun _ hnext => .inr ⟨_, _, hnext⟩, hflows.2 _ _⟩

/-- How a thread goes on after its statement. -/
lemma Flowing.advance {F : ρ → Flow R α} {s : State σ ρ R E α} (hs : Flowing F s) {i : Nat}
    {request : ρ} {stmt : S} {k : R stmt → E → Proc R E α}
    (hthread : s.threads[i]? = some ⟨request, .Exec stmt k⟩) (r : R stmt) (e : E) :
    (k r e).Flows (F request) ((F request).ends stmt r) ((F request).next stmt r) := by
  obtain ⟨D, X, -, hflows⟩ := hs _ (List.mem_of_getElem? hthread)
  exact hflows.2 r e

/-- A thread goes on with a statement that may follow, or ends as it may. -/
lemma Flowing.goesOn {F : ρ → Flow R α} {s : State σ ρ R E α} (hs : Flowing F s) {i : Nat}
    {request : ρ} {stmt : S} {k : R stmt → E → Proc R E α}
    (hthread : s.threads[i]? = some ⟨request, .Exec stmt k⟩) (r : R stmt) (e : E) :
    (∃ stmt' k', k r e = .Exec stmt' k' ∧ (F request).next stmt r stmt')
      ∨ ∃ a, k r e = .Done a ∧ (F request).ends stmt r a := by
  have hflows := hs.advance hthread r e
  cases hrest : k r e with
  | Done a =>
      rw [hrest] at hflows
      exact .inr ⟨a, rfl, hflows⟩
  | Exec stmt' k' =>
      rw [hrest] at hflows
      exact .inl ⟨stmt', k', rfl, hflows.1⟩

/-- A thread executes a statement of its flow. -/
lemma Flowing.admits {F : ρ → Flow R α} {s : State σ ρ R E α} (hs : Flowing F s) {i : Nat}
    {request : ρ} {stmt : S} {k : R stmt → E → Proc R E α}
    (hthread : s.threads[i]? = some ⟨request, .Exec stmt k⟩) : (F request).Admits stmt := by
  obtain ⟨D, X, hadmits, hflows⟩ := hs _ (List.mem_of_getElem? hthread)
  exact hadmits stmt hflows.1

/-- A step executes a statement of the flow of its call. -/
lemma Flowing.of_executes {F : ρ → Flow R α} {s : State σ ρ R E α} (hs : Flowing F s)
    {l : Label ρ E} {request : ρ} {stmt : S} {e : E}
    (h : executes s l = some (request, stmt, e)) : (F request).Admits stmt := by
  cases l with
  | Start request' e' => cases h
  | Step i e' =>
      simp only [executes] at h
      split at h
      · next hthread =>
          cases h
          exact hs.admits hthread
      · cases h
      · cases h

/-! ## What is executed -/

/-- The world at a step. -/
def Label.world : Label ρ E → E
  | .Start _ e => e
  | .Step _ e => e

/-- Every thread executes only statements of `X`, in worlds that are `known`. -/
def Obeying (known : E → Prop) (X : ρ → S → Prop) (s : State σ ρ R E α) : Prop :=
  ∀ t ∈ s.threads, t.rest.Only known (X t.request)

/-- **What every program executes is what every thread of a run executes.** -/
theorem Obeying.step {known : E → Prop} {X : ρ → S → Prop}
    (hprogram : ∀ request e, known e → (program request e).Only known (X request))
    {s : State σ ρ R E α} (hs : Obeying known X s) {l : Label ρ E} (hl : known l.world) :
    Obeying known X (step sem program s l) := by
  have hsteps := steps_step sem program s l
  generalize Interleaving.step sem program s l = s' at hsteps ⊢
  cases hsteps with
  | Started request e =>
      intro t ht
      rcases List.mem_append.mp ht with ht | ht
      · exact hs t ht
      · rw [List.mem_singleton.mp ht]
        exact hprogram request e hl
  | Idle i e => exact hs
  | Executed i e request stmt k hthread =>
      intro t ht
      rcases List.mem_or_eq_of_mem_set ht with ht | rfl
      · exact hs t ht
      · exact (hs _ (List.mem_of_getElem? hthread)).2 _ e hl

/-- The statement that a step executes. -/
lemma Obeying.of_thread {known : E → Prop} {X : ρ → S → Prop} {s : State σ ρ R E α}
    (hs : Obeying known X s) {i : Nat} {request : ρ} {stmt : S} {k : R stmt → E → Proc R E α}
    (hthread : s.threads[i]? = some ⟨request, .Exec stmt k⟩) : X request stmt :=
  (hs _ (List.mem_of_getElem? hthread)).1

/-! ## What is about to happen -/

/-- A call is about to execute a statement. -/
def Pending (s : State σ ρ R E α) (P : ρ → S → Prop) : Prop :=
  ∃ (i : Nat) (request : ρ) (stmt : S) (k : R stmt → E → Proc R E α),
    s.threads[i]? = some ⟨request, .Exec stmt k⟩ ∧ P request stmt

/-- Some thread executes the statement next. -/
lemma pending_iff {s : State σ ρ R E α} {P : ρ → S → Prop} : Pending s P
    ↔ ∃ t ∈ s.threads, ∃ stmt, t.next = some stmt ∧ P t.request stmt := by
  constructor
  · rintro ⟨i, request, stmt, k, hthread, hp⟩
    exact ⟨_, List.mem_of_getElem? hthread, stmt, rfl, hp⟩
  · rintro ⟨⟨request, rest⟩, hmem, stmt, hnext, hp⟩
    obtain ⟨i, hthread⟩ := List.getElem?_of_mem hmem
    cases rest with
    | Done a => cases hnext
    | Exec stmt' k =>
        obtain rfl := Option.some.inj hnext
        exact ⟨i, request, stmt', k, hthread, hp⟩

instance (s : State σ ρ R E α) (P : ρ → S → Prop) [∀ request stmt, Decidable (P request stmt)] :
    Decidable (Pending s P) :=
  decidable_of_iff (∃ t ∈ s.threads, ∃ stmt ∈ t.next, P t.request stmt) pending_iff.symm

lemma Pending.started {s : State σ ρ R E α} {P : ρ → S → Prop} (h : Pending s P)
    (t : Thread ρ R E α) : Pending { s with threads := s.threads ++ [t] } P := by
  obtain ⟨i, request, stmt, k, hthread, hp⟩ := h
  refine ⟨i, request, stmt, k, ?_, hp⟩
  have hlt := (List.getElem?_eq_some_iff.mp hthread).1
  exact (List.getElem?_append_left hlt).trans hthread

/-- Of a step, the statement may have been the one. -/
lemma Pending.executed {s : State σ ρ R E α} {P : ρ → S → Prop} (h : Pending s P) {i : Nat}
    {request : ρ} {stmt : S} {k : R stmt → E → Proc R E α}
    (hthread : s.threads[i]? = some ⟨request, .Exec stmt k⟩) (store : σ) (t : Thread ρ R E α) :
    P request stmt ∨ Pending { store, threads := s.threads.set i t } P := by
  obtain ⟨j, request', stmt', k', hthread', hp⟩ := h
  by_cases hij : j = i
  · subst hij
    obtain ⟨rfl, hrest⟩ := Thread.mk.inj (Option.some.inj (hthread.symm.trans hthread'))
    cases hrest
    exact .inl hp
  · refine .inr ⟨j, request', stmt', k', ?_, hp⟩
    exact (List.getElem?_set_ne (Ne.symm hij)).trans hthread'

/-- After a start, the new call may be the one that is about to execute a statement. -/
lemma Pending.of_started {s : State σ ρ R E α} {P : ρ → S → Prop} {t : Thread ρ R E α}
    (h : Pending { s with threads := s.threads ++ [t] } P) :
    Pending s P ∨ ∃ stmt, t.next = some stmt ∧ P t.request stmt := by
  obtain ⟨t', hmem, stmt, hnext, hp⟩ := pending_iff.mp h
  rcases List.mem_append.mp hmem with hmem | hmem
  · exact .inl (pending_iff.mpr ⟨t', hmem, stmt, hnext, hp⟩)
  · rw [List.mem_singleton.mp hmem] at hnext hp
    exact .inr ⟨stmt, hnext, hp⟩

/-- After a step, its call may be the one. -/
lemma Pending.of_executed {s : State σ ρ R E α} {P : ρ → S → Prop} {i : Nat} {store : σ}
    {t : Thread ρ R E α} (h : Pending { store, threads := s.threads.set i t } P) :
    Pending s P ∨ ∃ stmt, t.next = some stmt ∧ P t.request stmt := by
  obtain ⟨t', hmem, stmt, hnext, hp⟩ := pending_iff.mp h
  rcases List.mem_or_eq_of_mem_set hmem with hmem | rfl
  · exact .inl (pending_iff.mpr ⟨t', hmem, stmt, hnext, hp⟩)
  · exact .inr ⟨stmt, hnext, hp⟩

/-- The statement that a call goes on with is pending. -/
lemma pending_advance {s : State σ ρ R E α} {P : ρ → S → Prop} {i : Nat} {request : ρ}
    {stmt stmt' : S} {k : R stmt → E → Proc R E α} {k' : R stmt' → E → Proc R E α} {e : E}
    (hthread : s.threads[i]? = some ⟨request, .Exec stmt k⟩)
    (hrest : k (sem stmt e s.store).1 e = .Exec stmt' k') (hp : P request stmt') :
    Pending
      { store := (sem stmt e s.store).2
        threads := s.threads.set i (advance sem request stmt k e s.store) } P := by
  refine ⟨i, request, stmt', k', ?_, hp⟩
  have hlt := (List.getElem?_eq_some_iff.mp hthread).1
  rw [advance, hrest]
  exact List.getElem?_set_self hlt

end System

/-! ## Logs -/

/-- From the entries `h` on, whatever the statements may answer, what the program logs and its
answer agree. -/
def Proc.Accounts (possible : (s : S) → R s → Prop) (log : (s : S) → R s → List ε)
    (agrees : List ε → α → Prop) : List ε → Proc R E α → Prop
  | h, .Done a => agrees h a
  | h, .Exec s k => ∀ r e, possible s r → (k r e).Accounts possible log agrees (h ++ log s r)

lemma Proc.accounts_check {possible : (s : S) → R s → Prop} {log : (s : S) → R s → List ε}
    {agrees : List ε → α → Prop} {h : List ε} {answer : Except σ β → α} {o : Except σ γ}
    {k : γ → Proc R E α} (herr : ∀ e, o = .error e → agrees h (answer (.error e)))
    (hok : ∀ c, o = .ok c → (k c).Accounts possible log agrees h) :
    (check answer o k).Accounts possible log agrees h := by
  cases o with
  | error e => exact herr e rfl
  | ok c => exact hok c rfl

/-- A program agrees with whatever it logs, where every answer does. -/
lemma Proc.accounts_of_agrees {possible : (s : S) → R s → Prop} {log : (s : S) → R s → List ε}
    {agrees : List ε → α → Prop} (hagrees : ∀ h a, agrees h a) (h : List ε) (p : Proc R E α) :
    p.Accounts possible log agrees h := by
  induction p generalizing h with
  | Done a => exact hagrees h a
  | Exec s k ih => exact fun r e _ => ih r e _

section Log

variable (sem : (s : S) → E → σ → R s × σ) (program : ρ → E → Proc R E α)
  (log : ρ → (s : S) → R s → List ε)

/-- The entries of a step, with the thread that makes them. -/
def logged (s : State σ ρ R E α) : Label ρ E → List (Nat × ε)
  | .Start _ _ => []
  | .Step i e =>
      match s.threads[i]? with
      | some ⟨request, .Exec stmt _⟩ => (log request stmt (sem stmt e s.store).1).map (Prod.mk i)
      | some ⟨_, .Done _⟩ => []
      | none => []

/-- The entries of one thread. -/
def entriesOf (i : Nat) (h : List (Nat × ε)) : List ε :=
  h.filterMap fun entry => if entry.1 = i then some entry.2 else none

/-- Every thread goes on in agreement with what it has logged. -/
structure Accounting (possible : (s : S) → R s → Prop) (agrees : ρ → List ε → α → Prop)
    (h : List (Nat × ε)) (s : State σ ρ R E α) : Prop where
  threads : ∀ (i : Nat) (t : Thread ρ R E α), s.threads[i]? = some t →
    t.rest.Accounts possible (log t.request) (agrees t.request) (entriesOf i h)
  known : ∀ entry ∈ h, entry.1 < s.threads.length

variable {sem program log}

lemma entriesOf_append (i : Nat) (h h' : List (Nat × ε)) :
    entriesOf i (h ++ h') = entriesOf i h ++ entriesOf i h' := List.filterMap_append

lemma mem_entriesOf {i : Nat} {h : List (Nat × ε)} {entry : ε} :
    entry ∈ entriesOf i h ↔ (i, entry) ∈ h := by
  simp only [entriesOf, List.mem_filterMap, Option.ite_none_right_eq_some, Option.some.injEq]
  constructor
  · rintro ⟨⟨j, entry'⟩, hmem, rfl, rfl⟩
    exact hmem
  · exact fun hmem => ⟨(i, entry), hmem, rfl, rfl⟩

lemma entriesOf_map (i j : Nat) (entries : List ε) :
    entriesOf i (entries.map (Prod.mk j)) = if j = i then entries else [] := by
  induction entries with
  | nil => simp [entriesOf]
  | cons entry entries ih =>
      rw [entriesOf] at ih ⊢
      simp only [List.map_cons, List.filterMap_cons, ih]
      split_ifs with hji <;> rfl

lemma entriesOf_of_new {i : Nat} {h : List (Nat × ε)} (hknown : ∀ entry ∈ h, entry.1 < i) :
    entriesOf i h = [] := by
  rw [entriesOf, List.filterMap_eq_nil_iff]
  exact fun entry hentry => if_neg (Nat.ne_of_lt (hknown entry hentry))

lemma Accounting.step {possible : (s : S) → R s → Prop} {agrees : ρ → List ε → α → Prop}
    (hpossible : ∀ stmt e s, possible stmt (sem stmt e s).1)
    (hprogram : ∀ request e,
      (program request e).Accounts possible (log request) (agrees request) [])
    {h : List (Nat × ε)} {s : State σ ρ R E α} (hs : Accounting log possible agrees h s)
    (l : Label ρ E) :
    Accounting log possible agrees (h ++ logged sem log s l) (step sem program s l) := by
  cases l with
  | Start request e =>
      refine ⟨fun i t ht => ?_, fun entry hentry => ?_⟩
      · simp only [Interleaving.step, List.getElem?_append, List.getElem?_singleton] at ht
        rw [logged, List.append_nil]
        split_ifs at ht with hlt hlast
        · exact hs.threads i t ht
        · -- the new thread has logged nothing
          rw [← Option.some.inj ht, entriesOf_of_new fun entry hentry => ?_]
          · exact hprogram request e
          · exact Nat.lt_of_lt_of_le (hs.known entry hentry) (Nat.le_of_not_lt hlt)
      · rw [logged, List.append_nil] at hentry
        exact Nat.lt_of_lt_of_le (hs.known entry hentry) (by simp [Interleaving.step])
  | Step i e =>
      cases hthread : s.threads[i]? with
      | none => simpa only [Interleaving.step, logged, hthread, List.append_nil] using hs
      | some t =>
          obtain ⟨request, rest⟩ := t
          cases rest with
          | Done a => simpa only [Interleaving.step, logged, hthread, List.append_nil] using hs
          | Exec stmt k =>
              simp only [Interleaving.step, logged, hthread]
              refine ⟨fun j t ht => ?_, fun entry hentry => ?_⟩
              · rw [entriesOf_append, entriesOf_map]
                rw [List.getElem?_set] at ht
                split_ifs at ht with hij hlt
                · obtain rfl := Option.some.inj ht
                  rw [if_pos hij, ← hij]
                  exact hs.threads i _ hthread _ e (hpossible stmt e s.store)
                · rw [if_neg hij, List.append_nil]
                  exact hs.threads j t ht
              · rw [List.length_set]
                rcases List.mem_append.mp hentry with hentry | hentry
                · exact hs.known entry hentry
                · obtain ⟨_, -, rfl⟩ := List.mem_map.mp hentry
                  exact (List.getElem?_eq_some_iff.mp hthread).1

/-- **What a thread has logged in a run and how it goes on agree.** -/
theorem accounts_run {possible : (s : S) → R s → Prop} {agrees : ρ → List ε → α → Prop}
    (hpossible : ∀ stmt e s, possible stmt (sem stmt e s).1)
    (hprogram : ∀ request e,
      (program request e).Accounts possible (log request) (agrees request) [])
    (store : σ) (ls : List (Label ρ E)) :
    Accounting log possible agrees
      (Runs.history (step sem program) (logged sem log) ⟨store, []⟩ ls)
      (Runs.exec (step sem program) ⟨store, []⟩ ls) := by
  induction ls using List.reverseRecOn with
  | nil =>
      refine ⟨fun i t ht => ?_, fun entry hentry => ?_⟩
      · cases ht
      · cases hentry
  | append_singleton ls l ih =>
      rw [Runs.history_concat, Runs.exec_concat]
      exact ih.step hpossible hprogram l

end Log

end Interleaving
