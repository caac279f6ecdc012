import Mathlib.Data.List.Induction

/-!
# Runs of a deterministic system

A system is a step function `step : σ → ℓ → σ`: a label holds everything that is not in the
state — who calls, with which request, and what the outside world answers during the call.
A run is a list of labels.

* `exec` — the state a run ends in; `history` — what `emit` reports of each of its steps, in
  order.  `emit` sees the state before the step, so a history is a function of the run and is
  never stored in the state.
* `component` — a part of the state that takes steps of its own.
* `Admits guard` — every step of the run satisfies `guard`, which may look at the history so
  far, at the state before the step and at the step.
* `invariant_run` — the rule for runs: an invariant of history and state that admitted steps
  preserve holds at the end of an admitted run.
* `Guarded` — the same for a `guard` that does not look at the history; `preserved_guarded` is
  its rule, and `always_iff` the rule for a guard that is exact.
-/

namespace Runs

variable {σ ℓ ε : Type*} (step : σ → ℓ → σ) (emit : σ → ℓ → List ε)

/-- The state after a run. -/
def exec (s : σ) (ls : List ℓ) : σ := ls.foldl step s

@[simp] lemma exec_nil (s : σ) : exec step s [] = s := rfl

@[simp] lemma exec_cons (s : σ) (l : ℓ) (ls : List ℓ) :
    exec step s (l :: ls) = exec step (step s l) ls := rfl

lemma exec_append (s : σ) (ls ls' : List ℓ) :
    exec step s (ls ++ ls') = exec step (exec step s ls) ls' := List.foldl_append

@[simp] lemma exec_concat (s : σ) (ls : List ℓ) (l : ℓ) :
    exec step s (ls ++ [l]) = step (exec step s ls) l := by
  rw [exec_append]; rfl

/-- What the steps of a run report, oldest first. -/
def history (s : σ) : List ℓ → List ε
  | [] => []
  | l :: ls => emit s l ++ history (step s l) ls

lemma history_append (s : σ) (ls ls' : List ℓ) :
    history step emit s (ls ++ ls')
      = history step emit s ls ++ history step emit (exec step s ls) ls' := by
  induction ls generalizing s with
  | nil => rfl
  | cons l ls ih => simp only [List.cons_append, history, exec_cons, ih, List.append_assoc]

@[simp] lemma history_concat (s : σ) (ls : List ℓ) (l : ℓ) :
    history step emit s (ls ++ [l])
      = history step emit s ls ++ emit (exec step s ls) l := by
  rw [history_append]
  simp [history]

/-- Every report of a run is a report of one of its steps. -/
lemma mem_history {s : σ} {ls : List ℓ} {x : ε} :
    x ∈ history step emit s ls
      ↔ ∃ pre l post, ls = pre ++ l :: post ∧ x ∈ emit (exec step s pre) l := by
  induction ls generalizing s with
  | nil => simp [history]
  | cons l ls ih =>
      simp only [history, List.mem_append, ih]
      constructor
      · rintro (h | ⟨pre, l', post, rfl, h⟩)
        · exact ⟨[], l, ls, rfl, h⟩
        · exact ⟨l :: pre, l', post, rfl, h⟩
      · rintro ⟨pre, l', post, heq, h⟩
        cases pre with
        | nil =>
            obtain ⟨rfl, rfl⟩ := List.cons.inj heq
            exact .inl h
        | cons a pre =>
            obtain ⟨rfl, rfl⟩ := List.cons.inj heq
            exact .inr ⟨pre, l', post, rfl, h⟩

/-- Every step of the run satisfies `guard` at the history and state it starts from. -/
def Admits (guard : List ε → σ → ℓ → Prop) (s : σ) (ls : List ℓ) : Prop :=
  ∀ pre l post, ls = pre ++ l :: post →
    guard (history step emit s pre) (exec step s pre) l

variable {step emit}

/-- **A component of a system**: where every step of the system is a run of the component, so is
every run, with the same reports. -/
theorem component {σ' ℓ' : Type*} {step' : σ' → ℓ' → σ'} {emit' : σ' → ℓ' → List ε}
    {p : σ → σ'} {sub : σ → ℓ → List ℓ'}
    (hstep : ∀ s l, p (step s l) = exec step' (p s) (sub s l))
    (hemit : ∀ s l, emit s l = history step' emit' (p s) (sub s l)) (s : σ) (ls : List ℓ) :
    p (exec step s ls) = exec step' (p s) (history step sub s ls)
      ∧ history step emit s ls = history step' emit' (p s) (history step sub s ls) := by
  induction ls generalizing s with
  | nil => exact ⟨rfl, rfl⟩
  | cons l ls ih =>
      obtain ⟨hexec, hhistory⟩ := ih (step s l)
      rw [exec_cons, hexec, history, history, hhistory, exec_append, history_append, hstep, hemit]
      exact ⟨rfl, rfl⟩

lemma Admits.front {guard : List ε → σ → ℓ → Prop} {s : σ} {pre post : List ℓ}
    (h : Admits step emit guard s (pre ++ post)) : Admits step emit guard s pre := by
  intro a l b hab
  exact h a l (b ++ post) (by rw [hab]; simp)

lemma admits_nil {guard : List ε → σ → ℓ → Prop} {s : σ} : Admits step emit guard s [] := by
  intro pre l post h
  simp at h

lemma admits_concat {guard : List ε → σ → ℓ → Prop} {s : σ} {ls : List ℓ} {l : ℓ} :
    Admits step emit guard s (ls ++ [l])
      ↔ Admits step emit guard s ls ∧ guard (history step emit s ls) (exec step s ls) l := by
  refine ⟨fun h => ⟨h.front, h ls l [] rfl⟩, fun ⟨h, hl⟩ pre x post heq => ?_⟩
  rcases List.eq_nil_or_concat post with rfl | ⟨post, y, rfl⟩
  · obtain ⟨rfl, hx⟩ := List.append_inj' heq rfl
    obtain ⟨rfl, -⟩ := List.cons.inj hx
    exact hl
  · have heq : ls ++ [l] = (pre ++ x :: post) ++ [y] := by rw [heq]; simp
    obtain ⟨rfl, -⟩ := List.append_inj' heq rfl
    exact h pre x post rfl

/-- **The rule for runs.** An invariant speaks of what has been reported and of the state. It is
enough that it holds before the first step, and that a step which the guard admits keeps it: the
induction takes the last step of the run off, so that the guard is known at the state which that
step starts from. -/
theorem invariant_run {guard : List ε → σ → ℓ → Prop} {I : List ε → σ → Prop} {s : σ}
    (hinit : I [] s)
    (hstep : ∀ h s l, I h s → guard h s l → I (h ++ emit s l) (step s l))
    {ls : List ℓ} (hadm : Admits step emit guard s ls) :
    I (history step emit s ls) (exec step s ls) := by
  induction ls using List.reverseRecOn with
  | nil => exact hinit
  | append_singleton ls l ih =>
      rw [history_concat, exec_concat]
      exact hstep _ _ _ (ih hadm.front) (hadm ls l [] rfl)

/-- The rule without a history: what every step preserves, every run preserves. -/
theorem preserved_run {P : σ → Prop} (hstep : ∀ s l, P s → P (step s l)) {s : σ} (hs : P s)
    (ls : List ℓ) : P (exec step s ls) := by
  induction ls generalizing s with
  | nil => exact hs
  | cons l ls ih => exact ih (hstep s l hs)

/-- Every step of the run satisfies `guard` at the state it starts from. -/
def Guarded (step : σ → ℓ → σ) (guard : σ → ℓ → Prop) : σ → List ℓ → Prop
  | _, [] => True
  | s, l :: ls => guard s l ∧ Guarded step guard (step s l) ls

instance Guarded.decidable (step : σ → ℓ → σ) (guard : σ → ℓ → Prop)
    [∀ s l, Decidable (guard s l)] : ∀ s ls, Decidable (Guarded step guard s ls)
  | _, [] => inferInstanceAs (Decidable True)
  | s, l :: ls =>
      have := Guarded.decidable step guard (step s l) ls
      inferInstanceAs (Decidable (guard s l ∧ Guarded step guard (step s l) ls))

lemma Guarded.front {guard : σ → ℓ → Prop} {s : σ} {pre post : List ℓ}
    (h : Guarded step guard s (pre ++ post)) : Guarded step guard s pre := by
  induction pre generalizing s with
  | nil => trivial
  | cons l pre ih => exact ⟨h.1, ih h.2⟩

lemma Guarded.back {guard : σ → ℓ → Prop} {s : σ} {pre post : List ℓ}
    (h : Guarded step guard s (pre ++ post)) : Guarded step guard (exec step s pre) post := by
  induction pre generalizing s with
  | nil => exact h
  | cons l pre ih => exact ih h.2

lemma Guarded.append {guard : σ → ℓ → Prop} {s : σ} {pre post : List ℓ}
    (hpre : Guarded step guard s pre) (hpost : Guarded step guard (exec step s pre) post) :
    Guarded step guard s (pre ++ post) := by
  induction pre generalizing s with
  | nil => exact hpost
  | cons l pre ih => exact ⟨hpre.1, ih hpre.2 hpost⟩

lemma guarded_iff {guard : σ → ℓ → Prop} {s : σ} {ls : List ℓ} : Guarded step guard s ls
    ↔ ∀ pre l post, ls = pre ++ l :: post → guard (exec step s pre) l := by
  constructor
  · rintro h pre l post rfl
    exact h.back.1
  · intro h
    induction ls generalizing s with
    | nil => trivial
    | cons l ls ih =>
        refine ⟨h [] l ls rfl, ih fun pre l' post heq => ?_⟩
        exact h (l :: pre) l' post (congrArg (l :: ·) heq)

lemma Guarded.admits {guard : σ → ℓ → Prop} {s : σ} {ls : List ℓ}
    (h : Guarded step guard s ls) : Admits step emit (fun _ => guard) s ls := by
  rintro pre l post rfl
  exact h.back.1

/-- What every guarded step preserves, every guarded run preserves. The rule for invariants that say
nothing about the past. -/
theorem preserved_guarded {guard : σ → ℓ → Prop} {P : σ → Prop}
    (hstep : ∀ s l, P s → guard s l → P (step s l)) {s : σ} (hs : P s) {ls : List ℓ}
    (h : Guarded step guard s ls) : P (exec step s ls) := by
  induction ls generalizing s with
  | nil => exact hs
  | cons l ls ih => exact ih (hstep s l hs h.1) h.2

/-- **What the steps of a run decide**: a property that a step keeps if and only if the step is
guarded holds all along a run if and only if the run is guarded. -/
theorem always_iff {guard : σ → ℓ → Prop} {P : σ → Prop}
    (hstep : ∀ s l, P s → (P (step s l) ↔ guard s l)) {s : σ} (hs : P s) {ls : List ℓ} :
    (∀ pre post, ls = pre ++ post → P (exec step s pre)) ↔ Guarded step guard s ls := by
  constructor
  · intro h
    induction ls generalizing s with
    | nil => trivial
    | cons l ls ih =>
        have hl : P (step s l) := h [l] ls rfl
        refine ⟨(hstep s l hs).mp hl, ih hl fun pre post heq => ?_⟩
        exact h (l :: pre) post (congrArg (l :: ·) heq)
  · rintro h pre post rfl
    exact preserved_guarded (fun s l hP hl => (hstep s l hP).mpr hl) hs h.front

end Runs
