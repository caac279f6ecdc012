import Mathlib.Logic.Basic
import Mathlib.Tactic.TypeStar

/-!
# Programs whose statements commit one by one

A request handler that talks to a store through single statements, outside any enclosing
transaction, leaves every statement it has executed in the store — also when a later one
fails.  `Prog σ ε α` is that semantics: a program is given the store and answers with a value
or an error, *and* with the store it leaves behind in either case.

* `read`, `write`, `require`, `expect` — the statements.  A `write` that fails (a violated
  constraint, say) changes nothing; the program then stops with that error.
* `transaction`, `ignore` — the two ways of wrapping a program: undo everything on an error,
  or carry on as if there had been none.
* `bind_eq_ok_iff` and its likes — when a program succeeds.
* `wp` — the weakest precondition, with one rule per statement (`wp_read_bind`,
  `wp_require_bind`, …).  A handler's specification is proved by applying them in the order
  of its statements, so that the error path of each check is a subgoal of its own.
-/

namespace Autocommit

/-- A program over a store `σ`: a value or an error, and the store it leaves. -/
def Prog (σ ε α : Type) : Type := σ → Except ε α × σ

namespace Prog

variable {σ ε α β : Type}

/-- Sequencing: after an error nothing more is executed, and nothing is undone. -/
protected def bind (p : Prog σ ε α) (f : α → Prog σ ε β) : Prog σ ε β := fun s =>
  match p s with
  | (.ok a, s') => f a s'
  | (.error e, s') => (.error e, s')

instance : Monad (Prog σ ε) where
  pure a := fun s => (.ok a, s)
  bind := Prog.bind

/-- A query. -/
def read (f : σ → α) : Prog σ ε α := fun s => (.ok (f s), s)

/-- A statement that changes the store, or fails and changes nothing. -/
def write (f : σ → Except ε σ) : Prog σ ε Unit := fun s =>
  match f s with
  | .ok s' => (.ok (), s')
  | .error e => (.error e, s)

def fail (e : ε) : Prog σ ε α := fun s => (.error e, s)

/-- Stop with `e` unless `c` holds. -/
def require (c : Bool) (e : ε) : Prog σ ε Unit := if c then pure () else fail e

/-- The value of `o`, or stop with `e`. -/
def expect (o : Option α) (e : ε) : Prog σ ε α :=
  match o with
  | some a => pure a
  | none => fail e

/-- The value of an outcome computed elsewhere, or stop with its error. -/
def lift (o : Except ε α) : Prog σ ε α := fun s => (o, s)

/-- Run `p` and carry on whatever it answers. -/
def ignore (p : Prog σ ε α) : Prog σ ε Unit := fun s => (.ok (), (p s).2)

/-- Run `p` inside a transaction: an error takes back everything it wrote. -/
def transaction (p : Prog σ ε α) : Prog σ ε α := fun s =>
  match p s with
  | (.ok a, s') => (.ok a, s')
  | (.error e, _) => (.error e, s)

/-! ## Running a program

One equation per statement that goes through, for following a program that succeeds. -/

section Run

variable {f : α → Prog σ ε β} {g : Unit → Prog σ ε β} {s : σ}

lemma run_pure (a : α) : (pure a : Prog σ ε α) s = (.ok a, s) := rfl

lemma run_bind {p : Prog σ ε α} {a : α} {s' : σ} (h : p s = (.ok a, s')) :
    (p >>= f) s = f a s' := by
  show Prog.bind p f s = f a s'
  simp only [Prog.bind, h]

lemma run_read (q : σ → α) : (read q >>= f) s = f (q s) s := rfl

lemma run_require {c : Bool} {e : ε} (h : c = true) : (require c e >>= g) s = g () s := by
  subst h; rfl

lemma run_expect {o : Option α} {e : ε} {a : α} (h : o = some a) :
    (expect o e >>= f) s = f a s := by
  subst h; rfl

lemma run_lift {o : Except ε α} {a : α} (h : o = .ok a) : (lift o >>= f) s = f a s := by
  subst h; rfl

lemma run_write {w : σ → Except ε σ} {s' : σ} (h : w s = .ok s') :
    (write w >>= g) s = g () s' := by
  show Prog.bind (write w) g s = g () s'
  simp only [Prog.bind, write, h]

lemma run_write_error {w : σ → Except ε σ} {e : ε} (h : w s = .error e) :
    (write w >>= g) s = (.error e, s) := by
  show Prog.bind (write w) g s = (.error e, s)
  simp only [Prog.bind, write, h]

end Run

/-- An answer that is an answer, also where the errors cannot be compared. -/
lemma eq_ok_of_toOption {r : Except ε α} {a : α} (h : r.toOption = some a) : r = .ok a := by
  cases r with
  | error e => cases h
  | ok b => exact congrArg _ (Option.some.inj h)

/-! ## Programs that succeed -/

section Succeeds

variable {s s' : σ}

/-- A sequence succeeds if each program does. -/
lemma bind_eq_ok_iff {p : Prog σ ε α} {f : α → Prog σ ε β} {b : β} :
    (p >>= f) s = (.ok b, s') ↔ ∃ a s'', p s = (.ok a, s'') ∧ f a s'' = (.ok b, s') := by
  constructor
  · intro h
    change Prog.bind p f s = (.ok b, s') at h
    unfold Prog.bind at h
    rcases hp : p s with ⟨_ | a, s''⟩
    · rw [hp] at h
      cases h
    · rw [hp] at h
      exact ⟨a, s'', rfl, h⟩
  · rintro ⟨a, s'', hp, hf⟩
    rw [run_bind hp, hf]

lemma pure_eq_ok_iff {a b : α} : (pure a : Prog σ ε α) s = (.ok b, s') ↔ a = b ∧ s = s' := by
  rw [run_pure, Prod.mk.injEq, Except.ok.injEq]

lemma lift_eq_ok_iff {o : Except ε α} {a : α} :
    lift o s = (.ok a, s') ↔ o = .ok a ∧ s = s' := by
  rw [lift, Prod.mk.injEq]

lemma write_eq_ok_iff {w : σ → Except ε σ} {u : Unit} :
    write w s = (.ok u, s') ↔ w s = .ok s' := by
  unfold write
  cases w s <;> simp

end Succeeds

/-! ## Weakest preconditions -/

/-- `Q` holds of the answer and the store that `p` leaves when started in `s`. -/
def wp (p : Prog σ ε α) (Q : Except ε α → σ → Prop) (s : σ) : Prop := Q (p s).1 (p s).2

section Rules

variable {p : Prog σ ε α} {f : α → Prog σ ε β} {Q : Except ε β → σ → Prop} {s : σ}

lemma wp_mono {P P' : Except ε α → σ → Prop} (h : wp p P s) (hP : ∀ r s', P r s' → P' r s') :
    wp p P' s :=
  hP _ _ h

lemma wp_and {P P' : Except ε α → σ → Prop} (h : wp p P s) (h' : wp p P' s) :
    wp p (fun r s' => P r s' ∧ P' r s') s :=
  ⟨h, h'⟩

lemma wp_pure {a : β} (h : Q (.ok a) s) : wp (pure a) Q s := h

lemma wp_fail {e : ε} (h : Q (.error e) s) : wp (fail e) Q s := h

/-- The general rule: the continuation runs after an answer, an error ends the program. -/
lemma wp_bind (h : wp p (fun r s' => match r with
      | .ok a => wp (f a) Q s'
      | .error e => Q (.error e) s') s) : wp (p >>= f) Q s := by
  simp only [wp] at h
  show Q (Prog.bind p f s).1 (Prog.bind p f s).2
  unfold Prog.bind
  rcases hp : p s with ⟨_ | a, s'⟩ <;> rw [hp] at h <;> exact h

lemma wp_read_bind {q : σ → α} (h : wp (f (q s)) Q s) : wp (read q >>= f) Q s :=
  wp_bind h

lemma wp_require_bind {c : Bool} {e : ε} {g : Unit → Prog σ ε β}
    (herr : c = false → Q (.error e) s) (hok : c = true → wp (g ()) Q s) :
    wp (require c e >>= g) Q s := by
  refine wp_bind ?_
  cases c with
  | false => exact herr rfl
  | true => exact hok rfl

lemma wp_expect_bind {o : Option α} {e : ε} (herr : o = none → Q (.error e) s)
    (hok : ∀ a, o = some a → wp (f a) Q s) : wp (expect o e >>= f) Q s := by
  refine wp_bind ?_
  cases o with
  | none => exact herr rfl
  | some a => exact hok a rfl

lemma wp_lift_bind {o : Except ε α} (herr : ∀ e, o = .error e → Q (.error e) s)
    (hok : ∀ a, o = .ok a → wp (f a) Q s) : wp (lift o >>= f) Q s := by
  refine wp_bind ?_
  cases o with
  | error e => exact herr e rfl
  | ok a => exact hok a rfl

/-- The same rules, where it is known that nothing is refused. -/
lemma wp_require_true {c : Bool} {e : ε} {g : Unit → Prog σ ε β} (hc : c = true)
    (h : wp (g ()) Q s) : wp (require c e >>= g) Q s := by
  subst hc
  exact wp_bind h

lemma wp_expect_some {o : Option α} {e : ε} {a : α} (ho : o = some a) (h : wp (f a) Q s) :
    wp (expect o e >>= f) Q s := by
  subst ho
  exact wp_bind h

lemma wp_lift_ok {o : Except ε α} {a : α} (ho : o = .ok a) (h : wp (f a) Q s) :
    wp (lift o >>= f) Q s := by
  subst ho
  exact wp_bind h

lemma wp_write {w : σ → Except ε σ} {Q : Except ε Unit → σ → Prop}
    (herr : ∀ e, w s = .error e → Q (.error e) s)
    (hok : ∀ s', w s = .ok s' → Q (.ok ()) s') : wp (write w) Q s := by
  show Q (write w s).1 (write w s).2
  unfold write
  cases hw : w s with
  | error e => exact herr e hw
  | ok s' => exact hok s' hw

lemma wp_write_bind {w : σ → Except ε σ} {g : Unit → Prog σ ε β}
    (herr : ∀ e, w s = .error e → Q (.error e) s)
    (hok : ∀ s', w s = .ok s' → wp (g ()) Q s') : wp (write w >>= g) Q s :=
  wp_bind (wp_write herr hok)

/-- An ignored program leaves its store, never its error. -/
lemma wp_ignore_bind {g : Unit → Prog σ ε β}
    (h : wp p (fun _ s' => wp (g ()) Q s') s) : wp (ignore p >>= g) Q s :=
  wp_bind h

/-- A transaction shows its store only together with its answer. -/
lemma wp_transaction {Q : Except ε α → σ → Prop}
    (h : wp p (fun r s' => match r with
      | .ok a => Q (.ok a) s'
      | .error e => Q (.error e) s) s) : wp (transaction p) Q s := by
  simp only [wp] at h
  show Q (transaction p s).1 (transaction p s).2
  unfold transaction
  rcases hp : p s with ⟨_ | a, s'⟩ <;> rw [hp] at h <;> exact h

end Rules

/-! ## Relations every statement respects -/

/-- `p` moves the store only along `R`, whatever it answers. -/
def Within (R : σ → σ → Prop) (p : Prog σ ε α) : Prop := ∀ s, R s (p s).2

section Within

variable {R : σ → σ → Prop}

lemma within_of_wp {p : Prog σ ε α} (h : ∀ s, wp p (fun _ s' => R s s') s) : Within R p := h

lemma wp_of_within {p : Prog σ ε α} (h : Within R p) (s : σ) : wp p (fun _ s' => R s s') s := h s

lemma Within.bind (htrans : ∀ a b c, R a b → R b c → R a c) {p : Prog σ ε α}
    {f : α → Prog σ ε β} (hp : Within R p) (hf : ∀ a, Within R (f a)) :
    Within R (p >>= f) := by
  intro s
  show R s (Prog.bind p f s).2
  have h := hp s
  unfold Prog.bind
  rcases hps : p s with ⟨e | a, s'⟩
  · rw [hps] at h; exact h
  · rw [hps] at h; exact htrans _ _ _ h (hf a s')

lemma within_pure (hrefl : ∀ s, R s s) (a : α) : Within R (pure a : Prog σ ε α) := hrefl

lemma within_write (hrefl : ∀ s, R s s) {w : σ → Except ε σ} (hw : ∀ s s', w s = .ok s' → R s s') :
    Within R (write w) :=
  within_of_wp fun s => wp_write (fun _ _ => hrefl s) (hw s)

lemma Within.ignore {p : Prog σ ε α} (hp : Within R p) :
    Within R (Prog.ignore p) := hp

end Within

end Prog

end Autocommit
