import Mathlib.Data.List.Infix
import Mathlib.Tactic.SplitIfs

/-!
# Masking words in a text

Several words are masked one after another, each wherever it occurs from the left on.  A text in
which words have been masked is a list of `Option α`: `none` is a mask.

* `replace` — `str::replace`, on any kind of list.
* `render` — the text with the masks written out; `replace_render` says that one may replace before
  or after, as long as the words are `Foreign` to the mask.
* `scan` — all words at once: a word is masked where it stands, unless another one begins within.
* `foldl_replace_eq_scan` — one word after another comes to the same, if the words are `Layered`.
* `not_infix_scan` — no word is left.
-/

namespace Masking

variable {α : Type}

/-! ## One word -/

section Replace

variable [DecidableEq α]

/-- The occurrences of `pat` replaced, when the first `skip` elements belong to one already. -/
def replaceFrom (pat sub : List α) : ℕ → List α → List α
  | _, [] => []
  | skip + 1, _ :: xs => replaceFrom pat sub skip xs
  | 0, x :: xs =>
      if pat <+: x :: xs then sub ++ replaceFrom pat sub (pat.length - 1) xs
      else x :: replaceFrom pat sub 0 xs

def replace (pat sub xs : List α) : List α := replaceFrom pat sub 0 xs

variable {pat sub xs ys : List α} {x : α}

lemma replaceFrom_eq (skip : ℕ) : replaceFrom pat sub skip xs = replace pat sub (xs.drop skip) := by
  induction xs generalizing skip with
  | nil => cases skip <;> rfl
  | cons x xs ih =>
      cases skip with
      | zero => rfl
      | succ skip => exact ih skip

lemma replace_append (hne : pat ≠ []) : replace pat sub (pat ++ xs) = sub ++ replace pat sub xs := by
  cases pat with
  | nil => exact absurd rfl hne
  | cons p pat =>
      rw [replace, List.cons_append, replaceFrom, if_pos ⟨xs, rfl⟩, replaceFrom_eq]
      simp

lemma replace_cons (h : ¬ pat <+: x :: xs) :
    replace pat sub (x :: xs) = x :: replace pat sub xs := by
  rw [replace, replaceFrom, if_neg h]
  rfl

/-- Where no occurrence begins, nothing is replaced. -/
lemma replace_pass (h : ∀ front back, xs = front ++ back → back ≠ [] → ¬ pat <+: back ++ ys) :
    replace pat sub (xs ++ ys) = xs ++ replace pat sub ys := by
  induction xs with
  | nil => rfl
  | cons x xs ih =>
      have hhead : ¬ pat <+: x :: (xs ++ ys) := h [] (x :: xs) rfl (List.cons_ne_nil _ _)
      rw [List.cons_append, replace_cons hhead, ih, List.cons_append]
      intro front back heq hback
      exact h (x :: front) back (by rw [heq]; rfl) hback

end Replace

/-! ## Masks -/

variable {pat xs ys : List α} {x : α}

/-- The text, with `mask` for every mask. -/
def render (mask : List α) (tokens : List (Option α)) : List α :=
  tokens.flatMap fun token => token.elim mask ([·])

@[simp] lemma render_nil {mask : List α} : render mask [] = [] := rfl

@[simp] lemma render_none {mask : List α} {tokens : List (Option α)} :
    render mask (none :: tokens) = mask ++ render mask tokens := rfl

@[simp] lemma render_some {mask : List α} {tokens : List (Option α)} :
    render mask (some x :: tokens) = x :: render mask tokens := rfl

lemma render_append {mask : List α} (tokens tokens' : List (Option α)) :
    render mask (tokens ++ tokens') = render mask tokens ++ render mask tokens' :=
  List.flatMap_append

@[simp] lemma render_map_some {mask : List α} : render mask (xs.map some) = xs := by
  induction xs with
  | nil => rfl
  | cons x xs ih => rw [List.map_cons, render_some, ih]

/-- No part of the mask can be mistaken for a part of the word. -/
structure Foreign (mask pat : List α) : Prop where
  nonempty : pat ≠ []
  first : ∃ x, mask.head? = some x ∧ x ∉ pat
  last : ∃ x, mask.getLast? = some x ∧ x ∉ pat
  apart : ¬ pat <:+: mask

section Foreign

variable {mask : List α} {tokens : List (Option α)}

/-- The word begins a text only with elements that are not masked. -/
lemma prefix_render (hfirst : ∃ x, mask.head? = some x ∧ x ∉ pat) :
    pat <+: render mask tokens ↔ pat.map some <+: tokens := by
  induction pat generalizing tokens with
  | nil => simp
  | cons p pat ih =>
      obtain ⟨m, hm, hmem⟩ := hfirst
      have ih' : ∀ {tokens}, pat <+: render mask tokens ↔ pat.map some <+: tokens :=
        ih ⟨m, hm, fun h => hmem (List.mem_cons_of_mem p h)⟩
      cases tokens with
      | nil => simp
      | cons token tokens =>
          cases token with
          | none =>
              obtain ⟨ms, rfl⟩ := List.head?_eq_some_iff.mp hm
              have hne : p ≠ m := fun heq => hmem (heq ▸ List.mem_cons_self)
              simp [List.cons_prefix_cons, hne]
          | some y => simp [List.cons_prefix_cons, ih']

/-- No occurrence of the word begins in a mask. -/
lemma Foreign.pass (h : Foreign mask pat) {front back : List α} (hmask : mask = front ++ back)
    (hback : back ≠ []) : ¬ pat <+: back ++ ys := by
  intro hpre
  rcases List.prefix_or_prefix_of_prefix hpre (List.prefix_append back ys) with hle | hle
  · obtain ⟨rest, rfl⟩ := hle
    exact h.apart ⟨front, rest, by rw [hmask, List.append_assoc]⟩
  · obtain ⟨x, hx, hmem⟩ := h.last
    rw [hmask, List.getLast?_append_of_ne_nil _ hback] at hx
    exact hmem (hle.subset (List.mem_of_getLast? hx))

/-- **A word may be masked before the masks are written out, or after.** A word that is `Foreign` to
the mask cannot begin or end inside one, so that it occurs in the written text only where it occurs
between the masks. -/
theorem replace_render [DecidableEq α] (h : Foreign mask pat) :
    replace pat mask (render mask tokens)
      = render mask (replace (pat.map some) [none] tokens) := by
  induction hlen : tokens.length using Nat.strong_induction_on generalizing tokens with
  | _ n ih =>
      subst hlen
      by_cases hpre : pat.map some <+: tokens
      · obtain ⟨rest, rfl⟩ := hpre
        have hpos := List.length_pos_of_ne_nil h.nonempty
        rw [render_append, render_map_some, replace_append h.nonempty,
          replace_append (by simpa using h.nonempty), List.singleton_append, render_none,
          ih rest.length (by simp; omega) rfl]
      · cases tokens with
        | nil => rfl
        | cons token tokens =>
            rw [replace_cons hpre]
            have hrest := ih tokens.length (by simp) rfl
            cases token with
            | none =>
                rw [render_none, render_none, ← hrest]
                exact replace_pass fun front back => h.pass
            | some y =>
                rw [render_some, render_some, ← hrest, replace_cons]
                rwa [← render_some, prefix_render h.first]

/-- What is found in the text, and is no part of a mask, has not been masked. -/
lemma exists_of_render {w front back : List α} (h : Foreign mask w)
    (hrender : render mask tokens = front ++ w ++ back) :
    ∃ before after, tokens = before ++ w.map some ++ after ∧ render mask before = front := by
  induction tokens generalizing front with
  | nil =>
      have hnil := congrArg List.length hrender
      simp only [render_nil, List.length_nil, List.length_append] at hnil
      exact absurd (List.length_eq_zero_iff.mp (show w.length = 0 by omega)) h.nonempty
  | cons token tokens ih =>
      cases token with
      | none =>
          rw [render_none, List.append_assoc] at hrender
          rcases List.append_eq_append_iff.mp hrender with
            ⟨rest, hfront, hrest⟩ | ⟨rest, hmask, hrest⟩
          · have htail : render mask tokens = rest ++ w ++ back := by rw [hrest, List.append_assoc]
            obtain ⟨before, after, rfl, hbefore⟩ := ih htail
            exact ⟨none :: before, after, rfl, by rw [render_none, hbefore, hfront]⟩
          · cases rest with
            | nil =>
                rw [List.nil_append] at hrest
                have htail : render mask tokens = [] ++ w ++ back := by rw [← hrest]; rfl
                obtain ⟨before, after, rfl, hbefore⟩ := ih htail
                exact ⟨none :: before, after, rfl, by rw [render_none, hbefore, hmask]; simp⟩
            | cons y rest =>
                have hpre : w <+: (y :: rest) ++ render mask tokens := ⟨back, by rw [hrest]⟩
                exact absurd hpre (h.pass hmask (List.cons_ne_nil _ _))
      | some y =>
          cases front with
          | nil =>
              have hpre : w <+: render mask (some y :: tokens) := ⟨back, by rw [hrender]; rfl⟩
              obtain ⟨after, hafter⟩ := (prefix_render h.first).mp hpre
              exact ⟨[], after, hafter.symm, rfl⟩
          | cons z front =>
              rw [render_some] at hrender
              obtain ⟨rfl, hrest⟩ := List.cons.inj hrender
              obtain ⟨before, after, rfl, hbefore⟩ := ih hrest
              exact ⟨some y :: before, after, rfl, by rw [render_some, hbefore]⟩

end Foreign

/-! ## All words at once -/

section Scan

variable [DecidableEq α]

/-- May `q` begin within `p`? -/
def Overlaps (p q : List α) : Prop :=
  ∃ j ∈ List.range p.length, 0 < j ∧ (p.drop j <+: q ∨ q <+: p.drop j)

instance (p q : List α) : Decidable (Overlaps p q) := by unfold Overlaps; infer_instance

/-- One of the words begins within the first `n` elements. -/
def Interrupted (words : List (List α)) (n : ℕ) (xs : List α) : Prop :=
  ∃ j ∈ List.range n, 0 < j ∧ ∃ q ∈ words, q <+: xs.drop j

instance (words : List (List α)) (n : ℕ) (xs : List α) : Decidable (Interrupted words n xs) := by
  unfold Interrupted; infer_instance

/-- The first of `some` words that begins the text, and is not interrupted by any of `words`. -/
def standing (words found : List (List α)) (xs : List α) : Option (List α) :=
  found.find? fun p => decide (p <+: xs ∧ ¬ Interrupted words p.length xs)

/-- The words `found` masked, when the first `skip` elements belong to one already. -/
def scanFrom (words found : List (List α)) : ℕ → List α → List (Option α)
  | _, [] => []
  | skip + 1, _ :: xs => scanFrom words found skip xs
  | 0, x :: xs =>
      match standing words found (x :: xs) with
      | some p => none :: scanFrom words found (p.length - 1) xs
      | none => some x :: scanFrom words found 0 xs

def scan (words found : List (List α)) (xs : List α) : List (Option α) :=
  scanFrom words found 0 xs

/-- A word is overlapped by earlier ones only, which are not overlapped themselves. -/
structure Layered (words : List (List α)) : Prop where
  nonempty : ∀ p ∈ words, p ≠ []
  earlier : words.Pairwise fun p q => ¬ Overlaps p q
  self : ∀ p ∈ words, ¬ Overlaps p p
  apart : ∀ p ∈ words, ∀ q ∈ words, Overlaps p q → ∀ r ∈ words, ¬ Overlaps q r

variable {words found : List (List α)} {p : List α}

lemma scanFrom_eq (skip : ℕ) :
    scanFrom words found skip xs = scan words found (xs.drop skip) := by
  induction xs generalizing skip with
  | nil => cases skip <;> rfl
  | cons x xs ih =>
      cases skip with
      | zero => rfl
      | succ skip => exact ih skip

lemma standing_eq_some (h : standing words found xs = some p) :
    p ∈ found ∧ p <+: xs ∧ ¬ Interrupted words p.length xs :=
  ⟨List.mem_of_find?_eq_some h, by simpa using List.find?_some h⟩

lemma standing_eq_none : standing words found xs = none ↔
    ∀ p ∈ found, p <+: xs → Interrupted words p.length xs := by
  simp [standing, List.find?_eq_none]

/-- A word that stands is masked. -/
lemma scan_standing (hp : p ≠ []) (h : standing words found xs = some p) :
    scan words found xs = none :: scan words found (xs.drop p.length) := by
  obtain ⟨-, ⟨rest, rfl⟩, -⟩ := standing_eq_some h
  cases p with
  | nil => exact absurd rfl hp
  | cons y p =>
      rw [List.cons_append] at h ⊢
      rw [scan, scanFrom, h]
      simp [scanFrom_eq]

lemma scan_cons (h : standing words found (x :: xs) = none) :
    scan words found (x :: xs) = some x :: scan words found xs := by
  rw [scan, scanFrom, h]
  rfl

/-- Where no word stands, the text is left as it is. -/
lemma scan_literal {w : List α}
    (h : ∀ j < w.length, standing words found ((w ++ xs).drop j) = none) :
    scan words found (w ++ xs) = w.map some ++ scan words found xs := by
  induction w with
  | nil => rfl
  | cons y w ih =>
      have hhead : standing words found (y :: (w ++ xs)) = none := h 0 (by simp)
      rw [List.cons_append, scan_cons hhead, ih]
      · rfl
      · intro j hj
        exact h (j + 1) (by simpa using hj)

lemma scan_eq_map (h : ∀ j < xs.length, standing words found (xs.drop j) = none) :
    scan words found xs = xs.map some := by
  rw [← List.append_nil xs] at h ⊢
  rw [scan_literal (by simpa using h), List.append_nil]
  exact List.append_nil _

/-- What is left as it is stands in the text, and there no word stands. -/
lemma literal_of_prefix (hwords : ∀ p ∈ found, p ≠ []) {w : List α}
    (h : w.map some <+: scan words found xs) :
    w <+: xs ∧ ∀ j < w.length, standing words found (xs.drop j) = none := by
  induction w generalizing xs with
  | nil => exact ⟨List.nil_prefix, fun j hj => absurd hj (Nat.not_lt_zero j)⟩
  | cons y w ih =>
      cases xs with
      | nil => exact absurd (List.prefix_nil.mp h) (by simp)
      | cons x xs =>
          cases hstanding : standing words found (x :: xs) with
          | some p =>
              rw [scan_standing (hwords p (standing_eq_some hstanding).1) hstanding, List.map_cons,
                List.cons_prefix_cons] at h
              cases h.1
          | none =>
              rw [scan_cons hstanding, List.map_cons, List.cons_prefix_cons] at h
              obtain ⟨hw, hstand⟩ := ih h.2
              refine ⟨List.cons_prefix_cons.mpr ⟨Option.some.inj h.1, hw⟩, fun j hj => ?_⟩
              cases j with
              | zero => exact hstanding
              | succ j => exact hstand j (by simpa using hj)

omit [DecidableEq α] in
/-- Two words in one text overlap. -/
lemma overlaps_of_occurs {q : List α} {j : ℕ} (hj : j < p.length) (hpos : 0 < j) (hp : p <+: xs)
    (hq : q <+: xs.drop j) : Overlaps p q := by
  refine ⟨j, List.mem_range.mpr hj, hpos, ?_⟩
  have hdrop : p.drop j <+: xs.drop j := by
    obtain ⟨rest, rfl⟩ := hp
    exact ⟨rest, by rw [List.drop_append_of_le_length hj.le]⟩
  exact List.prefix_or_prefix_of_prefix hdrop hq

/-- A word that begins the text is interrupted only by a word that stands. -/
lemma Layered.standing_ne_none (hlayered : Layered words) (hp : p ∈ words) (hpre : p <+: xs)
    (hfound : ∀ q ∈ words, Overlaps p q → q ∈ found) (hinterrupted : Interrupted words p.length xs) :
    ∃ j < p.length, standing words found (xs.drop j) ≠ none := by
  obtain ⟨j, hj, hpos, q, hq, hqpre⟩ := hinterrupted
  have hoverlaps := overlaps_of_occurs (List.mem_range.mp hj) hpos hpre hqpre
  refine ⟨j, List.mem_range.mp hj, fun hnone => ?_⟩
  obtain ⟨i, hi, hipos, r, hr, hrpre⟩ :=
    standing_eq_none.mp hnone q (hfound q hq hoverlaps) hqpre
  exact hlayered.apart p hp q hq hoverlaps r hr
    (overlaps_of_occurs (List.mem_range.mp hi) hipos hqpre hrpre)

/-- One more word. -/
lemma Layered.replace_scan {rest : List (List α)} (hlayered : Layered words)
    (hwords : words = found ++ p :: rest) :
    replace (p.map some) [none] (scan words found xs) = scan words (found ++ [p]) xs := by
  have hp : p ∈ words := by rw [hwords]; simp
  have hsub : ∀ q ∈ found, q ∈ words := fun q hq => by rw [hwords]; simp [hq]
  have hne : ∀ q ∈ found, q ≠ [] := fun q hq => hlayered.nonempty q (hsub q hq)
  have hfound : ∀ q ∈ words, Overlaps p q → q ∈ found := by
    intro q hq hoverlaps
    have hpairs := hlayered.earlier
    rw [hwords] at hq hpairs
    rcases List.mem_append.mp hq with hq | hq
    · exact hq
    rcases List.mem_cons.mp hq with rfl | hq
    · exact absurd hoverlaps (hlayered.self q hp)
    · exact absurd hoverlaps ((List.pairwise_cons.mp (List.pairwise_append.mp hpairs).2.1).1 q hq)
  have happend : ∀ ys, standing words (found ++ [p]) ys = (standing words found ys).or
      (if p <+: ys ∧ ¬ Interrupted words p.length ys then some p else none) := by
    intro ys
    rw [standing, List.find?_append, List.find?_singleton]
    simp only [decide_eq_true_eq]
    rfl
  induction hlen : xs.length using Nat.strong_induction_on generalizing xs with
  | _ n ih =>
      subst hlen
      cases xs with
      | nil => rfl
      | cons x xs =>
          cases hstanding : standing words found (x :: xs) with
          | some q =>
              -- a word that has been masked before
              obtain ⟨hq, -, -⟩ := standing_eq_some hstanding
              have hpos := List.length_pos_of_ne_nil (hne q hq)
              have hboth : standing words (found ++ [p]) (x :: xs) = some q := by
                rw [happend, hstanding]
                rfl
              rw [scan_standing (hne q hq) hstanding, scan_standing (hne q hq) hboth,
                replace_cons, ih _ (by simp; omega) rfl]
              cases p with
              | nil => exact absurd rfl (hlayered.nonempty [] hp)
              | cons y p => simp [List.cons_prefix_cons]
          | none =>
              by_cases hstands : p <+: x :: xs ∧ ¬ Interrupted words p.length (x :: xs)
              · -- the word stands here, and has been left as it is so far
                obtain ⟨hpre, hfree⟩ := hstands
                have hboth : standing words (found ++ [p]) (x :: xs) = some p := by
                  rw [happend, hstanding, if_pos ⟨hpre, hfree⟩]
                  rfl
                have hpos := List.length_pos_of_ne_nil (hlayered.nonempty p hp)
                rw [scan_standing (hlayered.nonempty p hp) hboth]
                obtain ⟨back, hback⟩ := hpre
                have hdrop : (x :: xs).drop p.length = back := by rw [← hback]; simp
                have hshorter : back.length < (x :: xs).length := by rw [← hback]; simp; omega
                rw [hdrop, ← ih _ hshorter rfl, ← hback, scan_literal,
                  replace_append (by simpa using hlayered.nonempty p hp)]
                · rfl
                · intro j hj
                  rw [hback]
                  cases j with
                  | zero => exact hstanding
                  | succ j =>
                      refine standing_eq_none.mpr fun q hq hqpre => absurd ?_ hfree
                      exact ⟨j + 1, List.mem_range.mpr hj, Nat.succ_pos j, q, hsub q hq, hqpre⟩
              · have hboth : standing words (found ++ [p]) (x :: xs) = none := by
                  rw [happend, hstanding, if_neg hstands]
                  rfl
                rw [scan_cons hboth, ← ih _ (by simp) rfl, scan_cons hstanding, replace_cons]
                rw [← scan_cons hstanding]
                intro hpre
                obtain ⟨hword, hnone⟩ := literal_of_prefix hne hpre
                have hinterrupted : Interrupted words p.length (x :: xs) :=
                  not_not.mp fun h => hstands ⟨hword, h⟩
                obtain ⟨j, hj, hsome⟩ :=
                  hlayered.standing_ne_none hp hword hfound hinterrupted
                exact hsome (hnone j hj)

/-- **To mask one word after another is to mask all of them at once.** The induction is on the words
still to come: after each of them the text is the scan for the words found so far, in which a word
is left standing where a later one begins within it. -/
theorem foldl_replace_eq_scan (hlayered : Layered words) (xs : List α) :
    words.foldl (fun tokens p => replace (p.map some) [none] tokens) (xs.map some)
      = scan words words xs := by
  have hstep : ∀ found rest, words = found ++ rest →
      rest.foldl (fun tokens p => replace (p.map some) [none] tokens) (scan words found xs)
        = scan words words xs := by
    intro found rest hwords
    induction rest generalizing found with
    | nil => rw [hwords, List.append_nil, List.foldl_nil]
    | cons p rest ih =>
        rw [List.foldl_cons, hlayered.replace_scan hwords]
        exact ih (found ++ [p]) (by rw [hwords, List.append_assoc]; rfl)
  have hnone : scan words [] xs = xs.map some := scan_eq_map fun _ _ => rfl
  rw [← hnone]
  exact hstep [] words rfl

/-- What follows in a masked text is a masked text. -/
lemma exists_scan (hne : ∀ p ∈ found, p ≠ []) {before after : List (Option α)}
    (h : scan words found xs = before ++ after) : ∃ ys, scan words found ys = after := by
  induction before generalizing xs with
  | nil => exact ⟨xs, h⟩
  | cons token before ih =>
      cases xs with
      | nil => cases h
      | cons x xs =>
          cases hstanding : standing words found (x :: xs) with
          | some p =>
              rw [scan_standing (hne p (standing_eq_some hstanding).1) hstanding] at h
              exact ih (List.cons.inj h).2
          | none =>
              rw [scan_cons hstanding] at h
              exact ih (List.cons.inj h).2

/-- **No word is left.** -/
theorem not_infix_scan (hlayered : Layered words) (hp : p ∈ words) :
    ¬ p.map some <:+: scan words words xs := by
  rintro ⟨before, after, h⟩
  rw [List.append_assoc] at h
  obtain ⟨ys, hys⟩ := exists_scan hlayered.nonempty h.symm
  obtain ⟨hword, hnone⟩ := literal_of_prefix (w := p) hlayered.nonempty ⟨after, hys.symm⟩
  have hpos := List.length_pos_of_ne_nil (hlayered.nonempty p hp)
  have hinterrupted := standing_eq_none.mp (hnone 0 hpos) p hp hword
  obtain ⟨j, hj, hsome⟩ :=
    hlayered.standing_ne_none hp hword (fun q hq _ => hq) hinterrupted
  exact hsome (hnone j hj)

end Scan

end Masking
