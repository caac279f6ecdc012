import Mathlib.Data.List.Infix

/-!
# Texts with labels

A text of fields with labels between them, and how many ways there are to take it apart.

* `Label` — a separator, and then what is free of it.
* `weave` — the fields, each but the first after its label.
* `split` — two places of labels in one text: they are the same, or one is in front of the other.
* `Clean` — no field contains the label in front of it, or the one behind it.
* `weave_injective`, `exists_other` — there is only one way if and only if the fields are clean.
* `last_part`, `first_part` — what is free of the separator is found at either end.
-/

namespace Labels

variable {α : Type} {sep : α}

/-- A label starts with the only separator in it. -/
structure Label (sep : α) where
  body : List α
  plain : sep ∉ body

def Label.text (L : Label sep) : List α := sep :: L.body

def weave : List α → List (Label sep × List α) → List α
  | f, [] => f
  | f, (L, g) :: rest => f ++ L.text ++ weave g rest

/-- No field contains its label, or the next one. -/
def Clean : List α → List (Label sep × List α) → Prop
  | _, [] => True
  | f, (L, g) :: rest => ¬L.text <:+: f ∧ ¬L.text <:+: g ∧ Clean g rest

/-- No label is the beginning of another one. -/
def Incomparable (L M : Label sep) : Prop := ¬L.body <+: M.body ∧ ¬M.body <+: L.body

instance [DecidableEq α] (L M : Label sep) : Decidable (Incomparable L M) :=
  inferInstanceAs (Decidable (_ ∧ _))

/-! ## Two places in one text -/

lemma overlap (L : Label sep) {b e d : List α} (h : L.text ++ b = e ++ sep :: d) :
    e = [] ∨ ∃ x, e = L.text ++ x ∧ b = x ++ sep :: d := by
  cases e with
  | nil => exact .inl rfl
  | cons c e =>
      right
      obtain ⟨rfl, hrest⟩ := List.cons.inj h
      rcases List.append_eq_append_iff.mp hrest with ⟨x, he, hb⟩ | ⟨x, hbody, hd⟩
      · exact ⟨x, congrArg (sep :: ·) he, hb⟩
      · cases x with
        | nil =>
            exact ⟨[], by simp [Label.text, hbody], hd.symm⟩
        | cons y x =>
            obtain ⟨rfl, -⟩ := List.cons.inj hd
            refine absurd ?_ L.plain
            rw [hbody]
            exact List.mem_append_right e List.mem_cons_self

/-- Two labels of one text are at the same place, or one is in front of the other. -/
lemma split (L M : Label sep) {a b a' b' : List α} (h : a ++ L.text ++ b = a' ++ M.text ++ b') :
    (a = a' ∧ L.body ++ b = M.body ++ b')
      ∨ (∃ x, a' = a ++ L.text ++ x ∧ b = x ++ M.text ++ b')
      ∨ ∃ x, a = a' ++ M.text ++ x ∧ b' = x ++ L.text ++ b := by
  rw [List.append_assoc, List.append_assoc] at h
  rcases List.append_eq_append_iff.mp h with ⟨e, rfl, he⟩ | ⟨e, rfl, he⟩
  · rcases overlap L he with rfl | ⟨x, rfl, hb⟩
    · exact .inl ⟨(List.append_nil a).symm, (List.cons.inj he).2⟩
    · exact .inr (.inl ⟨x, (List.append_assoc a L.text x).symm, by rw [hb]; simp [Label.text]⟩)
  · rcases overlap M he with rfl | ⟨x, rfl, hb⟩
    · exact .inl ⟨List.append_nil a', (List.cons.inj he).2.symm⟩
    · exact .inr (.inr ⟨x, (List.append_assoc a' M.text x).symm, by rw [hb]; simp [Label.text]⟩)

/-- Two incomparable labels are not at the same place. -/
lemma Incomparable.split {L M : Label sep} (hLM : Incomparable L M) {a b a' b' : List α}
    (h : a ++ L.text ++ b = a' ++ M.text ++ b') :
    (∃ x, a' = a ++ L.text ++ x ∧ b = x ++ M.text ++ b')
      ∨ ∃ x, a = a' ++ M.text ++ x ∧ b' = x ++ L.text ++ b := by
  rcases Labels.split L M h with ⟨-, h⟩ | h
  · exfalso
    rcases List.append_eq_append_iff.mp h with ⟨x, hx, -⟩ | ⟨x, hx, -⟩
    · exact hLM.1 ⟨x, hx.symm⟩
    · exact hLM.2 ⟨x, hx.symm⟩
  · exact h

lemma infix_of_eq {L : Label sep} {f a x : List α} (h : f = a ++ L.text ++ x) : L.text <:+: f :=
  ⟨a, x, h.symm⟩

/-! ## One way to take a text apart -/

/-- A label that does not occur in the first field is not found behind it either, if all labels are
to be found in their order. -/
lemma not_late {L : Label sep} {g u x : List α} {rest rest' : List (Label sep × List α)}
    (hlabels : rest.map Prod.fst = rest'.map Prod.fst)
    (hfirst : ∀ p ∈ rest, Incomparable p.1 L)
    (hordered : (rest.map Prod.fst).Pairwise fun M N => Incomparable N M)
    (hL : ¬L.text <:+: g) (hclean : Clean g rest) :
    weave g rest ≠ x ++ L.text ++ weave u rest' := by
  intro h
  induction rest generalizing L g u x rest' with
  | nil => exact hL (infix_of_eq h)
  | cons p rest ih =>
      obtain ⟨M, k⟩ := p
      cases rest' with
      | nil => cases hlabels
      | cons p' rest' =>
          obtain ⟨M', k'⟩ := p'
          obtain ⟨rfl, hlabels'⟩ := List.cons.inj hlabels
          obtain ⟨hlater, hordered⟩ := List.pairwise_cons.mp hordered
          rcases (hfirst _ List.mem_cons_self).split h with ⟨y, -, hk⟩ | ⟨y, hg, -⟩
          · -- the label is behind the next one, which is then found even later
            refine ih hlabels' (fun q hq => hlater q.1 (List.mem_map_of_mem hq)) hordered
              hclean.2.1 hclean.2.2 (x := y ++ L.text ++ u) (u := k') ?_
            rw [hk]
            simp [weave]
          · exact hL (infix_of_eq hg)

/-- **Clean fields are found again.** Two ways to take one text apart put each label at some place;
at the first place where they differ, the label of one lies in a field of the other. The labels are
taken in their order, and no later one begins like an earlier one. -/
theorem weave_injective {f f' : List α} {rest rest' : List (Label sep × List α)}
    (hlabels : rest.map Prod.fst = rest'.map Prod.fst)
    (hordered : (rest.map Prod.fst).Pairwise fun M N => Incomparable N M) (hclean : Clean f rest)
    (h : weave f rest = weave f' rest') : f = f' ∧ rest = rest' := by
  induction rest generalizing f f' rest' with
  | nil =>
      cases rest' with
      | nil => exact ⟨h, rfl⟩
      | cons _ _ => cases hlabels
  | cons p rest ih =>
      obtain ⟨L, g⟩ := p
      cases rest' with
      | nil => cases hlabels
      | cons p' rest' =>
          obtain ⟨L', g'⟩ := p'
          obtain ⟨rfl, hlabels'⟩ := List.cons.inj hlabels
          obtain ⟨hlater, hordered⟩ := List.pairwise_cons.mp hordered
          rcases split L L h with ⟨rfl, h⟩ | ⟨x, -, h⟩ | ⟨x, hf, -⟩
          · obtain ⟨rfl, rfl⟩ := ih hlabels' hordered hclean.2.2 (List.append_cancel_left h)
            exact ⟨rfl, rfl⟩
          · exact absurd h (not_late hlabels' (fun q hq => hlater q.1 (List.mem_map_of_mem hq))
              hordered hclean.2.1 hclean.2.2)
          · exact absurd (infix_of_eq hf) hclean.1

/-- What is not clean can be taken apart in another way: a field that contains a label is cut there,
and what was between the two places of the label goes to the other field. -/
theorem exists_other {f : List α} {rest : List (Label sep × List α)} (h : ¬Clean f rest) :
    ∃ f' rest', rest'.map Prod.fst = rest.map Prod.fst ∧ weave f' rest' = weave f rest
      ∧ ¬(f' = f ∧ rest' = rest) := by
  induction rest generalizing f with
  | nil => exact absurd trivial h
  | cons p rest ih =>
      obtain ⟨L, g⟩ := p
      by_cases hf : L.text <:+: f
      · obtain ⟨x, y, rfl⟩ := hf
        refine ⟨x, (L, y ++ L.text ++ g) :: rest, rfl, ?_, fun heq => ?_⟩
        · cases rest <;> simp [weave]
        · have hlength := congrArg List.length heq.1
          simp [Label.text] at hlength
      · by_cases hg : L.text <:+: g
        · obtain ⟨x, y, rfl⟩ := hg
          refine ⟨f ++ L.text ++ x, (L, y) :: rest, rfl, ?_, fun heq => ?_⟩
          · cases rest <;> simp [weave]
          · have hlength := congrArg List.length heq.1
            simp [Label.text] at hlength
        · obtain ⟨g', rest', hlabels, hweave, hne⟩ := ih fun hclean => h ⟨hf, hg, hclean⟩
          refine ⟨f, (L, g') :: rest', ?_, ?_, fun heq => hne ?_⟩
          · simp [hlabels]
          · simp [weave, hweave]
          · obtain ⟨heq, hrest⟩ := List.cons.inj heq.2
            exact ⟨(Prod.mk.inj heq).2, hrest⟩

/-! ## The ends of a text -/

lemma last_part {a b a' b' : List α} (hb : sep ∉ b) (hb' : sep ∉ b')
    (h : a ++ sep :: b = a' ++ sep :: b') : a = a' ∧ b = b' := by
  rcases List.append_eq_append_iff.mp h with ⟨e, rfl, he⟩ | ⟨e, rfl, he⟩
  · cases e with
    | nil => exact ⟨(List.append_nil a).symm, (List.cons.inj he).2⟩
    | cons c e => exact absurd ((List.cons.inj he).2 ▸ by simp) hb
  · cases e with
    | nil => exact ⟨List.append_nil a', (List.cons.inj he).2.symm⟩
    | cons c e => exact absurd ((List.cons.inj he).2 ▸ by simp) hb'

lemma first_part {a b a' b' : List α} (ha : sep ∉ a) (ha' : sep ∉ a')
    (h : a ++ sep :: b = a' ++ sep :: b') : a = a' ∧ b = b' := by
  rcases List.append_eq_append_iff.mp h with ⟨e, rfl, he⟩ | ⟨e, rfl, he⟩
  · cases e with
    | nil => exact ⟨(List.append_nil a).symm, (List.cons.inj he).2⟩
    | cons c e =>
        obtain ⟨rfl, -⟩ := List.cons.inj he
        exact absurd (List.mem_append_right a List.mem_cons_self) ha'
  · cases e with
    | nil => exact ⟨List.append_nil a', (List.cons.inj he).2.symm⟩
    | cons c e =>
        obtain ⟨rfl, -⟩ := List.cons.inj he
        exact absurd (List.mem_append_right a' List.mem_cons_self) ha

end Labels
