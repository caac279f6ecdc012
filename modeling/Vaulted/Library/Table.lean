import Mathlib.Data.List.Nodup
import Mathlib.Data.List.Pairwise

/-!
# Tables with a primary key

`Table key` is a list of rows together with the proof that no two of them share a key, so the
primary-key constraint is part of the type: `insert?` refuses a second row for a key, and
`modify` takes the proof that the update leaves the key alone.

Two views of a table are kept in step by the lemmas below: the rows, as the `WHERE` clauses
scan them, and `get?`, the row of a key.  `get?_eq_some` is the bridge, and each operation
comes with its effect on `get?` (`get?_update`, `get?_insert`, `get?_upsert`).

`Indexed key alt` is a table with a second unique column.  Its statements are those of the
table underneath, followed by the check of the second column (`ofTable?`).

`Checked p` is a column with a `CHECK` constraint.
-/

/-- A value of a column that satisfies its `CHECK` constraint. -/
abbrev Checked {α : Type} (p : α → Bool) : Type := {a : α // p a = true}

/-- Rows of type `ρ`, no two with the same `key`. -/
structure Table {ρ ι : Type} (key : ρ → ι) where
  rows : List ρ
  nodup : (rows.map key).Nodup

namespace Table

variable {ρ ι : Type} {key : ρ → ι}

/-- The table without rows. -/
def empty : Table key := ⟨[], List.nodup_nil⟩

instance : Inhabited (Table key) := ⟨empty⟩

section Operations

variable [DecidableEq ι]

/-- The row with key `i`. -/
def get? (t : Table key) (i : ι) : Option ρ := t.rows.find? fun r => decide (key r = i)

/-- `UPDATE … SET f WHERE p`, for an `f` that keeps the key. -/
def modify (t : Table key) (p : ρ → Bool) (f : ρ → ρ) (hf : ∀ r, key (f r) = key r) :
    Table key where
  rows := t.rows.map fun r => if p r then f r else r
  nodup := by
    have hkeys : (t.rows.map fun r => if p r then f r else r).map key = t.rows.map key := by
      rw [List.map_map]
      refine List.map_congr_left fun r _ => ?_
      by_cases hp : p r = true <;> simp [hp, hf]
    rw [hkeys]
    exact t.nodup

/-- `UPDATE … SET f WHERE key = i`. -/
def update (t : Table key) (i : ι) (f : ρ → ρ) (hf : ∀ r, key (f r) = key r) : Table key :=
  t.modify (fun r => decide (key r = i)) f hf

/-- `INSERT`, refused when the key is taken. -/
def insert? (t : Table key) (r : ρ) : Option (Table key) :=
  if h : key r ∈ t.rows.map key then none
  else some ⟨t.rows ++ [r], by
    rw [List.map_append, List.nodup_append]
    refine ⟨t.nodup, by simp, ?_⟩
    intro a ha b hb hab
    simp only [List.map_cons, List.map_nil, List.mem_singleton] at hb
    exact h (hb ▸ hab ▸ ha)⟩

/-- `DELETE … WHERE p`. -/
def deleteWhere (t : Table key) (p : ρ → Bool) : Table key where
  rows := t.rows.filter fun r => !p r
  nodup := (List.filter_sublist.map key).nodup t.nodup

/-- `INSERT … ON CONFLICT (key) DO UPDATE SET f`. -/
def upsert (t : Table key) (r : ρ) (f : ρ → ρ) (hf : ∀ r, key (f r) = key r) : Table key :=
  (t.insert? r).getD (t.update (key r) f hf)

/-- `UPDATE … SET f WHERE p`, refused when two rows end up with one key. -/
def replaceWhere? (t : Table key) (p : ρ → Bool) (f : ρ → ρ) : Option (Table key) :=
  if h : ((t.rows.map fun r => if p r then f r else r).map key).Nodup then some ⟨_, h⟩ else none

/-! ## The two views -/

lemma get?_eq_some {t : Table key} {i : ι} {r : ρ} :
    t.get? i = some r ↔ r ∈ t.rows ∧ key r = i := by
  constructor
  · intro h
    exact ⟨List.mem_of_find?_eq_some h, by simpa using List.find?_some h⟩
  · rintro ⟨hr, rfl⟩
    cases hf : t.get? (key r) with
    | none =>
        have hne := List.find?_eq_none.mp hf r hr
        simp at hne
    | some r' =>
        have hr' : r' ∈ t.rows := List.mem_of_find?_eq_some hf
        have hk : key r' = key r := by simpa using List.find?_some hf
        rw [List.inj_on_of_nodup_map t.nodup hr' hr hk]

lemma get?_of_mem {t : Table key} {r : ρ} (h : r ∈ t.rows) : t.get? (key r) = some r :=
  get?_eq_some.mpr ⟨h, rfl⟩

lemma key_of_get? {t : Table key} {i : ι} {r : ρ} (h : t.get? i = some r) : key r = i :=
  (get?_eq_some.mp h).2

lemma mem_of_get? {t : Table key} {i : ι} {r : ρ} (h : t.get? i = some r) : r ∈ t.rows :=
  (get?_eq_some.mp h).1

omit [DecidableEq ι] in
/-- No two rows have one key. -/
lemma eq_of_mem (t : Table key) {r o : ρ} (hr : r ∈ t.rows) (ho : o ∈ t.rows)
    (h : key r = key o) : r = o :=
  List.inj_on_of_nodup_map t.nodup hr ho h

lemma get?_eq_none {t : Table key} {i : ι} : t.get? i = none ↔ ∀ r ∈ t.rows, key r ≠ i := by
  simp [get?, List.find?_eq_none]

@[simp] lemma get?_empty (i : ι) : (empty : Table key).get? i = none := rfl

/-! ## Effects on the row of a key -/

omit [DecidableEq ι] in
lemma mem_modify {t : Table key} {p : ρ → Bool} {f : ρ → ρ} {hf : ∀ r, key (f r) = key r}
    {r : ρ} : r ∈ (t.modify p f hf).rows ↔ ∃ o ∈ t.rows, r = if p o then f o else o := by
  simp only [modify, List.mem_map, eq_comm]

lemma get?_modify (t : Table key) (p : ρ → Bool) (f : ρ → ρ) (hf : ∀ r, key (f r) = key r)
    (i : ι) : (t.modify p f hf).get? i = (t.get? i).map fun r => if p r then f r else r := by
  have hkey : ∀ r, key (if p r then f r else r) = key r := by
    intro r
    by_cases hp : p r = true <;> simp [hp, hf]
  cases h : t.get? i with
  | none =>
      rw [Option.map_none, get?_eq_none]
      intro r hr
      obtain ⟨o, ho, rfl⟩ := mem_modify.mp hr
      rw [hkey]
      exact get?_eq_none.mp h o ho
  | some r =>
      rw [Option.map_some, get?_eq_some]
      exact ⟨mem_modify.mpr ⟨r, mem_of_get? h, rfl⟩, by rw [hkey, key_of_get? h]⟩

lemma get?_update (t : Table key) (i : ι) (f : ρ → ρ) (hf : ∀ r, key (f r) = key r) (j : ι) :
    (t.update i f hf).get? j = if j = i then (t.get? i).map f else t.get? j := by
  rw [update, get?_modify]
  cases h : t.get? j with
  | none =>
      by_cases hji : j = i
      · subst hji; simp [h]
      · simp [hji]
  | some r =>
      have hr := key_of_get? h
      by_cases hji : j = i
      · subst hji; simp [h, hr]
      · simp [hji, hr]

@[simp] lemma get?_update_self (t : Table key) (i : ι) (f : ρ → ρ)
    (hf : ∀ r, key (f r) = key r) : (t.update i f hf).get? i = (t.get? i).map f := by
  rw [get?_update, if_pos rfl]

lemma insert?_eq_some {t t' : Table key} {r : ρ} (h : t.insert? r = some t') :
    t.get? (key r) = none ∧ t'.rows = t.rows ++ [r] := by
  unfold insert? at h
  split_ifs at h with hk
  refine ⟨get?_eq_none.mpr fun o ho hko => hk ?_, ?_⟩
  · rw [← hko]; exact List.mem_map_of_mem ho
  · rw [← Option.some.inj h]

lemma get?_insert {t t' : Table key} {r : ρ} (h : t.insert? r = some t') (j : ι) :
    t'.get? j = if j = key r then some r else t.get? j := by
  obtain ⟨hnone, hrows⟩ := insert?_eq_some h
  by_cases hj : j = key r
  · rw [if_pos hj, get?_eq_some, hrows]
    exact ⟨by simp, hj.symm⟩
  · rw [if_neg hj]
    have hskip : (decide (key r = j)) = false := by simpa using Ne.symm hj
    simp only [get?, hrows, List.find?_append, List.find?_cons, List.find?_nil, hskip,
      Option.or_none]

lemma insert?_of_none {t : Table key} {r : ρ} (h : t.get? (key r) = none) :
    ∃ t', t.insert? r = some t' := by
  unfold insert?
  have hk : key r ∉ t.rows.map key := by
    intro hk
    obtain ⟨o, ho, hko⟩ := List.mem_map.mp hk
    exact get?_eq_none.mp h o ho hko
  rw [dif_neg hk]
  exact ⟨_, rfl⟩

lemma insert?_eq_none {t : Table key} {r : ρ} (h : t.insert? r = none) :
    ∃ o, t.get? (key r) = some o := by
  cases ho : t.get? (key r) with
  | some o => exact ⟨o, rfl⟩
  | none =>
      obtain ⟨t', ht'⟩ := insert?_of_none ho
      rw [ht'] at h
      cases h

lemma get?_upsert (t : Table key) (r : ρ) (f : ρ → ρ) (hf : ∀ r, key (f r) = key r) (j : ι) :
    (t.upsert r f hf).get? j
      = if j = key r then some ((t.get? (key r)).elim r f) else t.get? j := by
  unfold upsert
  cases h : t.insert? r with
  | none =>
      obtain ⟨o, ho⟩ := insert?_eq_none h
      rw [Option.getD_none, get?_update, ho]
      rfl
  | some t' =>
      rw [Option.getD_some, get?_insert h, (insert?_eq_some h).1]
      rfl

lemma get?_deleteWhere (t : Table key) (p : ρ → Bool) (i : ι) :
    (t.deleteWhere p).get? i = (t.get? i).filter fun r => !p r := by
  cases h : t.get? i with
  | none =>
      rw [Option.filter_none, get?_eq_none]
      intro r hr
      exact get?_eq_none.mp h r (List.mem_of_mem_filter hr)
  | some r =>
      cases hp : p r with
      | false =>
          have hkeep : (some r).filter (fun r => !p r) = some r := by simp [hp]
          rw [hkeep, get?_eq_some]
          exact ⟨List.mem_filter.mpr ⟨mem_of_get? h, by simp [hp]⟩, key_of_get? h⟩
      | true =>
          have hdrop : (some r).filter (fun r => !p r) = none := by simp [hp]
          rw [hdrop, get?_eq_none]
          intro o ho hko
          obtain ⟨ho, hpo⟩ := List.mem_filter.mp ho
          have : o = r := Option.some.inj ((get?_eq_some.mpr ⟨ho, hko⟩).symm.trans h)
          simp [this, hp] at hpo

/-! ## Effects on the rows -/

lemma mem_update {t : Table key} {i : ι} {f : ρ → ρ} {hf : ∀ r, key (f r) = key r} {r : ρ} :
    r ∈ (t.update i f hf).rows ↔ ∃ o ∈ t.rows, r = if key o = i then f o else o := by
  simp only [update, mem_modify, decide_eq_true_eq]

lemma mem_upsert {t : Table key} {r o : ρ} {f : ρ → ρ} {hf : ∀ r, key (f r) = key r}
    (h : o ∈ (t.upsert r f hf).rows) :
    o ∈ t.rows ∨ o = r ∨ ∃ old, t.get? (key r) = some old ∧ o = f old := by
  have hget := get?_of_mem h
  rw [get?_upsert] at hget
  split_ifs at hget with hk
  · cases hold : t.get? (key r) with
    | none => rw [hold] at hget; exact .inr (.inl (Option.some.inj hget).symm)
    | some old =>
        rw [hold] at hget
        exact .inr (.inr ⟨old, rfl, (Option.some.inj hget).symm⟩)
  · exact .inl (mem_of_get? hget)

/-- Under a key that is free, an upsert adds its row. -/
lemma rows_upsert_of_none {t : Table key} {r : ρ} {f : ρ → ρ} {hf : ∀ r, key (f r) = key r}
    (h : t.get? (key r) = none) : (t.upsert r f hf).rows = t.rows ++ [r] := by
  obtain ⟨t', ht'⟩ := insert?_of_none h
  rw [upsert, ht', Option.getD_some, (insert?_eq_some ht').2]

/-! ## How many rows satisfy a condition -/

lemma countP_key_le_one (t : Table key) (i : ι) :
    t.rows.countP (fun r => decide (key r = i)) ≤ 1 := by
  have hle := List.nodup_iff_count_le_one.mp t.nodup i
  rw [List.count, List.countP_map] at hle
  exact hle

/-- An upsert brings one row, and may replace another. -/
lemma countP_upsert_le (t : Table key) {r : ρ} {f : ρ → ρ} (hf : ∀ r, key (f r) = key r)
    {q : ρ → Bool} (hq : ∀ o, q (f o) = q r) :
    (t.upsert r f hf).rows.countP q ≤ t.rows.countP q + if q r then 1 else 0 := by
  unfold upsert
  cases h : t.insert? r with
  | some t' =>
      rw [Option.getD_some, (insert?_eq_some h).2, List.countP_append]
      cases hr : q r <;> simp [hr]
  | none =>
      rw [Option.getD_none]
      simp only [update, modify, List.countP_map]
      cases hr : q r with
      | false =>
          refine Nat.le_trans (List.countP_mono_left fun o _ ho => ?_) (Nat.le_add_right _ _)
          by_cases hk : key o = key r
          · simp [hk, hq, hr] at ho
          · simpa [hk] using ho
      | true =>
          calc t.rows.countP (q ∘ fun o => if decide (key o = key r) then f o else o)
              ≤ t.rows.countP (fun o => q o || decide (key o = key r)) := by
                refine List.countP_mono_left fun o _ ho => ?_
                by_cases hk : key o = key r
                · simp [hk]
                · simpa [hk] using ho
            _ ≤ t.rows.countP q + t.rows.countP (fun o => decide (key o = key r)) := by
                induction t.rows with
                | nil => simp
                | cons o rows ih => cases ho : q o <;> cases hk : decide (key o = key r) <;>
                    simp [ho, hk] <;> omega
            _ ≤ t.rows.countP q + 1 := Nat.add_le_add_left (countP_key_le_one t _) _

omit [DecidableEq ι] in
/-- The row that a deletion takes is one less. -/
lemma countP_deleteWhere_lt {t : Table key} {p q : ρ → Bool} {r : ρ} (hr : r ∈ t.rows)
    (hp : p r = true) (hq : q r = true) :
    (t.deleteWhere p).rows.countP q < t.rows.countP q := by
  obtain ⟨before, after, hrows⟩ := List.append_of_mem hr
  have hbefore : (before.filter fun r => !p r).countP q ≤ before.countP q :=
    List.filter_sublist.countP_le
  have hafter : (after.filter fun r => !p r).countP q ≤ after.countP q :=
    List.filter_sublist.countP_le
  simp only [deleteWhere, hrows, List.filter_append, List.filter_cons, hp, Bool.not_true,
    List.countP_append, List.countP_cons, hq, if_true, Bool.false_eq_true, if_false]
  omega

end Operations

end Table

/-- A table with a second unique column. -/
structure Indexed {ρ ι κ : Type} (key : ρ → ι) (alt : ρ → κ) where
  table : Table key
  altNodup : (table.rows.map alt).Nodup

namespace Indexed

variable {ρ ι κ : Type} {key : ρ → ι} {alt : ρ → κ}

instance : Inhabited (Indexed key alt) := ⟨⟨Table.empty, List.nodup_nil⟩⟩

/-- The rows, as a `WHERE` clause scans them. -/
def rows (t : Indexed key alt) : List ρ := t.table.rows

section Operations

variable [DecidableEq ι] [DecidableEq κ]

/-- The row with key `i`. -/
def get? (t : Indexed key alt) (i : ι) : Option ρ := t.table.get? i

/-- The row whose second unique column is `k`. -/
def find? (t : Indexed key alt) (k : κ) : Option ρ := t.rows.find? fun r => decide (alt r = k)

/-- Check the second column of a table that a statement is about to leave. -/
def ofTable? (t : Table key) : Option (Indexed key alt) :=
  if h : (t.rows.map alt).Nodup then some ⟨t, h⟩ else none

/-- `INSERT`, refused when either unique value is taken. -/
def insert? (t : Indexed key alt) (r : ρ) : Option (Indexed key alt) :=
  (t.table.insert? r).bind ofTable?

/-- `UPDATE … SET f WHERE key = i` for an `f` that may change the second column. -/
def replace? (t : Indexed key alt) (i : ι) (f : ρ → ρ) (hf : ∀ r, key (f r) = key r) :
    Option (Indexed key alt) :=
  ofTable? (t.table.update i f hf)

/-- `INSERT … ON CONFLICT (key) DO UPDATE SET f`, refused when the new row collides in the
second column. -/
def upsert? (t : Indexed key alt) (r : ρ) (f : ρ → ρ) (hf : ∀ r, key (f r) = key r) :
    Option (Indexed key alt) :=
  ofTable? (t.table.upsert r f hf)

/-- `UPDATE … SET f WHERE key = i` for an `f` that keeps both columns. -/
def update (t : Indexed key alt) (i : ι) (f : ρ → ρ) (hf : ∀ r, key (f r) = key r)
    (ha : ∀ r, alt (f r) = alt r) : Indexed key alt where
  table := t.table.update i f hf
  altNodup := by
    have hrows : (t.table.update i f hf).rows.map alt = t.table.rows.map alt := by
      simp only [Table.update, Table.modify, List.map_map]
      refine List.map_congr_left fun r _ => ?_
      by_cases hi : key r = i <;> simp [hi, ha]
    rw [hrows]
    exact t.altNodup

/-! ## The two unique columns -/

omit [DecidableEq κ] in
lemma get?_eq_some {t : Indexed key alt} {i : ι} {r : ρ} :
    t.get? i = some r ↔ r ∈ t.rows ∧ key r = i :=
  Table.get?_eq_some

omit [DecidableEq κ] in
lemma key_of_get? {t : Indexed key alt} {i : ι} {r : ρ} (h : t.get? i = some r) : key r = i :=
  (get?_eq_some.mp h).2

omit [DecidableEq ι] in
lemma find?_eq_some {t : Indexed key alt} {k : κ} {r : ρ} :
    t.find? k = some r ↔ r ∈ t.rows ∧ alt r = k :=
  Table.get?_eq_some (t := (⟨t.rows, t.altNodup⟩ : Table alt))

omit [DecidableEq ι] in
lemma find?_eq_none {t : Indexed key alt} {k : κ} :
    t.find? k = none ↔ ∀ r ∈ t.rows, alt r ≠ k :=
  Table.get?_eq_none (t := (⟨t.rows, t.altNodup⟩ : Table alt))

/-- A row is found by either of its unique columns. -/
lemma find?_of_get? {t : Indexed key alt} {i : ι} {r : ρ} (h : t.get? i = some r) :
    t.find? (alt r) = some r :=
  find?_eq_some.mpr ⟨(get?_eq_some.mp h).1, rfl⟩

lemma get?_of_find? {t : Indexed key alt} {k : κ} {r : ρ} (h : t.find? k = some r) :
    t.get? (key r) = some r :=
  get?_eq_some.mpr ⟨(find?_eq_some.mp h).1, rfl⟩

/-! ## Effects on the rows -/

omit [DecidableEq ι] in
lemma table_of_ofTable? {u : Table key} {t : Indexed key alt} (h : ofTable? u = some t) :
    t.table = u := by
  unfold ofTable? at h
  split_ifs at h
  rw [← Option.some.inj h]

lemma get?_insert {t t' : Indexed key alt} {r : ρ} (h : t.insert? r = some t') (j : ι) :
    t'.get? j = if j = key r then some r else t.get? j := by
  obtain ⟨u, hu, ht'⟩ := Option.bind_eq_some_iff.mp h
  rw [get?, table_of_ofTable? ht', Table.get?_insert hu]
  rfl

lemma rows_insert {t t' : Indexed key alt} {r : ρ} (h : t.insert? r = some t') :
    t'.rows = t.rows ++ [r] := by
  obtain ⟨u, hu, ht'⟩ := Option.bind_eq_some_iff.mp h
  rw [rows, table_of_ofTable? ht', (Table.insert?_eq_some hu).2]
  rfl

lemma get?_insert_self {t t' : Indexed key alt} {r : ρ} (h : t.insert? r = some t') :
    t.get? (key r) = none := by
  obtain ⟨u, hu, -⟩ := Option.bind_eq_some_iff.mp h
  exact (Table.insert?_eq_some hu).1

/-- A new row has a second key of its own. -/
lemma alt_ne_of_insert {t t' : Indexed key alt} {r o : ρ} (h : t.insert? r = some t')
    (ho : o ∈ t.rows) : alt o ≠ alt r := by
  have hnodup : (t'.rows.map alt).Nodup := t'.altNodup
  rw [rows_insert h, List.map_append, List.nodup_append] at hnodup
  exact hnodup.2.2 _ (List.mem_map_of_mem ho) _ (List.mem_map_of_mem (List.mem_singleton_self r))

omit [DecidableEq κ] in
lemma get?_update (t : Indexed key alt) (i : ι) (f : ρ → ρ) (hf : ∀ r, key (f r) = key r)
    (ha : ∀ r, alt (f r) = alt r) (j : ι) :
    (t.update i f hf ha).get? j = if j = i then (t.get? i).map f else t.get? j :=
  Table.get?_update t.table i f hf j

/-- An update of a row leaves what is found by another value of the second column. -/
lemma find?_update_of_ne {t : Indexed key alt} {i : ι} {f : ρ → ρ} {hf : ∀ r, key (f r) = key r}
    (ha : ∀ r, alt (f r) = alt r) {k : κ} (hne : ∀ r, t.get? i = some r → alt r ≠ k) :
    (t.update i f hf ha).find? k = t.find? k := by
  refine Option.ext fun r => ?_
  rw [find?_eq_some, find?_eq_some]
  have hupdated : r ∈ (t.update i f hf ha).rows
      ↔ ∃ o ∈ t.table.rows, r = if key o = i then f o else o := by
    show r ∈ (t.table.update i f hf).rows ↔ _
    exact Table.mem_update
  rw [hupdated]
  constructor
  · rintro ⟨⟨o, ho, rfl⟩, halt⟩
    split_ifs at halt ⊢ with hkey
    · exact absurd (halt ▸ (ha o).symm) (hne o (get?_eq_some.mpr ⟨ho, hkey⟩))
    · exact ⟨ho, halt⟩
  · rintro ⟨hmem, halt⟩
    have hkey : key r ≠ i := fun hkey => hne r (get?_eq_some.mpr ⟨hmem, hkey⟩) halt
    exact ⟨⟨r, hmem, (if_neg hkey).symm⟩, halt⟩

lemma find?_insert {t t' : Indexed key alt} {r : ρ} (h : t.insert? r = some t') (k : κ) :
    t'.find? k = if k = alt r then some r else t.find? k := by
  refine Option.ext fun o => ?_
  rw [find?_eq_some, rows_insert h, List.mem_append, List.mem_singleton]
  split_ifs with hk
  · constructor
    · rintro ⟨ho | rfl, halt⟩
      · exact absurd (halt.trans hk) (alt_ne_of_insert h ho)
      · rfl
    · intro ho
      obtain rfl := Option.some.inj ho
      exact ⟨.inr rfl, hk.symm⟩
  · rw [find?_eq_some]
    constructor
    · rintro ⟨ho | rfl, halt⟩
      · exact ⟨ho, halt⟩
      · exact absurd halt.symm hk
    · exact fun ⟨ho, halt⟩ => ⟨.inl ho, halt⟩

lemma get?_replace {t t' : Indexed key alt} {i : ι} {f : ρ → ρ} {hf : ∀ r, key (f r) = key r}
    (h : t.replace? i f hf = some t') (j : ι) :
    t'.get? j = if j = i then (t.get? i).map f else t.get? j := by
  rw [get?, table_of_ofTable? h, Table.get?_update]
  rfl

lemma get?_upsert {t t' : Indexed key alt} {r : ρ} {f : ρ → ρ} {hf : ∀ r, key (f r) = key r}
    (h : t.upsert? r f hf = some t') (j : ι) :
    t'.get? j = if j = key r then some ((t.get? (key r)).elim r f) else t.get? j := by
  rw [get?, table_of_ofTable? h, Table.get?_upsert]
  rfl

end Operations

end Indexed
