import Vaulted.Oracle.Migrations

/-!
# Two runners of migrations

One sends every file in pieces, between its semicolons; the other sends every text as it is.

* `SameMigrations` — what is left to apply has the same names, in the order of the names, and the
  same statements in its pieces.
* **`runnersAgree_iff`** — where the texts as they are succeed, the files do the same if and only
  if this holds.
* `readPieces_eq_iff` — where every semicolon ends a statement, a file has the same statements if
  none of them is behind a comment.
* **`embedded_disagree`** — of the migrations in the source it never holds.
-/

namespace Vaulted.Migrations

open Autocommit

/-- The same name; and the pieces of the file have the statements of the text. -/
def SameMigration (pg : Postgres) (e : DirEntry) (m : String × String) : Prop :=
  e.fileName = m.1 ∧ ∃ sql statements, e.content = .ok sql
    ∧ readPieces pg sql = .ok statements ∧ pg.statements m.2 = .ok statements

/-- What is left to apply is the same, one after the other: what has been recorded by name is left
out on both sides. -/
def SameMigrations {pg : Postgres} (dir : Except String (List DirEntry))
    (migrations : List (String × String)) (s : Server pg) : Prop :=
  ∃ s₀ applied entries, Started s s₀ applied ∧ dir = .ok entries
    ∧ List.Forall₂ (SameMigration pg) (pendingFiles applied (migrationFiles entries))
      (pendingMigrations applied migrations)

section

variable {pg : Postgres} {dir : Except String (List DirEntry)}
  {migrations : List (String × String)} {s s' s₀ s₁ : Server pg} {applied applied' : List String}

lemma Started.unique (h : Started s s₀ applied) (h' : Started s s₁ applied') :
    s₀ = s₁ ∧ applied = applied' := by
  obtain ⟨db, hdb, rfl, happlied⟩ := h
  obtain ⟨db', hdb', rfl, happlied'⟩ := h'
  obtain rfl := Except.ok.inj (hdb.symm.trans hdb')
  exact ⟨rfl, Except.ok.inj (happlied.symm.trans happlied')⟩

/-- Two readings of the same migrations, and what is read the same. -/
lemma same_iff {files : List DirEntry} {ms : List (String × List pg.Statement)}
    {pending : List (String × String)} (h : List.Forall₂ (ReadWhole pg) pending ms) :
    List.Forall₂ (ReadInPieces pg) files ms ↔ List.Forall₂ (SameMigration pg) files pending := by
  induction h generalizing files with
  | nil => rw [List.forall₂_nil_right_iff, List.forall₂_nil_right_iff]
  | @cons m m' pending ms hm hms ih =>
      obtain ⟨hname, hsts⟩ := hm
      rw [List.forall₂_cons_right_iff, List.forall₂_cons_right_iff]
      constructor
      · rintro ⟨e, files', ⟨he, sql, hsql, hread⟩, hfiles, rfl⟩
        exact ⟨e, files', ⟨he.trans hname.symm, sql, m'.2, hsql, hread, hsts⟩, ih.mp hfiles, rfl⟩
      · rintro ⟨e, files', ⟨he, sql, sts, hsql, hread, hsts'⟩, hfiles, rfl⟩
        obtain rfl := Except.ok.inj (hsts.symm.trans hsts')
        exact ⟨e, files', ⟨he.trans hname, sql, hsql, hread⟩, ih.mpr hfiles, rfl⟩

/-- What has been executed of the files is what would have been of the texts. -/
lemma same_of_agree {result : MigrationResult}
    (h : runEmbeddedMigrations migrations s = (.ok result, s'))
    (hagree : ∃ result', runMigrations dir s = (.ok result', s')) :
    SameMigrations dir migrations s := by
  obtain ⟨s₀, applied, ms, hstarted, hms, hreplay⟩ := runEmbeddedMigrations_iff.mp ⟨result, h⟩
  obtain ⟨s₁, applied', entries, ms', hstarted', hdir, hms', hreplay'⟩ :=
    runMigrations_iff.mp hagree
  obtain ⟨rfl, rfl⟩ := hstarted.unique hstarted'
  have hexecuted := (executed_replay hreplay).symm.trans (executed_replay hreplay')
  obtain rfl := List.append_cancel_left hexecuted
  exact ⟨s₀, applied, entries, hstarted, hdir, (same_iff hms).mp hms'⟩

end

/-- **The two runners do the same** if and only if what is left to apply is the same to them: the
same statements, committed for the same names one after the other. One sends a text as it is,
whereas the other cuts it at every semicolon, also inside a function body. -/
theorem runnersAgree_iff {pg : Postgres} {dir : Except String (List DirEntry)}
    {migrations : List (String × String)} {s s' : Server pg} {result : MigrationResult}
    (h : runEmbeddedMigrations migrations s = (.ok result, s')) :
    (∃ result', runMigrations dir s = (.ok result', s')) ↔ SameMigrations dir migrations s := by
  refine ⟨same_of_agree h, ?_⟩
  rintro ⟨s₁, applied', entries, hstarted', hdir, hsame⟩
  obtain ⟨s₀, applied, ms, hstarted, hms, hreplay⟩ := runEmbeddedMigrations_iff.mp ⟨result, h⟩
  obtain ⟨rfl, rfl⟩ := hstarted.unique hstarted'
  exact runMigrations_iff.mpr
    ⟨s₀, applied, entries, ms, hstarted, hdir, (same_iff hms).mpr hsame, hreplay⟩

/-! ## Behind a comment -/

section

variable {pg : Postgres}

/-- The pieces between the semicolons, those that begin with a comment among them. -/
def allPieces (sql : String) : List String :=
  ((Text.split ';' sql).filter fun s => !Text.isEmpty (Text.trim s)).map Text.trim

/-- Some pieces have the statements of all of them if the others have none. -/
lemma filter_pieces_iff (sent : String → Bool) {ps : List String} {read : List (List pg.Statement)}
    (h : ps.mapM (prepare pg) = .ok read) : ∃ read', (ps.filter sent).mapM (prepare pg) = .ok read'
      ∧ read'.flatten.Sublist read.flatten
      ∧ (read'.flatten = read.flatten ↔ ∀ p ∈ ps, sent p = false → prepare pg p = .ok []) := by
  induction ps generalizing read with
  | nil =>
      obtain rfl := Except.ok.inj h
      exact ⟨[], rfl, .slnil, by simp⟩
  | cons p ps ih =>
      rw [List.mapM_cons] at h
      obtain ⟨sts, hsts, h⟩ := Checks.bind_eq_ok_iff.mp h
      obtain ⟨rest, hrest, hcons⟩ := Checks.bind_eq_ok_iff.mp h
      obtain rfl := Except.ok.inj hcons
      obtain ⟨read', hread', hsub, hiff⟩ := ih hrest
      rw [List.filter_cons]
      cases hsent : sent p with
      | true =>
          refine ⟨sts :: read', ?_, ?_, ?_⟩
          · rw [if_pos rfl, List.mapM_cons]
            exact Checks.bind_eq_ok_iff.mpr ⟨sts, hsts,
              Checks.bind_eq_ok_iff.mpr ⟨read', hread', rfl⟩⟩
          · rw [List.flatten_cons, List.flatten_cons]
            exact hsub.append_left sts
          · rw [List.flatten_cons, List.flatten_cons, List.append_cancel_left_eq, hiff,
              List.forall_mem_cons, hsent]
            simp
      | false =>
          refine ⟨read', hread', ?_, ?_⟩
          · rw [List.flatten_cons]
            exact hsub.trans (List.sublist_append_right _ _)
          · rw [List.flatten_cons, List.forall_mem_cons, hsts, ← hiff]
            constructor
            · intro heq
              -- a statement of this piece would make the rest longer than it is
              have hlength := hsub.length_le
              rw [heq, List.length_append] at hlength
              obtain rfl : sts = [] := List.eq_nil_of_length_eq_zero (by omega)
              exact ⟨fun _ => rfl, heq⟩
            · rintro ⟨hnil, heq⟩
              rw [Except.ok.inj (hnil hsent), List.nil_append]
              exact heq

/-- **Where every semicolon ends a statement**, the statements of a file are executed if and only if
none of them is behind a comment. -/
theorem readPieces_eq_iff {sql : String} {read : List (List pg.Statement)}
    (hread : (allPieces sql).mapM (prepare pg) = .ok read)
    (hsql : pg.statements sql = .ok read.flatten) :
    readPieces pg sql = pg.statements sql ↔ ∀ piece ∈ allPieces sql,
      (Text.isEmpty piece || Text.startsWith piece "--") = true → prepare pg piece = .ok [] := by
  obtain ⟨read', hread', -, hiff⟩ := filter_pieces_iff
    (fun trimmed => !(Text.isEmpty trimmed || Text.startsWith trimmed "--")) hread
  have hpieces : readPieces pg sql = .ok read'.flatten :=
    Checks.bind_eq_ok_iff.mpr ⟨read', hread', rfl⟩
  rw [hpieces, hsql, Except.ok.injEq, hiff]
  simp only [Bool.not_eq_false']

end

/-! ## The migrations in the source -/

/-- **On a database without migrations the two runners never agree** about those in the source: the
first of them has a name that is not the name of its file. -/
theorem embedded_disagree {pg : Postgres} {file : String → String} {entries : List DirEntry}
    {s s' s₀ : Server pg} {result : MigrationResult} (hstarted : Started s s₀ [])
    (hfiles : ∀ e ∈ entries, e.fileName ∈ embedded.map Prod.snd)
    (h : runEmbeddedMigrations (embedded.map fun m => (m.1, file m.2)) s = (.ok result, s')) :
    ¬∃ result', runMigrations (.ok entries) s = (.ok result', s') := by
  intro hagree
  obtain ⟨s₁, applied, entries', hstarted', hdir, hsame⟩ := same_of_agree h hagree
  obtain ⟨rfl, rfl⟩ := hstarted.unique hstarted'
  obtain rfl := Except.ok.inj hdir
  have hpending : pendingMigrations [] (embedded.map fun m => (m.1, file m.2))
      = embedded.map fun m => (m.1, file m.2) := List.filter_eq_self.mpr fun _ _ => rfl
  rw [hpending, embedded, List.map_cons, List.forall₂_cons_right_iff] at hsame
  obtain ⟨e, files, ⟨hname, -⟩, -, hcons⟩ := hsame
  have hmem : e ∈ pendingFiles [] (migrationFiles entries) := by
    rw [hcons]
    exact List.mem_cons_self
  have hentry : e ∈ entries :=
    (List.mem_filter.mp ((List.mem_insertionSort _).mp (List.mem_filter.mp hmem).1)).1
  have hfirst : e.fileName = "001_init.sql" := hname
  have hfile := hfiles e hentry
  rw [hfirst] at hfile
  exact absurd hfile (by decide)

/-! ## Four lists of migrations -/

namespace Sample

/-- Where a text is being read. -/
inductive Mode
  | Code
  | Comment
  | Dollars

/-- The statements of a text, which may have comments to the end of the line and bodies between
dollars; `cur` is the statement that is being read. -/
def scan : Mode → List Char → List Char → Except String (List (List Char))
  | .Code, cur, [] => .ok [cur]
  | .Code, cur, '-' :: '-' :: cs => scan .Comment cur cs
  | .Code, cur, '$' :: '$' :: cs => scan .Dollars (cur ++ ['$', '$']) cs
  | .Code, cur, ';' :: cs => (scan .Code [] cs).map (cur :: ·)
  | .Code, cur, c :: cs => scan .Code (cur ++ [c]) cs
  | .Comment, cur, [] => .ok [cur]
  | .Comment, cur, c :: cs => scan (if c = '\n' then .Code else .Comment) cur cs
  | .Dollars, _, [] => .error "error returned from database: unterminated dollar-quoted string"
  | .Dollars, cur, '$' :: '$' :: cs => scan .Code (cur ++ ['$', '$']) cs
  | .Dollars, cur, c :: cs => scan .Dollars (cur ++ [c]) cs

def statements (text : String) : Except String (List String) :=
  (scan .Code [] text.toList).map fun parts =>
    (parts.map fun part => Text.trim (String.ofList part)).filter fun part => !Text.isEmpty part

/-- A database that remembers what has been applied, and every statement. -/
def pg : Postgres where
  Db := List String × List String
  Statement := String
  statements
  execute statement db := .ok (db.1, db.2 ++ [statement])
  createTable db := .ok db
  applied db := .ok db.1
  record name db := .ok (db.1 ++ [name], db.2)

instance : DecidableEq pg.Statement := inferInstanceAs (DecidableEq String)

def empty : Server pg := ⟨([], []), []⟩

/-- A directory with the same texts. -/
def directory (migrations : List (String × String)) : List DirEntry :=
  migrations.map fun m => ⟨m.1, .ok m.2⟩

/-- A function with a semicolon in its body. -/
def functionBody : List (String × String) := [("005.sql", "CREATE FUNCTION f() AS $$ END; $$;")]

/-- A statement after a comment. -/
def commentFirst : List (String × String) := [("003.sql", "-- t\nCREATE TABLE t();")]

/-- Two files that are not in the order of their names. -/
def notByName : List (String × String) :=
  [("002_escrow.sql", "CREATE TABLE e();"), ("002_encrypted.sql", "CREATE TABLE f();")]

def plain : List (String × String) := [("004.sql", "DROP TABLE t; DROP TABLE u;")]

/-- The texts succeed as they are, and what they do is not what the files do. -/
def Disagree (migrations : List (String × String)) : Prop := ∃ result s',
  runEmbeddedMigrations migrations empty = (.ok result, s')
    ∧ ¬∃ result', runMigrations (.ok (directory migrations)) empty = (.ok result', s')

lemma started_empty : Started empty empty [] := ⟨_, rfl, rfl, rfl⟩

/-- Here every statement succeeds, and every name is recorded. -/
lemma replay_ok (ms : List (String × List pg.Statement)) (s : Server pg) :
    ∃ s', replay ms s = .ok s' := by
  have hall : ∀ (sts : List String) (db : List String × List String),
      ∃ db', executeAll pg sts db = .ok db' := by
    intro sts
    induction sts with
    | nil => exact fun db => ⟨db, rfl⟩
    | cons st sts ih => exact fun db => ih (db.1, db.2 ++ [st])
  induction ms generalizing s with
  | nil => exact ⟨s, rfl⟩
  | cons m ms ih =>
      obtain ⟨db, hdb⟩ := hall m.2 s.db
      obtain ⟨s', hs'⟩ := ih ⟨(db.1 ++ [m.1], db.2), s.executed ++ [m]⟩
      exact ⟨s', Checks.bind_eq_ok_iff.mpr
        ⟨_, replayOne_eq_ok_iff.mpr ⟨db, _, hdb, rfl, rfl⟩, hs'⟩⟩

/-- The migrations would have to be the same in the order of the names. -/
lemma disagree_of_not_same {migrations : List (String × String)}
    {ms : List (String × List pg.Statement)}
    (hms : List.Forall₂ (ReadWhole pg) (pendingMigrations [] migrations) ms)
    (hnot : ¬List.Forall₂ (SameMigration pg)
      (pendingFiles [] (migrationFiles (directory migrations)))
      (pendingMigrations [] migrations)) : Disagree migrations := by
  obtain ⟨s', hreplay⟩ := replay_ok ms empty
  obtain ⟨result, h⟩ := runEmbeddedMigrations_iff.mpr ⟨empty, [], ms, started_empty, hms, hreplay⟩
  refine ⟨result, s', h, fun hagree => hnot ?_⟩
  obtain ⟨s₀, applied, entries, hstarted, hdir, hsame⟩ := same_of_agree h hagree
  obtain ⟨-, rfl⟩ := hstarted.unique started_empty
  obtain rfl := Except.ok.inj hdir
  exact hsame

lemma not_sameMigration {name sql : String}
    (hne : (readPieces pg sql).toOption ≠ (pg.statements sql).toOption) :
    ¬SameMigration pg ⟨name, .ok sql⟩ (name, sql) := by
  rintro ⟨-, _, sts, hsql, hread, hsts⟩
  obtain rfl := Except.ok.inj hsql
  rw [hread, hsts] at hne
  exact hne rfl

/-- One file whose pieces do not have its statements. -/
lemma disagree_one {name sql : String} {sts : List pg.Statement}
    (hfiles : pendingFiles [] (migrationFiles (directory [(name, sql)])) = directory [(name, sql)])
    (hsts : pg.statements sql = .ok sts)
    (hne : (readPieces pg sql).toOption ≠ (pg.statements sql).toOption) :
    Disagree [(name, sql)] := by
  have hms : List.Forall₂ (ReadWhole pg) [(name, sql)] [(name, sts)] := .cons ⟨rfl, hsts⟩ .nil
  refine disagree_of_not_same hms fun hsame => ?_
  rw [hfiles] at hsame
  exact not_sameMigration hne (List.forall₂_cons.mp hsame).1

lemma disagree_functionBody : Disagree functionBody :=
  disagree_one rfl rfl (by decide +kernel)

lemma disagree_commentFirst : Disagree commentFirst :=
  disagree_one rfl rfl (by decide +kernel)

lemma files_notByName :
    pendingFiles [] (migrationFiles (directory notByName)) = (directory notByName).reverse := rfl

lemma disagree_notByName : Disagree notByName := by
  have hms : List.Forall₂ (ReadWhole pg) notByName
      [("002_escrow.sql", ["CREATE TABLE e()"]), ("002_encrypted.sql", ["CREATE TABLE f()"])] :=
    .cons ⟨rfl, rfl⟩ (.cons ⟨rfl, rfl⟩ .nil)
  refine disagree_of_not_same hms fun hsame => ?_
  rw [files_notByName] at hsame
  have hname : "002_encrypted.sql" = "002_escrow.sql" := (List.forall₂_cons.mp hsame).1.1
  exact absurd hname (by decide)

/-- A semicolon in the body of a function, a statement after a comment, and two files that are not
in the order of their names. -/
theorem not_runnersAgree : Disagree functionBody ∧ Disagree commentFirst ∧ Disagree notByName :=
  ⟨disagree_functionBody, disagree_commentFirst, disagree_notByName⟩

lemma files_plain : pendingFiles [] (migrationFiles (directory plain)) = directory plain := rfl

lemma statements_plain : List.Forall₂ (ReadWhole pg) (pendingMigrations [] plain)
    [("004.sql", ["DROP TABLE t", "DROP TABLE u"])] := .cons ⟨rfl, rfl⟩ .nil

lemma same_plain : SameMigrations (.ok (directory plain)) plain empty := by
  refine ⟨empty, [], _, started_empty, rfl, ?_⟩
  rw [files_plain]
  exact .cons ⟨rfl, _, ["DROP TABLE t", "DROP TABLE u"], rfl, rfl, rfl⟩ .nil

/-- Two statements, each up to its semicolon. -/
theorem runnersAgree_plain : ∃ result s', runEmbeddedMigrations plain empty = (.ok result, s')
    ∧ ∃ result', runMigrations (.ok (directory plain)) empty = (.ok result', s') := by
  obtain ⟨s', hreplay⟩ := replay_ok _ empty
  obtain ⟨result, h⟩ := runEmbeddedMigrations_iff.mpr
    ⟨empty, [], _, started_empty, statements_plain, hreplay⟩
  exact ⟨result, s', h, (runnersAgree_iff h).mpr same_plain⟩

end Sample

end Vaulted.Migrations
