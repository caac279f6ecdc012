import Mathlib.Data.List.Sort
import Mathlib.Data.String.Basic
import Vaulted.Library.Autocommit
import Vaulted.Library.Checks
import Vaulted.Library.Text

/-!
# Migrations

`migrations.rs`: the two ways in which the Oracle brings its schema up to date.

* `Postgres` — what the runners take from the database: how a text is read, what its statements do,
  and the table of migrations.
* `Tx` — a transaction, which is of no more use once a statement has failed.
* `runMigrations` — the files of a directory, by name, each sent in pieces.
* `runEmbeddedMigrations` — a list that is compiled in, each text sent as it is.
* `replay` — what both come to: the statements of one migration after the other, and its name.
-/

namespace Vaulted.Migrations

open Autocommit

/-- The database.  `statements` reads a text, or says why it cannot be read; `execute` is a statement
inside a transaction. -/
structure Postgres where
  Db : Type
  Statement : Type
  statements : String → Except String (List Statement)
  execute : Statement → Db → Except String Db
  /-- `CREATE TABLE IF NOT EXISTS _migrations`. -/
  createTable : Db → Except String Db
  /-- `SELECT name FROM _migrations ORDER BY applied_at`. -/
  applied : Db → Except String (List String)
  /-- `INSERT INTO _migrations (name, applied_at) VALUES ($1, NOW())`. -/
  record : String → Db → Except String Db

/-- The database, and the statements that have been committed, for each migration. -/
structure Server (pg : Postgres) where
  db : pg.Db
  executed : List (String × List pg.Statement)

variable {pg : Postgres}

/-! ## Transactions -/

/-- A transaction that has failed has no database left. -/
structure Tx (pg : Postgres) where
  db : Option pg.Db
  executed : List pg.Statement

def abortedMessage : String :=
  "error returned from database: current transaction is aborted, commands ignored until end of "
    ++ "transaction block"

namespace Tx

def execute (tx : Tx pg) : List pg.Statement → Except String (Tx pg)
  | [] => .ok tx
  | statement :: rest =>
      match tx.db with
      | none => .error abortedMessage
      | some db => do
          let db' ← pg.execute statement db
          execute ⟨some db', tx.executed ++ [statement]⟩ rest

/-- `sqlx::raw_sql`: all statements of a text. -/
def rawSql (sql : String) (tx : Tx pg) : Except String (Tx pg) := do
  let statements ← pg.statements sql
  tx.execute statements

end Tx

/-- A text with at most one statement, as `sqlx::query` prepares it. -/
def prepare (pg : Postgres) (text : String) : Except String (List pg.Statement) := do
  let statements ← pg.statements text
  if statements.length ≤ 1 then .ok statements
  else
    .error ("error returned from database: cannot insert multiple commands into a prepared "
      ++ "statement")

namespace Tx

/-- `sqlx::query`. -/
def query (text : String) (tx : Tx pg) : Except String (Tx pg) := do
  let statements ← prepare pg text
  tx.execute statements

def record (name : String) (tx : Tx pg) : Except String (Tx pg) :=
  match tx.db with
  | none => .error abortedMessage
  | some db => (pg.record name db).map fun db' => { tx with db := some db' }

end Tx

/-- `begin`, then `apply`, then the name of the migration, then `commit`. -/
def migrate (apply : Tx pg → Except String (Tx pg)) (name : String) (s : Server pg) :
    Except String (Server pg) := do
  let tx ← apply ⟨some s.db, []⟩
  let tx ← tx.record name
  .ok { db := tx.db.getD s.db, executed := s.executed ++ [(name, tx.executed)] }

/-! ## Files in pieces -/

structure MigrationResult where
  total : ℕ
  applied : ℕ
  skipped : ℕ
  deriving DecidableEq

/-- An entry of the directory; its content cannot always be read. -/
structure DirEntry where
  fileName : String
  content : Except String String

/-- The last dot is not the first character of the name. -/
def extension (fileName : String) : Option String :=
  match (Text.split '.' fileName).reverse with
  | [] => none
  | [_] => none
  | [_, ""] => none
  | ext :: _ => some ext

def isIgnorableError (error : String) : Bool :=
  let errorStr := Text.toAsciiLowercase error
  Text.contains errorStr "already exists" || Text.contains errorStr "does not exist"
    || Text.contains errorStr "duplicate key"
    || Text.contains errorStr "constraint" && Text.contains errorStr "already exists"

/-- The pieces that are sent: trimmed, without those that are blank or begin with a comment. -/
def pieces (sql : String) : List String :=
  (((Text.split ';' sql).filter fun s => !Text.isEmpty (Text.trim s)).map Text.trim).filter
    fun trimmed => !(Text.isEmpty trimmed || Text.startsWith trimmed "--")

def applyPieces (filename : String) (tx : Tx pg) : List String → Except String (Tx pg)
  | [] => .ok tx
  | piece :: rest =>
      match tx.query piece with
      | .ok tx' => applyPieces filename tx' rest
      | .error e =>
          if isIgnorableError e then applyPieces filename { tx with db := none } rest
          else .error ("Migration " ++ filename ++ " failed: " ++ e)

def ensureMigrationsTable : Prog (Server pg) String Unit :=
  .write fun s => (pg.createTable s.db).map fun db => { s with db }

/-- Every `.sql` file, sorted by name. -/
def migrationFiles (entries : List DirEntry) : List DirEntry :=
  (entries.filter fun e => decide (extension e.fileName = some "sql")).insertionSort
    fun a b => a.fileName ≤ b.fileName

def applyFiles (applied : List String) :
    List DirEntry → MigrationResult → Prog (Server pg) String MigrationResult
  | [], result => pure result
  | entry :: entries, result =>
      if Text.contains entry.fileName "Zone.Identifier" then applyFiles applied entries result
      else if applied.contains entry.fileName then
        applyFiles applied entries { result with skipped := result.skipped + 1 }
      else do
        let sql ← .lift entry.content
        .write (migrate (fun tx => applyPieces entry.fileName tx (pieces sql)) entry.fileName)
        applyFiles applied entries { result with applied := result.applied + 1 }

/-- `run_migrations`; `dir` is what `read_dir` finds. -/
def runMigrations (dir : Except String (List DirEntry)) :
    Prog (Server pg) String MigrationResult := do
  ensureMigrationsTable
  let db ← .read Server.db
  let applied ← .lift (pg.applied db)
  let entries ← .lift dir
  let files := migrationFiles entries
  applyFiles applied files { total := files.length, applied := 0, skipped := 0 }

/-! ## Whole texts -/

def applyEmbedded (applied : List String) :
    List (String × String) → MigrationResult → Prog (Server pg) String MigrationResult
  | [], result => pure result
  | (name, sql) :: migrations, result =>
      if applied.contains name then
        applyEmbedded applied migrations { result with skipped := result.skipped + 1 }
      else do
        .write (migrate (fun tx => (tx.rawSql sql).mapError fun e =>
          "Migration " ++ name ++ " failed: " ++ e) name)
        applyEmbedded applied migrations { result with applied := result.applied + 1 }

/-- `run_embedded_migrations`, with the names and texts that are compiled in. -/
def runEmbeddedMigrations (migrations : List (String × String)) :
    Prog (Server pg) String MigrationResult := do
  ensureMigrationsTable
  let db ← .read Server.db
  let applied ← .lift (pg.applied db)
  applyEmbedded applied migrations { total := migrations.length, applied := 0, skipped := 0 }

/-- The names in the source, with the files that `include_str!` reads. -/
def embedded : List (String × String) :=
  [("001_init.sql", "init.sql"),
    ("002_escrow_transfers.sql", "002_escrow_transfers.sql"),
    ("002_encrypted_filename.sql", "002_encrypted_filename.sql"),
    ("003_vault_fields.sql", "003_vault_fields.sql"),
    ("004_is_re_encrypted.sql", "004_is_re_encrypted.sql"),
    ("005_replication.sql", "005_replication.sql"),
    ("006_admin_roles.sql", "006_admin_roles.sql"),
    ("007_audit_encryption.sql", "007_audit_encryption.sql"),
    ("008_column_encryption.sql", "008_column_encryption.sql"),
    ("009_token_blacklist.sql", "009_token_blacklist.sql"),
    ("010_vaulted_identity_manifest_layer.sql", "010_vaulted_identity_manifest_layer.sql"),
    ("011_qr_login_and_vaulted_wallet.sql", "011_qr_login_and_vaulted_wallet.sql"),
    ("012_qr_device_pairing.sql", "012_qr_device_pairing.sql"),
    ("013_qr_xrpl_signing.sql", "013_qr_xrpl_signing.sql"),
    ("014_qr_file_grant_approval.sql", "014_qr_file_grant_approval.sql"),
    ("015_key_envelope_grants.sql", "015_key_envelope_grants.sql"),
    ("016_recipient_key_trust.sql", "016_recipient_key_trust.sql")]

/-! ## What is executed -/

/-- The statements one after the other. -/
def executeAll (pg : Postgres) (statements : List pg.Statement) (db : pg.Db) :
    Except String pg.Db :=
  statements.foldlM (fun db statement => pg.execute statement db) db

/-- One migration, by its statements. -/
def replayOne (s : Server pg) (m : String × List pg.Statement) : Except String (Server pg) := do
  let db ← executeAll pg m.2 s.db
  let db ← pg.record m.1 db
  .ok { db, executed := s.executed ++ [m] }

def replay (ms : List (String × List pg.Statement)) (s : Server pg) : Except String (Server pg) :=
  ms.foldlM replayOne s

/-- The statements that are read in the pieces of a text. -/
def readPieces (pg : Postgres) (sql : String) : Except String (List pg.Statement) := do
  let read ← (pieces sql).mapM (prepare pg)
  .ok read.flatten

/-- The migrations that are left to apply. -/
def pendingFiles (applied : List String) (files : List DirEntry) : List DirEntry :=
  files.filter fun e => !Text.contains e.fileName "Zone.Identifier" && !applied.contains e.fileName

def pendingMigrations (applied : List String) (migrations : List (String × String)) :
    List (String × String) :=
  migrations.filter fun m => !applied.contains m.1

lemma executeAll_cons {statement : pg.Statement} {rest : List pg.Statement} {db : pg.Db} :
    executeAll pg (statement :: rest) db = pg.execute statement db >>= executeAll pg rest := rfl

lemma executeAll_append {sts sts' : List pg.Statement} {db : pg.Db} :
    executeAll pg (sts ++ sts') db = executeAll pg sts db >>= executeAll pg sts' := by
  rw [executeAll, List.foldlM_append]
  rfl

namespace Tx

lemma execute_eq_ok_iff {db : pg.Db} {executed sts : List pg.Statement} {tx' : Tx pg} :
    execute ⟨some db, executed⟩ sts = .ok tx' ↔
      ∃ db', executeAll pg sts db = .ok db' ∧ tx' = ⟨some db', executed ++ sts⟩ := by
  induction sts generalizing db executed with
  | nil =>
      constructor
      · intro h
        exact ⟨db, rfl, by rw [List.append_nil]; exact (Except.ok.inj h).symm⟩
      · rintro ⟨db', hdb, rfl⟩
        rw [List.append_nil, ← Except.ok.inj hdb]
        rfl
  | cons st sts ih =>
      rw [executeAll_cons]
      constructor
      · intro h
        obtain ⟨db₁, hst, h⟩ := Checks.bind_eq_ok_iff.mp h
        obtain ⟨db', hdb', rfl⟩ := ih.mp h
        exact ⟨db', Checks.bind_eq_ok_iff.mpr ⟨db₁, hst, hdb'⟩, by simp⟩
      · rintro ⟨db', hdb', rfl⟩
        obtain ⟨db₁, hst, hdb'⟩ := Checks.bind_eq_ok_iff.mp hdb'
        refine Checks.bind_eq_ok_iff.mpr ⟨db₁, hst, ih.mpr ⟨db', hdb', by simp⟩⟩

/-- A transaction that has failed stays so. -/
lemma execute_aborted {tx tx' : Tx pg} {sts : List pg.Statement} (h : tx.execute sts = .ok tx')
    (hdb : tx.db = none) : tx'.db = none := by
  cases sts with
  | nil =>
      obtain rfl := Except.ok.inj h
      exact hdb
  | cons st sts =>
      rw [execute, hdb] at h
      cases h

end Tx

lemma applyPieces_aborted {filename : String} {ps : List String} {tx tx' : Tx pg}
    (h : applyPieces filename tx ps = .ok tx') (hdb : tx.db = none) : tx'.db = none := by
  induction ps generalizing tx with
  | nil =>
      obtain rfl := Except.ok.inj h
      exact hdb
  | cons p ps ih =>
      rw [applyPieces] at h
      split at h
      · next tx₁ hquery =>
          obtain ⟨sts, -, hexecute⟩ := Checks.bind_eq_ok_iff.mp hquery
          exact ih h (Tx.execute_aborted hexecute hdb)
      · split at h
        · exact ih h rfl
        · cases h

/-- Pieces are sent with success if each can be read, and its statement executed. -/
lemma applyPieces_eq_ok_iff {filename : String} {ps : List String} {db db' : pg.Db}
    {executed : List pg.Statement} {tx' : Tx pg} :
    applyPieces filename ⟨some db, executed⟩ ps = .ok tx' ∧ tx'.db = some db' ↔
      ∃ read, ps.mapM (prepare pg) = .ok read ∧ executeAll pg read.flatten db = .ok db'
        ∧ tx' = ⟨some db', executed ++ read.flatten⟩ := by
  induction ps generalizing db executed tx' with
  | nil =>
      constructor
      · rintro ⟨h, hdb⟩
        obtain rfl := Except.ok.inj h
        obtain rfl := Option.some.inj hdb
        exact ⟨[], rfl, rfl, by simp⟩
      · rintro ⟨read, hread, hdb, rfl⟩
        obtain rfl := Except.ok.inj hread
        obtain rfl := Except.ok.inj hdb
        exact ⟨by simp [applyPieces], rfl⟩
  | cons p ps ih =>
      rw [applyPieces, List.mapM_cons]
      constructor
      · rintro ⟨h, hdb⟩
        split at h
        · next tx₁ hquery =>
            obtain ⟨sts, hsts, hexecute⟩ := Checks.bind_eq_ok_iff.mp hquery
            obtain ⟨db₁, hdb₁, rfl⟩ := Tx.execute_eq_ok_iff.mp hexecute
            obtain ⟨read, hread, hrest, rfl⟩ := ih.mp ⟨h, hdb⟩
            refine ⟨sts :: read, Checks.bind_eq_ok_iff.mpr ⟨sts, hsts,
              Checks.bind_eq_ok_iff.mpr ⟨read, hread, rfl⟩⟩, ?_, by simp⟩
            rw [List.flatten_cons, executeAll_append]
            exact Checks.bind_eq_ok_iff.mpr ⟨db₁, hdb₁, hrest⟩
        · split at h
          -- an error that is ignored leaves a transaction that has failed
          · rw [applyPieces_aborted h rfl] at hdb
            cases hdb
          · cases h
      · rintro ⟨read, hread, hall, rfl⟩
        obtain ⟨sts, hsts, hread⟩ := Checks.bind_eq_ok_iff.mp hread
        obtain ⟨read', hread', hcons⟩ := Checks.bind_eq_ok_iff.mp hread
        obtain rfl := Except.ok.inj hcons
        rw [List.flatten_cons, executeAll_append] at hall
        obtain ⟨db₁, hdb₁, hrest⟩ := Checks.bind_eq_ok_iff.mp hall
        have hquery : Tx.query p ⟨some db, executed⟩ = .ok ⟨some db₁, executed ++ sts⟩ :=
          Checks.bind_eq_ok_iff.mpr ⟨sts, hsts, Tx.execute_eq_ok_iff.mpr ⟨db₁, hdb₁, rfl⟩⟩
        rw [hquery]
        have happly : applyPieces filename ⟨some db₁, executed ++ sts⟩ ps
            = .ok ⟨some db', executed ++ sts ++ read'.flatten⟩ :=
          (ih.mpr ⟨read', hread', hrest, rfl⟩).1
        exact ⟨by simpa using happly, rfl⟩

lemma Tx.record_eq_ok_iff {name : String} {tx tx' : Tx pg} : tx.record name = .ok tx' ↔
    ∃ db db', tx.db = some db ∧ pg.record name db = .ok db' ∧ tx' = { tx with db := some db' } := by
  obtain ⟨_ | db, executed⟩ := tx
  · simp [Tx.record]
  · cases hrecord : pg.record name db <;> simp [Tx.record, hrecord, Except.map, eq_comm]

/-- A migration succeeds if it can be applied and its name recorded. -/
lemma migrate_eq_ok_iff {apply : Tx pg → Except String (Tx pg)} {name : String}
    {s s' : Server pg} : migrate apply name s = .ok s' ↔ ∃ tx db db',
      apply ⟨some s.db, []⟩ = .ok tx ∧ tx.db = some db ∧ pg.record name db = .ok db'
        ∧ s' = ⟨db', s.executed ++ [(name, tx.executed)]⟩ := by
  simp only [migrate, Checks.bind_eq_ok_iff, Tx.record_eq_ok_iff, Except.ok.injEq]
  constructor
  · rintro ⟨tx, happly, _, ⟨db, db', hdb, hrecord, rfl⟩, rfl⟩
    exact ⟨tx, db, db', happly, hdb, hrecord, rfl⟩
  · rintro ⟨tx, db, db', happly, hdb, hrecord, rfl⟩
    exact ⟨tx, happly, _, ⟨db, db', hdb, hrecord, rfl⟩, rfl⟩

lemma replayOne_eq_ok_iff {s s' : Server pg} {name : String} {sts : List pg.Statement} :
    replayOne s (name, sts) = .ok s' ↔ ∃ db db', executeAll pg sts s.db = .ok db
      ∧ pg.record name db = .ok db' ∧ s' = ⟨db', s.executed ++ [(name, sts)]⟩ := by
  simp only [replayOne, Checks.bind_eq_ok_iff, Except.ok.injEq]
  constructor
  · rintro ⟨db, hdb, db', hrecord, rfl⟩
    exact ⟨db, db', hdb, hrecord, rfl⟩
  · rintro ⟨db, db', hdb, hrecord, rfl⟩
    exact ⟨db, hdb, db', hrecord, rfl⟩

/-- **A file that is sent in pieces** has the statements executed that are read in the pieces. -/
theorem migrate_pieces_iff {name sql : String} {s s' : Server pg} :
    migrate (fun tx => applyPieces name tx (pieces sql)) name s = .ok s' ↔
      ∃ sts, readPieces pg sql = .ok sts ∧ replayOne s (name, sts) = .ok s' := by
  simp only [migrate_eq_ok_iff, replayOne_eq_ok_iff, readPieces, Checks.bind_eq_ok_iff,
    Except.ok.injEq]
  constructor
  · rintro ⟨tx, db, db', happly, hdb, hrecord, rfl⟩
    obtain ⟨read, hread, hall, rfl⟩ := applyPieces_eq_ok_iff.mp ⟨happly, hdb⟩
    exact ⟨_, ⟨read, hread, rfl⟩, db, db', hall, hrecord, rfl⟩
  · rintro ⟨_, ⟨read, hread, rfl⟩, db, db', hall, hrecord, rfl⟩
    obtain ⟨happly, hdb⟩ := applyPieces_eq_ok_iff.mpr ⟨read, hread, hall, rfl⟩
    exact ⟨_, db, db', happly, hdb, hrecord, rfl⟩

/-- **A text that is sent as it is** has its own statements executed. -/
theorem migrate_rawSql_iff {name sql : String} {f : String → String} {s s' : Server pg} :
    migrate (fun tx => (tx.rawSql sql).mapError f) name s = .ok s' ↔
      ∃ sts, pg.statements sql = .ok sts ∧ replayOne s (name, sts) = .ok s' := by
  have hmap : ∀ {r : Except String (Tx pg)} {tx : Tx pg}, r.mapError f = .ok tx ↔ r = .ok tx := by
    rintro (e | tx) tx' <;> simp [Except.mapError]
  simp only [migrate_eq_ok_iff, replayOne_eq_ok_iff, hmap, Tx.rawSql, Checks.bind_eq_ok_iff,
    Tx.execute_eq_ok_iff]
  constructor
  · rintro ⟨_, db, db', ⟨sts, hsts, db₁, hall, rfl⟩, hdb, hrecord, rfl⟩
    obtain rfl := Option.some.inj hdb
    exact ⟨sts, hsts, db₁, db', hall, hrecord, rfl⟩
  · rintro ⟨sts, hsts, db, db', hall, hrecord, rfl⟩
    exact ⟨_, db, db', ⟨sts, hsts, db, hall, rfl⟩, rfl, hrecord, rfl⟩

/-! ## The runners -/

/-- The migration of a file, by the statements that are read in its pieces. -/
def ReadInPieces (pg : Postgres) (e : DirEntry) (m : String × List pg.Statement) : Prop :=
  e.fileName = m.1 ∧ ∃ sql, e.content = .ok sql ∧ readPieces pg sql = .ok m.2

/-- The migration of a text, by its statements. -/
def ReadWhole (pg : Postgres) (m : String × String) (m' : String × List pg.Statement) : Prop :=
  m.1 = m'.1 ∧ pg.statements m.2 = .ok m'.2

/-- What has been executed says which migrations were replayed. -/
lemma executed_replay {ms : List (String × List pg.Statement)} {s s' : Server pg}
    (h : replay ms s = .ok s') : s'.executed = s.executed ++ ms := by
  induction ms generalizing s with
  | nil =>
      obtain rfl := Except.ok.inj h
      exact (List.append_nil _).symm
  | cons m ms ih =>
      obtain ⟨s₁, hone, hrest⟩ := Checks.bind_eq_ok_iff.mp h
      obtain ⟨db, db', -, -, rfl⟩ := replayOne_eq_ok_iff.mp hone
      rw [ih hrest, List.append_assoc, List.singleton_append]

/-- **The files that are left are replayed**, by what is read in their pieces. -/
theorem applyFiles_iff {applied : List String} {files : List DirEntry} {result : MigrationResult}
    {s s' : Server pg} : (∃ result', applyFiles applied files result s = (.ok result', s')) ↔
      ∃ ms, List.Forall₂ (ReadInPieces pg) (pendingFiles applied files) ms
        ∧ replay ms s = .ok s' := by
  induction files generalizing result s with
  | nil =>
      simp only [applyFiles, Prog.pure_eq_ok_iff, exists_eq_left', pendingFiles, List.filter_nil,
        List.forall₂_nil_left_iff, exists_eq_left]
      exact ⟨fun h => congrArg Except.ok h, Except.ok.inj⟩
  | cons e files ih =>
      rw [applyFiles, pendingFiles, List.filter_cons]
      by_cases hzone : Text.contains e.fileName "Zone.Identifier" = true
      · simp only [hzone, if_true, Bool.not_true, Bool.false_and, if_false, Bool.false_eq_true]
        exact ih
      · by_cases happlied : applied.contains e.fileName = true
        · simp only [hzone, happlied, if_true, if_false, Bool.not_true, Bool.and_false,
            Bool.false_eq_true]
          exact ih
        · simp only [hzone, happlied, Bool.not_false, Bool.and_self, if_true,
            if_false, Bool.false_eq_true, Prog.bind_eq_ok_iff, Prog.lift_eq_ok_iff,
            Prog.write_eq_ok_iff, migrate_pieces_iff, List.forall₂_cons_left_iff]
          constructor
          · rintro ⟨result', sql, _, ⟨hsql, rfl⟩, _, s₁, ⟨sts, hsts, hone⟩, hrest⟩
            obtain ⟨ms, hms, hreplay⟩ := ih.mp ⟨result', hrest⟩
            exact ⟨(e.fileName, sts) :: ms, ⟨_, ms, ⟨rfl, sql, hsql, hsts⟩, hms, rfl⟩,
              Checks.bind_eq_ok_iff.mpr ⟨s₁, hone, hreplay⟩⟩
          · rintro ⟨_, ⟨⟨name, sts⟩, ms, ⟨hname, sql, hsql, hsts⟩, hms, rfl⟩, hreplay⟩
            obtain rfl : e.fileName = name := hname
            obtain ⟨s₁, hone, hreplay⟩ := Checks.bind_eq_ok_iff.mp hreplay
            obtain ⟨result', hrest⟩ := ih.mpr ⟨ms, hms, hreplay⟩
            exact ⟨result', sql, s, ⟨hsql, rfl⟩, (), s₁, ⟨sts, hsts, hone⟩, hrest⟩

/-- **The texts that are left are replayed**, by their statements. -/
theorem applyEmbedded_iff {applied : List String} {migrations : List (String × String)}
    {result : MigrationResult} {s s' : Server pg} :
    (∃ result', applyEmbedded applied migrations result s = (.ok result', s')) ↔
      ∃ ms, List.Forall₂ (ReadWhole pg) (pendingMigrations applied migrations) ms
        ∧ replay ms s = .ok s' := by
  induction migrations generalizing result s with
  | nil =>
      simp only [applyEmbedded, Prog.pure_eq_ok_iff, exists_eq_left', pendingMigrations,
        List.filter_nil, List.forall₂_nil_left_iff, exists_eq_left]
      exact ⟨fun h => congrArg Except.ok h, Except.ok.inj⟩
  | cons m migrations ih =>
      obtain ⟨name, sql⟩ := m
      rw [applyEmbedded, pendingMigrations, List.filter_cons]
      by_cases happlied : applied.contains name = true
      · simp only [happlied, if_true, if_false, Bool.not_true, Bool.false_eq_true]
        exact ih
      · simp only [happlied, Bool.not_false, if_true, if_false, Bool.false_eq_true,
          Prog.bind_eq_ok_iff, Prog.write_eq_ok_iff, migrate_rawSql_iff,
          List.forall₂_cons_left_iff]
        constructor
        · rintro ⟨result', _, s₁, ⟨sts, hsts, hone⟩, hrest⟩
          obtain ⟨ms, hms, hreplay⟩ := ih.mp ⟨result', hrest⟩
          exact ⟨(name, sts) :: ms, ⟨_, ms, ⟨rfl, hsts⟩, hms, rfl⟩,
            Checks.bind_eq_ok_iff.mpr ⟨s₁, hone, hreplay⟩⟩
        · rintro ⟨_, ⟨⟨name', sts⟩, ms, ⟨hname, hsts⟩, hms, rfl⟩, hreplay⟩
          obtain rfl : name = name' := hname
          obtain ⟨s₁, hone, hreplay⟩ := Checks.bind_eq_ok_iff.mp hreplay
          obtain ⟨result', hrest⟩ := ih.mpr ⟨ms, hms, hreplay⟩
          exact ⟨result', (), s₁, ⟨sts, hsts, hone⟩, hrest⟩

/-- What both runners start from: the names of what has been applied, once there is a table. -/
def Started (s s₀ : Server pg) (applied : List String) : Prop :=
  ∃ db, pg.createTable s.db = .ok db ∧ s₀ = { s with db } ∧ pg.applied db = .ok applied

lemma ensureMigrationsTable_eq_ok_iff {s s₀ : Server pg} {u : Unit} :
    (ensureMigrationsTable : Prog (Server pg) String Unit) s = (.ok u, s₀) ↔
      ∃ db, pg.createTable s.db = .ok db ∧ s₀ = { s with db } := by
  rw [ensureMigrationsTable, Prog.write_eq_ok_iff]
  cases pg.createTable s.db <;> simp [Except.map, eq_comm]

lemma runMigrations_iff {dir : Except String (List DirEntry)} {s s' : Server pg} :
    (∃ result, runMigrations dir s = (.ok result, s')) ↔ ∃ s₀ applied entries ms,
      Started s s₀ applied ∧ dir = .ok entries
        ∧ List.Forall₂ (ReadInPieces pg) (pendingFiles applied (migrationFiles entries)) ms
        ∧ replay ms s₀ = .ok s' := by
  simp only [runMigrations, Prog.bind_eq_ok_iff, ensureMigrationsTable_eq_ok_iff,
    Prog.lift_eq_ok_iff]
  constructor
  · rintro ⟨result, _, s₀, ⟨db, hdb, rfl⟩, _, _, hread, applied, _, ⟨happlied, rfl⟩, entries, _,
      ⟨hdir, rfl⟩, hrun⟩
    cases hread
    obtain ⟨ms, hms, hreplay⟩ := applyFiles_iff.mp ⟨result, hrun⟩
    exact ⟨_, applied, entries, ms, ⟨db, hdb, rfl, happlied⟩, hdir, hms, hreplay⟩
  · rintro ⟨s₀, applied, entries, ms, ⟨db, hdb, rfl, happlied⟩, hdir, hms, hreplay⟩
    obtain ⟨result, hrun⟩ := applyFiles_iff.mpr ⟨ms, hms, hreplay⟩
    exact ⟨result, (), _, ⟨db, hdb, rfl⟩, db, _, rfl, applied, _, ⟨happlied, rfl⟩, entries, _,
      ⟨hdir, rfl⟩, hrun⟩

lemma runEmbeddedMigrations_iff {migrations : List (String × String)} {s s' : Server pg} :
    (∃ result, runEmbeddedMigrations migrations s = (.ok result, s')) ↔ ∃ s₀ applied ms,
      Started s s₀ applied
        ∧ List.Forall₂ (ReadWhole pg) (pendingMigrations applied migrations) ms
        ∧ replay ms s₀ = .ok s' := by
  simp only [runEmbeddedMigrations, Prog.bind_eq_ok_iff, ensureMigrationsTable_eq_ok_iff,
    Prog.lift_eq_ok_iff]
  constructor
  · rintro ⟨result, _, s₀, ⟨db, hdb, rfl⟩, _, _, hread, applied, _, ⟨happlied, rfl⟩, hrun⟩
    cases hread
    obtain ⟨ms, hms, hreplay⟩ := applyEmbedded_iff.mp ⟨result, hrun⟩
    exact ⟨_, applied, ms, ⟨db, hdb, rfl, happlied⟩, hms, hreplay⟩
  · rintro ⟨s₀, applied, ms, ⟨db, hdb, rfl, happlied⟩, hms, hreplay⟩
    obtain ⟨result, hrun⟩ := applyEmbedded_iff.mpr ⟨ms, hms, hreplay⟩
    exact ⟨result, (), _, ⟨db, hdb, rfl⟩, db, _, rfl, applied, _, ⟨happlied, rfl⟩, hrun⟩

end Vaulted.Migrations
