import Mathlib.Data.List.Sort
import Mathlib.Data.List.Lex
import CommercePlatform.Lib.Stateful
import CommercePlatform.Persistence.Tables

/-!
The migration runner (`persistence/migrations.py`): discovery of the files, and their
application under a session advisory lock, one transaction for each version.

The application schema is any type: a migration file is a list of statements over it, each
of which may be refused. The history table is the runner's own and no file writes it. Runs
follow one another, as the advisory lock makes them; every statement of a run may also
fail for a reason of its own. `Database.log` is a history variable: it records the
transactions that committed, and nothing reads it.
-/

namespace CommercePlatform.Migrations

open Persistence (SqlError)

/-! ### Discovery -/

structure Migration where
  version : Nat
  name : String
  checksum : String
  sql : String
  deriving DecidableEq

/-- A file of the directory, with its `read_text()`. -/
structure SqlFile where
  name : String
  content : String
  deriving DecidableEq

inductive Raised where
  | valueError (message : String)
  | runtimeError (message : String)
  | database (error : SqlError)
  deriving DecidableEq

/-- The value of a decimal digit `[0-9]`. -/
def digit (c : Char) : Option Nat :=
  if '0' ≤ c ∧ c ≤ '9' then some (c.toNat - '0'.toNat) else none

/-- `[a-z0-9_]`. -/
def nameChar (c : Char) : Bool := ('a' ≤ c ∧ c ≤ 'z') ∨ ('0' ≤ c ∧ c ≤ '9') ∨ c = '_'

/-- `MIGRATION_PATTERN.fullmatch`: the version and the name. -/
def matchFilename (filename : String) : Option (Nat × String) :=
  match filename.toList with
  | a :: b :: c :: '_' :: rest =>
    match digit a, digit b, digit c, rest.reverse with
    | some a, some b, some c, 'l' :: 'q' :: 's' :: '.' :: name =>
      if name ≠ [] ∧ name.all nameChar then
        some (100 * a + 10 * b + c, String.ofList name.reverse)
      else none
    | _, _, _, _ => none
  | _ => none

section

variable (sha256 : String → String)

/-- The body of the loop over the files. -/
def loadMigration (file : SqlFile) : Except Raised Migration :=
  match matchFilename file.name with
  | none => .error (.valueError ("invalid migration filename: " ++ file.name))
  | some (version, name) => .ok ⟨version, name, sha256 file.content, file.content⟩

/-- `directory.glob("*.sql")`, sorted. -/
def sqlFiles (directory : List SqlFile) : List SqlFile :=
  (directory.filter fun f => "lqs.".toList <+: f.name.toList.reverse).insertionSort
    fun a b => a.name.toList.map Char.toNat ≤ b.name.toList.map Char.toNat

/-- `sorted(set(versions))`. -/
def sortedSet (versions : List Nat) : List Nat := versions.dedup.insertionSort (· ≤ ·)

def discoverMigrations (directory : List SqlFile) : Except Raised (List Migration) := do
  let migrations ← (sqlFiles directory).mapM (loadMigration sha256)
  let versions := migrations.map (·.version)
  if versions ≠ sortedSet versions then
    .error (.valueError "migration versions must be unique and ordered")
  else .ok migrations

end

/-! ### The database -/

/-- A row of `schema_migrations`. -/
structure HistoryRow where
  version : Nat
  name : String
  checksum : String
  deriving DecidableEq

/-- A transaction of the runner that committed: the migration, whether its SQL was
executed in it, and the schema before and after. -/
structure Commit (σ : Type) where
  migration : Migration
  executed : Bool
  before : σ
  after : σ

structure Database (σ : Type) where
  schema : σ
  /-- `schema_migrations`, once it exists. -/
  history : Option (List HistoryRow)
  log : List (Commit σ)
  locked : Bool

/-- What the server makes of the files. -/
structure Server (σ : Type) where
  /-- The statements of a file. -/
  statements : String → List (σ → Except SqlError σ)
  /-- `to_regclass('public.processed_events')` is not null. -/
  hasProcessedEvents : σ → Bool

/-- The statements of one transaction that fail for a reason of their own. -/
structure Faults where
  probe : Option SqlError
  statement : Nat → Option SqlError
  insert : Option SqlError
  commit : Option SqlError

/-- The same for a whole run. -/
structure RunFaults where
  ensureHistory : Option SqlError
  lock : Option SqlError
  select : Option SqlError
  migration : Nat → Faults
  unlock : Option SqlError

section

variable {σ : Type} (server : Server σ)

/-! ### One migration -/

/-- The statements of a file from the `i`-th on. -/
def execute (fault : Nat → Option SqlError) :
    Nat → List (σ → Except SqlError σ) → σ → Except SqlError σ
  | _, [], schema => .ok schema
  | i, statement :: rest, schema =>
    match fault i with
    | some e => .error e
    | none =>
      match statement schema with
      | .error e => .error e
      | .ok schema => execute fault (i + 1) rest schema

def raiseIf : Option SqlError → Except SqlError Unit
  | some e => .error e
  | none => .ok ()

/-- Whether version 1 finds the schema of the first run in place. -/
def baselineExists (fault : Option SqlError) (migration : Migration) (schema : σ) :
    Except SqlError Bool :=
  if migration.version = 1 then do
    raiseIf fault
    return server.hasProcessedEvents schema
  else .ok false

/-- `INSERT INTO schema_migrations`. -/
def insertHistory (migration : Migration) :
    Option (List HistoryRow) → Except SqlError (List HistoryRow)
  | none => .error ⟨"42P01"⟩
  | some rows =>
    if rows.any (·.version = migration.version) then .error .uniqueViolation
    else .ok (rows ++ [⟨migration.version, migration.name, migration.checksum⟩])

/-- The SQL of the file, unless the schema is there already. -/
def runFile (fault : Nat → Option SqlError) (migration : Migration) (baseline : Bool)
    (schema : σ) : Except SqlError σ :=
  if baseline then .ok schema else execute fault 0 (server.statements migration.sql) schema

/-- `with connection.transaction()`: the state it commits; an error rolls it back. -/
def transact (faults : Faults) (migration : Migration) (db : Database σ) :
    Except SqlError (Database σ) := do
  let baseline ← baselineExists server faults.probe migration db.schema
  let schema ← runFile server faults.statement migration baseline db.schema
  raiseIf faults.insert
  let history ← insertHistory migration db.history
  raiseIf faults.commit
  return { db with
    schema
    history := some history
    log := db.log ++ [⟨migration, !baseline, db.schema, schema⟩] }

/-! ### A run -/

/-- The applied versions with their checksums. -/
def applied (db : Database σ) (version : Nat) : Option String :=
  ((db.history.getD []).find? (·.version = version)).map (·.checksum)

/-- The loop over the migrations: the database it leaves, and the migrations it applied. -/
def applyLoop (faults : Nat → Faults) (applied : Nat → Option String) :
    List Migration → Database σ → Database σ × Except Raised (List Migration)
  | [], db => (db, .ok [])
  | migration :: rest, db =>
    match applied migration.version with
    | some checksum =>
      if checksum ≠ migration.checksum then
        (db, .error (.runtimeError
          ("checksum mismatch for applied migration " ++ toString migration.version)))
      else applyLoop faults applied rest db
    | none =>
      match transact server (faults migration.version) migration db with
      | .error e => (db, .error (.database e))
      | .ok committed =>
        let next := applyLoop faults applied rest committed
        (next.1, next.2.map (migration :: ·))

/-- `CREATE TABLE IF NOT EXISTS schema_migrations`. -/
def ensureHistory (db : Database σ) : Database σ := { db with history := some (db.history.getD []) }

/-- `finally: SELECT pg_advisory_unlock(..)`. The end of the session frees the lock where
the statement fails, and its error takes the place of the other. -/
def unlock (fault : Option SqlError) (ran : Database σ × Except Raised (List Migration)) :
    Database σ × Except Raised (List Migration) :=
  ({ ran.1 with locked := false },
    match fault with
    | some e => .error (.database e)
    | none => ran.2)

/-- `apply_migrations` on the migrations of its directory. -/
def applyDiscovered (faults : RunFaults) (migrations : List Migration) (db : Database σ) :
    Database σ × Except Raised (List Migration) :=
  match faults.ensureHistory with
  | some e => (db, .error (.database e))
  | none =>
    let db := ensureHistory db
    match faults.lock with
    | some e => (db, .error (.database e))
    | none =>
      let db := { db with locked := true }
      unlock faults.unlock <|
        match faults.select with
        | some e => (db, .error (.database e))
        | none => applyLoop server faults.migration (applied db) migrations db

def applyMigrations (sha256 : String → String) (faults : RunFaults) (directory : List SqlFile)
    (db : Database σ) : Database σ × Except Raised (List Migration) :=
  match discoverMigrations sha256 directory with
  | .error e => (db, .error e)
  | .ok migrations => applyDiscovered server faults migrations db

/-- One run after the other, each over its own directory. -/
def runs (sha256 : String → String) :
    List (RunFaults × List SqlFile) → Database σ → Database σ
  | [], db => db
  | run :: rest, db => runs sha256 rest (applyMigrations server sha256 run.1 run.2 db).1

/-- A database that the runner has not touched. -/
def initial (schema : σ) : Database σ := ⟨schema, none, [], false⟩

/-! ### What a transaction commits -/

/-- The row of a migration. -/
def Migration.row (migration : Migration) : HistoryRow :=
  ⟨migration.version, migration.name, migration.checksum⟩

/-- A commit of the SQL of its file, or of version 1 over the schema of the first run. -/
def Commit.Sound (commit : Commit σ) : Prop :=
  if commit.executed then
    execute (fun _ => none) 0 (server.statements commit.migration.sql) commit.before =
      .ok commit.after
  else commit.migration.version = 1 ∧ server.hasProcessedEvents commit.before = true ∧
    commit.after = commit.before

/-- Commits that lead from one schema to another. -/
def Chained : σ → List (Commit σ) → σ → Prop
  | start, [], schema => schema = start
  | start, commit :: rest, schema => commit.before = start ∧ Chained commit.after rest schema

theorem Chained.concat {start schema : σ} {log : List (Commit σ)} (chained : Chained start log schema)
    {commit : Commit σ} (next : commit.before = schema) :
    Chained start (log ++ [commit]) commit.after := by
  induction log generalizing start with
  | nil => exact ⟨next.trans chained, rfl⟩
  | cons c rest ih => exact ⟨chained.1, ih chained.2⟩

/-- Statements that all succeeded do the same without the faults. -/
theorem execute_faultless {fault : Nat → Option SqlError} {i : Nat}
    {statements : List (σ → Except SqlError σ)} {schema schema' : σ}
    (done : execute fault i statements schema = .ok schema') (j : Nat) :
    execute (fun _ => none) j statements schema = .ok schema' := by
  induction statements generalizing i j schema with
  | nil => exact done
  | cons statement rest ih =>
    rw [execute] at done ⊢
    cases fails : fault i with
    | some e => rw [fails] at done; cases done
    | none =>
      rw [fails] at done
      cases ran : statement schema with
      | error e => rw [ran] at done; cases done
      | ok next =>
        rw [ran] at done
        exact ih done (j + 1)

/-- Only version 1 looks for the schema of the first run. -/
theorem baselineExists_true {fault : Option SqlError} {migration : Migration} {schema : σ}
    (found : baselineExists server fault migration schema = .ok true) :
    migration.version = 1 ∧ server.hasProcessedEvents schema = true := by
  unfold baselineExists at found
  split at found
  · rename_i version
    obtain ⟨_, -, found⟩ := Except.bind_ok found
    exact ⟨version, Except.ok.inj found⟩
  · cases found

theorem insertHistory_ok {migration : Migration} {history : Option (List HistoryRow)}
    {rows : List HistoryRow} (inserted : insertHistory migration history = .ok rows) :
    ∃ old, history = some old ∧ (∀ r ∈ old, r.version ≠ migration.version) ∧
      rows = old ++ [migration.row] := by
  cases history with
  | none => cases inserted
  | some old =>
    rw [insertHistory] at inserted
    split at inserted
    · cases inserted
    · rename_i absent
      refine ⟨old, rfl, ?_, (Except.ok.inj inserted).symm⟩
      intro r mem same
      exact absent (List.any_eq_true.mpr ⟨r, mem, decide_eq_true same⟩)

variable {server}

/-- The SQL and the row of a migration are committed together. -/
theorem transact_ok {faults : Faults} {migration : Migration} {db db' : Database σ}
    (done : transact server faults migration db = .ok db') :
    ∃ (commit : Commit σ) (old : List HistoryRow),
      commit.migration = migration ∧ commit.Sound server ∧
      commit.before = db.schema ∧ commit.after = db'.schema ∧
      db.history = some old ∧ (∀ r ∈ old, r.version ≠ migration.version) ∧
      db'.history = some (old ++ [migration.row]) ∧ db'.log = db.log ++ [commit] ∧
      db'.locked = db.locked := by
  obtain ⟨baseline, probed, done⟩ := Except.bind_ok done
  obtain ⟨schema, ran, done⟩ := Except.bind_ok done
  obtain ⟨_, -, done⟩ := Except.bind_ok done
  obtain ⟨rows, inserted, done⟩ := Except.bind_ok done
  obtain ⟨_, -, done⟩ := Except.bind_ok done
  obtain ⟨old, history, fresh, rfl⟩ := insertHistory_ok inserted
  cases done
  refine ⟨⟨migration, !baseline, db.schema, schema⟩, old, rfl, ?_, rfl, rfl, history, fresh, rfl,
    rfl, rfl⟩
  cases baseline with
  | false => exact execute_faultless ran 0
  | true =>
    obtain ⟨version, present⟩ := baselineExists_true server probed
    exact ⟨version, present, (Except.ok.inj ran).symm⟩

/-! ### The history is the log -/

/-- The rows of the history are those of the commits, of distinct versions; each commit did
what it records, and together they made the schema. -/
structure Recorded (server : Server σ) (start : σ) (db : Database σ) : Prop where
  rows : db.history.getD [] = db.log.map (·.migration.row)
  distinct : (db.log.map (·.migration.version)).Nodup
  sound : ∀ commit ∈ db.log, commit.Sound server
  chained : Chained start db.log db.schema

theorem recorded_initial (start : σ) : Recorded server start (initial start) where
  rows := rfl
  distinct := List.nodup_nil
  sound := by intro commit mem; cases mem
  chained := rfl

theorem Recorded.transact {start : σ} {faults : Faults} {migration : Migration}
    {db db' : Database σ} (h : Recorded server start db)
    (done : transact server faults migration db = .ok db') : Recorded server start db' := by
  obtain ⟨commit, old, rfl, sound, before, after, history, fresh, history', log, -⟩ :=
    transact_ok done
  have rows := h.rows
  rw [history, Option.getD_some] at rows
  constructor
  · rw [history', log, Option.getD_some, rows, List.map_append]
    rfl
  · rw [log, List.map_append, List.map_cons, List.map_nil, List.nodup_append]
    refine ⟨h.distinct, List.nodup_singleton _, ?_⟩
    intro version logged version' mem same
    obtain ⟨earlier, mem', rfl⟩ := List.mem_map.mp logged
    have row : earlier.migration.row ∈ old := rows ▸ List.mem_map.mpr ⟨earlier, mem', rfl⟩
    exact fresh _ row (same.trans (List.mem_singleton.mp mem))
  · intro c mem
    rw [log, List.mem_append, List.mem_singleton] at mem
    rcases mem with logged | rfl
    · exact h.sound c logged
    · exact sound
  · rw [log, ← after]
    exact h.chained.concat before

theorem Recorded.applyLoop {start : σ} {faults : Nat → Faults} {known : Nat → Option String}
    {migrations : List Migration} {db : Database σ} (h : Recorded server start db) :
    Recorded server start (applyLoop server faults known migrations db).1 := by
  induction migrations generalizing db with
  | nil => exact h
  | cons migration rest ih =>
    rw [Migrations.applyLoop]
    cases known migration.version with
    | some checksum =>
      dsimp only
      split
      · exact h
      · exact ih h
    | none =>
      dsimp only
      cases done : Migrations.transact server (faults migration.version) migration db with
      | error e => exact h
      | ok committed => exact ih (h.transact done)

theorem Recorded.ensureHistory {start : σ} {db : Database σ} (h : Recorded server start db) :
    Recorded server start (ensureHistory db) :=
  { h with rows := h.rows }

theorem Recorded.locked {start : σ} {db : Database σ} (h : Recorded server start db) (held : Bool) :
    Recorded server start { db with locked := held } :=
  { h with }

theorem Recorded.applyMigrations {start : σ} {sha256 : String → String} {faults : RunFaults}
    {directory : List SqlFile} {db : Database σ} (h : Recorded server start db) :
    Recorded server start (applyMigrations server sha256 faults directory db).1 := by
  unfold Migrations.applyMigrations applyDiscovered
  cases discoverMigrations sha256 directory with
  | error e => exact h
  | ok migrations =>
    dsimp only
    cases faults.ensureHistory with
    | some e => exact h
    | none =>
      cases faults.lock with
      | some e => exact h.ensureHistory
      | none =>
        cases faults.select with
        | some e => exact (h.ensureHistory.locked true).locked false
        | none => exact (h.ensureHistory.locked true).applyLoop.locked false

theorem recorded_runs {start : σ} {sha256 : String → String} (past : List (RunFaults × List SqlFile))
    {db : Database σ} (h : Recorded server start db) :
    Recorded server start (runs server sha256 past db) := by
  induction past generalizing db with
  | nil => exact h
  | cons run rest ih => exact ih h.applyMigrations

/-! ### The lock -/

/-- A run frees the lock whatever it raises. -/
theorem applyMigrations_unlocked {sha256 : String → String} {faults : RunFaults}
    {directory : List SqlFile} {db : Database σ} (free : db.locked = false) :
    (applyMigrations server sha256 faults directory db).1.locked = false := by
  unfold Migrations.applyMigrations applyDiscovered
  cases discoverMigrations sha256 directory with
  | error e => exact free
  | ok migrations =>
    dsimp only
    cases faults.ensureHistory with
    | some e => exact free
    | none =>
      cases faults.lock with
      | some e => exact free
      | none => rfl

theorem runs_unlocked {sha256 : String → String} (past : List (RunFaults × List SqlFile))
    {db : Database σ} (free : db.locked = false) : (runs server sha256 past db).locked = false := by
  induction past generalizing db with
  | nil => exact free
  | cons run rest ih => exact ih (applyMigrations_unlocked free)

end

end CommercePlatform.Migrations
