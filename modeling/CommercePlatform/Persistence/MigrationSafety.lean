import CommercePlatform.Persistence.Migrations

/-!
What the migration runner promises over any sequence of its runs.

A run is taken apart by its loop: each version is skipped, refused for its checksum or
committed whole. So an error leaves the database of the migrations before it, a finished
run leaves every version of its directory applied with its checksum, and versions in
order put the refusals before the commits where the pending versions come last.
-/

namespace CommercePlatform.Migrations

variable {σ : Type} {server : Server σ} {sha256 : String → String}

/-! ### Discovery -/

/-- The versions of a directory that is accepted increase. -/
theorem discoverMigrations_increasing {directory : List SqlFile} {migrations : List Migration}
    (found : discoverMigrations sha256 directory = .ok migrations) :
    migrations.Pairwise fun a b => a.version < b.version := by
  obtain ⟨loaded, -, found⟩ := Except.bind_ok found
  dsimp only at found
  split at found
  · cases found
  · rename_i ordered
    have same : loaded = migrations := Except.ok.inj found
    subst same
    have eq : loaded.map (·.version) = sortedSet (loaded.map (·.version)) := by
      by_contra different
      exact ordered different
    have sorted : (sortedSet (loaded.map (·.version))).Pairwise (· ≤ ·) :=
      List.pairwise_insertionSort _ _
    have distinct : (sortedSet (loaded.map (·.version))).Nodup :=
      (List.perm_insertionSort _ _).nodup_iff.mpr (List.nodup_dedup _)
    rw [← eq] at sorted distinct
    have increasing := sorted.and distinct
    rw [List.pairwise_map] at increasing
    exact increasing.imp fun both => Nat.lt_of_le_of_ne both.1 both.2

/-! ### A run that raises -/

/-- The loop stops after a part of the migrations, as if there were no others. -/
theorem applyLoop_error {faults : Nat → Faults} {known : Nat → Option String}
    {migrations : List Migration} {db : Database σ} {e : Raised}
    (raised : (applyLoop server faults known migrations db).2 = .error e) :
    ∃ finished now, finished <+: migrations ∧
      applyLoop server faults known finished db =
        ((applyLoop server faults known migrations db).1, .ok now) := by
  induction migrations generalizing db e with
  | nil => cases raised
  | cons migration rest ih =>
    have stop : ∃ finished now, finished <+: migration :: rest ∧
        applyLoop server faults known finished db = (db, .ok now) :=
      ⟨[], [], List.nil_prefix, rfl⟩
    rw [applyLoop] at raised ⊢
    cases known_here : known migration.version with
    | some checksum =>
      rw [known_here] at raised
      dsimp only at raised ⊢
      split at raised
      · rename_i differs
        rw [if_pos differs]
        exact stop
      · rename_i same
        obtain ⟨finished, now, part, ran⟩ := ih raised
        refine ⟨migration :: finished, now, List.cons_prefix_cons.mpr ⟨rfl, part⟩, ?_⟩
        rw [if_neg same, applyLoop, known_here]
        dsimp only
        rw [if_neg same, ran]
    | none =>
      rw [known_here] at raised
      dsimp only at raised ⊢
      cases done : transact server (faults migration.version) migration db with
      | error failure => exact stop
      | ok committed =>
        rw [done] at raised
        dsimp only at raised ⊢
        cases later : (applyLoop server faults known rest committed).2 with
        | ok applied => rw [later] at raised; cases raised
        | error failure =>
          obtain ⟨finished, now, part, ran⟩ := ih later
          refine ⟨migration :: finished, migration :: now,
            List.cons_prefix_cons.mpr ⟨rfl, part⟩, ?_⟩
          rw [applyLoop, known_here]
          dsimp only
          rw [done]
          dsimp only
          rw [ran]
          rfl

/-! ### A run that finishes -/

/-- A commit adds its own version to those applied. -/
theorem applied_transact {faults : Faults} {migration : Migration} {db db' : Database σ}
    (done : transact server faults migration db = .ok db') :
    applied db' migration.version = some migration.checksum ∧
      ∀ version checksum, applied db version = some checksum →
        applied db' version = some checksum := by
  obtain ⟨commit, old, rfl, -, -, -, history, fresh, history', -, -⟩ := transact_ok done
  unfold applied
  rw [history, history', Option.getD_some, Option.getD_some]
  constructor
  · have absent : old.find? (fun r => decide (r.version = commit.migration.version)) = none := by
      rw [List.find?_eq_none]
      intro r mem here
      exact fresh r mem (of_decide_eq_true here)
    rw [List.find?_append, absent]
    simp [Migration.row]
  · intro version checksum before
    obtain ⟨row, found, rfl⟩ := Option.map_eq_some_iff.mp before
    rw [List.find?_append, found]
    rfl

theorem applied_applyLoop {faults : Nat → Faults} {known : Nat → Option String}
    {migrations : List Migration} {db : Database σ} {version : Nat} {checksum : String}
    (before : applied db version = some checksum) :
    applied (applyLoop server faults known migrations db).1 version = some checksum := by
  induction migrations generalizing db with
  | nil => exact before
  | cons migration rest ih =>
    rw [applyLoop]
    cases known migration.version with
    | some checksum' =>
      dsimp only
      split
      · exact before
      · exact ih before
    | none =>
      dsimp only
      cases done : transact server (faults migration.version) migration db with
      | error e => exact before
      | ok committed => exact ih ((applied_transact done).2 version checksum before)

/-- Every version of the directory is applied in the end, with its checksum. -/
theorem applyLoop_ok {faults : Nat → Faults} {known : Nat → Option String}
    {migrations : List Migration} {db : Database σ} {now : List Migration}
    (seen : ∀ version checksum, known version = some checksum → applied db version = some checksum)
    (done : (applyLoop server faults known migrations db).2 = .ok now) :
    ∀ m ∈ migrations,
      applied (applyLoop server faults known migrations db).1 m.version = some m.checksum := by
  induction migrations generalizing db now with
  | nil => intro m mem; cases mem
  | cons migration rest ih =>
    rw [applyLoop] at done ⊢
    intro m mem
    cases known_here : known migration.version with
    | some checksum =>
      rw [known_here] at done
      dsimp only at done ⊢
      split at done
      · cases done
      · rename_i agrees
        have same : checksum = migration.checksum := not_not.mp agrees
        rw [if_neg agrees]
        rcases List.mem_cons.mp mem with rfl | later
        · exact applied_applyLoop (same ▸ seen _ _ known_here)
        · exact ih seen done m later
    | none =>
      rw [known_here] at done
      dsimp only at done ⊢
      cases committed : transact server (faults migration.version) migration db with
      | error e => rw [committed] at done; cases done
      | ok next =>
        rw [committed] at done
        obtain ⟨here, kept⟩ := applied_transact committed
        dsimp only at done ⊢
        cases finished : (applyLoop server faults known rest next).2 with
        | error e => rw [finished] at done; cases done
        | ok after =>
          rcases List.mem_cons.mp mem with rfl | later
          · exact applied_applyLoop here
          · exact ih (fun v c there => kept v c (seen v c there)) finished m later

/-- A loop over versions that are all applied does nothing. -/
theorem applyLoop_idle {faults : Nat → Faults} {known : Nat → Option String}
    {migrations : List Migration} {db : Database σ}
    (all : ∀ m ∈ migrations, known m.version = some m.checksum) :
    applyLoop server faults known migrations db = (db, .ok []) := by
  induction migrations with
  | nil => rfl
  | cons migration rest ih =>
    rw [applyLoop, all migration List.mem_cons_self]
    dsimp only
    rw [if_neg (not_not.mpr rfl)]
    exact ih fun m mem => all m (List.mem_cons_of_mem _ mem)

/-! ### A changed file -/

/-- With the pending versions last, a mismatch is met before any of them. -/
theorem applyLoop_mismatch {faults : Nat → Faults} {known : Nat → Option String}
    {migrations : List Migration} {db : Database σ}
    (increasing : migrations.Pairwise fun a b => a.version < b.version)
    (last : ∀ m ∈ migrations, known m.version = none →
      ∀ version checksum, known version = some checksum → version < m.version)
    (mismatch : ∃ m ∈ migrations, ∃ checksum, known m.version = some checksum ∧
      checksum ≠ m.checksum) :
    ∃ message, applyLoop server faults known migrations db =
      (db, .error (.runtimeError message)) := by
  induction migrations with
  | nil => obtain ⟨m, mem, -⟩ := mismatch; cases mem
  | cons migration rest ih =>
    obtain ⟨first, increasing⟩ := List.pairwise_cons.mp increasing
    obtain ⟨m, mem, checksum, known_m, differs⟩ := mismatch
    rw [applyLoop]
    cases known_here : known migration.version with
    | some checksum' =>
      dsimp only
      split
      · exact ⟨_, rfl⟩
      · rename_i agrees
        rcases List.mem_cons.mp mem with rfl | later
        · -- The changed file is not the one that agrees.
          rw [known_here] at known_m
          cases known_m
          exact absurd differs agrees
        · exact ih increasing (fun m mem => last m (List.mem_cons_of_mem _ mem))
            ⟨m, later, checksum, known_m, differs⟩
    | none =>
      exfalso
      have below := last migration List.mem_cons_self known_here m.version checksum known_m
      rcases List.mem_cons.mp mem with rfl | later
      · rw [known_here] at known_m; cases known_m
      · exact absurd (first m later) (Nat.lt_asymm below)

/-! ### Any sequence of runs -/

/-- The statements of the run outside its migrations all succeed. -/
def RunFaults.Quiet (faults : RunFaults) : Prop :=
  faults.ensureHistory = none ∧ faults.lock = none ∧ faults.select = none ∧ faults.unlock = none

/-- The run with only the faults of its migrations. -/
def RunFaults.quiet (faults : RunFaults) : RunFaults :=
  { faults with ensureHistory := none, lock := none, select := none, unlock := none }

/-- The promises of the runner in a state of the database, about it and about the next run. -/
structure Atomic (server : Server σ) (sha256 : String → String) (start : σ) (db : Database σ) :
    Prop where
  /-- The SQL of a version is committed at most once. -/
  once : ((db.log.filter (·.executed)).map (·.migration.version)).Nodup
  /-- There is a row for a version if and only if its SQL committed, or it is version 1 and
  was recorded over the tables of the first run. -/
  recorded : ∀ version, (∃ row ∈ db.history.getD [], row.version = version) ↔
    (∃ c ∈ db.log, c.migration.version = version ∧ c.executed = true ∧
      execute (fun _ => none) 0 (server.statements c.migration.sql) c.before = .ok c.after) ∨
    (version = 1 ∧ ∃ c ∈ db.log, c.migration.version = 1 ∧ c.executed = false ∧
      server.hasProcessedEvents c.before = true ∧ c.after = c.before)
  /-- The schema is what the commits made of the first one. -/
  made : Chained start db.log db.schema
  /-- A run that raises leaves the database of the migrations that it finished. -/
  rolledBack : ∀ faults directory e, (applyMigrations server sha256 faults directory db).2 = .error e →
    (applyMigrations server sha256 faults directory db).1 = db ∨
      ∃ migrations finished now, discoverMigrations sha256 directory = .ok migrations ∧
        finished <+: migrations ∧
        applyDiscovered server faults.quiet finished db =
          ((applyMigrations server sha256 faults directory db).1, .ok now)
  /-- After a run that finishes, another over the same directory changes nothing. -/
  idempotent : ∀ faults directory db' now,
    applyMigrations server sha256 faults directory db = (db', .ok now) →
    ∀ faults', (applyMigrations server sha256 faults' directory db').1 = db' ∧
      (faults'.Quiet → (applyMigrations server sha256 faults' directory db').2 = .ok [])
  /-- With the pending versions last, a changed file is refused before any of them. -/
  verified : ∀ faults directory migrations, discoverMigrations sha256 directory = .ok migrations →
    (∀ m ∈ migrations, applied db m.version = none →
      ∀ version checksum, applied db version = some checksum → version < m.version) →
    (∃ m ∈ migrations, ∃ checksum, applied db m.version = some checksum ∧ checksum ≠ m.checksum) →
    (applyMigrations server sha256 faults directory db).1 = db ∧
      (∃ e, (applyMigrations server sha256 faults directory db).2 = .error e) ∧
      (faults.Quiet → ∃ message, (applyMigrations server sha256 faults directory db).2 =
        .error (.runtimeError message))

/-- A run whose loop does nothing to the database, over a history that exists. -/
theorem applyDiscovered_of_idle {faults : RunFaults} {migrations : List Migration}
    {db : Database σ} {rows : List HistoryRow} {result : Except Raised (List Migration)}
    (created : db.history = some rows) (free : db.locked = false)
    (idle : applyLoop server faults.migration (applied db) migrations { db with locked := true } =
      ({ db with locked := true }, result)) :
    (applyDiscovered server faults migrations db).1 = db ∧
      (faults.Quiet → (applyDiscovered server faults migrations db).2 = result) ∧
      ((∃ e, result = .error e) → ∃ e, (applyDiscovered server faults migrations db).2 = .error e) := by
  have same : ensureHistory db = db := by
    cases db
    simp only at created
    subst created
    rfl
  have freed : ({ db with locked := false } : Database σ) = db := by
    rw [← free]
  unfold applyDiscovered
  cases ensured : faults.ensureHistory with
  | some e =>
    refine ⟨rfl, ?_, fun _ => ⟨_, rfl⟩⟩
    intro quiet
    cases ensured.symm.trans quiet.1
  | none =>
    dsimp only
    rw [same]
    cases locked : faults.lock with
    | some e =>
      refine ⟨rfl, ?_, fun _ => ⟨_, rfl⟩⟩
      intro quiet
      cases locked.symm.trans quiet.2.1
    | none =>
      cases selected : faults.select with
      | some e =>
        refine ⟨freed, ?_, fun _ => ?_⟩
        · intro quiet
          cases selected.symm.trans quiet.2.2.1
        · cases faults.unlock <;> exact ⟨_, rfl⟩
      | none =>
        have loop : applyLoop server faults.migration (applied { db with locked := true }) migrations
            { db with locked := true } = ({ db with locked := true }, result) := idle
        dsimp only
        rw [loop]
        refine ⟨freed, ?_, ?_⟩
        · intro quiet
          rw [quiet.2.2.2]
          rfl
        · rintro ⟨e, rfl⟩
          cases faults.unlock <;> exact ⟨_, rfl⟩

theorem applyLoop_history {faults : Nat → Faults} {known : Nat → Option String}
    {migrations : List Migration} {db : Database σ} (created : db.history.isSome) :
    (applyLoop server faults known migrations db).1.history.isSome := by
  induction migrations generalizing db with
  | nil => exact created
  | cons migration rest ih =>
    rw [applyLoop]
    cases known migration.version with
    | some checksum =>
      dsimp only
      split
      · exact created
      · exact ih created
    | none =>
      dsimp only
      cases done : transact server (faults migration.version) migration db with
      | error e => exact created
      | ok committed =>
        obtain ⟨commit, old, -, -, -, -, -, -, history, -, -⟩ := transact_ok done
        exact ih (by rw [history]; rfl)

/-- A finished run leaves the history, the lock free and every version applied. -/
theorem applyDiscovered_ok {faults : RunFaults} {migrations : List Migration}
    {db db' : Database σ} {now : List Migration}
    (done : applyDiscovered server faults migrations db = (db', .ok now)) :
    db'.history.isSome ∧ db'.locked = false ∧
      ∀ m ∈ migrations, applied db' m.version = some m.checksum := by
  unfold applyDiscovered at done
  cases ensured : faults.ensureHistory with
  | some e => rw [ensured] at done; cases done
  | none =>
    rw [ensured] at done
    cases locked : faults.lock with
    | some e => rw [locked] at done; cases done
    | none =>
      rw [locked] at done
      cases unlocked : faults.unlock with
      | some e => rw [unlocked] at done; cases done
      | none =>
        rw [unlocked] at done
        cases selected : faults.select with
        | some e => rw [selected] at done; cases done
        | none =>
          rw [selected] at done
          obtain ⟨db_eq, ok⟩ := Prod.mk.inj done
          subst db_eq
          exact ⟨applyLoop_history rfl, rfl, applyLoop_ok (fun _ _ known => known) ok⟩

theorem Recorded.once {start : σ} {db : Database σ} (h : Recorded server start db) :
    ((db.log.filter (·.executed)).map (·.migration.version)).Nodup :=
  h.distinct.sublist (List.filter_sublist.map _)

theorem Recorded.row_iff {start : σ} {db : Database σ} (h : Recorded server start db)
    (version : Nat) : (∃ row ∈ db.history.getD [], row.version = version) ↔
      (∃ c ∈ db.log, c.migration.version = version ∧ c.executed = true ∧
        execute (fun _ => none) 0 (server.statements c.migration.sql) c.before = .ok c.after) ∨
      (version = 1 ∧ ∃ c ∈ db.log, c.migration.version = 1 ∧ c.executed = false ∧
        server.hasProcessedEvents c.before = true ∧ c.after = c.before) := by
  rw [h.rows]
  constructor
  · rintro ⟨row, mem, rfl⟩
    obtain ⟨c, logged, rfl⟩ := List.mem_map.mp mem
    have sound := h.sound c logged
    unfold Commit.Sound at sound
    cases executed : c.executed with
    | true =>
      rw [executed, if_pos rfl] at sound
      exact .inl ⟨c, logged, rfl, executed, sound⟩
    | false =>
      rw [executed, if_neg Bool.false_ne_true] at sound
      exact .inr ⟨sound.1, c, logged, sound.1, executed, sound.2⟩
  · rintro (⟨c, logged, rfl, -⟩ | ⟨rfl, c, logged, one, -⟩)
    · exact ⟨c.migration.row, List.mem_map.mpr ⟨c, logged, rfl⟩, rfl⟩
    · exact ⟨c.migration.row, List.mem_map.mpr ⟨c, logged, rfl⟩, one⟩

theorem applyMigrations_rolledBack {faults : RunFaults} {directory : List SqlFile} {db : Database σ}
    (free : db.locked = false) :
    (applyMigrations server sha256 faults directory db).1 = db ∨
      ∃ migrations finished now, discoverMigrations sha256 directory = .ok migrations ∧
        finished <+: migrations ∧
        applyDiscovered server faults.quiet finished db =
          ((applyMigrations server sha256 faults directory db).1, .ok now) := by
  unfold applyMigrations
  cases found : discoverMigrations sha256 directory with
  | error e => exact .inl rfl
  | ok migrations =>
    dsimp only
    unfold applyDiscovered
    cases ensured : faults.ensureHistory with
    | some e => exact .inl rfl
    | none =>
      refine .inr ⟨migrations, ?_⟩
      have nothing : ({ ensureHistory db with locked := false } : Database σ) = ensureHistory db := by
        rw [← free]
        rfl
      dsimp only [RunFaults.quiet]
      cases locked : faults.lock with
      | some e => exact ⟨[], [], rfl, List.nil_prefix, Prod.ext nothing rfl⟩
      | none =>
        dsimp only
        cases selected : faults.select with
        | some e => exact ⟨[], [], rfl, List.nil_prefix, rfl⟩
        | none =>
          dsimp only [unlock]
          cases result : (applyLoop server faults.migration
              (applied { ensureHistory db with locked := true }) migrations
              { ensureHistory db with locked := true }).2 with
          | ok now => exact ⟨migrations, now, rfl, List.prefix_refl _, Prod.ext rfl result⟩
          | error e =>
            obtain ⟨finished, now, part, ran⟩ := applyLoop_error result
            refine ⟨finished, now, rfl, part, ?_⟩
            rw [ran]

theorem applyMigrations_idempotent {faults faults' : RunFaults} {directory : List SqlFile}
    {db db' : Database σ} {now : List Migration}
    (done : applyMigrations server sha256 faults directory db = (db', .ok now)) :
    (applyMigrations server sha256 faults' directory db').1 = db' ∧
      (faults'.Quiet → (applyMigrations server sha256 faults' directory db').2 = .ok []) := by
  unfold applyMigrations at done ⊢
  cases found : discoverMigrations sha256 directory with
  | error e => rw [found] at done; cases done
  | ok migrations =>
    rw [found] at done
    obtain ⟨created, free, all⟩ := applyDiscovered_ok done
    obtain ⟨rows, history⟩ := Option.isSome_iff_exists.mp created
    have idle : applyLoop server faults'.migration (applied db') migrations
        { db' with locked := true } = ({ db' with locked := true }, .ok []) := applyLoop_idle all
    obtain ⟨same, quiet, -⟩ := applyDiscovered_of_idle history free idle
    exact ⟨same, quiet⟩

theorem applyMigrations_verified {faults : RunFaults} {directory : List SqlFile} {db : Database σ}
    (free : db.locked = false) {migrations : List Migration}
    (found : discoverMigrations sha256 directory = .ok migrations)
    (last : ∀ m ∈ migrations, applied db m.version = none →
      ∀ version checksum, applied db version = some checksum → version < m.version)
    (mismatch : ∃ m ∈ migrations, ∃ checksum, applied db m.version = some checksum ∧
      checksum ≠ m.checksum) :
    (applyMigrations server sha256 faults directory db).1 = db ∧
      (∃ e, (applyMigrations server sha256 faults directory db).2 = .error e) ∧
      (faults.Quiet → ∃ message, (applyMigrations server sha256 faults directory db).2 =
        .error (.runtimeError message)) := by
  have stops : ∃ message, applyLoop server faults.migration (applied db) migrations
      { db with locked := true } = ({ db with locked := true }, .error (.runtimeError message)) :=
    applyLoop_mismatch (discoverMigrations_increasing found) last mismatch
  obtain ⟨message, stopped⟩ := stops
  obtain ⟨m, -, checksum, known, -⟩ := mismatch
  have created : db.history.isSome := by
    cases history : db.history with
    | some rows => rfl
    | none => simp [applied, history] at known
  obtain ⟨rows, history⟩ := Option.isSome_iff_exists.mp created
  obtain ⟨same, quiet, raises⟩ := applyDiscovered_of_idle history free stopped
  unfold applyMigrations
  rw [found]
  exact ⟨same, raises ⟨_, rfl⟩, fun q => ⟨message, quiet q⟩⟩

/-- In every state that the runs reach, from any schema, with any directories and with any
statements failing, the runner keeps its promises. -/
theorem migrations_atomic (server : Server σ) (sha256 : String → String) (start : σ)
    (past : List (RunFaults × List SqlFile)) :
    Atomic server sha256 start (runs server sha256 past (initial start)) := by
  have recorded : Recorded server start (runs server sha256 past (initial start)) :=
    recorded_runs past (recorded_initial start)
  have free : (runs server sha256 past (initial start)).locked = false := runs_unlocked past rfl
  constructor
  · exact recorded.once
  · exact recorded.row_iff
  · exact recorded.chained
  · intro faults directory e raised
    exact applyMigrations_rolledBack free
  · intro faults directory db' now done faults'
    exact applyMigrations_idempotent done
  · intro faults directory migrations found last mismatch
    exact applyMigrations_verified free found last mismatch

end CommercePlatform.Migrations
