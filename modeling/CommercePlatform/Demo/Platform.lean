import CommercePlatform.Demo.RunCounters
import CommercePlatform.Outbox.Service
import CommercePlatform.Persistence.RefundSafety

/-!
Every component that writes to the database: the event processors, the outbox publishers
and the demo control API.

The publishers see the outbox rows without the alert they are for, and change neither that
nor which rows there are. So what the processors guarantee of the fraud tables survives them
(`Sound`), and the counters of a run are exact in every reachable state.
-/

namespace CommercePlatform.Demo

open Contract Persistence Schema

/-! ### The outbox rows of the database -/

/-- The columns of `fraud_outbox` that the publisher reads or writes. -/
def outboxTable (db : Db) : Outbox.Table := db.fraudOutbox.mapValues fun _ row => row.toRow

/-- The database after the publisher has rewritten these columns. -/
def withOutbox (db : Db) (table : Outbox.Table) : Db :=
  { db with
    fraudOutbox := db.fraudOutbox.mapValues fun id row =>
      { row with toRow := (table.get? id).getD row.toRow } }

/-! ### The machine -/

abbrev Processors (arith : Arithmetic) (ι : Type) :=
  (database arith).Store ι (UnitOfWork × PersistCall) PyException PersistenceResult

structure Platform (arith : Arithmetic) (ι π : Type) where
  store : Processors arith ι := { committed := ⟨{}, []⟩ }
  /-- The publishers, with the outbox table they have last seen. -/
  publishers : Outbox.State π := {}
  demo : DemoTables := {}

inductive PlatformAct (ι π : Type) where
  | processor (i : ι) (act : Schema.Act (UnitOfWork × PersistCall))
  | publisher (config : Outbox.Config) (parseEventId : List UInt8 → Except String UUID)
    (act : Outbox.Act π)
  /-- `create`, for a request within the bounds of `RunCreate`. -/
  | createRun (runId : UUID) (request : RunCreate) (now : Instant)
  | transition (runId : UUID) (target : RunStatus) (message errorCategory : Option String)
    (now : Instant)
  | reconcile (now : Instant)
  /-- `add_manifest`, for a batch of `_generate`, which is cut to the requested count. -/
  | addManifest (runId : UUID) (events : List (UUID × EventType))
  | refresh (runId : UUID) (generated : Option Nat) (now : Instant)
  | cleanup (runId : UUID)

/-- The publishers do not insert rows. -/
def inserts {π : Type} : Outbox.Act π → Bool
  | .insert .. => true
  | _ => false

namespace Platform

variable {arith : Arithmetic} {ι π : Type} [DecidableEq ι] [DecidableEq π]

def db (s : Platform arith ι π) : Db := s.store.committed.db

def step (s : Platform arith ι π) : PlatformAct ι π → Option (Platform arith ι π)
  | .processor i act =>
    (s.store.step (fun request => request.1.transaction request.2) i act).map fun store =>
      { s with store }
  | .publisher config parseEventId act =>
    if inserts act then none
    else
      (Outbox.step config parseEventId { s.publishers with table := outboxTable s.db } act).map
        fun publishers =>
          { s with
            publishers
            store := { s.store with
              committed := { s.store.committed with db := withOutbox s.db publishers.table } } }
  | .createRun runId request now =>
    if (s.demo.runs.get? runId).isNone ∧ request.eventCount ≤ 100000 then
      some { s with demo := { s.demo with
        runs := s.demo.runs.create runId request now
        counters := s.demo.counters.set runId {} } }
    else none
  | .transition runId target message errorCategory now =>
    (s.demo.runs.transition runId target message errorCategory now).toOption.map fun runs =>
      { s with demo := { s.demo with runs } }
  | .reconcile now => some { s with demo := { s.demo with runs := s.demo.runs.reconcile now } }
  | .addManifest runId events =>
    if (s.demo.runs.get? runId).any fun run =>
        (s.demo.manifestEvents runId).length + events.length ≤ run.parameters.eventCount then
      (s.demo.addManifest runId events).toOption.map fun demo => { s with demo }
    else none
  | .refresh runId generated now =>
    (s.demo.refresh s.db runId generated now).toOption.map fun refreshed =>
      { s with demo := refreshed.1 }
  | .cleanup runId =>
    if (s.demo.runs.get? runId).any (·.status.terminal) then
      some { s with demo := s.demo.cleanup runId }
    else none

variable (arith ι π) in
def machine : Machine (Platform arith ι π) (PlatformAct ι π) := ⟨step⟩

end Platform

/-! ### The publishers keep the rows single -/

section

variable {db : Db} {table : Outbox.Table}

theorem queued_withOutbox (o a : UUID) : Queued (withOutbox db table) o a ↔ Queued db o a := by
  unfold Queued withOutbox
  simp only [Dict.get?_mapValues, Option.map_eq_some_iff]
  constructor
  · rintro ⟨row, ⟨old, found, rfl⟩, names⟩
    exact ⟨old, found, names⟩
  · rintro ⟨old, found, names⟩
    exact ⟨_, ⟨old, found, rfl⟩, names⟩

theorem singleRows_withOutbox (single : SingleRows db) : SingleRows (withOutbox db table) where
  evaluation := single.evaluation
  alert := single.alert
  queued o o' a first second :=
    single.queued o o' a ((queued_withOutbox o a).mp first) ((queued_withOutbox o' a).mp second)
  forAlert o a queued := single.forAlert o a ((queued_withOutbox o a).mp queued)

theorem staysVacant_withOutbox (l : Lock) : StaysVacant l db (withOutbox db table) := by
  intro vacant
  unfold Vacant at *
  split
  · exact vacant
  · exact vacant
  · rename_i id
    show (withOutbox db table).fraudOutbox.get? id = none
    rw [withOutbox, Dict.get?_mapValues, Option.map_eq_none_iff]
    exact vacant
  · exact vacant
  · exact vacant
  · trivial

end

/-! ### The manifest is as long as requested -/

section

variable {manifest : Dict (UUID × UUID) EventType} {runId other : UUID}

/-- The rows of a run. -/
def rowsOf (manifest : Dict (UUID × UUID) EventType) (runId : UUID) : Nat :=
  (manifest.entries.filter fun m => m.1.1 = runId).length

theorem length_manifestEvents (tables : DemoTables) (runId : UUID) :
    (tables.manifestEvents runId).length = rowsOf tables.manifest runId := List.length_map _

variable (manifest runId other)

theorem rowsOf_insert (event : UUID × EventType) :
    rowsOf (DemoTables.insertManifest manifest runId event) other ≤
      rowsOf manifest other + if other = runId then 1 else 0 := by
  unfold DemoTables.insertManifest
  split
  · omega
  · rename_i absent
    rw [rowsOf, Dict.entries_set_new (by simpa using absent), List.filter_append, List.length_append,
      rowsOf]
    refine Nat.add_le_add_left ?_ _
    by_cases same : other = runId
    · simp [same]
    · simp [same, Ne.symm same]

theorem rowsOf_insertAll (events : List (UUID × EventType)) :
    rowsOf (events.foldl (DemoTables.insertManifest · runId) manifest) other ≤
      rowsOf manifest other + if other = runId then events.length else 0 := by
  induction events generalizing manifest with
  | nil => simp
  | cons event events ih =>
    have first := rowsOf_insert manifest runId other event
    have rest := ih (DemoTables.insertManifest manifest runId event)
    rw [List.foldl_cons, List.length_cons]
    by_cases same : other = runId
    · rw [if_pos same] at *
      omega
    · rw [if_neg same] at *
      omega

end

/-! ### Every reachable state -/

theorem ok_of_toOption {ε α : Type} {r : Except ε α} {a : α} (some_ : r.toOption = some a) :
    r = .ok a := by
  cases r with
  | error e => cases some_
  | ok b => exact congrArg Except.ok (Option.some.inj some_)

section

variable {arith : Arithmetic} {ι π : Type} [DecidableEq ι] [DecidableEq π]

/-- A run has at most as many events in the manifest as were requested, and one that is gone
has none. -/
structure Bounded (tables : DemoTables) : Prop where
  requested : ∀ runId run, tables.runs.get? runId = some run →
    rowsOf tables.manifest runId ≤ run.parameters.eventCount ∧ run.parameters.eventCount ≤ 100000
  gone : ∀ runId, tables.runs.get? runId = none → rowsOf tables.manifest runId = 0

theorem bounded_empty : Bounded {} where
  requested runId run found := by cases found
  gone _ _ := rfl

/-- Rows that are there before and after, with the same requests. -/
def SameRequests (runs runs' : DemoRuns) : Prop :=
  ∀ runId, (runs'.get? runId).map (·.parameters) = (runs.get? runId).map (·.parameters)

theorem Bounded.sameRequests {tables tables' : DemoTables} (bounded : Bounded tables)
    (requests : SameRequests tables.runs tables'.runs) (manifest : tables'.manifest = tables.manifest) :
    Bounded tables' := by
  constructor
  · intro runId run found
    have same := requests runId
    rw [found, Option.map_some, eq_comm, Option.map_eq_some_iff] at same
    obtain ⟨old, present, parameters⟩ := same
    rw [manifest, ← parameters]
    exact bounded.requested runId old present
  · intro runId absent
    have same := requests runId
    rw [absent, Option.map_none, eq_comm, Option.map_eq_none_iff] at same
    rw [manifest]
    exact bounded.gone runId same

theorem sameRequests_set {runs : DemoRuns} {runId : UUID} {old new : DemoRun}
    (found : runs.get? runId = some old) (same : new.parameters = old.parameters) :
    SameRequests runs (runs.set runId new) := by
  intro other
  by_cases here : other = runId
  · subst here
    rw [Dict.get?_set_self, found, Option.map_some, Option.map_some, same]
  · rw [Dict.get?_set_ne _ _ here]

theorem sameRequests_transition {runs runs' : DemoRuns} {runId : UUID} {target : RunStatus}
    {message category : Option String} {now : Instant}
    (ran : runs.transition runId target message category now = .ok runs') :
    SameRequests runs runs' := by
  obtain ⟨run, found, ⟨-, rfl⟩ | ⟨-, rfl⟩⟩ := transition_ok ran
  · exact fun _ => rfl
  · exact sameRequests_set found rfl

theorem sameRequests_reconcile (runs : DemoRuns) (now : Instant) :
    SameRequests runs (runs.reconcile now) := by
  intro runId
  rw [DemoRuns.reconcile, Dict.get?_mapValues, Option.map_map]
  congr 1
  funext run
  show (DemoRuns.reconciled now run).parameters = run.parameters
  unfold DemoRuns.reconciled
  split <;> rfl

theorem Bounded.create {tables : DemoTables} (bounded : Bounded tables) {runId : UUID}
    {request : RunCreate} {now : Instant} {counters : Dict UUID RunCounters}
    (fresh : tables.runs.get? runId = none) (few : request.eventCount ≤ 100000) :
    Bounded { tables with runs := tables.runs.create runId request now, counters } := by
  constructor
  · intro other run found
    by_cases here : other = runId
    · subst here
      rw [DemoRuns.create, Dict.get?_set_self] at found
      cases found
      exact ⟨by rw [bounded.gone other fresh]; exact Nat.zero_le _, few⟩
    · rw [DemoRuns.create, Dict.get?_set_ne _ _ here] at found
      exact bounded.requested other run found
  · intro other absent
    by_cases here : other = runId
    · subst here
      rw [DemoRuns.create, Dict.get?_set_self] at absent
      cases absent
    · rw [DemoRuns.create, Dict.get?_set_ne _ _ here] at absent
      exact bounded.gone other absent

theorem Bounded.addManifest {tables tables' : DemoTables} (bounded : Bounded tables) {runId : UUID}
    {run : DemoRun} {events : List (UUID × EventType)} (found : tables.runs.get? runId = some run)
    (short : (tables.manifestEvents runId).length + events.length ≤ run.parameters.eventCount)
    (added : tables.addManifest runId events = .ok tables') : Bounded tables' := by
  unfold DemoTables.addManifest at added
  rw [found] at added
  split at added
  · cases added
    exact bounded
  cases added
  rw [length_manifestEvents] at short
  constructor
  · intro other row present
    have rows := rowsOf_insertAll tables.manifest runId other events
    refine ⟨?_, (bounded.requested other row present).2⟩
    by_cases here : other = runId
    · subst here
      cases found.symm.trans present
      rw [if_pos rfl] at rows
      exact rows.trans short
    · rw [if_neg here, add_zero] at rows
      exact rows.trans (bounded.requested other row present).1
  · intro other absent
    have rows := rowsOf_insertAll tables.manifest runId other events
    have here : other ≠ runId := by
      rintro rfl
      cases found.symm.trans absent
    rw [if_neg here, bounded.gone other absent] at rows
    exact Nat.le_zero.mp rows

theorem Bounded.cleanup {tables : DemoTables} (bounded : Bounded tables) (runId : UUID) :
    Bounded (tables.cleanup runId) := by
  have rows : ∀ other, rowsOf (tables.cleanup runId).manifest other =
      if other = runId then 0 else rowsOf tables.manifest other := by
    intro other
    unfold rowsOf DemoTables.cleanup Dict.filter
    rw [List.filter_filter]
    split
    · rename_i same
      subst same
      simp
    · rename_i different
      congr 2
      funext m
      by_cases here : m.1.1 = other
      · simp [here, different]
      · simp [here]
  constructor
  · intro other run found
    simp only [DemoTables.cleanup, Dict.get?_erase] at found
    split at found
    · cases found
    · rename_i different
      rw [rows, if_neg different]
      exact bounded.requested other run found
  · intro other absent
    rw [rows]
    split
    · rfl
    · rename_i different
      simp only [DemoTables.cleanup, Dict.get?_erase, if_neg different] at absent
      exact bounded.gone other absent

/-- What holds of every reachable state. -/
structure Sound (s : Platform arith ι π) : Prop where
  store : Verified (D := database arith) (fun c => SingleRows c.db) StaysVacant s.store
  bounded : Bounded s.demo

omit [DecidableEq π] in
theorem sound_start : Sound ({} : Platform arith ι π) where
  store := ⟨singleRows_empty, by simp, by simp⟩
  bounded := bounded_empty

theorem step_sound {s s' : Platform arith ι π} {act : PlatformAct ι π} (sound : Sound s)
    (stepped : s.step act = some s') : Sound s' := by
  cases act with
  | processor i act =>
    obtain ⟨store, moved, rfl⟩ := Option.map_eq_some_iff.mp stepped
    refine ⟨?_, sound.bounded⟩
    exact step_verified (staysVacant_guard arith) (fun request _ => transaction_single arith request)
      sound.store moved
  | publisher config parseEventId act =>
    simp only [Platform.step] at stepped
    split at stepped
    · cases stepped
    obtain ⟨publishers, -, rfl⟩ := Option.map_eq_some_iff.mp stepped
    refine ⟨?_, sound.bounded⟩
    exact sound.store.outside (staysVacant_guard arith)
      (singleRows_withOutbox sound.store.committed) fun l => staysVacant_withOutbox l
  | createRun runId request now =>
    simp only [Platform.step, Option.ite_none_right_eq_some, Option.isNone_iff_eq_none] at stepped
    obtain ⟨⟨fresh, few⟩, same⟩ := stepped
    cases same
    exact ⟨sound.store, sound.bounded.create fresh few⟩
  | transition runId target message errorCategory now =>
    obtain ⟨runs, moved, rfl⟩ := Option.map_eq_some_iff.mp stepped
    have requests := sameRequests_transition (ok_of_toOption moved)
    exact ⟨sound.store, sound.bounded.sameRequests requests rfl⟩
  | reconcile now =>
    cases stepped
    exact ⟨sound.store, sound.bounded.sameRequests (sameRequests_reconcile _ now) rfl⟩
  | addManifest runId events =>
    simp only [Platform.step, Option.ite_none_right_eq_some] at stepped
    obtain ⟨short, added⟩ := stepped
    obtain ⟨run, found, short⟩ := (Option.any_eq_true _ _).mp short
    obtain ⟨demo, registered, rfl⟩ := Option.map_eq_some_iff.mp added
    exact ⟨sound.store, sound.bounded.addManifest found (of_decide_eq_true short)
      (ok_of_toOption registered)⟩
  | refresh runId generated now =>
    obtain ⟨⟨demo, run, counters⟩, refreshed, rfl⟩ := Option.map_eq_some_iff.mp stepped
    obtain ⟨-, old, found, rfl, rfl⟩ := refresh_spec (ok_of_toOption refreshed)
    exact ⟨sound.store, sound.bounded.sameRequests (sameRequests_set found rfl) rfl⟩
  | cleanup runId =>
    simp only [Platform.step, Option.ite_none_right_eq_some] at stepped
    obtain ⟨-, same⟩ := stepped
    cases same
    exact ⟨sound.store, sound.bounded.cleanup runId⟩

theorem run_sound {acts : List (PlatformAct ι π)} {s : Platform arith ι π}
    (ran : (Platform.machine arith ι π).run {} acts = some s) : Sound s :=
  (Platform.machine arith ι π).invariant (fun _ _ _ => step_sound) sound_start ran

/-- In every reachable state `refresh` succeeds for every run, sets its counters to the numbers
of its events in the manifest that they are named for, and changes no other row; its join
lists each of these events once. -/
theorem run_counters_exact {acts : List (PlatformAct ι π)} {s : Platform arith ι π}
    (ran : (Platform.machine arith ι π).run {} acts = some s) {runId : UUID} {run : DemoRun}
    (found : s.demo.runs.get? runId = some run) (generated : Option Nat) (now : Instant) :
    ((s.demo.joinedRows s.db runId).map (·.eventId) = s.demo.manifestEvents runId ∧
        (s.demo.manifestEvents runId).Nodup) ∧
      ∃ tables counters, s.demo.refresh s.db runId generated now =
          .ok (tables, { run with updatedAt := now }, counters) ∧
        Exact s.demo s.db runId counters ∧
        counters.generated = generated.getD ((s.demo.counters.get? runId).getD {}).generated ∧
        tables.row runId = some ({ run with updatedAt := now }, counters) ∧
        (∀ other, other ≠ runId → tables.row other = s.demo.row other) ∧
        tables.manifest = s.demo.manifest := by
  have sound := run_sound ran
  have single : SingleRows s.db := sound.store.committed
  have few : (s.demo.manifestEvents runId).length < 2 ^ 31 := by
    obtain ⟨requested, bounded⟩ := sound.bounded.requested runId run found
    rw [length_manifestEvents]
    omega
  refine ⟨⟨?_, nodup_manifestEvents _ _⟩, refresh_ok single found few generated now⟩
  rw [joinedRows_eq single, List.map_map]
  exact List.map_id _

end

/-- A run registers two events, of which one is persisted. -/
def registeredActs : List (PlatformAct Nat Nat) :=
  [.createRun (.ofNat 9) { scenarioType := .normal } 0,
    .addManifest (.ofNat 9) [(.ofNat 1, .userRegistered), (.ofNat 2, .sessionStarted)],
    .processor 0
      (.begin (plainUow, plainCall 1 (.userRegistered ⟨.ofNat 7, "h", "TR", .normal, 0⟩)))] ++
  List.replicate 5 (.processor 0 .statement) ++ [.processor 0 .commit]

theorem run_counters_exact_registered :
    ∃ (s : Platform .exact Nat Nat) (tables : DemoTables) (run : DemoRun) (counters : RunCounters),
      s.demo.refresh s.db (.ofNat 9) (some 2) 5 = .ok (tables, run, counters) ∧
        Exact s.demo s.db (.ofNat 9) counters ∧ counters = { generated := 2, processed := 1 } := by
  have facts : ((Platform.machine .exact Nat Nat).run {} registeredActs).map (fun s =>
      ((s.demo.runs.get? (.ofNat 9)).isSome,
        (s.demo.refresh s.db (.ofNat 9) (some 2) 5).toOption.map (·.2.2))) =
      some (true, some { generated := 2, processed := 1 }) := by
    decide +kernel
  obtain ⟨s, ran, same⟩ := Option.map_eq_some_iff.mp facts
  obtain ⟨some_, counted⟩ := Prod.mk.inj same
  obtain ⟨run, found⟩ := Option.isSome_iff_exists.mp some_
  obtain ⟨-, tables, counters, refreshed, exact_, -⟩ := run_counters_exact ran found (some 2) 5
  refine ⟨s, tables, _, counters, refreshed, exact_, ?_⟩
  rw [refreshed] at counted
  exact Option.some.inj counted

end CommercePlatform.Demo
