import CommercePlatform.Demo.Repository
import CommercePlatform.Lib.Relational
import CommercePlatform.Persistence.SingleRows

/-!
The counters of a run (`add_manifest`, `refresh` and `cleanup` of `DemoRunRepository`).

`refresh` counts the rows of a four-way `LEFT JOIN` of the manifest. Where every event has at
most one evaluation and one alert, and every alert at most one outbox row, the join lists
each event of the manifest once, and its counts are numbers of events (`refresh_ok`).
-/

namespace CommercePlatform.Demo

open Contract Persistence Relational

/-! ### demo_runs and demo_run_event_manifest -/

/-- The counters of a row of `demo_runs`. -/
structure RunCounters where
  generated : Nat := 0
  processed : Nat := 0
  approve : Nat := 0
  review : Nat := 0
  block : Nat := 0
  alerts : Nat := 0
  published : Nat := 0
  deriving DecidableEq

/-- The two tables; the counters are kept beside the other columns of their row. -/
structure DemoTables where
  runs : DemoRuns := ∅
  counters : Dict UUID RunCounters := ∅
  /-- Under the key `(run_id, event_id)`. -/
  manifest : Dict (UUID × UUID) EventType := ∅

/-- What the repository raises here. -/
inductive CountError where
  | keyError (runId : UUID)
  | foreignKeyViolation
  /-- A count is beyond `INTEGER`. -/
  | numericValueOutOfRange
  deriving DecidableEq

namespace DemoTables

variable (tables : DemoTables) (runId : UUID)

/-- A row of `demo_runs`. -/
def row : Option (DemoRun × RunCounters) :=
  (tables.runs.get? runId).map fun run => (run, (tables.counters.get? runId).getD {})

/-- The events of a run, in the manifest. -/
def manifestEvents : List UUID :=
  (tables.manifest.entries.filter fun m => m.1.1 = runId).map (·.1.2)

/-- `INSERT .. ON CONFLICT DO NOTHING`. -/
def insertManifest (manifest : Dict (UUID × UUID) EventType) (runId : UUID)
    (event : UUID × EventType) : Dict (UUID × UUID) EventType :=
  if (manifest.get? (runId, event.1)).isSome then manifest
  else manifest.set (runId, event.1) event.2

/-- `add_manifest`. -/
def addManifest (events : List (UUID × EventType)) : Except CountError DemoTables :=
  if events.isEmpty then .ok tables
  else if (tables.runs.get? runId).isNone then .error .foreignKeyViolation
  else .ok { tables with
    manifest := events.foldl (insertManifest · runId) tables.manifest }

/-- `cleanup`, of a run that is in a terminal status. -/
def cleanup : DemoTables where
  runs := tables.runs.erase runId
  counters := tables.counters.erase runId
  manifest := tables.manifest.filter fun m _ => m.1 ≠ runId

end DemoTables

/-! ### refresh -/

/-- A row of the join. -/
structure JoinedRow where
  runId : UUID
  eventId : UUID
  processed : Option (UUID × ProcessedEvent)
  evaluation : Option (UUID × FraudEvaluationRow)
  alert : Option (UUID × FraudAlert)
  outbox : Option (UUID × FraudOutbox)

/-- The joined evaluation has this decision. -/
def JoinedRow.decided (decision : FraudDecision) (row : JoinedRow) : Bool :=
  row.evaluation.any (·.2.decision = decision)

namespace DemoTables

variable (tables : DemoTables) (db : Db) (runId : UUID)

/-- The rows that `refresh` counts. -/
def joinedRows : List JoinedRow :=
  let m := tables.manifest.entries.map Prod.fst
  let pe := leftJoin m db.processedEvents.entries fun m pe => pe.1 = m.2
  let fe := leftJoin pe db.fraudEvaluations.entries fun row fe => fe.2.sourceEventId = row.1.2
  let fa := leftJoin fe db.fraudAlerts.entries fun row fa => fa.2.sourceEventId = row.1.1.2
  let fo := leftJoin fa db.fraudOutbox.entries fun row fo =>
    equals (some fo.2.aggregateId) (row.2.map Prod.fst)
  (fo.map fun row => ⟨row.1.1.1.1.1, row.1.1.1.1.2, row.1.1.1.2, row.1.1.2, row.1.2, row.2⟩).filter
    fun row => row.runId = runId

/-- `count(..) FILTER (..)::int`. -/
def countInt (rows : List JoinedRow) (p : JoinedRow → Bool) : Except CountError Nat :=
  if rows.countP p < 2 ^ 31 then .ok (rows.countP p) else .error .numericValueOutOfRange

/-- The CTE of `refresh`. -/
def counts (generated : Nat) : Except CountError RunCounters := do
  let rows := tables.joinedRows db runId
  let processed ← countInt rows (·.processed.isSome)
  let approve ← countInt rows (JoinedRow.decided .approve)
  let review ← countInt rows (JoinedRow.decided .review)
  let block ← countInt rows (JoinedRow.decided .block)
  let alerts ← countInt rows (·.alert.isSome)
  let published ← countInt rows fun row => row.outbox.any (·.2.status = .published)
  return { generated, processed, approve, review, block, alerts, published }

/-- `refresh`: the tables, and the row it returns. -/
def refresh (generated : Option Nat) (now : Instant) :
    Except CountError (DemoTables × DemoRun × RunCounters) := do
  let old := (tables.counters.get? runId).getD {}
  let counters ← tables.counts db runId (generated.getD old.generated)
  match tables.runs.get? runId with
  | none => .error (.keyError runId)
  | some run =>
    let run := { run with updatedAt := now }
    return ({ tables with
      runs := tables.runs.set runId run, counters := tables.counters.set runId counters }, run,
      counters)

end DemoTables

/-! ### The join -/

section

variable {tables : DemoTables} {db : Db} {runId : UUID}

theorem mem_manifestEvents {e : UUID} :
    e ∈ tables.manifestEvents runId ↔ (tables.manifest.get? (runId, e)).isSome = true := by
  unfold DemoTables.manifestEvents
  rw [List.mem_map, Option.isSome_iff_exists]
  constructor
  · rintro ⟨⟨⟨run, event⟩, type⟩, mem, rfl⟩
    obtain ⟨present, same⟩ := List.mem_filter.mp mem
    obtain rfl := of_decide_eq_true same
    exact ⟨type, Dict.mem_entries.mp present⟩
  · rintro ⟨type, present⟩
    exact ⟨((runId, e), type),
      List.mem_filter.mpr ⟨Dict.mem_entries.mpr present, decide_eq_true rfl⟩, rfl⟩

/-- The primary key of the manifest. -/
theorem nodup_manifestEvents (tables : DemoTables) (runId : UUID) :
    (tables.manifestEvents runId).Nodup := by
  unfold DemoTables.manifestEvents
  have keys : ((tables.manifest.entries.filter fun m => m.1.1 = runId).map Prod.fst).Nodup :=
    tables.manifest.nodupKeys.sublist (List.filter_sublist.map _)
  have events : (tables.manifest.entries.filter fun m => m.1.1 = runId).map (·.1.2) =
      ((tables.manifest.entries.filter fun m => m.1.1 = runId).map Prod.fst).map Prod.snd := by
    rw [List.map_map]
    rfl
  rw [events]
  refine List.Nodup.map_on ?_ keys
  intro a inA b inB same
  have ofRun : ∀ k ∈ (tables.manifest.entries.filter fun m => m.1.1 = runId).map Prod.fst,
      k.1 = runId := by
    intro k mem
    obtain ⟨m, listed, rfl⟩ := List.mem_map.mp mem
    exact of_decide_eq_true (List.mem_filter.mp listed).2
  exact Prod.ext ((ofRun a inA).trans (ofRun b inB).symm) same

/-- The row of an event, where each join finds at most one. -/
def joinedRow (db : Db) (runId e : UUID) : JoinedRow :=
  let alert := db.fraudAlerts.entries.find? fun fa => fa.2.sourceEventId = e
  { runId
    eventId := e
    processed := db.processedEvents.entries.find? fun pe => pe.1 = e
    evaluation := db.fraudEvaluations.entries.find? fun fe => fe.2.sourceEventId = e
    alert
    outbox := db.fraudOutbox.entries.find? fun fo =>
      equals (some fo.2.aggregateId) (alert.map Prod.fst) }

theorem single_processed (db : Db) (e : UUID) : ∀ a ∈ db.processedEvents.entries,
    ∀ b ∈ db.processedEvents.entries, decide (a.1 = e) = true → decide (b.1 = e) = true →
      a.1 = b.1 :=
  fun _ _ _ _ first second => (of_decide_eq_true first).trans (of_decide_eq_true second).symm

theorem single_evaluation (single : SingleRows db) (e : UUID) : ∀ a ∈ db.fraudEvaluations.entries,
    ∀ b ∈ db.fraudEvaluations.entries, decide (a.2.sourceEventId = e) = true →
      decide (b.2.sourceEventId = e) = true → a.1 = b.1 :=
  fun a inA b inB first second => single.evaluation a.1 b.1 e
    ⟨a.2, Dict.mem_entries.mp inA, of_decide_eq_true first⟩
    ⟨b.2, Dict.mem_entries.mp inB, of_decide_eq_true second⟩

theorem single_alert (single : SingleRows db) (e : UUID) : ∀ a ∈ db.fraudAlerts.entries,
    ∀ b ∈ db.fraudAlerts.entries, decide (a.2.sourceEventId = e) = true →
      decide (b.2.sourceEventId = e) = true → a.1 = b.1 :=
  fun a inA b inB first second => single.alert a.1 b.1 e
    ⟨a.2, Dict.mem_entries.mp inA, of_decide_eq_true first⟩
    ⟨b.2, Dict.mem_entries.mp inB, of_decide_eq_true second⟩

theorem single_outbox (single : SingleRows db) (alertId : Option UUID) :
    ∀ a ∈ db.fraudOutbox.entries, ∀ b ∈ db.fraudOutbox.entries,
      equals (some a.2.aggregateId) alertId = true → equals (some b.2.aggregateId) alertId = true →
        a.1 = b.1 := by
  intro a inA b inB first second
  obtain ⟨k, same, rfl⟩ := equals_iff.mp first
  obtain ⟨k', same', again⟩ := equals_iff.mp second
  cases same
  cases same'
  exact single.queued a.1 b.1 a.2.aggregateId ⟨a.2, Dict.mem_entries.mp inA, rfl⟩
    ⟨b.2, Dict.mem_entries.mp inB, (Option.some.inj again).symm⟩

/-- The join lists every event of the manifest once. -/
theorem joinedRows_eq (single : SingleRows db) :
    tables.joinedRows db runId = (tables.manifestEvents runId).map (joinedRow db runId) := by
  unfold DemoTables.joinedRows
  simp only
  rw [leftJoin_eq_map fun row _ => length_filter_le_of_key
      (single_outbox single (row.2.map Prod.fst)),
    leftJoin_eq_map fun row _ => length_filter_le_of_key (single_alert single row.1.1.2),
    leftJoin_eq_map fun row _ => length_filter_le_of_key (single_evaluation single row.1.2),
    leftJoin_eq_map fun m _ => length_filter_le_of_key (single_processed db m.2)]
  simp only [List.map_map, List.filter_map, DemoTables.manifestEvents]
  refine List.map_congr_left fun m mem => ?_
  have ofRun : m.1.1 = runId := of_decide_eq_true (List.mem_filter.mp mem).2
  simp only [Function.comp, joinedRow, ofRun]

/-! ### The counts -/

/-- The number of events of the run, in the manifest, that satisfy `P`. -/
noncomputable def eventCount (tables : DemoTables) (runId : UUID) (P : UUID → Prop) : Nat :=
  Set.ncard {e | (tables.manifest.get? (runId, e)).isSome = true ∧ P e}

/-- The evaluation of the event has this decision. -/
def DecidedAs (db : Db) (decision : FraudDecision) (e : UUID) : Prop :=
  ∃ v row, db.fraudEvaluations.get? v = some row ∧ row.sourceEventId = e ∧ row.decision = decision

def Evaluated (db : Db) (e : UUID) : Prop := ∃ v, EvaluationOf db v e

def Alerted (db : Db) (e : UUID) : Prop := ∃ a, AlertOf db a e

/-- The event has an alert whose outbox row is `PUBLISHED`. -/
def AlertPublished (db : Db) (e : UUID) : Prop :=
  ∃ a o row, AlertOf db a e ∧ db.fraudOutbox.get? o = some row ∧ row.aggregateId = a ∧
    row.status = .published

/-- The counters are the numbers of events they are named for. -/
structure Exact (tables : DemoTables) (db : Db) (runId : UUID) (counters : RunCounters) : Prop where
  processed : counters.processed =
    eventCount tables runId fun e => (db.processedEvents.get? e).isSome = true
  approve : counters.approve = eventCount tables runId (DecidedAs db .approve)
  review : counters.review = eventCount tables runId (DecidedAs db .review)
  block : counters.block = eventCount tables runId (DecidedAs db .block)
  evaluated : counters.approve + counters.review + counters.block =
    eventCount tables runId (Evaluated db)
  alerts : counters.alerts = eventCount tables runId (Alerted db)
  published : counters.published = eventCount tables runId (AlertPublished db)

theorem countP_joinedRows (single : SingleRows db) {p : JoinedRow → Bool} {P : UUID → Prop}
    (meets : ∀ e, p (joinedRow db runId e) = true ↔ P e) :
    (tables.joinedRows db runId).countP p = eventCount tables runId P := by
  rw [joinedRows_eq single, countP_map_eq_ncard (nodup_manifestEvents tables runId)
    fun e _ => meets e, eventCount]
  simp only [mem_manifestEvents]

theorem processed_iff (e : UUID) :
    (joinedRow db runId e).processed.isSome = true ↔ (db.processedEvents.get? e).isSome = true := by
  have found := any_find?_iff (q := fun _ => true) (single_processed db e)
  rw [Option.any_true] at found
  rw [joinedRow, found, Option.isSome_iff_exists]
  constructor
  · rintro ⟨k, row, present, same, -⟩
    exact ⟨row, of_decide_eq_true same ▸ present⟩
  · rintro ⟨row, present⟩
    exact ⟨e, row, present, decide_eq_true rfl, rfl⟩

theorem decided_iff (single : SingleRows db) (decision : FraudDecision) (e : UUID) :
    (joinedRow db runId e).decided decision = true ↔ DecidedAs db decision e := by
  refine (any_find?_iff (single_evaluation single e)).trans ?_
  simp only [DecidedAs, decide_eq_true_eq]

theorem alerted_iff (single : SingleRows db) (e : UUID) :
    (joinedRow db runId e).alert.isSome = true ↔ Alerted db e := by
  have found := any_find?_iff (q := fun _ => true) (single_alert single e)
  rw [Option.any_true] at found
  rw [joinedRow, found]
  simp only [Alerted, AlertOf, decide_eq_true_eq, and_true]

/-- The alert is about the event. -/
def about (e : UUID) (fa : UUID × FraudAlert) : Bool := decide (fa.2.sourceEventId = e)

theorem published_iff (single : SingleRows db) (e : UUID) :
    (joinedRow db runId e).outbox.any (fun fo => fo.2.status = .published) = true ↔
      AlertPublished db e := by
  refine (any_find?_iff (single_outbox single _)).trans ?_
  simp only [equals_iff, Option.map_eq_some_iff, decide_eq_true_eq]
  constructor
  · rintro ⟨o, row, present, ⟨k, same, ⟨a, alert⟩, found, rfl⟩, status⟩
    cases same
    refine ⟨row.aggregateId, o, row, ⟨alert, ?_, ?_⟩, present, rfl, status⟩
    · exact Dict.mem_entries.mp (List.mem_of_find?_eq_some found)
    · exact of_decide_eq_true (List.find?_some (p := about e) found)
  · rintro ⟨a, o, row, ⟨alert, known, source⟩, present, rfl, status⟩
    refine ⟨o, row, present, ⟨row.aggregateId, rfl, ?_⟩, status⟩
    have inside := Dict.mem_entries.mpr known
    cases found : db.fraudAlerts.entries.find? fun fa => fa.2.sourceEventId = e with
    | none =>
      have absent := List.find?_eq_none.mp found _ inside
      exact absurd (decide_eq_true source) absent
    | some fa =>
      refine ⟨fa, rfl, ?_⟩
      exact single_alert single e fa (List.mem_of_find?_eq_some found) _ inside
        (List.find?_some (p := about e) found) (decide_eq_true source)

theorem evaluated_iff (single : SingleRows db) (e : UUID) :
    (joinedRow db runId e).evaluation.isSome = true ↔ Evaluated db e := by
  have found := any_find?_iff (q := fun _ => true) (single_evaluation single e)
  rw [Option.any_true] at found
  rw [joinedRow, found]
  simp only [Evaluated, EvaluationOf, decide_eq_true_eq, and_true]

/-- An evaluation has one of the three decisions. -/
theorem decided_one (row : JoinedRow) :
    ((if row.decided .approve then 1 else 0) + (if row.decided .review then 1 else 0) +
      if row.decided .block then 1 else 0) = if row.evaluation.isSome then 1 else 0 := by
  obtain ⟨runId, eventId, processed, evaluation, alert, outbox⟩ := row
  unfold JoinedRow.decided
  cases evaluation with
  | none => rfl
  | some evaluation => cases decision : evaluation.2.decision <;> simp [decision]

theorem countP_decided (rows : List JoinedRow) :
    rows.countP (JoinedRow.decided .approve) + rows.countP (JoinedRow.decided .review) +
      rows.countP (JoinedRow.decided .block) = rows.countP (·.evaluation.isSome) := by
  induction rows with
  | nil => rfl
  | cons row rows ih =>
    simp only [List.countP_cons, ← ih, ← decided_one row]
    omega

theorem countInt_ok {rows : List JoinedRow} (few : rows.length < 2 ^ 31) (p : JoinedRow → Bool) :
    DemoTables.countInt rows p = .ok (rows.countP p) :=
  if_pos (lt_of_le_of_lt List.countP_le_length few)

/-- What `refresh` changes. -/
theorem refresh_spec {tables' : DemoTables} {generated : Option Nat} {now : Instant}
    {run : DemoRun} {counters : RunCounters}
    (refreshed : tables.refresh db runId generated now = .ok (tables', run, counters)) :
    counters.generated = generated.getD ((tables.counters.get? runId).getD {}).generated ∧
      ∃ old, tables.runs.get? runId = some old ∧ run = { old with updatedAt := now } ∧
        tables' = { tables with
          runs := tables.runs.set runId run, counters := tables.counters.set runId counters } := by
  unfold DemoTables.refresh at refreshed
  simp only [bind, Except.bind] at refreshed
  split at refreshed
  · cases refreshed
  rename_i counted found
  split at refreshed
  · cases refreshed
  rename_i old present
  cases refreshed
  refine ⟨?_, old, present, rfl, rfl⟩
  unfold DemoTables.counts at found
  simp only [bind, Except.bind] at found
  repeat' split at found
  all_goals cases found
  rfl

/-- What `counts` returns where no count is beyond `INTEGER`. -/
def DemoTables.counted (tables : DemoTables) (db : Db) (runId : UUID) (generated : Nat) :
    RunCounters :=
  let rows := tables.joinedRows db runId
  { generated
    processed := rows.countP (·.processed.isSome)
    approve := rows.countP (JoinedRow.decided .approve)
    review := rows.countP (JoinedRow.decided .review)
    block := rows.countP (JoinedRow.decided .block)
    alerts := rows.countP (·.alert.isSome)
    published := rows.countP fun row => row.outbox.any (·.2.status = .published) }

theorem counts_ok (few : (tables.joinedRows db runId).length < 2 ^ 31) (generated : Nat) :
    tables.counts db runId generated = .ok (tables.counted db runId generated) := by
  unfold DemoTables.counts
  simp only [countInt_ok few]
  rfl

/-- Where the rows of an event are single, `refresh` counts events, and changes the row of
its run only. -/
theorem refresh_ok (single : SingleRows db) {run : DemoRun} (found : tables.runs.get? runId = some run)
    (few : (tables.manifestEvents runId).length < 2 ^ 31) (generated : Option Nat) (now : Instant) :
    ∃ tables' counters, tables.refresh db runId generated now =
        .ok (tables', { run with updatedAt := now }, counters) ∧
      Exact tables db runId counters ∧
      counters.generated = generated.getD ((tables.counters.get? runId).getD {}).generated ∧
      tables'.row runId = some ({ run with updatedAt := now }, counters) ∧
      (∀ other, other ≠ runId → tables'.row other = tables.row other) ∧
      tables'.manifest = tables.manifest := by
  have short : (tables.joinedRows db runId).length < 2 ^ 31 := by
    rw [joinedRows_eq single, List.length_map]
    exact few
  let counters := tables.counted db runId
    (generated.getD ((tables.counters.get? runId).getD {}).generated)
  have refreshed : tables.refresh db runId generated now = .ok ({ tables with
      runs := tables.runs.set runId { run with updatedAt := now }
      counters := tables.counters.set runId counters }, { run with updatedAt := now }, counters) := by
    unfold DemoTables.refresh
    simp only [counts_ok short, found]
    rfl
  refine ⟨_, counters, refreshed, ?_, rfl, ?_, ?_, rfl⟩
  · constructor
    · exact countP_joinedRows single processed_iff
    · exact countP_joinedRows single (decided_iff single .approve)
    · exact countP_joinedRows single (decided_iff single .review)
    · exact countP_joinedRows single (decided_iff single .block)
    · exact (countP_decided _).trans (countP_joinedRows single (evaluated_iff single))
    · exact countP_joinedRows single (alerted_iff single)
    · exact countP_joinedRows single (published_iff single)
  · simp [DemoTables.row]
  · intro other different
    simp [DemoTables.row, Dict.get?_set_ne _ _ different]

end

end CommercePlatform.Demo
