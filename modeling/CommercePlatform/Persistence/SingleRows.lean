import CommercePlatform.Persistence.FraudComplete

/-!
At most one row for each event.

Whatever the settings of the processors, the unique columns of `fraud_evaluations` and
`fraud_alerts` leave at most one evaluation and one alert for an event, and the outbox,
whose `aggregate_id` is not unique, at most one row for an alert: a row is only queued in
the transaction that inserts its alert.
-/

namespace CommercePlatform.Persistence

open Contract Fraud Schema

/-- The alert `a` is about the event `e`. -/
def AlertOf (db : Db) (a e : UUID) : Prop :=
  ∃ row, db.fraudAlerts.get? a = some row ∧ row.sourceEventId = e

structure SingleRows (db : Db) : Prop where
  evaluation : ∀ v v' e, EvaluationOf db v e → EvaluationOf db v' e → v = v'
  alert : ∀ a a' e, AlertOf db a e → AlertOf db a' e → a = a'
  queued : ∀ o o' a, Queued db o a → Queued db o' a → o = o'
  forAlert : ∀ o a, Queued db o a → db.fraudAlerts.get? a ≠ none

theorem singleRows_empty : SingleRows {} := by
  constructor <;> simp [EvaluationOf, AlertOf, Queued]

/-! ### Reading the tables after one write -/

def fraudTables (t : Table) : Bool := t = .fraudEvaluations ∨ t = .fraudAlerts ∨ t = .fraudOutbox

/-- The three tables of a database agree with those of another. -/
structure SameFraud (db db' : Db) : Prop where
  evaluations : db.fraudEvaluations = db'.fraudEvaluations
  alerts : db.fraudAlerts = db'.fraudAlerts
  outbox : db.fraudOutbox = db'.fraudOutbox

theorem sameFraud_view {arith : Arithmetic} {db : Db} {ws rel : List Write}
    (only : ws.filter (touches fraudTables) = rel) :
    SameFraud ((database arith).view db ws) ((database arith).view db rel) := by
  have same : Db.restrict fraudTables ((database arith).view db ws) =
      Db.restrict fraudTables ((database arith).view db rel) := only ▸ restrict_view_filter _ _ _
  constructor
  · simpa [Db.restrict, fraudTables] using congrArg Db.fraudEvaluations same
  · simpa [Db.restrict, fraudTables] using congrArg Db.fraudAlerts same
  · simpa [Db.restrict, fraudTables] using congrArg Db.fraudOutbox same

theorem SingleRows.congr {db db' : Db} (h : SingleRows db) (same : SameFraud db' db) :
    SingleRows db' := by
  constructor <;>
    simp only [EvaluationOf, AlertOf, Queued, same.evaluations, same.alerts, same.outbox]
  exacts [h.evaluation, h.alert, h.queued, h.forAlert]

section

variable {db : Db} {a o v x y : UUID}

theorem alertOf_set {row : FraudAlert} (fresh : db.fraudAlerts.get? a = none) :
    AlertOf (db.apply (.fraudAlerts a row)) x y ↔
      AlertOf db x y ∨ x = a ∧ row.sourceEventId = y := by
  unfold AlertOf Db.apply
  by_cases same : x = a
  · subst same; simp [fresh]
  · simp [Dict.get?_set_ne _ _ same, same]

/-- A row that may be added: its key is new, and so is its event or its alert. -/
def Admits (db : Db) : Write → Prop
  | .fraudEvaluations id row =>
    db.fraudEvaluations.get? id = none ∧ ∀ v, ¬ EvaluationOf db v row.sourceEventId
  | .fraudAlerts id row => db.fraudAlerts.get? id = none ∧ ∀ a, ¬ AlertOf db a row.sourceEventId
  | .fraudOutbox id row =>
    db.fraudOutbox.get? id = none ∧ db.fraudAlerts.get? row.aggregateId ≠ none ∧
      ∀ o, ¬ Queued db o row.aggregateId
  | _ => True

/-- One row more for a key that had none. -/
theorem single_of_set {R R' : UUID → UUID → Prop} (single : ∀ x x' y, R x y → R x' y → x = x')
    {k e : UUID} (set : ∀ x y, R' x y ↔ R x y ∨ x = k ∧ e = y) (fresh : ∀ x, ¬ R x e) :
    ∀ x x' y, R' x y → R' x' y → x = x' := by
  intro x x' y first second
  rcases (set x y).mp first with old | ⟨rfl, rfl⟩
  · rcases (set x' y).mp second with old' | ⟨rfl, rfl⟩
    · exact single x x' y old old'
    · exact absurd old (fresh x)
  · rcases (set x' e).mp second with old' | ⟨rfl, -⟩
    · exact absurd old' (fresh x')
    · rfl

theorem SingleRows.apply (h : SingleRows db) {w : Write} (admits : Admits db w) :
    SingleRows (db.apply w) := by
  cases w with
  | fraudEvaluations id row =>
    obtain ⟨key, source⟩ := admits
    exact ⟨single_of_set h.evaluation (fun _ _ => evaluationOf_set key rfl) source, h.alert,
      h.queued, h.forAlert⟩
  | fraudAlerts id row =>
    obtain ⟨key, source⟩ := admits
    refine ⟨h.evaluation, single_of_set h.alert (fun _ _ => alertOf_set key) source, h.queued, ?_⟩
    intro o a queued
    have known := h.forAlert o a queued
    simp only [Db.apply, Dict.get?_set]
    split
    · simp
    · exact known
  | fraudOutbox id row =>
    obtain ⟨key, known, aggregate⟩ := admits
    refine ⟨h.evaluation, h.alert,
      single_of_set h.queued (fun _ _ => queued_set key rfl) aggregate, ?_⟩
    intro o a queued
    rcases (queued_set key rfl).mp queued with old | ⟨-, rfl⟩
    · exact h.forAlert o a old
    · exact known
  | _ => exact h.congr ⟨rfl, rfl, rfl⟩

end

/-! ### Vacant keys -/

/-- No row has this key. -/
def Vacant : Lock → Db → Prop
  | .row .fraudEvaluations id, db => db.fraudEvaluations.get? id = none
  | .row .fraudAlerts id, db => db.fraudAlerts.get? id = none
  | .row .fraudOutbox id, db => db.fraudOutbox.get? id = none
  | .key .evaluationsSourceEventId e, db => ∀ v, ¬ EvaluationOf db v e
  | .key .alertsSourceEventId e, db => ∀ a, ¬ AlertOf db a e
  | _, _ => True

/-- A locked key stays vacant. -/
def StaysVacant (l : Lock) (db db' : Db) : Prop := Vacant l db → Vacant l db'

theorem staysVacant_guard (arith : Arithmetic) : IsGuard (D := database arith) StaysVacant where
  refl _ _ vacant := vacant
  trans _ _ _ _ first next vacant := next (first vacant)

/-- The keys a write takes. -/
def Write.columns : Write → List Lock
  | .fraudEvaluations id row =>
    [.row .fraudEvaluations id, .key .evaluationsSourceEventId row.sourceEventId]
  | .fraudAlerts id row => [.row .fraudAlerts id, .key .alertsSourceEventId row.sourceEventId]
  | .fraudOutbox id _ => [.row .fraudOutbox id]
  | _ => []

theorem vacant_congr (db : Db) {db' : Db} (same : SameFraud db' db) (l : Lock) :
    Vacant l db' ↔ Vacant l db := by
  unfold Vacant
  split <;>
    simp only [EvaluationOf, AlertOf, same.evaluations, same.alerts, same.outbox]

/-- A write leaves the keys vacant that it does not take. -/
theorem vacant_apply {db : Db} {w : Write} {l : Lock} (free : l ∉ w.columns)
    (vacant : Vacant l db) : Vacant l (db.apply w) := by
  cases w with
  | fraudEvaluations id row =>
    obtain ⟨key, source⟩ : l ≠ .row .fraudEvaluations id ∧
        l ≠ .key .evaluationsSourceEventId row.sourceEventId := by
      simpa [Write.columns] using free
    unfold Vacant at *
    split
    · rename_i other
      exact (Dict.get?_set_ne _ _ fun same => key (by rw [same])).trans vacant
    · exact vacant
    · exact vacant
    · rename_i e
      rintro v ⟨found, present, rfl⟩
      simp only [Db.apply, Dict.get?_set] at present
      split at present
      · obtain rfl := Option.some.inj present
        exact source rfl
      · exact vacant v ⟨found, present, rfl⟩
    · exact vacant
    · trivial
  | fraudAlerts id row =>
    obtain ⟨key, source⟩ : l ≠ .row .fraudAlerts id ∧
        l ≠ .key .alertsSourceEventId row.sourceEventId := by
      simpa [Write.columns] using free
    unfold Vacant at *
    split
    · exact vacant
    · rename_i other
      exact (Dict.get?_set_ne _ _ fun same => key (by rw [same])).trans vacant
    · exact vacant
    · exact vacant
    · rename_i e
      rintro a ⟨found, present, rfl⟩
      simp only [Db.apply, Dict.get?_set] at present
      split at present
      · obtain rfl := Option.some.inj present
        exact source rfl
      · exact vacant a ⟨found, present, rfl⟩
    · trivial
  | fraudOutbox id row =>
    have key : l ≠ .row .fraudOutbox id := by simpa [Write.columns] using free
    unfold Vacant at *
    split
    · exact vacant
    · exact vacant
    · rename_i other
      exact (Dict.get?_set_ne _ _ fun same => key (by rw [same])).trans vacant
    · exact vacant
    · exact vacant
    · trivial
  | _ =>
    refine (vacant_congr db ?_ l).mpr vacant
    exact ⟨rfl, rfl, rfl⟩

/-! ### What a transaction adds -/

section

variable {arith : Arithmetic}

theorem vacant_view {db : Db} {ws : List Write} {l : Lock} (free : ∀ w ∈ ws, l ∉ w.columns)
    (vacant : Vacant l db) : Vacant l ((database arith).view db ws) := by
  induction ws generalizing db with
  | nil => exact vacant
  | cons w ws ih =>
    obtain ⟨first, rest⟩ := List.forall_mem_cons.mp free
    exact ih rest (vacant_apply first vacant)

/-- All keys the writes take are vacant. -/
def AllVacant (ws : List Write) (db : Db) : Prop := ∀ l ∈ ws.flatMap Write.columns, Vacant l db

/-- Where their keys are vacant, the writes keep the invariant. -/
def Addable (ws : List Write) : Prop :=
  ∀ db, SingleRows db → AllVacant ws db → SingleRows (ws.foldl Db.apply db)

theorem addable_evaluation (id : UUID) (row : FraudEvaluationRow) :
    Addable [.fraudEvaluations id row] := by
  intro db h vacant
  exact h.apply (w := .fraudEvaluations id row) ⟨vacant (.row .fraudEvaluations id) (by simp [Write.columns]),
    vacant (.key .evaluationsSourceEventId row.sourceEventId) (by simp [Write.columns])⟩

theorem addable_alert (id : UUID) (row : FraudAlert) : Addable [.fraudAlerts id row] := by
  intro db h vacant
  exact h.apply (w := .fraudAlerts id row) ⟨vacant (.row .fraudAlerts id) (by simp [Write.columns]),
    vacant (.key .alertsSourceEventId row.sourceEventId) (by simp [Write.columns])⟩

theorem addable_flagged (v a : UUID) (evaluation : FraudEvaluationRow) (alert : FraudAlert) :
    Addable [.fraudEvaluations v evaluation, .fraudAlerts a alert] := by
  intro db h vacant
  refine addable_alert a alert _ (addable_evaluation v evaluation db h fun l mem => ?_)
    fun l mem => ?_
  · exact vacant l (List.mem_append_left _ (by simpa using mem))
  · refine vacant_apply ?_ (vacant l (List.mem_append_right _ mem))
    have taken : l = .row .fraudAlerts a ∨ l = .key .alertsSourceEventId alert.sourceEventId := by
      simpa [Write.columns] using mem
    rcases taken with rfl | rfl <;> simp [Write.columns]

/-- The outbox row of an alert that the same transaction adds. -/
theorem addable_queued (v a o : UUID) (evaluation : FraudEvaluationRow) (alert : FraudAlert)
    {row : FraudOutbox} (names : row.aggregateId = a) :
    Addable [.fraudEvaluations v evaluation, .fraudAlerts a alert, .fraudOutbox o row] := by
  intro db h vacant
  have fresh : db.fraudAlerts.get? a = none := vacant (.row .fraudAlerts a) (by simp [Write.columns])
  refine (addable_flagged v a evaluation alert db h fun l mem => ?_).apply (w := .fraudOutbox o row)
    ⟨?_, ?_, ?_⟩
  · refine vacant l ?_
    simp only [List.flatMap_cons, List.flatMap_nil, List.append_nil] at mem ⊢
    rw [← List.append_assoc]
    exact List.mem_append_left _ mem
  · exact vacant (.row .fraudOutbox o) (by simp [Write.columns])
  · rw [names]
    exact fun none_ => by simp [Db.apply] at none_
  · rw [names]
    -- An older row would be for an alert that is not there.
    rintro o' queued
    exact h.forAlert o' a queued fresh

/-! ### The bodies -/

variable (arith) in
/-- What a transaction knows about the three tables. -/
abbrev KnowsFraud {ρ : Type} (rel : List Write) : Assn (database arith) ρ :=
  Holds (D := database arith) (fun c => SingleRows c.db) (touches fraudTables) rel
    (rel.flatMap Write.columns) (AllVacant rel)

variable (arith) in
abbrev fraudWp {ρ α : Type} (p : Sql α) (Q : α → Assn (database arith) ρ) :
    Assn (database arith) ρ :=
  wp (D := database arith) (fun c => SingleRows c.db) StaysVacant p Q

/-- The rows of the transaction can be added. -/
def Ready {ρ : Type} : Assn (database arith) ρ := fun c ws ls =>
  ∃ rel, Addable rel ∧ KnowsFraud arith rel c ws ls

variable {ρ α : Type} {c : (database arith).Committed ρ} {ws rel : List Write} {ls : List Lock}

theorem allVacant_guarded (rel : List Write) :
    Guards (D := database arith) StaysVacant (rel.flatMap Write.columns) (AllVacant rel) :=
  fun _ _ same vacant l mem => same l mem (vacant l mem)

theorem Ready.commitSafe {request : ρ} (h : Ready c ws ls) :
    CommitSafe (D := database arith) (fun c => SingleRows c.db) StaysVacant request c ws ls := by
  obtain ⟨rel, addable, knows⟩ := h
  have settled : Settled (D := database arith) (fun c => SingleRows c.db) StaysVacant
      (touches fraudTables) request c ws ls := by
    refine ⟨rel, rel.flatMap Write.columns, AllVacant rel, allVacant_guarded rel, knows, ?_⟩
    intro c' ws' inv vacant only _
    have same : SameFraud ((database arith).view c'.db ws') _ := sameFraud_view only
    refine ⟨(addable _ inv vacant).congr same, fun l free known => ?_⟩
    refine (vacant_congr _ same l).mpr (vacant_view (fun w mem taken => free ?_) known)
    exact List.mem_flatMap.mpr ⟨w, mem, taken⟩
  exact settled.commitSafe

/-- One more row, whose keys are vacant and locked. -/
theorem Schema.Holds.push (h : KnowsFraud arith rel c ws ls) {w : Write} {locks : List Lock}
    (relevant : touches fraudTables w = true)
    (added : ∀ l ∈ w.columns, l ∈ locks ∧ Vacant l c.db) :
    KnowsFraud arith (rel ++ [w]) c (ws ++ [w]) (ls ++ locks) where
  inv := h.inv
  rel := by
    rw [List.filter_append, h.rel]
    simp [relevant]
  need := by
    intro l mem
    rw [List.flatMap_append, List.flatMap_singleton, List.mem_append] at mem
    rcases mem with old | new
    · exact List.mem_append_left _ (h.need l old)
    · exact List.mem_append_right _ (added l new).1
  known := by
    intro l mem
    rw [List.flatMap_append, List.flatMap_singleton, List.mem_append] at mem
    rcases mem with old | new
    · exact h.known l old
    · exact (added l new).2

/-- An `INSERT` whose keys passed their constraints. -/
theorem wp_insert {s : Stmt} {w : Write} {f : s.Result → Sql α}
    {Q : α → Assn (database arith) ρ} (h : KnowsFraud arith rel c ws ls)
    (relevant : touches fraudTables w = true) (wrote : ∀ seen, s.writes arith seen = [w])
    (added : ∀ db seen, SameFraud seen ((database arith).view db rel) →
      (∀ x ∈ s.constraints arith seen, x.1 = true) →
      ∀ l ∈ w.columns, l ∈ s.locks seen ∧ Vacant l db)
    (next : ∀ r c ws ls, KnowsFraud arith (rel ++ [w]) c ws ls → fraudWp arith (f r) Q c ws ls) :
    fraudWp arith (sql s >>= f) Q c ws ls := by
  refine wp_sql (allVacant_guarded rel) h fun c h seen view passed r _ => next r _ _ _ ?_
  have keys := added c.db seen (view ▸ sameFraud_view h.rel) passed
  rw [wrote]
  exact Schema.Holds.push h relevant keys

theorem evaluationOf_absent {db : Db} {e : UUID} (absent : db.evaluationOf e = none) (v : UUID) :
    ¬ EvaluationOf db v e := by
  rintro ⟨row, found, rfl⟩
  have other := List.find?_eq_none.mp absent row (Dict.mem_values.mpr ⟨v, found⟩)
  simp at other

theorem alertOf_absent {db : Db} {e : UUID}
    (absent : db.fraudAlerts.values.any (·.sourceEventId = e) = false) (a : UUID) :
    ¬ AlertOf db a e := by
  rintro ⟨row, found, rfl⟩
  have other := List.any_eq_false.mp absent row (Dict.mem_values.mpr ⟨a, found⟩)
  simp at other

theorem insertExternalAlert_ready {rt : Runtime} {payload : FraudAlertCreatedPayload}
    (h : KnowsFraud arith [] c ws ls) :
    fraudWp arith (insertExternalAlert rt payload) (fun _ => Ready) c ws ls := by
  have once : insertExternalAlert rt payload =
      sql (.insertExternalAlert payload.alertId (externalAlertRow rt payload)) >>= pure := rfl
  rw [once]
  refine wp_sql (allVacant_guarded _) h fun c h seen view passed _ _ => ?_
  generalize externalAlertRow rt payload = row at *
  have same : SameFraud seen c.db := view ▸ sameFraud_view h.rel
  cases conflict : seen.fraudAlerts.values.any (·.sourceEventId = row.sourceEventId) with
  | true =>
    exact ⟨[], fun _ h _ => h, h.skip (by simp [Stmt.writes, conflict]) _⟩
  | false =>
    have absent : seen.fraudAlerts.get? payload.alertId = none :=
      Stmt.absent_of_passed passed
        (by simp [Stmt.constraints, Stmt.unique, Stmt.ifAdded, conflict])
    have wrote : (Stmt.insertExternalAlert payload.alertId row).writes arith seen =
        [.fraudAlerts payload.alertId row] := by simp [Stmt.writes, conflict]
    rw [wrote]
    refine ⟨_, addable_alert payload.alertId row, Schema.Holds.push h rfl fun l mem => ?_⟩
    have vacant : Vacant l seen := by
      rcases List.mem_cons.mp mem with rfl | mem
      · exact absent
      · obtain rfl := List.mem_singleton.mp mem
        exact alertOf_absent conflict
    refine ⟨?_, (vacant_congr _ same l).mp vacant⟩
    rcases List.mem_cons.mp mem with rfl | mem
    · simp [Stmt.locks, conflict, Stmt.addKey, absent]
    · obtain rfl := List.mem_singleton.mp mem
      simp [Stmt.locks, conflict]

/-- The keys that a passed `INSERT` found vacant and locks. -/
theorem insertEvaluation_columns {seen db : Db} {id : UUID} {row : FraudEvaluationRow}
    (same : seen.fraudEvaluations = db.fraudEvaluations)
    (passed : ∀ x ∈ (Stmt.insertEvaluation id row).constraints arith seen, x.1 = true) :
    ∀ l ∈ (Write.fraudEvaluations id row).columns,
      l ∈ (Stmt.insertEvaluation id row).locks seen ∧ Vacant l db := by
  have absent : seen.fraudEvaluations.get? id = none :=
    Stmt.absent_of_passed passed (by simp [Stmt.constraints, Stmt.unique])
  have source : seen.evaluationOf row.sourceEventId = none :=
    Option.isNone_iff_eq_none.mp (passed (_, .uniqueViolation)
      (by simp [Stmt.constraints, Stmt.unique]; tauto))
  intro l mem
  rcases List.mem_cons.mp mem with rfl | mem
  · refine ⟨by simp [Stmt.locks, Stmt.addKey, absent], ?_⟩
    rw [same] at absent
    exact absent
  · obtain rfl := List.mem_singleton.mp mem
    refine ⟨by simp [Stmt.locks, Stmt.addKey, source], fun v evaluated => ?_⟩
    refine evaluationOf_absent source v ?_
    rw [EvaluationOf, same]
    exact evaluated

theorem insertAlert_columns {seen db : Db} {id : UUID} {row : FraudAlert}
    (same : seen.fraudAlerts = db.fraudAlerts)
    (passed : ∀ x ∈ (Stmt.insertAlert id row).constraints arith seen, x.1 = true) :
    ∀ l ∈ (Write.fraudAlerts id row).columns,
      l ∈ (Stmt.insertAlert id row).locks seen ∧ Vacant l db := by
  have absent : seen.fraudAlerts.get? id = none :=
    Stmt.absent_of_passed passed (by simp [Stmt.constraints, Stmt.unique])
  have others : seen.fraudAlerts.values.all (·.sourceEventId ≠ row.sourceEventId) = true :=
    passed (_, .uniqueViolation) (by simp only [Stmt.constraints, Stmt.unique]; simp)
  have source : seen.fraudAlerts.values.any (·.sourceEventId = row.sourceEventId) = false := by
    simpa using others
  intro l mem
  rcases List.mem_cons.mp mem with rfl | mem
  · refine ⟨by simp [Stmt.locks, Stmt.addKey, absent], ?_⟩
    rw [same] at absent
    exact absent
  · obtain rfl := List.mem_singleton.mp mem
    refine ⟨by simp only [Stmt.locks, Stmt.addKey, source]; simp, fun a about => ?_⟩
    refine alertOf_absent source a ?_
    rw [AlertOf, same]
    exact about

theorem insertOutbox_columns {seen db : Db} {id : UUID} {row : FraudOutbox}
    (same : seen.fraudOutbox = db.fraudOutbox)
    (passed : ∀ x ∈ (Stmt.insertOutbox id row).constraints arith seen, x.1 = true) :
    ∀ l ∈ (Write.fraudOutbox id row).columns,
      l ∈ (Stmt.insertOutbox id row).locks seen ∧ Vacant l db := by
  have absent : seen.fraudOutbox.get? id = none :=
    Stmt.absent_of_passed passed (by simp [Stmt.constraints, Stmt.unique])
  intro l mem
  obtain rfl := List.mem_singleton.mp mem
  refine ⟨by simp [Stmt.locks, Stmt.addKey, absent], ?_⟩
  rw [same] at absent
  exact absent

theorem persistEvaluation_ready {rt : Runtime} {config : FraudConfig} {evaluation : FraudEvaluation}
    {event : EventEnvelope} {now : Instant} (h : KnowsFraud arith [] c ws ls) :
    fraudWp arith (persistEvaluation rt config evaluation event now) (fun _ => Ready) c ws ls := by
  refine wp_sql (allVacant_guarded _) h fun c h seen view _ existing _ => ?_
  have h := h.skip (W := (Stmt.selectEvaluation evaluation.sourceEventId).writes arith seen)
    (by simp [Stmt.writes]) ((Stmt.selectEvaluation evaluation.sourceEventId).locks seen)
  split
  · split
    · exact ⟨[], fun _ h _ => h, h⟩
    · trivial
  refine wp_insert h rfl (fun _ => rfl)
    (fun db seen same passed => insertEvaluation_columns same.evaluations passed)
    fun _ c ws ls h => ?_
  refine wp_ite (fun _ => ⟨_, addable_evaluation _ _, h⟩) fun _ => ?_
  set message := buildAlertMessage rt evaluation event
  refine wp_insert h rfl (fun _ => rfl)
    (fun db seen same passed => insertAlert_columns same.alerts passed) fun _ c ws ls h => ?_
  refine wp_ite (fun _ => ?_) fun _ => ⟨_, addable_flagged _ _ _ _, h⟩
  refine wp_insert h rfl (fun _ => rfl)
    (fun db seen same passed => insertOutbox_columns same.outbox passed) fun _ c ws ls h => ?_
  exact ⟨_, addable_queued evaluation.evaluationId message.alertId message.outboxId
    (evaluationRow evaluation) (alertRow evaluation message) rfl, h⟩

theorem applyHandler_ready {rt : Runtime} {used : Arithmetic} {event : EventEnvelope}
    {payload : FraudAlertCreatedPayload} (alert : event.payload = .fraudAlertCreated payload)
    (h : KnowsFraud arith [] c ws ls) :
    fraudWp arith (applyHandler rt used event) (fun _ => Ready) c ws ls := by
  unfold applyHandler
  rw [alert]
  exact wp_then (insertExternalAlert_ready h) fun _ _ _ _ ready => ready

theorem fraudStage_ready {uow : UnitOfWork} {call : PersistCall} {rows : Dict Table Nat}
    (h : KnowsFraud arith [] c ws ls) :
    fraudWp arith (uow.fraudStage call rows) (fun _ => Ready) c ws ls := by
  refine wp_then (wp_frame ((build_writes _ _ _).irrelevant (by simp)) (allVacant_guarded _) h)
    fun context c ws ls h => ?_
  refine wp_compute fun evaluation _ => ?_
  exact wp_then (persistEvaluation_ready h) fun _ _ _ _ ready => ready

end

/-- Every transaction of every processor keeps the invariant. -/
theorem transaction_single (arith : Arithmetic) (request : UnitOfWork × PersistCall) :
    Keeps (D := database arith) (fun c => SingleRows c.db) StaysVacant
      (fun request => request.1.transaction request.2) request := by
  obtain ⟨uow, call⟩ := request
  intro c inv
  refine wp_mono ?_ fun _ c ws ls (ready : Ready c ws ls) => ready.commitSafe
  have begin_ : KnowsFraud arith [] c [] [] := ⟨inv, rfl, by simp, by simp [AllVacant]⟩
  refine wp_then (wp_frame ((insertIdentity_writes _ _ _ _ _).irrelevant (by simp [fraudTables]))
    (allVacant_guarded _) begin_) fun _ c ws ls h => ?_
  cases kind : call.event.payload with
  | fraudAlertCreated payload =>
    have ineligible : fraudEligible call.event.eventType = false := by
      rw [EventEnvelope.eventType, kind]
      rfl
    refine wp_then (applyHandler_ready kind h) fun counts c ws ls ready => ?_
    exact wp_ite (fun stage => absurd stage.2 (by simp [ineligible])) fun _ => ready
  | _ =>
    have writes := applyHandler_writes uow.rt uow.arith call.event
    rw [EventEnvelope.eventType, kind] at writes
    refine wp_then (wp_frame (writes.irrelevant (by simp [handlerTables, Payload.eventType,
      fraudTables])) (allVacant_guarded _) h) fun counts c ws ls h => ?_
    exact wp_ite (fun _ => fraudStage_ready h) fun _ => ⟨[], fun _ h _ => h, h⟩

end CommercePlatform.Persistence
