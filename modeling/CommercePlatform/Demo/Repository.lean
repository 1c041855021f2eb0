import CommercePlatform.Contract.Events
import CommercePlatform.Lib.Dict

/-!
Demo runs and their table (`demo_control_api/models/runs.py`, `models/scenarios.py` and
`repositories/demo_runs.py`).

A row holds what the routes and the runner read and write of a run. The event counters,
which `refresh` recomputes from other tables, are left out.
-/

namespace CommercePlatform.Demo

/-! ### models/scenarios.py -/

inductive ScenarioType where
  | normal
  | suspicious
  | takeover
  | bot
  | refund
  | duplicate
  | malformed
  | mixed
  deriving DecidableEq, Repr

/-- The malformed records a request can ask for. -/
inductive MalformedCase where
  | malformedJson
  | missingField
  | unknownEventType
  | payloadMismatch
  deriving DecidableEq, Repr

/-- The fields of a request that decide whether and how it runs. -/
structure RunCreate where
  scenarioType : ScenarioType
  eventCount : Nat := 500
  eventsPerSecond : Nat := 20
  seed : Int := 42
  duplicateRate : Rat := 0
  malformedRate : Rat := 0
  personaDistribution : Option (List (Contract.CustomerPersona × Nat)) := none
  transactionEnabled : Bool := true
  malformedCase : MalformedCase := .malformedJson
  deriving DecidableEq, Repr

/-! ### models/runs.py -/

inductive RunStatus where
  | pending
  | starting
  | running
  | stopRequested
  | stopped
  | completed
  | failed
  deriving DecidableEq, Repr

namespace RunStatus

def value : RunStatus → String
  | pending => "PENDING"
  | starting => "STARTING"
  | running => "RUNNING"
  | stopRequested => "STOP_REQUESTED"
  | stopped => "STOPPED"
  | completed => "COMPLETED"
  | failed => "FAILED"

/-- `TERMINAL_STATUSES`. -/
def terminal : RunStatus → Bool
  | stopped | completed | failed => true
  | _ => false

/-- `TRANSITIONS`. -/
def transitions : RunStatus → List RunStatus
  | pending => [starting]
  | starting => [running, failed]
  | running => [completed, stopRequested, failed]
  | stopRequested => [stopped, failed]
  | stopped | completed | failed => []

end RunStatus

def transitionAllowed (current target : RunStatus) : Bool := target ∈ current.transitions

/-- No transition leads out of a terminal status. -/
theorem terminal_absorbing {status : RunStatus} (ended : status.terminal = true)
    (target : RunStatus) : transitionAllowed status target = false := by
  cases status <;> first
    | rfl
    | cases ended

/-- A row of `demo_runs`, under its `run_id`. -/
structure DemoRun where
  status : RunStatus
  parameters : RunCreate
  statusMessage : Option String := none
  errorCategory : Option String := none
  createdAt : Instant
  startedAt : Option Instant := none
  completedAt : Option Instant := none
  stoppedAt : Option Instant := none
  updatedAt : Instant
  deriving DecidableEq

/-! ### repositories/demo_runs.py -/

abbrev DemoRuns := Dict UUID DemoRun

inductive RepositoryError where
  | keyError (runId : UUID)
  | invalidTransitionError (message : String)

namespace DemoRuns

variable (rows : DemoRuns)

/-- `create`, for the `run_id` that `uuid4` draws. -/
def create (runId : UUID) (request : RunCreate) (now : Instant) : DemoRuns :=
  rows.set runId { status := .pending, parameters := request, createdAt := now, updatedAt := now }

/-- The row that `transition` writes. -/
def moved (row : DemoRun) (target : RunStatus) (message errorCategory : Option String)
    (now : Instant) : DemoRun :=
  { row with
    status := target
    updatedAt := now
    statusMessage := message
    errorCategory := errorCategory
    startedAt := if target = .running then some now else row.startedAt
    completedAt := if target = .completed then some now else row.completedAt
    stoppedAt := if target = .stopped then some now else row.stoppedAt }

def transition (runId : UUID) (target : RunStatus) (message errorCategory : Option String)
    (now : Instant) : Except RepositoryError DemoRuns :=
  match rows.get? runId with
  | none => .error (.keyError runId)
  | some row =>
    if row.status = target then .ok rows
    else if transitionAllowed row.status target then
      .ok (rows.set runId (moved row target message errorCategory now))
    else
      .error (.invalidTransitionError
        (row.status.value ++ " cannot transition to " ++ target.value))

/-- What `reconcile` makes of a row. -/
def reconciled (now : Instant) (row : DemoRun) : DemoRun :=
  if row.status = .starting ∨ row.status = .running ∨ row.status = .stopRequested then
    { row with
      status := if row.status = .stopRequested then .stopped else .failed
      statusMessage := some "API restarted; in-memory scenario task was abandoned"
      errorCategory := some "api_restart"
      updatedAt := now
      stoppedAt := if row.status = .stopRequested then some now else row.stoppedAt }
  else row

def reconcile (now : Instant) : DemoRuns := rows.mapValues fun _ row => reconciled now row

end DemoRuns

/-! ### Changes of status -/

/-- Every run is still there, with the same status or one that `TRANSITIONS` leads to. -/
def FollowsTransitions (rows rows' : DemoRuns) : Prop :=
  ∀ id row, rows.get? id = some row → ∃ row', rows'.get? id = some row' ∧
    (row'.status = row.status ∨ transitionAllowed row.status row'.status = true)

theorem FollowsTransitions.refl (rows : DemoRuns) : FollowsTransitions rows rows :=
  fun _ row found => ⟨row, found, Or.inl rfl⟩

theorem followsTransitions_set {rows : DemoRuns} {id : UUID} {old new : DemoRun}
    (found : rows.get? id = some old) (allowed : transitionAllowed old.status new.status = true) :
    FollowsTransitions rows (rows.set id new) := by
  intro key row present
  by_cases same : key = id
  · subst same
    rw [found] at present
    cases present
    exact ⟨new, Dict.get?_set_self _ _ _, Or.inr allowed⟩
  · exact ⟨row, by rw [Dict.get?_set_ne _ _ same]; exact present, Or.inl rfl⟩

theorem followsTransitions_create {rows : DemoRuns} {id : UUID} (fresh : rows.get? id = none)
    (request : RunCreate) (now : Instant) : FollowsTransitions rows (rows.create id request now) := by
  intro key row present
  have other : key ≠ id := by
    rintro rfl
    rw [fresh] at present
    cases present
  exact ⟨row, by rw [DemoRuns.create, Dict.get?_set_ne _ _ other]; exact present, Or.inl rfl⟩

theorem transition_ok {rows rows' : DemoRuns} {id : UUID} {target : RunStatus}
    {message category : Option String} {now : Instant}
    (ran : rows.transition id target message category now = .ok rows') :
    ∃ row, rows.get? id = some row ∧
      (row.status = target ∧ rows' = rows ∨
        transitionAllowed row.status target = true ∧
          rows' = rows.set id (DemoRuns.moved row target message category now)) := by
  unfold DemoRuns.transition at ran
  split at ran
  · cases ran
  · rename_i row found
    refine ⟨row, found, ?_⟩
    split at ran
    · rename_i same
      cases ran
      exact Or.inl ⟨same, rfl⟩
    · split at ran
      · rename_i allowed
        cases ran
        exact Or.inr ⟨allowed, rfl⟩
      · cases ran

theorem transition_follows {rows rows' : DemoRuns} {id : UUID} {target : RunStatus}
    {message category : Option String} {now : Instant}
    (ran : rows.transition id target message category now = .ok rows') :
    FollowsTransitions rows rows' := by
  obtain ⟨row, found, ⟨-, rfl⟩ | ⟨allowed, rfl⟩⟩ := transition_ok ran
  · exact .refl _
  · exact followsTransitions_set found allowed

theorem reconciled_status (now : Instant) (row : DemoRun) :
    (DemoRuns.reconciled now row).status = row.status ∨
      transitionAllowed row.status (DemoRuns.reconciled now row).status = true := by
  unfold DemoRuns.reconciled
  split
  · rename_i active
    right
    rcases active with status | status | status <;> rw [status] <;> rfl
  · exact Or.inl rfl

theorem reconcile_follows (rows : DemoRuns) (now : Instant) :
    FollowsTransitions rows (rows.reconcile now) := by
  intro id row found
  refine ⟨DemoRuns.reconciled now row, ?_, reconciled_status now row⟩
  rw [DemoRuns.reconcile, Dict.get?_mapValues, found]
  rfl

end CommercePlatform.Demo
