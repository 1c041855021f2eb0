import CommercePlatform.Demo.Repository
import CommercePlatform.Lib.Machine

/-!
The scenario runner and its routes (`demo_control_api/services/scenario_runner.py` and the
routes `create_run`, `stop_run` and `retry_run` of `main.py`).

Everything runs on one event loop. A request handler never waits between its first and
its last statement (the lock of `start` is only held by code that does not wait), so
while one is in progress no task moves; but each call of the repository commits on its
own, and the process may be restarted between any two of them. A task moves when the loop
runs it: a label says where it stops next, or how it ends.
-/

namespace CommercePlatform.Demo

structure DemoConfig where
  demoMaxConcurrentRuns : Nat := 2
  demoMaxEventCount : Nat := 100000
  demoMaxEventsPerSecond : Nat := 1000

/-- Where the coroutine `_execute` stands. -/
inductive TaskPhase where
  /-- Created; its first statement has not run. -/
  | scheduled
  /-- Inside `asyncio.wait_for(self._generate(run))`. -/
  | generating
  /-- Inside `_wait_for_processing`. -/
  | waiting
  /-- Over, and still in `_tasks`. -/
  | done
  deriving DecidableEq, Repr

/-- A task; `cancelled` when `cancel()` was called and has not been delivered. -/
structure Task where
  phase : TaskPhase
  cancelled : Bool := false
  deriving DecidableEq, Repr

/-- The request handler in progress, with the run it is about. -/
inductive Handler where
  /-- `repository.create` has returned; `runner.start` comes next. -/
  | created (runId : UUID)
  /-- In `start`: the run is STARTING; `create_task` comes next. -/
  | starting (runId : UUID)
  /-- In `stop`: `task.cancel()` comes next. -/
  | cancelling (runId : UUID)
  deriving DecidableEq

def Handler.runId : Handler → UUID
  | created runId | starting runId | cancelling runId => runId

structure State where
  rows : DemoRuns := ∅
  /-- `ScenarioRunner._tasks`. -/
  tasks : Dict UUID Task := ∅
  handler : Option Handler := none

/-- `sum(not task.done() for task in self._tasks.values())`. -/
def State.active (s : State) : Nat := s.tasks.values.countP fun task => task.phase ≠ .done

/-- How `_execute` leaves its `try` block. -/
inductive Exit where
  | finished
  | cancelled
  | timedOut
  | failed
  deriving DecidableEq, Repr

/-- The rest of the `try` block and the `except` clauses; a transition that raises leaves
the row alone. -/
def leave (rows : DemoRuns) (runId : UUID) (now : Instant) : Exit → DemoRuns
  | .finished =>
    if (rows.get? runId).any (·.status = .running) then
      (rows.transition runId .completed (some "Scenario generation completed") none now).toOption.getD
        rows
    else rows
  | .cancelled =>
    if (rows.get? runId).any (·.status = .stopRequested) then
      (rows.transition runId .stopped (some "Stopped by user") none now).toOption.getD rows
    else rows
  | .timedOut =>
    (rows.transition runId .failed (some "Run timed out") (some "timeout") now).toOption.getD rows
  | .failed =>
    if (rows.get? runId).any (!·.status.terminal) then
      (rows.transition runId .failed (some "Scenario execution failed") (some "scenario_execution")
        now).toOption.getD rows
    else rows

/-- Scenarios whose events the processor does not all persist. -/
def ScenarioType.unawaited : ScenarioType → Bool
  | .malformed | .duplicate => true
  | _ => false

/-- The task can leave its `try` block in this way. -/
def Task.mayLeave (task : Task) (row : Option DemoRun) : Exit → Bool
  | .finished =>
    !task.cancelled && (task.phase = .waiting ||
      (task.phase = .generating && row.any (·.parameters.scenarioType.unawaited)))
  | .cancelled => task.cancelled && (task.phase = .generating || task.phase = .waiting)
  | .timedOut => task.phase = .generating
  | .failed => task.phase = .generating || task.phase = .waiting

inductive Act where
  /-- `create_run` has checked the limits and called `repository.create`. -/
  | createRun (runId : UUID) (request : RunCreate) (now : Instant)
  /-- `retry_run` has called `repository.create` with the parameters of `old`. -/
  | retryRun (old runId : UUID) (now : Instant)
  /-- `ScenarioRunner.start`, up to `create_task`. -/
  | start (now : Instant)
  | createTask
  /-- `stop_run`, up to `task.cancel()`. -/
  | stopRun (runId : UUID) (now : Instant)
  | cancelTask
  /-- The first step of a task. -/
  | execute (runId : UUID) (now : Instant)
  /-- `_generate` has returned, and the run waits for its events to be processed. -/
  | awaitProcessing (runId : UUID)
  | leave (runId : UUID) (exit : Exit) (now : Instant)
  /-- The process is gone and starts again, with `reconcile`. -/
  | restart (now : Instant)

variable (config : DemoConfig)

def step (s : State) : Act → Option State
  | .createRun runId request now =>
    if s.handler = none ∧ s.rows.get? runId = none ∧
        request.eventCount ≤ config.demoMaxEventCount ∧
        request.eventsPerSecond ≤ config.demoMaxEventsPerSecond then
      some { s with rows := s.rows.create runId request now, handler := some (.created runId) }
    else none
  | .retryRun old runId now =>
    match s.rows.get? old with
    | some row =>
      if s.handler = none ∧ s.rows.get? runId = none ∧
          (row.status = .failed ∨ row.status = .stopped) then
        some { s with
          rows := s.rows.create runId row.parameters now
          handler := some (.created runId) }
      else none
    | none => none
  | .start now =>
    match s.handler with
    | some (.created runId) =>
      if (s.tasks.get? runId).isSome then some { s with handler := none }
      -- ConcurrencyLimitError
      else if config.demoMaxConcurrentRuns ≤ s.active then some { s with handler := none }
      else
        match s.rows.transition runId .starting none none now with
        | .ok rows => some { s with rows, handler := some (.starting runId) }
        | .error _ => some { s with handler := none }
    | _ => none
  | .createTask =>
    match s.handler with
    | some (.starting runId) =>
      some { s with tasks := s.tasks.set runId { phase := .scheduled }, handler := none }
    | _ => none
  | .stopRun runId now =>
    match s.handler, s.rows.get? runId with
    | none, some row =>
      if row.status.terminal then some s
      else if row.status = .running then
        match s.rows.transition runId .stopRequested none none now with
        | .ok rows => some { s with rows, handler := some (.cancelling runId) }
        | .error _ => some s
      else some { s with handler := some (.cancelling runId) }
    | _, _ => none
  | .cancelTask =>
    match s.handler with
    | some (.cancelling runId) =>
      match s.tasks.get? runId with
      | some task =>
        if task.phase = .done then some { s with handler := none }
        else
          some { s with tasks := s.tasks.set runId { task with cancelled := true }, handler := none }
      | none => some { s with handler := none }
    | _ => none
  | .execute runId now =>
    match s.handler, s.tasks.get? runId with
    | none, some ⟨.scheduled, cancelled⟩ =>
      -- A task cancelled before its first step never enters the body, nor its `finally`.
      if cancelled || (s.rows.get? runId).isNone then
        some { s with tasks := s.tasks.set runId { phase := .done } }
      else
        match s.rows.transition runId .running none none now with
        | .ok rows => some { s with rows, tasks := s.tasks.set runId { phase := .generating } }
        | .error _ =>
          some { s with rows := leave s.rows runId now .failed, tasks := s.tasks.erase runId }
    | _, _ => none
  | .awaitProcessing runId =>
    match s.handler, s.tasks.get? runId with
    | none, some ⟨.generating, false⟩ =>
      if (s.rows.get? runId).any (!·.parameters.scenarioType.unawaited) then
        some { s with tasks := s.tasks.set runId { phase := .waiting } }
      else none
    | _, _ => none
  | .leave runId exit now =>
    match s.handler, s.tasks.get? runId with
    | none, some task =>
      if task.mayLeave (s.rows.get? runId) exit then
        some { s with rows := leave s.rows runId now exit, tasks := s.tasks.erase runId }
      else none
    | _, _ => none
  | .restart now => some { rows := s.rows.reconcile now }

/-- The API and its runner, from an empty table. -/
def machine : Machine State Act := ⟨step config⟩

end CommercePlatform.Demo
