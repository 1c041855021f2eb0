import CommercePlatform.Demo.ScenarioRunner

/-!
Runs and the tasks that own them.

A run that is not over should have a task that is not over. A handler that is refused for
the concurrency limit leaves its new row PENDING, a task that is cancelled before its
first step leaves it STARTING, and `reconcile` passes over PENDING rows
(`not_runs_owned`). Where these paths are not taken, every run is owned in every state
without a handler in progress (`runs_owned`). Statuses follow `TRANSITIONS` on every path.
-/

namespace CommercePlatform.Demo

variable {config : DemoConfig}

/-- Every run that is not over has a task that is not over. -/
def State.Owned (s : State) : Prop :=
  ∀ id row, s.rows.get? id = some row → row.status.terminal = false →
    ∃ task, s.tasks.get? id = some task ∧ task.phase ≠ .done

/-- The step is no start of a run beyond the concurrency limit, no stop of a run whose task
has not taken its first step, and no restart between the creation of a row and its start. -/
def keepsOwner (config : DemoConfig) (s : State) (a : Act) : Bool :=
  match a, s.handler with
  | .start _, _ => s.active < config.demoMaxConcurrentRuns
  | .stopRun runId _, _ => (s.rows.get? runId).all (·.status ≠ .starting)
  | .restart _, some (.created _) => false
  | _, _ => true

/-! ### Every step follows the transitions -/

theorem leave_follows (rows : DemoRuns) (id : UUID) (now : Instant) (exit : Exit) :
    FollowsTransitions rows (leave rows id now exit) := by
  have kept : ∀ target message category,
      FollowsTransitions rows
        ((rows.transition id target message category now).toOption.getD rows) := by
    intro target message category
    cases ran : rows.transition id target message category now with
    | ok rows' => exact transition_follows ran
    | error e => exact .refl rows
  cases exit with
  | timedOut => exact kept _ _ _
  | finished | cancelled | failed =>
    simp only [leave]
    split
    · exact kept _ _ _
    · exact .refl rows

theorem step_follows {s t : State} {a : Act} (stepped : step config s a = some t) :
    FollowsTransitions s.rows t.rows := by
  cases a with
  | createRun id request now =>
    simp only [step, Option.ite_none_right_eq_some, Option.some.injEq] at stepped
    obtain ⟨⟨-, fresh, -⟩, rfl⟩ := stepped
    exact followsTransitions_create fresh request now
  | retryRun old id now =>
    simp only [step] at stepped
    split at stepped
    · simp only [Option.ite_none_right_eq_some, Option.some.injEq] at stepped
      obtain ⟨⟨-, fresh, -⟩, rfl⟩ := stepped
      exact followsTransitions_create fresh _ now
    · cases stepped
  | start now | stopRun id now | cancelTask | createTask =>
    simp only [step] at stepped
    repeat' split at stepped
    all_goals cases stepped
    all_goals first
      | exact .refl _
      | exact transition_follows ‹_›
  | execute id now =>
    simp only [step] at stepped
    repeat' split at stepped
    all_goals cases stepped
    · exact .refl _
    · exact transition_follows ‹_›
    · exact leave_follows _ _ _ _
  | awaitProcessing id =>
    simp only [step] at stepped
    repeat' split at stepped
    all_goals cases stepped
    exact .refl _
  | leave id exit now =>
    simp only [step] at stepped
    repeat' split at stepped
    all_goals cases stepped
    exact leave_follows _ _ _ _
  | restart now =>
    cases stepped
    exact reconcile_follows _ _

/-! ### The invariant -/

/-- The task of a run that no handler is busy with. -/
def HeldBy (task : Option Task) : RunStatus → Prop
  | .pending => False
  | .starting => task = some ⟨.scheduled, false⟩
  | .running => task = some ⟨.generating, false⟩ ∨ task = some ⟨.waiting, false⟩
  | .stopRequested => task = some ⟨.generating, true⟩ ∨ task = some ⟨.waiting, true⟩
  | .stopped | .completed | .failed => True

/-- The run a handler is busy with, and its task. -/
def Handler.Fits (rows : DemoRuns) (tasks : Dict UUID Task) : Handler → Prop
  | .created id =>
    (∃ row, rows.get? id = some row ∧ row.status = .pending) ∧ tasks.get? id = none
  | .starting id =>
    (∃ row, rows.get? id = some row ∧ row.status = .starting) ∧ tasks.get? id = none
  | .cancelling id =>
    (∃ row, rows.get? id = some row ∧ row.status = .stopRequested) ∧
      ∃ task, tasks.get? id = some task ∧ (task.phase = .generating ∨ task.phase = .waiting)

structure Owning (s : State) : Prop where
  held : ∀ id row, s.rows.get? id = some row → (∀ h, s.handler = some h → h.runId ≠ id) →
    HeldBy (s.tasks.get? id) row.status
  fits : ∀ h, s.handler = some h → h.Fits s.rows s.tasks
  known : ∀ id task, s.tasks.get? id = some task → ∃ row, s.rows.get? id = some row

theorem owning_init : Owning {} := by
  constructor
  · intro _ _ found
    simp at found
  · intro _ handled
    cases handled
  · intro _ _ found
    simp at found

theorem HeldBy.live {task : Option Task} {status : RunStatus} (held : HeldBy task status)
    (active : status.terminal = false) : ∃ t, task = some t ∧ t.phase ≠ .done := by
  cases status with
  | pending => cases held
  | starting => exact ⟨_, held, by decide⟩
  | running | stopRequested =>
    rcases held with found | found
    · exact ⟨_, found, by decide⟩
    · exact ⟨_, found, by decide⟩
  | stopped | completed | failed => cases active

theorem Owning.owned {s : State} (h : Owning s) (free : s.handler = none) : s.Owned := by
  intro id row found active
  refine (h.held id row found fun handler busy => ?_).live active
  rw [free] at busy
  cases busy

/-- A step that only concerns the run `id`. -/
theorem Owning.update {s t : State} (h : Owning s) (id : UUID)
    (subject : ∀ handler, s.handler = some handler → handler.runId = id)
    (rows : ∀ key, key ≠ id → t.rows.get? key = s.rows.get? key)
    (tasks : ∀ key, key ≠ id → t.tasks.get? key = s.tasks.get? key)
    (self : t.handler = none → ∀ row, t.rows.get? id = some row →
      HeldBy (t.tasks.get? id) row.status)
    (fits : ∀ handler, t.handler = some handler → handler.runId = id ∧ handler.Fits t.rows t.tasks)
    (known : ∀ task, t.tasks.get? id = some task → ∃ row, t.rows.get? id = some row) :
    Owning t := by
  constructor
  · intro key row found idle
    by_cases same : key = id
    · subst same
      refine self ?_ row found
      cases busy : t.handler with
      | none => rfl
      | some handler => exact absurd (fits handler busy).1 (idle handler busy)
    · rw [rows key same] at found
      rw [tasks key same]
      refine h.held key row found fun handler busy about => ?_
      exact same (about.symm.trans (subject handler busy))
  · intro handler busy
    exact (fits handler busy).2
  · intro key task found
    by_cases same : key = id
    · subst same
      exact known task found
    · rw [tasks key same] at found
      rw [rows key same]
      exact h.known key task found

section

variable {s : State} (h : Owning s) {id : UUID} {now : Instant}

include h

theorem Owning.free_held (free : s.handler = none) {row : DemoRun}
    (found : s.rows.get? id = some row) : HeldBy (s.tasks.get? id) row.status := by
  refine h.held id row found fun handler busy => ?_
  rw [free] at busy
  cases busy

/-- `create_run` and `retry_run` up to the row. -/
theorem Owning.create (free : s.handler = none) (fresh : s.rows.get? id = none)
    (request : RunCreate) :
    Owning { s with rows := s.rows.create id request now, handler := some (.created id) } := by
  have row : (s.rows.create id request now).get? id = some _ := Dict.get?_set_self _ _ _
  have untasked : s.tasks.get? id = none := by
    cases found : s.tasks.get? id with
    | none => rfl
    | some task =>
      obtain ⟨row, present⟩ := h.known id task found
      rw [fresh] at present
      cases present
  refine h.update id ?_ (fun key other => Dict.get?_set_ne _ _ other) (fun _ _ => rfl) ?_ ?_ ?_
  · rw [free]
    intro handler busy
    cases busy
  · intro idle
    cases idle
  · rintro handler busy
    cases busy
    exact ⟨rfl, ⟨_, row, rfl⟩, untasked⟩
  · intro task _
    exact ⟨_, row⟩

theorem Owning.started (busy : s.handler = some (.created id)) (row : DemoRun) :
    Owning { s with
      rows := s.rows.set id (DemoRuns.moved row .starting none none now)
      handler := some (.starting id) } := by
  obtain ⟨-, untasked⟩ := h.fits _ busy
  refine h.update id ?_ (fun key other => Dict.get?_set_ne _ _ other) (fun _ _ => rfl) ?_ ?_ ?_
  · rw [busy]
    rintro handler same
    cases same
    rfl
  · intro idle
    cases idle
  · rintro handler same
    cases same
    exact ⟨rfl, ⟨_, Dict.get?_set_self _ _ _, rfl⟩, untasked⟩
  · intro task _
    exact ⟨_, Dict.get?_set_self _ _ _⟩

theorem Owning.createTask (busy : s.handler = some (.starting id)) :
    Owning { s with tasks := s.tasks.set id { phase := .scheduled }, handler := none } := by
  obtain ⟨⟨row, found, starting⟩, -⟩ := h.fits _ busy
  refine h.update id ?_ (fun _ _ => rfl) (fun key other => Dict.get?_set_ne _ _ other) ?_ ?_ ?_
  · rw [busy]
    rintro handler same
    cases same
    rfl
  · intro _ row' present
    have present : s.rows.get? id = some row' := present
    rw [found] at present
    cases present
    rw [starting]
    exact Dict.get?_set_self _ _ _
  · intro handler same
    cases same
  · intro task _
    exact ⟨row, found⟩

theorem Owning.cancelTask (busy : s.handler = some (.cancelling id)) {task : Task}
    (taken : s.tasks.get? id = some task) :
    Owning { s with tasks := s.tasks.set id { task with cancelled := true }, handler := none } := by
  obtain ⟨⟨row, found, requested⟩, task', taken', suspended⟩ := h.fits _ busy
  rw [taken] at taken'
  cases taken'
  refine h.update id ?_ (fun _ _ => rfl) (fun key other => Dict.get?_set_ne _ _ other) ?_ ?_ ?_
  · rw [busy]
    rintro handler same
    cases same
    rfl
  · intro _ row' present
    have present : s.rows.get? id = some row' := present
    rw [found] at present
    cases present
    rw [requested]
    refine suspended.imp (fun phase => ?_) fun phase => ?_
    · exact (Dict.get?_set_self _ _ _).trans (by rw [phase])
    · exact (Dict.get?_set_self _ _ _).trans (by rw [phase])
  · intro handler same
    cases same
  · intro task _
    exact ⟨row, found⟩

/-- A task step of a free loop: the row and the task of one run. -/
theorem Owning.task (free : s.handler = none) {rows : DemoRuns} {tasks : Dict UUID Task}
    {row : DemoRun} (found : rows.get? id = some row)
    (others : ∀ key, key ≠ id → rows.get? key = s.rows.get? key)
    (otherTasks : ∀ key, key ≠ id → tasks.get? key = s.tasks.get? key)
    (held : HeldBy (tasks.get? id) row.status) : Owning { s with rows, tasks } := by
  refine h.update id ?_ others otherTasks ?_ ?_ ?_
  · rw [free]
    intro handler busy
    cases busy
  · intro _ row' present
    have present : rows.get? id = some row' := present
    rw [found] at present
    cases present
    exact held
  · intro handler busy
    have busy : s.handler = some handler := busy
    rw [free] at busy
    cases busy
  · intro task _
    exact ⟨row, found⟩

end

/-! ### Transitions that succeed -/

theorem transition_allowed {rows : DemoRuns} {id : UUID} {row : DemoRun}
    (found : rows.get? id = some row) {target : RunStatus}
    (allowed : transitionAllowed row.status target = true) (message category : Option String)
    (now : Instant) :
    rows.transition id target message category now =
      .ok (rows.set id (DemoRuns.moved row target message category now)) := by
  have moves : row.status ≠ target := by
    rintro same
    rw [same] at allowed
    revert allowed
    cases target <;> decide
  simp [DemoRuns.transition, found, moves, allowed]

theorem transition_others {rows rows' : DemoRuns} {id : UUID} {target : RunStatus}
    {message category : Option String} {now : Instant}
    (ran : rows.transition id target message category now = .ok rows') {key : UUID}
    (other : key ≠ id) : rows'.get? key = rows.get? key := by
  obtain ⟨row, -, ⟨-, rfl⟩ | ⟨-, rfl⟩⟩ := transition_ok ran
  · rfl
  · exact Dict.get?_set_ne _ _ other

theorem leave_others (rows : DemoRuns) {id key : UUID} (now : Instant) (exit : Exit)
    (other : key ≠ id) : (leave rows id now exit).get? key = rows.get? key := by
  have kept : ∀ target message category,
      ((rows.transition id target message category now).toOption.getD rows).get? key =
        rows.get? key := by
    intro target message category
    cases ran : rows.transition id target message category now with
    | ok rows' => exact transition_others ran other
    | error e => rfl
  cases exit with
  | timedOut => exact kept _ _ _
  | finished | cancelled | failed =>
    simp only [leave]
    split
    · exact kept _ _ _
    · rfl

/-- A run whose task leaves its `try` block is over. -/
theorem leave_terminal {rows : DemoRuns} {id : UUID} {row : DemoRun} {task : Task} {now : Instant}
    {exit : Exit} (found : rows.get? id = some row) (held : HeldBy (some task) row.status)
    (may : task.mayLeave (some row) exit = true) :
    ∃ row', (leave rows id now exit).get? id = some row' ∧ row'.status.terminal = true := by
  have moves : ∀ target message category, transitionAllowed row.status target = true →
      target.terminal = true →
      ∃ row', ((rows.transition id target message category now).toOption.getD rows).get? id =
        some row' ∧ row'.status.terminal = true := by
    intro target message category allowed terminal
    rw [transition_allowed found allowed]
    exact ⟨_, Dict.get?_set_self _ _ _, terminal⟩
  have stays : row.status.terminal = true →
      ∃ row', ((rows.transition id .failed (some "Run timed out") (some "timeout")
        now).toOption.getD rows).get? id = some row' ∧ row'.status.terminal = true := by
    intro terminal
    cases ran : rows.transition id .failed (some "Run timed out") (some "timeout") now with
    | error e => exact ⟨row, found, terminal⟩
    | ok rows' =>
      obtain ⟨old, present, ⟨-, rfl⟩ | ⟨-, rfl⟩⟩ := transition_ok ran
      · exact ⟨row, found, terminal⟩
      · exact ⟨_, Dict.get?_set_self _ _ _, rfl⟩
  cases status : row.status with
  | pending =>
    rw [status] at held
    cases held
  | starting =>
    rw [status] at held
    cases held
    cases exit <;> cases may
  | running =>
    rw [status] at held moves
    cases exit with
    | finished => simpa [leave, found, status] using moves .completed _ none rfl rfl
    | cancelled => rcases held with same | same <;> cases same <;> cases may
    | timedOut => exact moves .failed _ _ rfl rfl
    | failed => simpa [leave, found, status, RunStatus.terminal] using moves .failed _ _ rfl rfl
  | stopRequested =>
    rw [status] at held moves
    cases exit with
    | finished => rcases held with same | same <;> cases same <;> cases may
    | cancelled => simpa [leave, found, status] using moves .stopped _ none rfl rfl
    | timedOut => exact moves .failed _ _ rfl rfl
    | failed => simpa [leave, found, status, RunStatus.terminal] using moves .failed _ _ rfl rfl
  | stopped | completed | failed =>
    have terminal : row.status.terminal = true := by
      rw [status]
      rfl
    cases exit with
    | timedOut => exact stays terminal
    | finished | cancelled | failed =>
      refine ⟨row, ?_, terminal⟩
      simp [leave, found, status, RunStatus.terminal]

/-! ### Every step -/

/-- A run that is over needs no task. -/
theorem heldBy_terminal {task : Option Task} {status : RunStatus} (ended : status.terminal = true) :
    HeldBy task status := by
  cases status <;> trivial

theorem step_owning_start {s t : State} {now : Instant} (h : Owning s)
    (keeps : keepsOwner config s (.start now) = true)
    (stepped : step config s (.start now) = some t) : Owning t := by
  have below : s.active < config.demoMaxConcurrentRuns := of_decide_eq_true keeps
  simp only [step] at stepped
  split at stepped
  · rename_i id busy
    obtain ⟨⟨row, found, pending⟩, untasked⟩ := h.fits _ busy
    have moves : s.rows.transition id .starting none none now = _ :=
      transition_allowed found (by rw [pending]; rfl) none none now
    rw [untasked, moves, if_neg (by simp), if_neg (by omega)] at stepped
    cases stepped
    exact h.started busy row
  · cases stepped

theorem step_owning_stopRun {s t : State} {id : UUID} {now : Instant} (h : Owning s)
    (keeps : keepsOwner config s (.stopRun id now) = true)
    (stepped : step config s (.stopRun id now) = some t) : Owning t := by
  simp only [step] at stepped
  split at stepped
  · rename_i row free found
    have held := h.free_held free found
    have past : row.status ≠ .starting := by simpa [keepsOwner, found] using keeps
    -- Either way the handler is about to cancel a task that has begun.
    have cancelling : ∀ rows, (∃ row', rows.get? id = some row' ∧ row'.status = .stopRequested) →
        (∀ key, key ≠ id → rows.get? key = s.rows.get? key) →
        (row.status = .running ∨ row.status = .stopRequested) →
        Owning { s with rows, handler := some (.cancelling id) } := by
      intro rows requested others active
      refine h.update id ?_ others (fun _ _ => rfl) ?_ ?_ ?_
      · rw [free]
        intro handler busy
        cases busy
      · intro idle
        cases idle
      · rintro handler busy
        cases busy
        refine ⟨rfl, requested, ?_⟩
        rcases active with status | status
        all_goals
          rw [status] at held
          rcases held with taken | taken
          · exact ⟨_, taken, Or.inl rfl⟩
          · exact ⟨_, taken, Or.inr rfl⟩
      · intro _ _
        obtain ⟨row', present, -⟩ := requested
        exact ⟨row', present⟩
    split at stepped
    · cases stepped
      exact h
    · rename_i active
      split at stepped
      · rename_i running
        rw [transition_allowed found (by rw [running]; rfl)] at stepped
        cases stepped
        exact cancelling _ ⟨_, Dict.get?_set_self _ _ _, rfl⟩
          (fun key other => Dict.get?_set_ne _ _ other) (Or.inl running)
      · rename_i notRunning
        cases stepped
        have requested : row.status = .stopRequested := by
          cases status : row.status with
          | stopRequested => rfl
          | pending =>
            rw [status] at held
            cases held
          | starting => exact absurd status past
          | running => exact absurd status notRunning
          | stopped | completed | failed => simp [status, RunStatus.terminal] at active
        exact cancelling s.rows ⟨row, found, requested⟩ (fun _ _ => rfl) (Or.inr requested)
  · cases stepped

theorem step_owning_execute {s t : State} {id : UUID} {now : Instant} (h : Owning s)
    (stepped : step config s (.execute id now) = some t) : Owning t := by
  simp only [step] at stepped
  split at stepped
  · rename_i cancelled free taken
    obtain ⟨row, found⟩ := h.known id _ taken
    have held := h.free_held free found
    rw [taken] at held
    rw [found] at stepped
    have over_or : row.status = .starting ∧ cancelled = false ∨ row.status.terminal = true := by
      cases status : row.status with
      | starting =>
        rw [status] at held
        cases held
        exact Or.inl ⟨rfl, rfl⟩
      | pending =>
        rw [status] at held
        cases held
      | running | stopRequested =>
        rw [status] at held
        rcases held with same | same <;> cases same
      | stopped | completed | failed => exact Or.inr rfl
    rcases over_or with ⟨starting, rfl⟩ | ended
    · rw [transition_allowed found (by rw [starting]; rfl)] at stepped
      cases stepped
      refine h.task free (Dict.get?_set_self _ _ _) (fun key other => Dict.get?_set_ne _ _ other)
        (fun key other => Dict.get?_set_ne _ _ other) ?_
      rw [Dict.get?_set_self]
      exact Or.inl rfl
    · have same : leave s.rows id now .failed = s.rows := by simp [leave, found, ended]
      have raises : ∃ e, s.rows.transition id .running none none now = .error e := by
        cases ran : s.rows.transition id .running none none now with
        | error e => exact ⟨e, rfl⟩
        | ok rows' =>
          obtain ⟨old, present, ⟨status, -⟩ | ⟨allowed, -⟩⟩ := transition_ok ran
          all_goals
            rw [found] at present
            cases present
          · rw [status] at ended
            cases ended
          · rw [terminal_absorbing ended] at allowed
            cases allowed
      obtain ⟨e, raises⟩ := raises
      rw [raises, same] at stepped
      split at stepped
      all_goals
        cases stepped
        refine h.task free found (fun _ _ => rfl) (fun key other => ?_) (heldBy_terminal ended)
      · exact Dict.get?_set_ne _ _ other
      · exact Dict.get?_erase_ne _ other
  · cases stepped

theorem step_owning_restart {s : State} {now : Instant} (h : Owning s)
    (keeps : keepsOwner config s (.restart now) = true) :
    Owning { rows := s.rows.reconcile now } := by
  constructor
  · intro id row' found _
    simp only [DemoRuns.reconcile, Dict.get?_mapValues, Option.map_eq_some_iff] at found
    obtain ⟨row, present, rfl⟩ := found
    -- No row is PENDING: the only handler that leaves one so is not in progress.
    have begun : row.status ≠ .pending := by
      intro pending
      by_cases about : ∃ handler, s.handler = some handler ∧ handler.runId = id
      · obtain ⟨handler, busy, rfl⟩ := about
        have fits := h.fits handler busy
        cases handler with
        | created id => simp [keepsOwner, busy] at keeps
        | starting id | cancelling id =>
          obtain ⟨⟨row', present', status⟩, -⟩ := fits
          have same : row = row' := Option.some.inj (present.symm.trans present')
          rw [← same, pending] at status
          cases status
      · have held := h.held id row present fun handler busy same => about ⟨handler, busy, same⟩
        rw [pending] at held
        cases held
    refine heldBy_terminal ?_
    unfold DemoRuns.reconciled
    cases status : row.status <;> simp_all [RunStatus.terminal]
  · intro handler busy
    cases busy
  · intro id task found
    simp at found

theorem step_owning {s t : State} {a : Act} (h : Owning s) (keeps : keepsOwner config s a = true)
    (stepped : step config s a = some t) : Owning t := by
  cases a with
  | createRun id request now =>
    simp only [step, Option.ite_none_right_eq_some, Option.some.injEq] at stepped
    obtain ⟨⟨free, fresh, -⟩, rfl⟩ := stepped
    exact h.create free fresh request
  | retryRun old id now =>
    simp only [step] at stepped
    split at stepped
    · simp only [Option.ite_none_right_eq_some, Option.some.injEq] at stepped
      obtain ⟨⟨free, fresh, -⟩, rfl⟩ := stepped
      exact h.create free fresh _
    · cases stepped
  | start now => exact step_owning_start h keeps stepped
  | createTask =>
    simp only [step] at stepped
    split at stepped
    · rename_i id busy
      cases stepped
      exact h.createTask busy
    · cases stepped
  | stopRun id now => exact step_owning_stopRun h keeps stepped
  | cancelTask =>
    simp only [step] at stepped
    split at stepped
    · rename_i id busy
      obtain ⟨-, task, taken, suspended⟩ := h.fits _ busy
      have live : task.phase ≠ .done := by
        rcases suspended with phase | phase <;> rw [phase] <;> decide
      simp only [taken, if_neg live] at stepped
      cases stepped
      exact h.cancelTask busy taken
    · cases stepped
  | execute id now => exact step_owning_execute h stepped
  | awaitProcessing id =>
    simp only [step] at stepped
    split at stepped
    · rename_i free taken
      simp only [Option.ite_none_right_eq_some, Option.some.injEq] at stepped
      obtain ⟨-, rfl⟩ := stepped
      obtain ⟨row, found⟩ := h.known id _ taken
      have held := h.free_held free found
      rw [taken] at held
      refine h.task free found (fun _ _ => rfl) (fun key other => Dict.get?_set_ne _ _ other) ?_
      rw [Dict.get?_set_self]
      cases status : row.status <;> rw [status] at held <;> simp_all [HeldBy]
    · cases stepped
  | leave id exit now =>
    simp only [step] at stepped
    split at stepped
    · rename_i task free taken
      simp only [Option.ite_none_right_eq_some, Option.some.injEq] at stepped
      obtain ⟨may, rfl⟩ := stepped
      obtain ⟨row, found⟩ := h.known id _ taken
      have held := h.free_held free found
      rw [taken] at held
      rw [found] at may
      obtain ⟨row', present, ended⟩ := @leave_terminal s.rows id row task now exit found held may
      exact h.task free present (fun key other => leave_others _ _ _ other)
        (fun key other => Dict.get?_erase_ne _ other) (heldBy_terminal ended)
    · cases stepped
  | restart now =>
    cases stepped
    exact step_owning_restart h keeps

/-! ### Every run -/

/-- In every run of requests, task steps and restarts that meets the condition, every run that
is not over has a task that is not over whenever no handler is in progress; and every step
changes statuses along `TRANSITIONS` only. -/
theorem runs_owned {acts : List Act} {s : State}
    (met : (machine config).Along (fun s a => keepsOwner config s a = true) {} acts)
    (ran : (machine config).run {} acts = some s) :
    (s.handler = none → s.Owned) ∧
      (machine config).Along
        (fun s a => ∀ t, step config s a = some t → FollowsTransitions s.rows t.rows) {} acts := by
  constructor
  · have owning : Owning s := (machine config).invariant_along
      (fun _ _ _ owning keeps stepped => step_owning owning keeps stepped) owning_init met ran
    exact owning.owned
  · exact (machine config).along_mono (fun _ _ _ _ stepped => step_follows stepped) met

/-! ### A run beyond the limit -/

section

def oneAtATime : DemoConfig := { demoMaxConcurrentRuns := 1 }

/-- Two runs are requested, and only one may be active. -/
def twoRequests : List Act :=
  [.createRun (.ofNat 1) { scenarioType := .normal } 0, .start 0, .createTask,
    .createRun (.ofNat 2) { scenarioType := .normal } 1, .start 1]

/-- The second request is refused, and its run stays PENDING without a task. -/
theorem not_runs_owned :
    ¬ ∀ (acts : List Act) (s : State), (machine oneAtATime).run {} acts = some s →
      s.handler = none → s.Owned := by
  intro owned
  have refused : ((machine oneAtATime).run {} twoRequests).map (fun s =>
      (s.handler, (s.rows.get? (.ofNat 2)).map (·.status), s.tasks.get? (.ofNat 2))) =
      some (none, some .pending, none) := by decide +kernel
  obtain ⟨s, ran, at_end⟩ := Option.map_eq_some_iff.mp refused
  simp only [Prod.mk.injEq, Option.map_eq_some_iff] at at_end
  obtain ⟨free, ⟨row, found, pending⟩, untasked⟩ := at_end
  obtain ⟨task, taken, -⟩ := owned _ s ran free _ row found (by rw [pending]; rfl)
  rw [untasked] at taken
  cases taken

/-- A run that is created, started and stopped by a request. -/
def stoppedRun : List Act :=
  [.createRun (.ofNat 1) { scenarioType := .normal } 0, .start 0, .createTask,
    .execute (.ofNat 1) 1, .stopRun (.ofNat 1) 2, .cancelTask]

theorem runs_owned_stoppedRun :
    ∃ s : State, (machine oneAtATime).run {} stoppedRun = some s ∧ s.Owned ∧
      (s.rows.get? (.ofNat 1)).map (·.status) = some .stopRequested := by
  have stopped : ((machine oneAtATime).run {} stoppedRun).map (fun s =>
      (s.handler, (s.rows.get? (.ofNat 1)).map (·.status))) = some (none, some .stopRequested) := by
    decide +kernel
  obtain ⟨s, ran, at_end⟩ := Option.map_eq_some_iff.mp stopped
  simp only [Prod.mk.injEq] at at_end
  exact ⟨s, ran, (runs_owned (by decide +kernel) ran).1 at_end.1, at_end.2⟩

end

end CommercePlatform.Demo
