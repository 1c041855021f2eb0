import CommercePlatform.Demo.Ownership

/-!
The concurrency limit, and that a run is generated once.

`start` counts the tasks that are not done before it moves the row to STARTING, and
creates the task only after: in between the handler holds the slot that it found free
(`Limited.room`). The status tells where the task stands (`Limited.placed`), and a row
never goes back to STARTING: `_generate` is entered at most once for a run, over any
number of stops, retries and restarts of the process (`runs_limited`).
-/

namespace CommercePlatform.Demo

variable {config : DemoConfig}

/-! ### Tasks that are not done -/

/-- What a task counts for in `active`. -/
def Task.load (task : Task) : Nat := if task.phase ≠ .done then 1 else 0

theorem Task.load_le (task : Task) : task.load ≤ 1 := by
  unfold load
  split <;> omega

theorem countP_setEntries {id : UUID} {task : Task} {l : List (UUID × Task)}
    (distinct : (l.map Prod.fst).Nodup) :
    ((Dict.setEntries id task l).map Prod.snd).countP (fun t => t.phase ≠ .done) +
        (l.lookup id).elim 0 Task.load =
      (l.map Prod.snd).countP (fun t => t.phase ≠ .done) + task.load := by
  induction l with
  | nil => simp [Dict.setEntries, Task.load, List.countP_cons]
  | cons e rest ih =>
    obtain ⟨key, held⟩ := e
    simp only [List.map_cons, List.nodup_cons] at distinct
    by_cases same : key = id
    · subst same
      simp [Dict.setEntries, List.countP_cons, Task.load]
      omega
    · have counted := ih distinct.2
      rw [Dict.lookup_cons_ne _ _ (Ne.symm same)]
      simp only [Dict.setEntries, same, if_false, List.map_cons, List.countP_cons]
      omega

theorem active_set (tasks : Dict UUID Task) (id : UUID) (task : Task) :
    ((tasks.set id task).values.countP fun t => t.phase ≠ .done) +
        (tasks.get? id).elim 0 Task.load =
      (tasks.values.countP fun t => t.phase ≠ .done) + task.load :=
  countP_setEntries tasks.nodupKeys

theorem active_erase_le (tasks : Dict UUID Task) (id : UUID) :
    ((tasks.erase id).values.countP fun t => t.phase ≠ .done) ≤
      tasks.values.countP fun t => t.phase ≠ .done :=
  (List.filter_sublist.map _).countP_le

/-! ### The invariant -/

/-- The statuses of a run whose task stands there. -/
def TaskPhase.At : TaskPhase → RunStatus → Prop
  | .scheduled, status | .done, status => status = .starting
  | .generating, status | .waiting, status => status = .running ∨ status = .stopRequested

/-- What the rest of the handler relies on. -/
def Handler.Awaits (rows : DemoRuns) (tasks : Dict UUID Task) : Handler → Prop
  | .created id => (∃ row, rows.get? id = some row ∧ row.status = .pending) ∧ tasks.get? id = none
  | .starting id =>
    (∃ row, rows.get? id = some row ∧ row.status = .starting) ∧ tasks.get? id = none
  | .cancelling _ => True

/-- The slot that `start` has found free and not filled yet. -/
def State.reserved (s : State) : Nat :=
  match s.handler with
  | some (.starting _) => 1
  | _ => 0

structure Limited (config : DemoConfig) (s : State) : Prop where
  room : s.active + s.reserved ≤ config.demoMaxConcurrentRuns
  placed : ∀ id task, s.tasks.get? id = some task →
    ∃ row, s.rows.get? id = some row ∧ task.phase.At row.status
  awaits : ∀ handler, s.handler = some handler → handler.Awaits s.rows s.tasks

theorem limited_init : Limited config {} := by
  constructor
  · exact Nat.zero_le _
  · intro id task found
    simp at found
  · intro handler busy
    cases busy

/-- A step that only concerns the run `id`. -/
theorem Limited.update {s t : State} (h : Limited config s) (id : UUID)
    (room : t.active + t.reserved ≤ config.demoMaxConcurrentRuns)
    (rows : ∀ key, key ≠ id → t.rows.get? key = s.rows.get? key)
    (tasks : ∀ key, key ≠ id → t.tasks.get? key = s.tasks.get? key)
    (placed : ∀ task, t.tasks.get? id = some task →
      ∃ row, t.rows.get? id = some row ∧ task.phase.At row.status)
    (awaits : ∀ handler, t.handler = some handler → handler.Awaits t.rows t.tasks) :
    Limited config t := by
  constructor
  · exact room
  · intro key task found
    by_cases same : key = id
    · subst same
      exact placed task found
    · rw [tasks key same] at found
      rw [rows key same]
      exact h.placed key task found
  · exact awaits

section

variable {s : State} (h : Limited config s) {id : UUID} {now : Instant}

include h

/-- The handler ends and nothing else changes. -/
theorem Limited.handled : Limited config { s with handler := none } := by
  constructor
  · exact (Nat.le_add_right _ _).trans h.room
  · exact h.placed
  · intro handler busy
    cases busy

/-- `create_run` and `retry_run` up to the row. -/
theorem Limited.create (fresh : s.rows.get? id = none) (request : RunCreate) :
    Limited config
      { s with rows := s.rows.create id request now, handler := some (.created id) } := by
  have untasked : s.tasks.get? id = none := by
    cases found : s.tasks.get? id with
    | none => rfl
    | some task =>
      obtain ⟨row, present, -⟩ := h.placed id task found
      rw [fresh] at present
      cases present
  apply h.update id
  · exact (Nat.le_add_right _ _).trans h.room
  · intro key other
    exact Dict.get?_set_ne _ _ other
  · intro key other
    rfl
  · intro task found
    have found : s.tasks.get? id = some task := found
    rw [untasked] at found
    cases found
  · intro handler busy
    cases busy
    exact ⟨⟨_, Dict.get?_set_self _ _ _, rfl⟩, untasked⟩

/-- A task moves or is gone, and with it the row of its run. -/
theorem Limited.task (id : UUID) {rows : DemoRuns} {tasks : Dict UUID Task}
    (room : (tasks.values.countP fun t => t.phase ≠ .done) ≤ config.demoMaxConcurrentRuns)
    (others : ∀ key, key ≠ id → rows.get? key = s.rows.get? key)
    (otherTasks : ∀ key, key ≠ id → tasks.get? key = s.tasks.get? key)
    (placed : ∀ task, tasks.get? id = some task →
      ∃ row, rows.get? id = some row ∧ task.phase.At row.status) :
    Limited config { rows, tasks, handler := none } := by
  apply h.update id
  · exact room
  · exact others
  · exact otherTasks
  · exact placed
  · intro handler busy
    cases busy

/-- The task of a run is put in another phase, which is over only when it was. -/
theorem Limited.live_set {task task' : Task} (found : s.tasks.get? id = some task)
    (load : task'.load ≤ task.load) :
    ((s.tasks.set id task').values.countP fun t => t.phase ≠ .done) ≤
      config.demoMaxConcurrentRuns := by
  have counted := active_set s.tasks id task'
  have room := h.room
  simp only [found, Option.elim_some] at counted
  simp only [State.active] at room
  omega

theorem Limited.live_erase :
    ((s.tasks.erase id).values.countP fun t => t.phase ≠ .done) ≤
      config.demoMaxConcurrentRuns :=
  (active_erase_le s.tasks id).trans ((Nat.le_add_right _ _).trans h.room)

end

/-! ### Every step -/

section

variable {s t : State} (h : Limited config s)

include h

theorem step_limited_start {now : Instant} (stepped : step config s (.start now) = some t) :
    Limited config t := by
  simp only [step] at stepped
  split at stepped
  · rename_i id busy
    obtain ⟨⟨row, found, pending⟩, untasked⟩ := h.awaits _ busy
    split at stepped
    · cases stepped
      exact h.handled
    · split at stepped
      · cases stepped
        exact h.handled
      · rename_i below
        have allowed : transitionAllowed row.status .starting = true := by
          rw [pending]
          rfl
        have started := transition_allowed found allowed none none now
        rw [started] at stepped
        cases stepped
        apply h.update id
        · change s.active + 1 ≤ _
          omega
        · intro key other
          exact Dict.get?_set_ne _ _ other
        · intro key other
          rfl
        · intro task taken
          have taken : s.tasks.get? id = some task := taken
          rw [untasked] at taken
          cases taken
        · intro handler same
          cases same
          exact ⟨⟨_, Dict.get?_set_self _ _ _, rfl⟩, untasked⟩
  · cases stepped

theorem step_limited_createTask (stepped : step config s .createTask = some t) :
    Limited config t := by
  simp only [step] at stepped
  split at stepped
  · rename_i id busy
    cases stepped
    obtain ⟨⟨row, found, starting⟩, untasked⟩ := h.awaits _ busy
    apply h.task id
    · have counted := active_set s.tasks id { phase := .scheduled }
      have room := h.room
      simp only [State.active, State.reserved, busy] at room
      simp only [untasked, Option.elim_none] at counted
      have load : Task.load { phase := .scheduled } = 1 := rfl
      omega
    · intro key other
      rfl
    · intro key other
      exact Dict.get?_set_ne _ _ other
    · intro task taken
      rw [Dict.get?_set_self] at taken
      cases taken
      exact ⟨row, found, starting⟩
  · cases stepped

theorem step_limited_stopRun {id : UUID} {now : Instant}
    (stepped : step config s (.stopRun id now) = some t) : Limited config t := by
  have idle : ∀ handler, some (Handler.cancelling id) = some handler →
      ∀ rows tasks, handler.Awaits rows tasks := by
    rintro handler same rows tasks
    cases same
    trivial
  simp only [step] at stepped
  split at stepped
  · rename_i row free found
    have room : s.active + 0 ≤ config.demoMaxConcurrentRuns := (Nat.le_add_right _ _).trans h.room
    split at stepped
    · cases stepped
      exact h
    · split at stepped
      · rename_i running
        have allowed : transitionAllowed row.status .stopRequested = true := by
          rw [running]
          rfl
        rw [transition_allowed found allowed] at stepped
        cases stepped
        apply h.update id
        · exact room
        · intro key other
          exact Dict.get?_set_ne _ _ other
        · intro key other
          rfl
        · intro task taken
          obtain ⟨row', present, stands⟩ := h.placed id task taken
          rw [found] at present
          cases present
          refine ⟨_, Dict.get?_set_self _ _ _, ?_⟩
          rw [running] at stands
          cases phase : task.phase <;> rw [phase] at stands
          · cases stands
          · exact Or.inr rfl
          · exact Or.inr rfl
          · cases stands
        · intro handler same
          exact idle handler same _ _
      · cases stepped
        apply h.update id
        · exact room
        · intro key other
          rfl
        · intro key other
          rfl
        · exact h.placed id
        · intro handler same
          exact idle handler same _ _
  · cases stepped

theorem step_limited_cancelTask (stepped : step config s .cancelTask = some t) :
    Limited config t := by
  simp only [step] at stepped
  split at stepped
  · rename_i id busy
    split at stepped
    · rename_i task taken
      split at stepped
      · cases stepped
        exact h.handled
      · cases stepped
        apply h.task id
        · exact h.live_set taken (le_refl _)
        · intro key other
          rfl
        · intro key other
          exact Dict.get?_set_ne _ _ other
        · intro task' found
          rw [Dict.get?_set_self] at found
          cases found
          exact h.placed id task taken
    · cases stepped
      exact h.handled
  · cases stepped

theorem step_limited_execute {id : UUID} {now : Instant}
    (stepped : step config s (.execute id now) = some t) : Limited config t := by
  simp only [step] at stepped
  split at stepped
  · rename_i cancelled free taken
    obtain ⟨row, found, starting⟩ := h.placed id _ taken
    have starting : row.status = .starting := starting
    split at stepped
    · cases stepped
      rw [free]
      apply h.task id
      · exact h.live_set taken (Nat.zero_le _)
      · intro key other
        rfl
      · intro key other
        exact Dict.get?_set_ne _ _ other
      · intro task found'
        rw [Dict.get?_set_self] at found'
        cases found'
        exact ⟨row, found, starting⟩
    · have allowed : transitionAllowed row.status .running = true := by
        rw [starting]
        rfl
      rw [transition_allowed found allowed] at stepped
      cases stepped
      rw [free]
      apply h.task id
      · exact h.live_set taken (le_refl 1)
      · intro key other
        exact Dict.get?_set_ne _ _ other
      · intro key other
        exact Dict.get?_set_ne _ _ other
      · intro task found'
        rw [Dict.get?_set_self] at found'
        cases found'
        exact ⟨_, Dict.get?_set_self _ _ _, Or.inl rfl⟩
  · cases stepped

theorem step_limited_awaitProcessing {id : UUID}
    (stepped : step config s (.awaitProcessing id) = some t) : Limited config t := by
  simp only [step] at stepped
  split at stepped
  · rename_i free taken
    simp only [Option.ite_none_right_eq_some, Option.some.injEq] at stepped
    obtain ⟨-, rfl⟩ := stepped
    rw [free]
    apply h.task id
    · exact h.live_set taken (le_refl 1)
    · intro key other
      rfl
    · intro key other
      exact Dict.get?_set_ne _ _ other
    · intro task found
      rw [Dict.get?_set_self] at found
      cases found
      obtain ⟨row, present, stands⟩ := h.placed id _ taken
      exact ⟨row, present, stands⟩
  · cases stepped

theorem step_limited_leave {id : UUID} {exit : Exit} {now : Instant}
    (stepped : step config s (.leave id exit now) = some t) : Limited config t := by
  simp only [step] at stepped
  split at stepped
  · rename_i task free taken
    simp only [Option.ite_none_right_eq_some, Option.some.injEq] at stepped
    obtain ⟨-, rfl⟩ := stepped
    rw [free]
    apply h.task id
    · exact h.live_erase
    · intro key other
      exact leave_others _ _ _ other
    · intro key other
      exact Dict.get?_erase_ne _ other
    · intro task' found
      simp at found
  · cases stepped

end

theorem step_limited {s t : State} {a : Act} (h : Limited config s)
    (stepped : step config s a = some t) : Limited config t := by
  cases a with
  | createRun id request now =>
    simp only [step, Option.ite_none_right_eq_some, Option.some.injEq] at stepped
    obtain ⟨⟨-, fresh, -⟩, rfl⟩ := stepped
    exact h.create fresh request
  | retryRun old id now =>
    simp only [step] at stepped
    split at stepped
    · simp only [Option.ite_none_right_eq_some, Option.some.injEq] at stepped
      obtain ⟨⟨-, fresh, -⟩, rfl⟩ := stepped
      exact h.create fresh _
    · cases stepped
  | start now => exact step_limited_start h stepped
  | createTask => exact step_limited_createTask h stepped
  | stopRun id now => exact step_limited_stopRun h stepped
  | cancelTask => exact step_limited_cancelTask h stepped
  | execute id now => exact step_limited_execute h stepped
  | awaitProcessing id => exact step_limited_awaitProcessing h stepped
  | leave id exit now => exact step_limited_leave h stepped
  | restart now =>
    cases stepped
    constructor
    · exact Nat.zero_le _
    · intro id task found
      simp at found
    · intro handler busy
      cases busy

/-! ### A run is generated once -/

/-- The step is the one in which the task of `id` enters `_generate`. -/
def enters (config : DemoConfig) (id : UUID) (s : State) (a : Act) : Bool :=
  match step config s a with
  | some t =>
    (s.tasks.get? id).any (·.phase = .scheduled) && (t.tasks.get? id).any (·.phase = .generating)
  | none => false

/-- The run has been RUNNING, or will never be. -/
def Begun (id : UUID) (s : State) : Prop :=
  ∃ row, s.rows.get? id = some row ∧ row.status ≠ .pending ∧ row.status ≠ .starting

theorem step_begun {id : UUID} {s t : State} {a : Act} (begun : Begun id s)
    (stepped : step config s a = some t) : Begun id t := by
  obtain ⟨row, found, unpending, unstarted⟩ := begun
  obtain ⟨row', present, same | allowed⟩ := step_follows stepped id row found
  · exact ⟨row', present, by rw [same]; exact unpending, by rw [same]; exact unstarted⟩
  · refine ⟨row', present, ?_⟩
    revert unpending unstarted allowed
    cases row.status <;> cases row'.status <;> decide

theorem enters_fresh {id : UUID} {s : State} {a : Act} (h : Limited config s)
    (entered : enters config id s a = true) : ¬ Begun id s := by
  rintro ⟨row, found, -, unstarted⟩
  unfold enters at entered
  split at entered
  · rw [Bool.and_eq_true, Option.any_eq_true] at entered
    obtain ⟨⟨task, taken, scheduled⟩, -⟩ := entered
    obtain ⟨row', present, stands⟩ := h.placed id task taken
    rw [found] at present
    cases present
    rw [of_decide_eq_true scheduled] at stands
    exact unstarted stands
  · cases entered

theorem enters_begun {id : UUID} {s t : State} {a : Act} (h : Limited config s)
    (entered : enters config id s a = true) (stepped : step config s a = some t) :
    Begun id t := by
  simp only [enters, stepped, Bool.and_eq_true, Option.any_eq_true] at entered
  obtain ⟨-, task, taken, generating⟩ := entered
  obtain ⟨row, found, stands⟩ := (step_limited h stepped).placed id task taken
  rw [of_decide_eq_true generating] at stands
  rcases stands with running | requested
  · exact ⟨row, found, by rw [running]; decide, by rw [running]; decide⟩
  · exact ⟨row, found, by rw [requested]; decide, by rw [requested]; decide⟩

/-! ### Every run -/

/-- After every run of requests, task steps and restarts: at most `demo_max_concurrent_runs`
tasks are not done, the status of a run with a task says where the task stands, and no run
has been generated twice. -/
theorem runs_limited {acts : List Act} {s : State}
    (ran : (machine config).run {} acts = some s) :
    s.active ≤ config.demoMaxConcurrentRuns ∧
      (∀ id task, s.tasks.get? id = some task →
        ∃ row, s.rows.get? id = some row ∧ task.phase.At row.status) ∧
      ∀ id, (machine config).tally (enters config id) {} acts ≤ 1 := by
  have limited : Limited config s := (machine config).invariant
    (fun _ _ _ limited stepped => step_limited limited stepped) limited_init ran
  refine ⟨(Nat.le_add_right _ _).trans limited.room, limited.placed, fun id => ?_⟩
  have once := (machine config).tally_le_one (Limited config) (Begun id)
    (fun _ _ _ limited stepped => step_limited limited stepped)
    (fun _ _ _ begun stepped => step_begun begun stepped)
    (fun _ _ limited entered => enters_fresh limited entered)
    (fun _ _ _ limited entered stepped => enters_begun limited entered stepped) limited_init acts
  exact once.1

/-- The second run has to wait for the first, which times out and is retried. -/
def twoRuns : List Act :=
  [.createRun (.ofNat 1) { scenarioType := .normal } 0, .start 0, .createTask,
    .execute (.ofNat 1) 1, .createRun (.ofNat 2) { scenarioType := .bot } 1, .start 1,
    .leave (.ofNat 1) .timedOut 9, .retryRun (.ofNat 1) (.ofNat 3) 10, .start 10, .createTask,
    .execute (.ofNat 3) 11]

theorem runs_limited_twoRuns :
    ∃ s : State, (machine oneAtATime).run {} twoRuns = some s ∧ s.active ≤ 1 ∧
      (machine oneAtATime).tally (enters oneAtATime (.ofNat 3)) {} twoRuns ≤ 1 := by
  have ends : ((machine oneAtATime).run {} twoRuns).isSome = true := by decide +kernel
  obtain ⟨s, ran⟩ := Option.isSome_iff_exists.mp ends
  obtain ⟨active, -, once⟩ := runs_limited ran
  exact ⟨s, ran, active, once (.ofNat 3)⟩

end CommercePlatform.Demo
