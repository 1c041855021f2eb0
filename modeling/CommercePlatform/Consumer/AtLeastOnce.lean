import CommercePlatform.Consumer.Serial

/-!
At-least-once processing.

A record is durable when its event is in the ledger with its canonical hash, or a
dead-letter record of it was confirmed; neither is ever undone. `Safe` says that every
committed offset, every tracker and every read position is covered by durable records,
and that a record in processing is committed only when it is durable itself.
-/

namespace CommercePlatform.Consumer.Cluster

open Contract Offset Persistence Processor

variable {d : Deployment}

/-- The event of the record is in the ledger with the same canonical hash, or a
dead-letter record of it was confirmed. -/
def Durable (st : Cluster d) (m : ConsumedMessage) : Prop :=
  (∃ value event, m.value = some value ∧ d.parser.parseEvent value = .ok event ∧
    Persisted st.service.store.committed.db event.eventId
      (d.uow.rt.canonicalPayloadHash event)) ∨
  ∃ record ∈ st.dlq, record.isFor m

/-- The offset holds a record that is not durable. -/
def pending (st : Cluster d) (k : PartitionKey) (o : Int) : Prop :=
  ∃ r, d.log.record k o = some r ∧ ¬ Durable st (r.message k o)

/-! ### The invariant -/

/-- A record in processing. -/
structure JobSafe (st : Cluster d) (p : Nat) (run : Running) (job : Job) : Prop where
  /-- It is the record of the log at its offset, the last one fetched of its partition, -/
  record : ∃ r k o, d.log.record k o = some r ∧ job.message = r.message k o
  position : ∀ pos, run.positions.get? (messageKey job.message) = some pos →
    pos = job.message.offset + 1
  /-- what lies before it is durable unless the tracker looks after the partition, -/
  anchored : run.consumer.tracker.partitions.get? (messageKey job.message) = none →
    Covered (pending st (messageKey job.message)) job.message.offset
  /-- and it keeps the discipline. -/
  progress : ∃ progress, job.Disciplined ((d.processor p).eventOf job.message) progress ∧
    (progress.durable = true → Durable st job.message)
  awaited : ∀ id, job.call = some id → ∃ event,
    (d.processor p).eventOf job.message = some event ∧ st.service.Awaited id event

/-- What must be durable before a read position. -/
def Anchored (st : Cluster d) (phase : Phase) (k : PartitionKey) (pos : Int) : Prop :=
  match phase with
  | .polling => Covered (pending st k) pos
  | .processing job => messageKey job.message ≠ k → Covered (pending st k) pos
  | .closing => True

structure RunSafe (st : Cluster d) (p : Nat) (run : Running) : Prop where
  secure : run.consumer.tracker.Secure (pending st)
  positions : ∀ k pos, run.positions.get? k = some pos →
    run.consumer.tracker.partitions.get? k = none → Anchored st run.phase k pos
  job : ∀ job, run.phase = .processing job → JobSafe st p run job

/-- Nothing that is not durable lies below what is committed or could be. -/
structure Safe (db : Db) (st : Cluster d) : Prop where
  ledgered : st.service.Ledgered db
  committed : ∀ k, Covered (pending st k) (st.committed k)
  running : ∀ p run, st.running.get? p = some run → RunSafe st p run

/-! ### Growth -/

/-- What was durable stays durable, and whoever waits for `persist` may go on waiting. -/
structure Grows (st st' : Cluster d) : Prop where
  durable : ∀ m, Durable st m → Durable st' m
  awaited : ∀ id event, st.service.Awaited id event → st'.service.Awaited id event

theorem Grows.of_same {st st' : Cluster d} (service : st'.service = st.service)
    (dlq : ∀ record ∈ st.dlq, record ∈ st'.dlq) : Grows st st' := by
  refine ⟨fun m durable => ?_, fun id event awaited => service ▸ awaited⟩
  rcases durable with ⟨value, event, here, parsed, persisted⟩ | ⟨record, mem, own⟩
  · exact Or.inl ⟨value, event, here, parsed, service ▸ persisted⟩
  · exact Or.inr ⟨record, dlq record mem, own⟩

theorem Grows.of_step {st st' : Cluster d} {db : Db} {l : ServiceLabel}
    (ledgered : st.service.Ledgered db) (stepped : st.service.step l = some st'.service)
    (dlq : st'.dlq = st.dlq) : Grows st st' := by
  refine ⟨fun m durable => ?_, fun id event awaited => awaited.step ledgered stepped⟩
  rcases durable with ⟨value, event, here, parsed, persisted⟩ | ⟨record, mem, own⟩
  · exact Or.inl ⟨value, event, here, parsed, ledgered.kept stepped persisted⟩
  · exact Or.inr ⟨record, dlq ▸ mem, own⟩

section

variable {st st' : Cluster d} {db : Db} {p : Nat} {run : Running}

theorem Grows.pending (grows : Grows st st') {k : PartitionKey} {o : Int} :
    Cluster.pending st' k o → Cluster.pending st k o := by
  rintro ⟨r, found, undone⟩
  exact ⟨r, found, fun durable => undone (grows.durable _ durable)⟩

theorem Grows.covered (grows : Grows st st') {k : PartitionKey} {n : Int}
    (covered : Covered (Cluster.pending st k) n) : Covered (Cluster.pending st' k) n :=
  covered.mono fun _ => grows.pending

theorem Anchored.grow {phase : Phase} {k : PartitionKey} {pos : Int}
    (h : Anchored st phase k pos) (grows : Grows st st') : Anchored st' phase k pos := by
  cases phase with
  | polling => exact grows.covered h
  | processing job => exact fun other => grows.covered (h other)
  | closing => trivial

theorem JobSafe.grow {job : Job} (h : JobSafe st p run job) (grows : Grows st st') :
    JobSafe st' p run job := by
  obtain ⟨progress, disciplined, durable⟩ := h.progress
  exact ⟨h.record, h.position, fun gone => grows.covered (h.anchored gone),
    ⟨progress, disciplined, fun known => grows.durable _ (durable known)⟩,
    fun id waits => (h.awaited id waits).imp fun event => .imp_right (grows.awaited id event)⟩

theorem RunSafe.grow (h : RunSafe st p run) (grows : Grows st st') : RunSafe st' p run :=
  ⟨h.secure.mono fun _ _ => grows.pending,
    fun k pos at_ gone => (h.positions k pos at_ gone).grow grows,
    fun job working => (h.job job working).grow grows⟩

/-- One process moves, and what it commits is covered. -/
theorem Safe.move (h : Safe db st) (grows : Grows st st') (ledgered : st'.service.Ledgered db)
    (committed : ∀ k, Covered (Cluster.pending st' k) (st'.committed k))
    (running : st'.running = st.running.set p run) (moved : RunSafe st' p run) : Safe db st' := by
  refine ⟨ledgered, committed, fun q other present => ?_⟩
  rw [running, Dict.get?_set] at present
  split at present
  · rename_i same
    cases present
    exact same ▸ moved
  · exact (h.running q other present).grow grows


/-- Nothing durable changes. -/
theorem Grows.same (service : st'.service = st.service) (dlq : st'.dlq = st.dlq) : Grows st st' :=
  .of_same service fun _ mem => dlq ▸ mem

theorem Safe.update (h : Safe db st) (moved : RunSafe st p run) : Safe db (st.update p run) :=
  have grows : Grows st (st.update p run) := .same rfl rfl
  h.move grows h.ledgered (fun k => grows.covered (h.committed k)) rfl (moved.grow grows)

/-- The broker stores covered commits. -/
theorem Safe.store (h : Safe db st) {reply : CommitReply} {commits : Dict PartitionKey Int}
    (covered : ∀ k n, commits.get? k = some n → Covered (Cluster.pending st k) n)
    (k : PartitionKey) : Covered (Cluster.pending st k) (st.store p reply commits k) := by
  unfold Cluster.store
  split
  · exact CommitReply.store_covered h.committed covered k
  · exact h.committed k

theorem Safe.called (h : Safe db st) {reply : CommitReply} {call : Call}
    (secure : call.Secure (Cluster.pending st))
    (moved : RunSafe st p { run with consumer := call.consumer }) :
    Safe db (st.called p reply call run) :=
  have grows : Grows st (st.called p reply call run) := .same rfl rfl
  h.move grows h.ledgered (fun k => grows.covered (h.store secure.commits k)) rfl
    (moved.grow grows)

theorem Safe.erase (h : Safe db st) (p : Nat) :
    Safe db { st with running := st.running.erase p } := by
  have grows : Grows st { st with running := st.running.erase p } := .same rfl rfl
  refine ⟨h.ledgered, fun k => grows.covered (h.committed k), fun q run present => ?_⟩
  simp only [Dict.get?_erase] at present
  split at present
  · cases present
  · exact (h.running q run present).grow grows

/-! ### Where a process is -/

theorem polling_some (here : st.polling p = some run) :
    st.running.get? p = some run ∧ run.phase = .polling := by
  obtain ⟨found, phase⟩ := Option.filter_eq_some_iff.mp here
  refine ⟨found, ?_⟩
  cases at_ : run.phase <;> simp_all

theorem closing_some (here : st.closing p = some run) :
    st.running.get? p = some run ∧ run.phase = .closing := by
  obtain ⟨found, phase⟩ := Option.filter_eq_some_iff.mp here
  refine ⟨found, ?_⟩
  cases at_ : run.phase <;> simp_all

theorem working_some {job : Job} (here : st.working p = some (run, job)) :
    st.running.get? p = some run ∧ run.phase = .processing job := by
  obtain ⟨run', found, at_⟩ := Option.bind_eq_some_iff.mp here
  split at at_
  · rename_i phase
    cases at_
    exact ⟨found, phase⟩
  · cases at_

/-! ### A process without a record -/

/-- A process that is polling or closing. -/
structure Idle (st : Cluster d) (run : Running) : Prop where
  secure : run.consumer.tracker.Secure (Cluster.pending st)
  positions : run.phase = .polling → ∀ k pos, run.positions.get? k = some pos →
    run.consumer.tracker.partitions.get? k = none → Covered (Cluster.pending st k) pos

theorem RunSafe.idle (h : RunSafe st p run) : Idle st run := by
  refine ⟨h.secure, fun phase k pos at_ gone => ?_⟩
  have anchored := h.positions k pos at_ gone
  rw [phase] at anchored
  exact anchored

theorem Idle.runSafe (h : Idle st run) (free : ∀ job, run.phase ≠ .processing job) :
    RunSafe st p run := by
  refine ⟨h.secure, fun k pos at_ gone => ?_, fun job working => absurd working (free job)⟩
  cases phase : run.phase with
  | polling => exact h.positions phase k pos at_ gone
  | processing job => exact absurd phase (free job)
  | closing => trivial

theorem Idle.close (h : Idle st run) : Idle st { run with phase := .closing } :=
  ⟨h.secure, fun phase => by cases phase⟩

/-- The next record of a partition lies where everything before it is durable. -/
theorem Idle.next (h : Idle st run) (polls : run.phase = .polling) {k : PartitionKey} {pos o : Int}
    (at_ : run.positions.get? k = some pos)
    (gone : run.consumer.tracker.partitions.get? k = none) (next : d.log.next k pos o = true) :
    Covered (Cluster.pending st k) o := by
  rintro o' ⟨r, found, undone⟩
  have beyond := h.positions polls k pos at_ gone o' ⟨r, found, undone⟩
  exact Log.next_least next (by simp [found]) beyond

/-! ### The steps -/

theorem Safe.assign (h : Safe db st) {keys : List PartitionKey} (here : st.polling p = some run) :
    Safe db (st.update p { run with
      consumer := run.consumer.onAssign keys
      positions := keys.foldl (fun ps k => ps.set k (st.committed k)) run.positions }) := by
  obtain ⟨found, phase⟩ := polling_some here
  have idle := (h.running p run found).idle
  refine h.update (Idle.runSafe ⟨idle.secure, fun _ k pos at_ gone => ?_⟩ (by simp [phase]))
  simp only [Dict.get?_foldl_set] at at_
  split at at_
  · cases at_
    exact h.committed k
  · exact idle.positions phase k pos at_ gone

theorem Safe.revoke (h : Safe db st) {keys : List PartitionKey} {reply : CommitReply}
    (here : (st.polling p).orElse (fun _ => st.closing p) = some run) :
    Safe db (st.called p reply (run.consumer.onRevoke keys reply)
      { run with positions := keys.foldl Dict.erase run.positions }) := by
  obtain ⟨found, free⟩ : st.running.get? p = some run ∧ ∀ job, run.phase ≠ .processing job := by
    rcases Option.or_eq_some_iff.mp ((Option.orElse_eq_or ..).symm.trans here) with polls | ⟨-, closes⟩
    · obtain ⟨found, phase⟩ := polling_some polls
      exact ⟨found, by simp [phase]⟩
    · obtain ⟨found, phase⟩ := closing_some closes
      exact ⟨found, by simp [phase]⟩
  have idle := (h.running p run found).idle
  have secure := EventConsumer.onRevoke_secure idle.secure keys reply
  refine h.called secure (Idle.runSafe ⟨secure.tracker, fun phase k pos at_ gone => ?_⟩ free)
  simp only [Dict.get?_foldl_erase] at at_
  split at at_
  · cases at_
  · rename_i other
    exact idle.positions phase k pos at_ (EventConsumer.onRevoke_tracked other gone)

theorem Safe.idle (h : Safe db st) {reply : CommitReply} (here : st.polling p = some run) :
    Safe db (st.called p reply (run.consumer.maybeFlushIdle reply)
      { run with
        phase := if (run.consumer.maybeFlushIdle reply).raised then .closing else .polling }) := by
  obtain ⟨found, phase⟩ := polling_some here
  have idle := (h.running p run found).idle
  have secure := EventConsumer.maybeFlushIdle_secure idle.secure reply
  refine h.called secure (Idle.runSafe ⟨secure.tracker, fun _ k pos at_ gone => ?_⟩ ?_)
  · exact idle.positions phase k pos at_ (EventConsumer.maybeFlushIdle_tracked gone)
  · intro job
    dsimp only
    split <;> simp

theorem Safe.close (h : Safe db st) (found : st.running.get? p = some run) :
    Safe db (st.update p { run with phase := .closing }) :=
  h.update ((h.running p run found).idle.close.runSafe (by simp))

theorem Safe.flush (h : Safe db st) {reply : CommitReply} (here : st.closing p = some run) :
    Safe db (st.called p reply (run.consumer.flushPending reply) run) := by
  obtain ⟨found, phase⟩ := closing_some here
  have secure := EventConsumer.flushPending_secure (h.running p run found).secure reply
  refine h.called secure (Idle.runSafe ⟨secure.tracker, fun polls => ?_⟩ (by simp [phase]))
  exact absurd (phase.symm.trans polls) (by simp)

theorem Safe.deliver (h : Safe db st) {k : PartitionKey} {pos o : Int} {r : Record} {token : String}
    (here : st.polling p = some run) (at_ : run.positions.get? k = some pos)
    (held : d.log.record k o = some r) (next : d.log.next k pos o = true) :
    Safe db (st.update p { run with
      positions := run.positions.set k (o + 1)
      phase := .processing
        { message := r.message k o, body := (d.processor p).process (r.message k o) token } }) := by
  obtain ⟨found, phase⟩ := polling_some here
  have idle := (h.running p run found).idle
  refine h.update ⟨idle.secure, fun k' pos' at' gone other => ?_, ?_⟩
  · rw [messageKey_message] at other
    rw [Dict.get?_set_ne _ _ (Ne.symm other)] at at'
    exact idle.positions phase k' pos' at' gone
  · rintro job working
    cases working
    refine ⟨⟨r, k, o, held, rfl⟩, fun pos' at' => ?_, fun gone => idle.next phase at_ gone next,
      ⟨{}, process_follows (d.processor p) _ token, fun impossible => by cases impossible⟩,
      fun id waits => by cases waits⟩
    rw [messageKey_message, Dict.get?_set_self] at at'
    exact (Option.some.inj at').symm

/-! ### The steps of a record in processing -/

variable {job job' : Job}

/-- What a job must keep while it goes on. -/
structure JobKept (st : Cluster d) (p : Nat) (m : ConsumedMessage) (job : Job) : Prop where
  message : job.message = m
  progress : ∃ progress, job.Disciplined ((d.processor p).eventOf m) progress ∧
    (progress.durable = true → Durable st m)
  awaited : ∀ id, job.call = some id → ∃ event,
    (d.processor p).eventOf m = some event ∧ st.service.Awaited id event

theorem JobSafe.next (h : JobSafe st p run job) (kept : JobKept st p job.message job') :
    JobSafe st p { run with phase := .processing job' } job' := by
  have message := kept.message
  refine ⟨message ▸ h.record, ?_, ?_, message ▸ kept.progress, message ▸ kept.awaited⟩
  · rw [message]; exact h.position
  · rw [message]; exact h.anchored

theorem RunSafe.work (h : RunSafe st p run) (working : run.phase = .processing job)
    (kept : JobKept st p job.message job') :
    RunSafe st p { run with phase := .processing job' } := by
  refine ⟨h.secure, fun k pos at_ gone => ?_, fun other same => ?_⟩
  · have anchored := h.positions k pos at_ gone
    rw [working] at anchored
    simpa only [Anchored, kept.message] using anchored
  · cases same
    exact (h.job job working).next kept

theorem JobSafe.done (h : JobSafe st p run job) (durable : Durable st job.message) :
    ¬ Cluster.pending st (messageKey job.message) job.message.offset := by
  obtain ⟨r, k, o, held, same⟩ := h.record
  rw [same] at durable ⊢
  rintro ⟨r', held', undone⟩
  cases Option.some.inj (held.symm.trans held')
  exact undone durable

theorem Safe.reply (h : Safe db st) {answer : Reply} (here : st.working p = some (run, job))
    (replied : job.reply answer = some job') :
    Safe db { st.update p { run with phase := .processing job' } with
      dlq := (job.confirms answer).toList ++ st.dlq } := by
  obtain ⟨found, working⟩ := working_some here
  have runs := h.running p run found
  have safe := runs.job job working
  obtain ⟨progress, disciplined, durable⟩ := safe.progress
  obtain ⟨progress', disciplined', message, call, -, -, more⟩ := disciplined.reply replied
  set st' : Cluster d := { st.update p { run with phase := .processing job' } with
    dlq := (job.confirms answer).toList ++ st.dlq } with after
  have grows : Grows st st' := .of_same rfl fun _ mem => List.mem_append_right _ mem
  refine h.move grows h.ledgered (fun k => grows.covered (h.committed k)) rfl
    ((runs.grow grows).work working ⟨message, ⟨progress', disciplined', fun known => ?_⟩, ?_⟩)
  · rcases more known with before | ⟨record, confirmed, own⟩
    · exact grows.durable _ (durable before)
    · exact Or.inr ⟨record, by simp [after, confirmed], own⟩
  · rw [call]
    exact (safe.grow grows).awaited

theorem Safe.commit (h : Safe db st) {m : ConsumedMessage}
    {k : Effect.Answer (.commitTerminal m) → Proc ProcessingOutcome} {reply : CommitReply}
    {answer : Except PyException Unit} (here : st.working p = some (run, job))
    (commits : job.body = .call (.commitTerminal m) k)
    (replied : job.reply (.committed answer) = some job') :
    Safe db (st.called p reply (run.consumer.commitTerminal m reply)
      { run with phase := .processing job' }) := by
  obtain ⟨found, working⟩ := working_some here
  have runs := h.running p run found
  have safe := runs.job job working
  obtain ⟨progress, disciplined, durable⟩ := safe.progress
  obtain ⟨rfl, known⟩ : m = job.message ∧ progress.durable = true := by
    have follows := disciplined
    unfold Job.Disciplined at follows
    rw [commits] at follows
    exact follows.1
  have secure : (run.consumer.commitTerminal job.message reply).Secure (Cluster.pending st) :=
    EventConsumer.commitTerminal_secure runs.secure reply (safe.done (durable known))
      fun _ => safe.anchored
  obtain ⟨progress', disciplined', message, call, -, -, more⟩ := disciplined.reply replied
  have kept : JobKept st p job.message job' :=
    ⟨message, ⟨progress', disciplined', fun _ => durable known⟩, call ▸ safe.awaited⟩
  have moved := runs.work working kept
  have tracked : ∀ k, (run.consumer.commitTerminal job.message reply).consumer.tracker.partitions.get?
      k = none → run.consumer.tracker.partitions.get? k = none :=
    fun _ => EventConsumer.commitTerminal_tracked
  refine h.called secure ⟨secure.tracker, fun k pos at_ gone => ?_, fun other same => ?_⟩
  · exact moved.positions k pos at_ (tracked k gone)
  · have safe' := moved.job other same
    exact ⟨safe'.record, safe'.position, fun gone => safe'.anchored (tracked _ gone),
      safe'.progress, safe'.awaited⟩

theorem Safe.persist (h : Safe db st) {now : Instant} {call : PersistCall}
    (here : st.working p = some (run, job))
    (calls : job.persistCall (d.processor p).instanceId now = some call) :
    Safe db { st.update p { run with
      phase := .processing { job with call := some st.service.started } } with
      service := st.service.begin_ call } := by
  obtain ⟨found, working⟩ := working_some here
  have runs := h.running p run found
  have safe := runs.job job working
  obtain ⟨progress, disciplined, durable⟩ := safe.progress
  set st' : Cluster d := { st.update p { run with
    phase := .processing { job with call := some st.service.started } } with
    service := st.service.begin_ call }
  have stepped : st.service.step (.call call) = some st'.service := rfl
  have grows : Grows st st' := .of_step h.ledgered stepped rfl
  refine h.move grows (h.ledgered.step stepped) (fun k => grows.covered (h.committed k)) rfl
    ((runs.grow grows).work working
      ⟨rfl, ⟨progress, disciplined, fun known => grows.durable _ (durable known)⟩, ?_⟩)
  rintro id same
  cases same
  exact ⟨call.event, (disciplined.persistCall calls).1, h.ledgered.accounted.awaited call⟩

theorem Safe.database (h : Safe db st) {l : ServiceLabel} {service : Service d.uow}
    (stepped : st.service.step l = some service) : Safe db { st with service } := by
  have grows : Grows st { st with service } := .of_step h.ledgered stepped rfl
  exact ⟨h.ledgered.step stepped, fun k => grows.covered (h.committed k),
    fun q run present => (h.running q run present).grow grows⟩

/-- A valid record is one that parses. -/
theorem eventOf_parsed {m : ConsumedMessage} {event : EventEnvelope}
    (valid : (d.processor p).eventOf m = some event) :
    ∃ value, m.value = some value ∧ d.parser.parseEvent value = .ok event := by
  unfold MessageProcessor.eventOf at valid
  split at valid
  · rename_i validated
    cases valid
    rcases Validator.validateMessage_cases validated with ⟨value, event', here, parsed, same⟩ | rejected
    · cases same
      rw [d.parser_eq p] at parsed
      exact ⟨value, here, parsed⟩
    · cases rejected
  · cases valid

theorem Safe.resume (h : Safe db st) {id : Nat} {ending : Ended}
    {answer : Except PyException PersistenceResult} (here : st.working p = some (run, job))
    (waits : job.call = some id) (ended : st.service.ended.lookup id = some ending)
    (answered : ending.answer = some answer) (resumed : job.resume answer = some job') :
    Safe db (st.update p { run with phase := .processing job' }) := by
  obtain ⟨found, working⟩ := working_some here
  have runs := h.running p run found
  have safe := runs.job job working
  obtain ⟨progress, disciplined, durable⟩ := safe.progress
  obtain ⟨progress', disciplined', message, call, -, -, more⟩ := disciplined.resume resumed
  obtain ⟨event, valid, awaited⟩ := safe.awaited id waits
  obtain ⟨value, held, parsed⟩ := eventOf_parsed valid
  refine h.update (runs.work working ⟨message, ⟨progress', disciplined', fun known => ?_⟩, ?_⟩)
  · rcases more known with before | returned
    · exact durable before
    · obtain ⟨result, rfl⟩ : ∃ result, answer = .ok result := by
        cases answer with
        | ok result => exact ⟨result, rfl⟩
        | error e => cases returned
      exact Or.inl ⟨value, event, held, parsed, awaited.answered ending result ended answered⟩
  · rw [call]
    exact fun _ impossible => by cases impossible

/-- A process that polls again has left a durable record behind. -/
theorem Safe.again (h : Safe db st) {outcome : ProcessingOutcome}
    (here : st.working p = some (run, job)) (finished : job.body = .pure outcome)
    (terminal : outcome.terminal = true) :
    Safe db (st.update p { run with phase := .polling }) := by
  obtain ⟨found, working⟩ := working_some here
  have runs := h.running p run found
  have safe := runs.job job working
  obtain ⟨progress, disciplined, durable⟩ := safe.progress
  have settled : Settled progress (.ok outcome) := by
    unfold Job.Disciplined at disciplined
    rw [finished] at disciplined
    exact disciplined
  have done := safe.done (durable (settled outcome rfl terminal))
  refine h.update (Idle.runSafe ⟨runs.secure, fun _ k pos at_ gone => ?_⟩ (by simp))
  have anchored := runs.positions k pos at_ gone
  rw [working] at anchored
  by_cases own : messageKey job.message = k
  · subst own
    rw [safe.position pos at_]
    intro o undone
    have beyond := safe.anchored gone o undone
    rcases beyond.lt_or_eq with further | same
    · exact further
    · exact absurd (same ▸ undone) done
  · exact anchored own

theorem Safe.finish (h : Safe db st) {result : Except PyException ProcessingOutcome}
    (here : st.working p = some (run, job)) (finished : job.result = some result) :
    Safe db (match result with
      | .ok outcome => st.update p { run with phase := if outcome.terminal then .polling else .closing }
      | .error _ => st.update p { run with phase := .closing }) := by
  have found := (working_some here).1
  cases result with
  | error e => exact h.close found
  | ok outcome =>
    have body : job.body = .pure outcome := by
      unfold Job.result at finished
      split at finished <;> cases finished
      assumption
    cases terminal : outcome.terminal with
    | true => simpa [terminal] using h.again here body terminal
    | false => simpa [terminal] using h.close found

theorem Safe.step {l : SerialLabel} (h : Safe db st) (stepped : st.step l = some st') :
    Safe db st' := by
  cases l with
  | start p batchSize intervalSeconds now =>
    simp only [Cluster.step] at stepped
    split at stepped
    · cases stepped
      exact h.update (Idle.runSafe ⟨fun k s present => by simp at present,
        fun _ k pos at_ => by simp at at_⟩ (by simp))
    · cases stepped
  | rebalance owner =>
    cases stepped
    have grows : Grows st { st with owner } := .same rfl rfl
    exact ⟨h.ledgered, fun k => grows.covered (h.committed k),
      fun q run present => (h.running q run present).grow grows⟩
  | assign p keys =>
    obtain ⟨run, here, stepped⟩ := Option.bind_eq_some_iff.mp stepped
    split at stepped
    · cases stepped
      exact h.assign here
    · cases stepped
  | revoke p keys reply =>
    obtain ⟨run, here, rfl⟩ := Option.map_eq_some_iff.mp stepped
    exact h.revoke here
  | idle p reply =>
    obtain ⟨run, here, rfl⟩ := Option.map_eq_some_iff.mp stepped
    exact h.idle here
  | pollFailed p =>
    obtain ⟨run, here, rfl⟩ := Option.map_eq_some_iff.mp stepped
    exact h.close (polling_some here).1
  | deliver p key offset token =>
    obtain ⟨run, here, stepped⟩ := Option.bind_eq_some_iff.mp stepped
    obtain ⟨position, at_, stepped⟩ := Option.bind_eq_some_iff.mp stepped
    obtain ⟨record, held, stepped⟩ := Option.bind_eq_some_iff.mp stepped
    split at stepped
    · rename_i next
      cases stepped
      exact h.deliver here at_ held next
    · cases stepped
  | reply p answer =>
    obtain ⟨⟨run, job⟩, here, stepped⟩ := Option.bind_eq_some_iff.mp stepped
    dsimp only at stepped
    split at stepped
    · cases stepped
    · obtain ⟨job', replied, rfl⟩ := Option.map_eq_some_iff.mp stepped
      exact h.reply here replied
  | commit p reply =>
    obtain ⟨⟨run, job⟩, here, stepped⟩ := Option.bind_eq_some_iff.mp stepped
    dsimp only at stepped
    split at stepped
    · rename_i commits
      obtain ⟨job', replied, rfl⟩ := Option.map_eq_some_iff.mp stepped
      exact h.commit here commits replied
    · cases stepped
  | persist p now =>
    obtain ⟨⟨run, job⟩, here, stepped⟩ := Option.bind_eq_some_iff.mp stepped
    obtain ⟨call, calls, rfl⟩ := Option.map_eq_some_iff.mp stepped
    exact h.persist here calls
  | database l =>
    obtain ⟨service, moved, rfl⟩ := Option.map_eq_some_iff.mp stepped
    exact h.database moved
  | resume p =>
    obtain ⟨⟨run, job⟩, here, stepped⟩ := Option.bind_eq_some_iff.mp stepped
    obtain ⟨id, waits, stepped⟩ := Option.bind_eq_some_iff.mp stepped
    obtain ⟨ending, ended, stepped⟩ := Option.bind_eq_some_iff.mp stepped
    obtain ⟨answer, answered, stepped⟩ := Option.bind_eq_some_iff.mp stepped
    obtain ⟨job', resumed, rfl⟩ := Option.map_eq_some_iff.mp stepped
    exact h.resume here waits ended answered resumed
  | finish p =>
    obtain ⟨⟨run, job⟩, here, stepped⟩ := Option.bind_eq_some_iff.mp stepped
    obtain ⟨result, finished, rfl⟩ := Option.map_eq_some_iff.mp stepped
    exact h.finish here finished
  | shutdown p =>
    obtain ⟨run, here, rfl⟩ := Option.map_eq_some_iff.mp stepped
    exact h.close (polling_some here).1
  | flush p reply =>
    obtain ⟨run, here, rfl⟩ := Option.map_eq_some_iff.mp stepped
    exact h.flush here
  | exit p =>
    obtain ⟨run, -, rfl⟩ := Option.map_eq_some_iff.mp stepped
    exact h.erase p
  | crash p =>
    cases stepped
    exact h.erase p

end

/-! ### Every run -/

/-- Nothing lies below the starting position. -/
theorem safe_init (d : Deployment) (db : Db) : Safe db (init d db) := by
  refine ⟨Service.ledgered_init, fun k o => ?_, fun p run present => by simp [init] at present⟩
  rintro ⟨r, held, -⟩
  exact d.log.from_start k o (by simp [held])

/-- At-least-once processing: in every run of any number of serial processors, every
record below the committed offset of its partition is durable. -/
theorem at_least_once {db : Db} {labels : List SerialLabel} {st : Cluster d}
    (ran : (machine d).run (init d db) labels = some st) {k : PartitionKey} {o : Int} {r : Record}
    (held : d.log.record k o = some r) (below : o < st.committed k) :
    Durable st (r.message k o) := by
  have safe := (machine d).invariant (fun _ _ _ => Safe.step) (safe_init d db) ran
  by_contra undone
  exact absurd (safe.committed k o ⟨r, held, undone⟩) (by omega)

/-- A record without a value, and a registration. -/
def plainDeployment : Deployment where
  uow := plainUow
  parser := plainValidator.toParser
  processor _ := plainProcessor
  parser_eq _ := rfl
  log :=
    { start := fun _ => 0
      record := fun k o =>
        if k = ("t", 0) ∧ 0 ≤ o then
          [⟨none, none, none, []⟩,
            ⟨none, (plainMessage 1).key, (plainMessage 1).value, plainHeaders⟩][o.toNat]?
        else none
      from_start := by
        intro k o held
        split at held
        · rename_i from_
          exact from_.2
        · cases held }

/-- The first record is dead-lettered, the second persisted, and both are committed. -/
def plainRun : List SerialLabel :=
  [.start 0 1 10 0, .rebalance fun _ => some 0, .assign 0 [("t", 0)], .deliver 0 ("t", 0) 0 "x",
    .reply 0 .tallied, .reply 0 .tallied, .reply 0 (.clock 0), .reply 0 (.delivered .confirmed),
    .commit 0 {}, .reply 0 .tallied, .reply 0 .tallied, .finish 0, .deliver 0 ("t", 0) 1 "y",
    .reply 0 .tallied, .reply 0 .tallied, .reply 0 (.reserved (.ok ⟨.reserved, none, none⟩)),
    .reply 0 .tallied, .persist 0 0] ++ List.replicate 5 (.database (.statement 0)) ++
    [.database (.commit 0), .resume 0, .reply 0 .tallied, .reply 0 (.completed (.ok true)),
      .commit 0 {}, .reply 0 .tallied, .reply 0 .tallied, .finish 0]

theorem at_least_once_plainRun :
    ∃ st, (machine plainDeployment).run (init plainDeployment {}) plainRun = some st ∧
      st.committed ("t", 0) = 2 ∧ ∃ r, plainDeployment.log.record ("t", 0) 1 = some r ∧
        Durable st (r.message ("t", 0) 1) := by
  have ends : ((machine plainDeployment).run (init plainDeployment {}) plainRun).map
      (fun st => st.committed ("t", 0)) = some 2 := by decide +kernel
  obtain ⟨st, ran, committed⟩ := Option.map_eq_some_iff.mp ends
  exact ⟨st, ran, committed, _, rfl, at_least_once ran rfl (by rw [committed]; decide)⟩

end CommercePlatform.Consumer.Cluster
