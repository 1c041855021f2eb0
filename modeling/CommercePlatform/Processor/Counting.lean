import Mathlib.Tactic.Ring
import CommercePlatform.Processor.Discipline

/-!
What a call of `process` counts.

A monitor adds up the tallies of a call and keeps which of its collaborators have failed
(`Tallied`). The parts of `process` that its branches share are followed once: a loop of
attempts (`retry_counts`), a dead letter (`deadLetter_counts`) and a release.
-/

namespace CommercePlatform.Processor

open Contract Idempotency Persistence

/-! ### The monitor -/

/-- What is added to a counter. -/
def amount (counts : List (Counter × Int)) (c : Counter) : Int :=
  (counts.map fun entry => if entry.1 = c then entry.2 else 0).sum

/-- What a call has counted, and whether its reservation, its last `persist`, its completion
or its commit has failed. -/
structure Tallied where
  total : Counter → Int := fun _ => 0
  reserveFailed : Bool := false
  persistFailed : Bool := false
  completeFailed : Bool := false
  commitFailed : Bool := false

namespace Tallied

def add (st : Tallied) (counts : List (Counter × Int)) : Tallied :=
  { st with total := fun c => st.total c + amount counts c }

@[simp] theorem add_total (st : Tallied) (counts : List (Counter × Int)) (c : Counter) :
    (st.add counts).total c = st.total c + amount counts c := rfl

@[simp] theorem add_reserveFailed (st : Tallied) (counts : List (Counter × Int)) :
    (st.add counts).reserveFailed = st.reserveFailed := rfl

@[simp] theorem add_persistFailed (st : Tallied) (counts : List (Counter × Int)) :
    (st.add counts).persistFailed = st.persistFailed := rfl

@[simp] theorem add_completeFailed (st : Tallied) (counts : List (Counter × Int)) :
    (st.add counts).completeFailed = st.completeFailed := rfl

@[simp] theorem add_commitFailed (st : Tallied) (counts : List (Counter × Int)) :
    (st.add counts).commitFailed = st.commitFailed := rfl

end Tallied

@[simp] theorem amount_nil (c : Counter) : amount [] c = 0 := rfl

@[simp] theorem amount_cons (entry : Counter × Int) (counts : List (Counter × Int)) (c : Counter) :
    amount (entry :: counts) c = (if entry.1 = c then entry.2 else 0) + amount counts c := rfl

@[simp] theorem amount_append (counts counts' : List (Counter × Int)) (c : Counter) :
    amount (counts ++ counts') c = amount counts c + amount counts' c := by
  simp [amount]

theorem amount_absent {counts : List (Counter × Int)} {c : Counter}
    (absent : ∀ entry ∈ counts, entry.1 ≠ c) : amount counts c = 0 := by
  induction counts with
  | nil => rfl
  | cons entry counts ih =>
    rw [amount_cons, if_neg (absent entry List.mem_cons_self), zero_add]
    exact ih fun later mem => absent later (List.mem_cons_of_mem entry mem)

def counting : Monitor Effect Effect.Answer Tallied where
  allows _ _ := True
  next st s r :=
    match s, r with
    | .tally counts, _ => st.add counts
    | .reserve .., (answer : Except PyException Reservation) =>
      { st with reserveFailed := !answer.isOk }
    | .persist .., (answer : Except PyException PersistenceResult) =>
      { st with persistFailed := !answer.isOk }
    | .complete .., (answer : Except PyException Bool) =>
      { st with completeFailed := decide (answer.toOption ≠ some true) }
    | .commitTerminal _, (answer : Except PyException Unit) =>
      { st with commitFailed := !answer.isOk }
    | _, _ => st

/-- What the calls have counted. -/
def tallied (calls : List ((s : Effect) × s.Answer)) : Tallied := counting.after {} calls

/-! ### Persistence -/

/-- The counters of what a transaction has written and how long it took. -/
def Counter.isDetail : Counter → Bool
  | .rowsWrittenByTable _ | .fraudEvaluations | .fraudAlertsCreated | .fraudOutboxRowsCreated
  | .approveDecisions | .reviewDecisions | .blockDecisions | .matchedRules _
  | .slowDatabaseOperations => true
  | _ => false

/-- A transaction is counted once, as committed or as found persisted, with its details. -/
theorem persistenceCounts_eq (config : ProcessorConfig) (result : PersistenceResult) :
    ∃ details, persistenceCounts config result =
        (if result.alreadyPersisted then .alreadyPersistedEvents else .databaseTransactionsCommitted,
          1) :: details ∧
      ∀ entry ∈ details, entry.1.isDetail = true := by
  have slow : ∀ entry ∈ (if config.dbLogSlowQueryMs ≤ result.durationMs then
      [((.slowDatabaseOperations, 1) : Counter × Int)] else []), entry.1.isDetail = true := by
    intro entry mem
    split at mem
    · rw [List.mem_singleton.mp mem]
      rfl
    · cases mem
  unfold persistenceCounts
  split
  · exact ⟨_, rfl, slow⟩
  · refine ⟨_, rfl, fun entry mem => ?_⟩
    rw [List.append_eq, List.mem_append] at mem
    rcases mem with written | late
    · simp only [List.append_eq, List.nil_append, List.mem_append, List.mem_map, List.mem_cons,
        List.not_mem_nil, or_false] at written
      rcases written with ((⟨row, -, rfl⟩ | rfl | rfl | rfl) | decision) | ⟨rule, -, rfl⟩
      · rfl
      · rfl
      · rfl
      · rfl
      · split at decision
        · rw [List.mem_singleton.mp decision]
          rfl
        · rw [List.mem_singleton.mp decision]
          rfl
        · rw [List.mem_singleton.mp decision]
          rfl
        · cases decision
      · rfl
    · exact slow entry late

section

variable {st : Tallied} {α : Type} {event : EventEnvelope} {message : ConsumedMessage}

theorem tally_counts {Q : Tallied → Except PyException α → Prop} {counts : List (Counter × Int)}
    {f : Unit → Proc α} (next : (f ()).Follows counting Q (st.add counts)) :
    (tally counts >>= f).Follows counting Q st :=
  ⟨trivial, fun _ => next⟩

/-! ### Attempts -/

/-- The counters that a loop of attempts adds to. -/
def attemptCounters : List Counter :=
  [.databaseTransactionsStarted, .databaseTransactionsRolledBack, .retries, .databaseRetries]

/-- What a loop of attempts has counted: every started transaction is rolled back, but for that
of the result. -/
structure Attempted (st st' : Tallied) (ok : Bool) : Prop where
  others : ∀ c, c ∉ attemptCounters → st'.total c = st.total c
  transactions : st'.total .databaseTransactionsStarted -
      st'.total .databaseTransactionsRolledBack =
    st.total .databaseTransactionsStarted - st.total .databaseTransactionsRolledBack +
      if ok then 1 else 0
  reserveFailed : st'.reserveFailed = st.reserveFailed
  persistFailed : st'.persistFailed = !ok
  completeFailed : st'.completeFailed = st.completeFailed
  commitFailed : st'.commitFailed = st.commitFailed

/-- The rest of a loop of attempts, after tallies of its own. -/
theorem Attempted.tallies {st st' : Tallied} {counts : List (Counter × Int)} {ok : Bool}
    (own : ∀ c, c ∉ attemptCounters → amount counts c = 0)
    (balanced : amount counts .databaseTransactionsStarted =
      amount counts .databaseTransactionsRolledBack)
    (rest : Attempted (st.add counts) st' ok) : Attempted st st' ok := by
  refine ⟨fun c other => ?_, ?_, rest.reserveFailed, rest.persistFailed, rest.completeFailed,
    rest.commitFailed⟩
  · rw [rest.others c other, Tallied.add_total, own c other, add_zero]
  · rw [rest.transactions, Tallied.add_total, Tallied.add_total, balanced]
    ring

theorem attempt_own {counts : List (Counter × Int)}
    (own : ∀ entry ∈ counts, entry.1 ∈ attemptCounters) {c : Counter} (other : c ∉ attemptCounters) :
    amount counts c = 0 := by
  refine amount_absent fun entry mem => ?_
  rintro rfl
  exact other (own entry mem)

theorem handle_counts (attempt : Nat) :
    (handle event message attempt).Follows counting (fun st' r => Attempted st st' r.isOk) st := by
  have started : ∀ {c}, c ∉ attemptCounters →
      amount [(.databaseTransactionsStarted, 1)] c = 0 := attempt_own (by decide)
  have undone : ∀ {c}, c ∉ attemptCounters →
      amount [(.databaseTransactionsRolledBack, 1)] c = 0 := attempt_own (by decide)
  refine tally_counts ⟨trivial, fun answer => ?_⟩
  cases answer with
  | ok result =>
    refine ⟨fun c other => ?_, ?_, rfl, rfl, rfl, rfl⟩
    · show st.total c + _ = _
      rw [started other, add_zero]
    · show st.total _ + 1 - (st.total _ + 0) = _ + 1
      ring
  | error e =>
    refine tally_counts ⟨fun c other => ?_, ?_, rfl, rfl, rfl, rfl⟩
    · show st.total c + _ + _ = _
      rw [started other, undone other, add_zero, add_zero]
    · show st.total _ + 1 + 0 - (st.total _ + 0 + 1) = _ + 0
      ring

theorem Attempted.trans {st st' st'' : Tallied} {ok : Bool} (first : Attempted st st' false)
    (rest : Attempted st' st'' ok) : Attempted st st'' ok := by
  refine ⟨fun c other => ?_, ?_, rest.reserveFailed.trans first.reserveFailed, rest.persistFailed,
    rest.completeFailed.trans first.completeFailed, rest.commitFailed.trans first.commitFailed⟩
  · rw [rest.others c other, first.others c other]
  · rw [rest.transactions, first.transactions]
    simp

theorem retryFrom_counts (left attempt : Nat) (some_left : left ≠ 0) :
    (retryFrom (handle event message) onRetry left attempt).Follows counting
      (fun st' r => Attempted st st' r.isOk) st := by
  induction left generalizing attempt st with
  | zero => exact absurd rfl some_left
  | succ left ih =>
    refine Prog.Follows.thenWith ((handle_counts attempt).mono fun st' r attempted => ?_)
    cases r with
    | ok result => exact attempted
    | error e =>
      refine Prog.Follows.ite (fun again => ?_) fun ends => attempted
      refine tally_counts ((ih (attempt + 1) again.2).mono fun st'' r rest => ?_)
      refine attempted.trans (rest.tallies (fun c other => attempt_own ?_ other) ?_)
      · split <;> decide
      · split <;> decide

variable (processor : MessageProcessor)

/-- All attempts at the event. -/
theorem retry_counts :
    (runWithRetry processor.config.maxProcessingAttempts (handle event message) onRetry).Follows
      counting (fun st' r => Attempted st st' r.isOk) st :=
  retryFrom_counts _ 1 processor.config.attempts_pos.ne'

/-! ### Dead letters and releases -/

/-- What a dead letter has counted at its end. -/
inductive Deadlettered (st : Tallied) (attempts : Nat) :
    Tallied → Except PyException ProcessingOutcome → Prop where
  | refused : Deadlettered st attempts (st.add [(.unresolvedRecords, 1)])
      (.ok { status := .unresolved, attempts })
  | published : Deadlettered st attempts
      (({ st with commitFailed := false }.add [(.commitSuccesses, 1)]).add [(.dlqRecords, 1)])
      (.ok { status := .dlq, attempts })
  | uncommitted (e : PyException) : Deadlettered st attempts
      ({ st with commitFailed := true }.add [(.commitFailures, 1), (.unresolvedRecords, 1)])
      (.error e)
  | raised (e : PyException) : Deadlettered st attempts st (.error e)

theorem commit_counts {Q : Tallied → Except PyException α → Prop} {f : Unit → Proc α}
    (committed : (f ()).Follows counting Q
      ({ st with commitFailed := false }.add [(.commitSuccesses, 1)]))
    (failed : ∀ e, Q ({ st with commitFailed := true }.add
      [(.commitFailures, 1), (.unresolvedRecords, 1)]) (.error e)) :
    (MessageProcessor.commit message >>= f).Follows counting Q st := by
  refine ⟨trivial, fun answer => ?_⟩
  cases answer with
  | ok _ => exact ⟨trivial, fun _ => committed⟩
  | error e => exact ⟨trivial, fun _ => failed e⟩

theorem deadLetter_counts (error : ValidationErrorInfo) (attempts : Nat) :
    (processor.deadLetter message error attempts).Follows counting (Deadlettered st attempts) st := by
  have ended : ∀ r, (MessageProcessor.afterPublish message attempts r).Follows counting
      (Deadlettered st attempts) st := by
    intro r
    cases r with
    | ok _ => exact commit_counts ⟨trivial, fun _ => .published⟩ .uncommitted
    | error e =>
      exact Prog.Follows.ite (fun _ => tally_counts .refused) fun _ => .raised e
  refine ⟨trivial, fun failedAt => Prog.Follows.thenWith ?_⟩
  unfold MessageProcessor.publish
  split
  · exact ended _
  · refine ⟨trivial, fun answer => ?_⟩
    cases answer <;> exact ended _

/-- What a release has counted at its end. -/
inductive Released (st : Tallied) : Tallied → Except PyException Unit → Prop where
  | released : Released st st (.ok ())
  | failed : Released st (st.add [(.redisErrors, 1)]) (.ok ())
  | raised (e : PyException) : Released st st (.error e)

theorem safeRelease_counts (eventId : UUID) (token : String) :
    (MessageProcessor.safeRelease eventId token).Follows counting (Released st) st := by
  refine ⟨trivial, fun answer => ?_⟩
  cases answer with
  | ok _ => exact .released
  | error e => exact Prog.Follows.ite (fun _ => ⟨trivial, fun _ => .failed⟩) fun _ => .raised e

end

end CommercePlatform.Processor
