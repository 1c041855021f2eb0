import CommercePlatform.Processor.Summary

/-!
The accounts of a run.

A record that has been consumed is owed one outcome, and a transaction that has been started
one end. `Books` says what a call still owes; every branch of `process` pays it
(`process_closes`, `processPlain_closes` where no persistence is configured), so the counters
of any calls agree, and so do those of merged summaries (`run_summary_accounts`).
-/

namespace CommercePlatform.Processor

open Contract Idempotency Persistence

/-! ### Without persistence -/

/-- `_handle`, without persistence; `handler` says how each attempt at the handler ends. -/
def handlePlain (handler : Nat → Except PyException Unit) (attempt : Nat) : Proc PersistenceResult :=
  match handler attempt with
  | .ok () => return { alreadyPersisted := false }
  | .error e => .throw e

namespace MessageProcessor

variable (processor : MessageProcessor)

/-- `process` from the completion of a reservation on. -/
def completeReservation (event : EventEnvelope) (message : ConsumedMessage) (token : String)
    (attempts : Nat) : Proc ProcessingOutcome := do
  match ← perform (.complete event.eventId token) with
  | .error e =>
    if e.isInstance .retryableProcessingError then do
      tally [(.redisErrors, 1), (.unresolvedRecords, 1)]
      return { status := .unresolved, attempts }
    else .throw e
  | .ok false => do
    tally [(.redisErrors, 1), (.unresolvedRecords, 1)]
    return { status := .unresolved, attempts }
  | .ok true => do
    commit message
    tally [(.processedRecords, 1), (.processedEvents event.eventType, 1)]
    processor.observeTerminal (some event.eventType)
      { status := .processed, attempts, eventType := some event.eventType }

theorem processHandled_eq (event : EventEnvelope) (message : ConsumedMessage) (token : String)
    (result : PersistenceResult) (attempts : Nat) :
    processor.processHandled event message token result attempts =
      tally (persistenceCounts processor.config result) >>= fun _ =>
        processor.completeReservation event message token attempts := rfl

/-- The branch for a completed event, without persistence. -/
def completedPlain (event : EventEnvelope) (message : ConsumedMessage) : Proc ProcessingOutcome := do
  commit message
  tally [(.duplicateRecords, 1)]
  processor.observeTerminal (some event.eventType)
    { status := .duplicate, eventType := some event.eventType }

/-- The branch for a reserved event, without persistence. -/
def reservedPlain (handler : Nat → Except PyException Unit) (event : EventEnvelope)
    (message : ConsumedMessage) (token : String) : Proc ProcessingOutcome :=
  (runWithRetry processor.config.maxProcessingAttempts (handlePlain handler) onRetry).thenWith fun
    | .ok (_, attempts) => processor.completeReservation event message token attempts
    | .error (.processor e) => processor.processFailed event message token e
    | .error e => .throw e

/-- `process`, with its branches for a completed and for a reserved event. -/
def processWith (completed reserved : EventEnvelope → Proc ProcessingOutcome)
    (message : ConsumedMessage) (token : String) : Proc ProcessingOutcome := do
  tally ((if processor.metrics then [(.inflight, 1)] else []) ++ [(.consumedRecords, 1)])
  match processor.validator.validateMessage message with
  | .error e => .throw e
  | .ok (.invalid error) => do
    tally [(.validationFailures error.category, 1)]
    let outcome ← processor.deadLetter message error 1
    processor.observeTerminal none outcome
  | .ok (.valid event) => do
    tally [(.validRecords, 1)]
    match ← perform (.reserve event.eventId token message) with
    | .error e =>
      if e.isInstance .retryableProcessingError then do
        tally [(.redisErrors, 1), (.unresolvedRecords, 1)]
        return { status := .unresolved }
      else .throw e
    | .ok reservation =>
      match reservation.state with
      | .completed => completed event
      | .processing => do
        tally [(.unresolvedRecords, 1)]
        processor.observeTerminal (some event.eventType) { status := .unresolved }
      | .reserved => reserved event

theorem process_eq_with (message : ConsumedMessage) (token : String) :
    processor.process message token =
      processor.processWith (fun event => processor.processCompleted event message)
        (fun event => processor.processReserved event message token) message token := by
  unfold process processWith
  congr 1
  funext _
  cases processor.validator.validateMessage message with
  | error e => rfl
  | ok validation =>
    cases validation with
    | invalid error => rfl
    | valid event =>
      refine congrArg (fun k => tally [(.validRecords, 1)] >>= k) (funext fun _ => ?_)
      refine congrArg (fun k => perform (.reserve event.eventId token message) >>= k)
        (funext fun answer => ?_)
      cases answer with
      | error e => rfl
      | ok reservation =>
        obtain ⟨state, owner, existing⟩ := reservation
        cases state <;> rfl

/-- `process`, when no persistence is configured. -/
def processPlain (handler : Nat → Except PyException Unit) (message : ConsumedMessage)
    (token : String) : Proc ProcessingOutcome :=
  processor.processWith (fun event => processor.completedPlain event message)
    (fun event => processor.reservedPlain handler event message token) message token

end MessageProcessor

/-! ### Books -/

/-- What counters owe to each other: records without an outcome, commits without one,
records that are neither valid nor invalid, and transactions without an end. -/
@[ext]
structure Books where
  unaccounted : Int
  uncommitted : Int
  unvalidated : Int
  unsettled : Int
  deriving DecidableEq

instance : Add Books :=
  ⟨fun a b => ⟨a.unaccounted + b.unaccounted, a.uncommitted + b.uncommitted,
    a.unvalidated + b.unvalidated, a.unsettled + b.unsettled⟩⟩

@[simp] theorem Books.mk_add (a b c d a' b' c' d' : Int) :
    (⟨a, b, c, d⟩ + ⟨a', b', c', d'⟩ : Books) = ⟨a + a', b + b', c + c', d + d'⟩ := rfl

instance : Zero Books := ⟨⟨0, 0, 0, 0⟩⟩

instance : AddCommMonoid Books where
  add_assoc a b c := by
    cases a; cases b; cases c
    simp only [Books.mk_add, add_assoc]
  zero_add a := by
    cases a
    exact (Books.mk_add ..).trans (by simp only [zero_add])
  add_zero a := by
    cases a
    exact (Books.mk_add ..).trans (by simp only [add_zero])
  add_comm a b := by
    cases a; cases b
    simp only [Books.mk_add, add_comm]
  nsmul := nsmulRec

def validationCategories : List ValidationCategory :=
  [.missingValue, .missingKey, .malformedJson, .unknownEventType, .contractValidationFailed,
    .missingHeader, .duplicateHeader, .invalidHeaderEncoding, .invalidContentType,
    .headerBodyMismatch, .keyBodyMismatch, .unsupportedEventVersion, .permanentProcessingError,
    .retryExhausted, .missingBusinessDependency, .databaseIntegrityError]

/-- `sum(validation_failures.values())`. -/
def totalFailures (failures : ValidationCategory → Int) : Int :=
  (validationCategories.map failures).sum

theorem totalFailures_add (f g : ValidationCategory → Int) :
    (totalFailures fun c => f c + g c) = totalFailures f + totalFailures g :=
  List.sum_map_add

def books (total : Counter → Int) : Books where
  unaccounted := total .consumedRecords - (total .processedRecords + total .duplicateRecords +
    total .dlqRecords + total .unresolvedRecords)
  uncommitted := total .commitSuccesses -
    (total .processedRecords + total .duplicateRecords + total .dlqRecords)
  unvalidated := total .consumedRecords -
    (total .validRecords + totalFailures fun category => total (.validationFailures category))
  unsettled := total .databaseTransactionsStarted - (total .databaseTransactionsCommitted +
    total .databaseTransactionsRolledBack + total .alreadyPersistedEvents)

theorem books_add (f g : Counter → Int) : books (fun c => f c + g c) = books f + books g := by
  ext
  · show _ = (_ : Int) + _
    simp only [books]
    ring
  · show _ = (_ : Int) + _
    simp only [books]
    ring
  · show _ = (_ : Int) + _
    simp only [books, totalFailures_add]
    ring
  · show _ = (_ : Int) + _
    simp only [books]
    ring

/-- The counter is on the books. -/
def Counter.onBooks : Counter → Bool
  | .consumedRecords | .processedRecords | .duplicateRecords | .dlqRecords | .unresolvedRecords
  | .commitSuccesses | .validRecords | .validationFailures _ | .databaseTransactionsStarted
  | .databaseTransactionsCommitted | .databaseTransactionsRolledBack | .alreadyPersistedEvents =>
    true
  | _ => false

theorem books_off {counts : List (Counter × Int)}
    (off : ∀ entry ∈ counts, entry.1.onBooks = false) : books (amount counts) = ⟨0, 0, 0, 0⟩ := by
  have absent : ∀ c : Counter, c.onBooks = true → amount counts c = 0 := by
    intro c on
    refine amount_absent fun entry mem => ?_
    rintro rfl
    exact Bool.noConfusion (on.symm.trans (off entry mem))
  have failures : (fun category => amount counts (.validationFailures category)) = fun _ => 0 :=
    funext fun category => absent _ rfl
  simp only [books, failures, absent .consumedRecords rfl, absent .processedRecords rfl,
    absent .duplicateRecords rfl, absent .dlqRecords rfl, absent .unresolvedRecords rfl,
    absent .commitSuccesses rfl, absent .validRecords rfl, absent .databaseTransactionsStarted rfl,
    absent .databaseTransactionsCommitted rfl, absent .databaseTransactionsRolledBack rfl,
    absent .alreadyPersistedEvents rfl]
  rfl

theorem books_cons (entry : Counter × Int) (counts : List (Counter × Int)) :
    books (amount (entry :: counts)) = books (amount [entry]) + books (amount counts) := by
  rw [← books_add]
  congr 1
  funext c
  exact amount_append [entry] counts c

theorem Counter.detail_off {c : Counter} (detail : c.isDetail = true) : c.onBooks = false := by
  cases c <;> first | rfl | cases detail

/-- A transaction is settled where its result is recorded. -/
theorem books_persistence (config : ProcessorConfig) (result : PersistenceResult) :
    books (amount (persistenceCounts config result)) = ⟨0, 0, 0, -1⟩ := by
  obtain ⟨details, same, detail⟩ := persistenceCounts_eq config result
  rw [same, books_cons, books_off fun entry mem => Counter.detail_off (detail entry mem)]
  cases result.alreadyPersisted <;> rfl

theorem books_validationFailure (category : ValidationCategory) :
    books (amount [(.validationFailures category, 1)]) = ⟨0, 0, -1, 0⟩ := by
  cases category <;> rfl

/-! ### Every branch pays -/

section

variable {processor : MessageProcessor} {st st' : Tallied} {b : Books} {event : EventEnvelope}
  {message : ConsumedMessage} {token : String}

/-- A call that has not failed to commit owes so much. -/
def Owes (st : Tallied) (b : Books) : Prop := books st.total = b ∧ st.commitFailed = false

theorem Owes.add {r : Books} (owes : Owes st b) {c : List (Counter × Int)} (d : Books)
    (debt : books (amount c) = d) (sum : b + d = r) : Owes (st.add c) r := by
  refine ⟨?_, owes.2⟩
  show books (fun counter => st.total counter + amount c counter) = r
  rw [books_add, owes.1, debt, sum]

/-- At the end of a call: a returned call owes nothing, and one that has failed to commit at
most the end of its transaction. -/
structure Closed (st : Tallied) (r : Except PyException ProcessingOutcome) : Prop where
  returned : ∀ outcome, r = .ok outcome → books st.total = ⟨0, 0, 0, 0⟩
  uncommitted : st.commitFailed = true → ∃ open_, books st.total = ⟨0, 0, 0, open_⟩

theorem Owes.raised (owes : Owes st b) (e : PyException) : Closed st (.error e) := by
  constructor
  · intro outcome same
    cases same
  · intro failed
    rw [owes.2] at failed
    cases failed

theorem Owes.reserved (owes : Owes st b) (failed : Bool) :
    Owes { st with reserveFailed := failed } b := owes

theorem Owes.completed (owes : Owes st b) (failed : Bool) :
    Owes { st with completeFailed := failed } b := owes

theorem Owes.returned {outcome : ProcessingOutcome} (owes : Owes st ⟨0, 0, 0, 0⟩) :
    Closed st (.ok outcome) :=
  ⟨fun _ _ => owes.1, fun _ => ⟨0, owes.1⟩⟩

theorem Owes.attempted {ok : Bool} {k : Int} (owes : Owes st ⟨1, 0, 0, k⟩)
    (attempted : Attempted st st' ok) : Owes st' ⟨1, 0, 0, k + if ok then 1 else 0⟩ := by
  have others := attempted.others
  have transactions := attempted.transactions
  refine ⟨?_, attempted.commitFailed.trans owes.2⟩
  have before := owes.1
  simp only [books, Books.mk.injEq] at before ⊢
  have failures : (fun category => st'.total (.validationFailures category)) =
      fun category => st.total (.validationFailures category) := by
    funext category
    exact others _ (by simp [attemptCounters])
  rw [failures, others .consumedRecords (by decide), others .processedRecords (by decide),
    others .duplicateRecords (by decide), others .dlqRecords (by decide),
    others .unresolvedRecords (by decide), others .commitSuccesses (by decide),
    others .validRecords (by decide), others .databaseTransactionsCommitted (by decide),
    others .alreadyPersistedEvents (by decide)]
  obtain ⟨first, second, third, fourth⟩ := before
  refine ⟨first, second, third, ?_⟩
  generalize (if ok = true then (1 : Int) else 0) = own at transactions ⊢
  omega

theorem observeTerminal_closes {eventType : Option EventType} {outcome : ProcessingOutcome}
    (owes : Owes st ⟨0, 0, 0, 0⟩) :
    (processor.observeTerminal eventType outcome).Follows counting Closed st := by
  refine Prog.Follows.ite (fun _ => tally_counts ?_) fun _ => owes.returned
  exact Owes.returned (owes.add ⟨0, 0, 0, 0⟩ rfl rfl)

theorem commit_closes {f : Unit → Proc ProcessingOutcome} {k : Int} (owes : Owes st ⟨1, 0, 0, k⟩)
    (next : ∀ st', Owes st' ⟨1, 1, 0, k⟩ → (f ()).Follows counting Closed st') :
    (MessageProcessor.commit message >>= f).Follows counting Closed st := by
  have committed : Owes { st with commitFailed := false } ⟨1, 0, 0, k⟩ := ⟨owes.1, rfl⟩
  refine commit_counts (next _ (committed.add ⟨0, 1, 0, 0⟩ rfl (by simp))) fun e => ?_
  constructor
  · intro outcome same
    cases same
  · intro _
    have paid : Owes (st.add [(.commitFailures, 1), (.unresolvedRecords, 1)]) ⟨0, 0, 0, k⟩ :=
      owes.add ⟨-1, 0, 0, 0⟩ rfl (by simp)
    exact ⟨k, paid.1⟩

/-- The outcome of a dead letter pays for the record. -/
theorem deadLetter_closes {error : ValidationErrorInfo} {attempts : Nat}
    (owes : Owes st ⟨1, 0, 0, 0⟩) :
    (processor.deadLetter message error attempts).Follows counting
      (fun st' r => Closed st' r ∧ ∀ outcome, r = .ok outcome → Owes st' ⟨0, 0, 0, 0⟩) st := by
  refine (deadLetter_counts processor error attempts).mono fun st' r ended => ?_
  cases ended with
  | refused =>
    have paid := owes.add (r := ⟨0, 0, 0, 0⟩) (c := [(.unresolvedRecords, 1)])
      ⟨-1, 0, 0, 0⟩ rfl rfl
    exact ⟨paid.returned, fun _ _ => paid⟩
  | published =>
    have committed : Owes { st with commitFailed := false } ⟨1, 0, 0, 0⟩ := ⟨owes.1, rfl⟩
    have paid := (committed.add (r := ⟨1, 1, 0, 0⟩) (c := [(.commitSuccesses, 1)])
      ⟨0, 1, 0, 0⟩ rfl rfl).add (r := ⟨0, 0, 0, 0⟩) (c := [(.dlqRecords, 1)])
      ⟨-1, -1, 0, 0⟩ rfl rfl
    exact ⟨paid.returned, fun _ _ => paid⟩
  | uncommitted e =>
    have paid := owes.add (r := ⟨0, 0, 0, 0⟩)
      (c := [(.commitFailures, 1), (.unresolvedRecords, 1)]) ⟨-1, 0, 0, 0⟩ rfl rfl
    refine ⟨⟨fun outcome same => ?_, fun _ => ⟨0, paid.1⟩⟩, fun outcome same => ?_⟩ <;> cases same
  | raised e =>
    refine ⟨owes.raised e, fun outcome same => ?_⟩
    cases same

theorem Owes.off {counts : List (Counter × Int)} (owes : Owes st b)
    (off : ∀ entry ∈ counts, entry.1.onBooks = false) : Owes (st.add counts) b := by
  exact owes.add 0 (books_off off) (add_zero b)

/-- After a failed processing: the counters, the release and the dead letter. -/
theorem released_closes {eventId : UUID} {error : ValidationErrorInfo} {attempts : Nat}
    (owes : Owes st ⟨1, 0, 0, 0⟩) :
    (MessageProcessor.safeRelease eventId token >>= fun _ =>
      processor.deadLetter message error attempts).Follows counting Closed st := by
  refine Prog.Follows.bind ((safeRelease_counts eventId token).mono fun st' r ended => ?_)
  cases ended with
  | released => exact (deadLetter_closes owes).mono fun _ _ closed => closed.1
  | failed => exact (deadLetter_closes (owes.off (by decide))).mono fun _ _ closed => closed.1
  | raised e => exact owes.raised e

theorem processFailed_closes {e : ProcessorError} (owes : Owes st ⟨1, 0, 0, 0⟩) :
    (processor.processFailed event message token e).Follows counting Closed st := by
  refine Prog.Follows.ite (fun _ => tally_counts (released_closes (owes.off ?_))) fun _ =>
    Prog.Follows.ite (fun _ => tally_counts (released_closes (owes.off ?_))) fun _ => owes.raised _
  · intro entry mem
    simp only [List.mem_append, List.mem_ite_nil_right, List.mem_cons, List.not_mem_nil,
      or_false] at mem
    rcases mem with (rfl | ⟨-, rfl⟩) | ⟨-, rfl | rfl⟩ <;> rfl
  · intro entry mem
    simp only [List.mem_append, List.mem_ite_nil_right, List.mem_cons, List.not_mem_nil,
      or_false] at mem
    rcases mem with (((rfl | rfl) | ⟨-, rfl⟩) | ⟨-, rfl⟩) | ⟨-, rfl⟩ <;> rfl

theorem completeReservation_closes {attempts : Nat} (owes : Owes st ⟨1, 0, 0, 0⟩) :
    (processor.completeReservation event message token attempts).Follows counting Closed st := by
  refine ⟨trivial, fun answer => ?_⟩
  cases answer with
  | error e =>
    refine Prog.Follows.ite (fun _ => tally_counts ?_) fun _ => (owes.completed true).raised e
    exact ((owes.completed true).add (r := ⟨0, 0, 0, 0⟩) ⟨-1, 0, 0, 0⟩ rfl rfl).returned
  | ok confirmed =>
    cases confirmed with
    | false =>
      exact tally_counts ((owes.completed true).add (r := ⟨0, 0, 0, 0⟩) ⟨-1, 0, 0, 0⟩ rfl rfl).returned
    | true =>
      refine commit_closes (owes.completed false) fun st' owes' => tally_counts (observeTerminal_closes ?_)
      exact owes'.add ⟨-1, -1, 0, 0⟩ rfl rfl

theorem processReserved_closes (owes : Owes st ⟨1, 0, 0, 0⟩) :
    (processor.processReserved event message token).Follows counting Closed st := by
  refine Prog.Follows.thenWith ((retry_counts processor).mono fun st' r attempted => ?_)
  have owes' := owes.attempted attempted
  cases r with
  | ok result =>
    show (processor.processHandled event message token result.1 result.2).Follows counting Closed st'
    rw [MessageProcessor.processHandled_eq]
    exact tally_counts (completeReservation_closes (owes'.add _ (books_persistence _ _) rfl))
  | error e =>
    cases e with
    | processor e => exact processFailed_closes owes'
    | _ => exact owes'.raised _

theorem processCompleted_closes (owes : Owes st ⟨1, 0, 0, 0⟩) :
    (processor.processCompleted event message).Follows counting Closed st := by
  refine Prog.Follows.thenWith ((retry_counts processor).mono fun st' r attempted => ?_)
  have owes' := owes.attempted attempted
  cases r with
  | ok result =>
    show Prog.Follows counting (_ >>= _) Closed st'
    cases found : result.1.alreadyPersisted with
    | true =>
      -- The transaction is settled after the commit.
      refine tally_counts (commit_closes (k := 1) (owes'.off (by simp)) fun st'' owes'' => ?_)
      exact tally_counts (observeTerminal_closes (owes''.add ⟨-1, -1, 0, -1⟩ rfl rfl))
    | false =>
      refine tally_counts (commit_closes (k := 0) (owes'.add _ (books_persistence _ _) rfl) ?_)
      intro st'' owes''
      exact tally_counts (observeTerminal_closes (owes''.add ⟨-1, -1, 0, 0⟩ rfl rfl))
  | error e =>
    cases e with
    | processor e =>
      refine Prog.Follows.ite (fun _ => tally_counts ?_) fun _ => Prog.Follows.ite (fun _ =>
        tally_counts ?_) fun _ => owes'.raised _
      · exact (deadLetter_closes (owes'.off (by simp [Counter.onBooks]))).mono
          fun _ _ closed => closed.1
      · exact (deadLetter_closes (owes'.off (by decide))).mono fun _ _ closed => closed.1
    | _ => exact owes'.raised _

/-- The branches for a completed and for a reserved event decide. -/
theorem processWith_closes {completed reserved : EventEnvelope → Proc ProcessingOutcome}
    (completes : ∀ event st, Owes st ⟨1, 0, 0, 0⟩ → (completed event).Follows counting Closed st)
    (reserves : ∀ event st, Owes st ⟨1, 0, 0, 0⟩ → (reserved event).Follows counting Closed st) :
    (processor.processWith completed reserved message token).Follows counting Closed {} := by
  have start : Owes (Tallied.add {}
      ((if processor.metrics then [(.inflight, 1)] else []) ++ [(.consumedRecords, 1)]))
      ⟨1, 0, 1, 0⟩ := by
    constructor
    · cases processor.metrics <;> rfl
    · rfl
  refine tally_counts ?_
  cases processor.validator.validateMessage message with
  | error e => exact start.raised e
  | ok validation =>
    cases validation with
    | invalid error =>
      have failed := start.add (r := ⟨1, 0, 0, 0⟩) _ (books_validationFailure error.category) rfl
      refine tally_counts (Prog.Follows.bind ((deadLetter_closes failed).mono ?_))
      intro st' r closed
      cases r with
      | ok outcome => exact observeTerminal_closes (closed.2 outcome rfl)
      | error e => exact closed.1
    | valid event =>
      have valid := start.add (r := ⟨1, 0, 0, 0⟩) (c := [(.validRecords, 1)])
        ⟨0, 0, -1, 0⟩ rfl rfl
      refine tally_counts ⟨trivial, fun answer => ?_⟩
      cases answer with
      | error e =>
        refine Prog.Follows.ite (fun _ => tally_counts ?_) fun _ => (valid.reserved true).raised e
        exact ((valid.reserved true).add (r := ⟨0, 0, 0, 0⟩) ⟨-1, 0, 0, 0⟩ rfl rfl).returned
      | ok reservation =>
        obtain ⟨state, owner, existing⟩ := reservation
        cases state with
        | completed => exact completes event _ (valid.reserved false)
        | processing =>
          refine tally_counts (observeTerminal_closes ?_)
          exact (valid.reserved false).add ⟨-1, 0, 0, 0⟩ rfl rfl
        | reserved => exact reserves event _ (valid.reserved false)

theorem process_closes :
    (processor.process message token).Follows counting Closed {} := by
  rw [processor.process_eq_with]
  exact processWith_closes (fun _ _ => processCompleted_closes) fun _ _ => processReserved_closes

theorem completedPlain_closes (owes : Owes st ⟨1, 0, 0, 0⟩) :
    (processor.completedPlain event message).Follows counting Closed st := by
  refine commit_closes owes fun st' owes' => tally_counts (observeTerminal_closes ?_)
  exact owes'.add ⟨-1, -1, 0, 0⟩ rfl rfl

theorem reservedPlain_closes {handler : Nat → Except PyException Unit}
    (owes : Owes st ⟨1, 0, 0, 0⟩) :
    (processor.reservedPlain handler event message token).Follows counting Closed st := by
  have once : ∀ attempt st, Owes st ⟨1, 0, 0, 0⟩ →
      (handlePlain handler attempt).Follows counting (fun st _ => Owes st ⟨1, 0, 0, 0⟩) st := by
    intro attempt st owes
    unfold handlePlain
    cases handler attempt <;> exact owes
  have again : ∀ attempt st e, Owes st ⟨1, 0, 0, 0⟩ →
      (onRetry attempt e).Follows counting (fun st r => r.isOk = true ∧ Owes st ⟨1, 0, 0, 0⟩) st := by
    intro attempt st e owes
    refine tally_counts ⟨rfl, owes.off ?_⟩
    split <;> decide
  have attempts := retryFrom_follows once again processor.config.maxProcessingAttempts 1 st
    processor.config.attempts_pos.ne' owes
  refine Prog.Follows.thenWith (attempts.mono fun st' r owes' => ?_)
  cases r with
  | ok result => exact completeReservation_closes owes'
  | error e =>
    cases e with
    | processor e => exact processFailed_closes owes'
    | _ => exact Owes.raised owes' _

theorem processPlain_closes (handler : Nat → Except PyException Unit) :
    (processor.processPlain handler message token).Follows counting Closed {} :=
  processWith_closes (fun _ _ => completedPlain_closes) fun _ _ => reservedPlain_closes

end

end CommercePlatform.Processor
