import CommercePlatform.Idempotency.Store
import CommercePlatform.Persistence.UnitOfWork
import CommercePlatform.Processor.Dlq

/-!
The processing of one record (`processor.py`, `retry.py`).

`process` is a program over the calls it makes: Redis, `persist`, the DLQ producer and
the offset committer, each of which may answer with an exception. What it adds to the
run summary, and to the two metrics that count records in flight and outcomes, are
calls too (`tally`). The latency of a processed record is the summary's (`RunSummary`); the
other metrics and log lines are left out.
-/

namespace CommercePlatform.Processor

open Contract Idempotency Persistence

inductive ProcessingStatus where
  | processed
  | duplicate
  | dlq
  | unresolved
  deriving DecidableEq, Repr

structure ProcessingOutcome where
  status : ProcessingStatus
  attempts : Nat := 1
  eventType : Option EventType := none
  deriving DecidableEq

def ProcessingOutcome.terminal (outcome : ProcessingOutcome) : Bool := outcome.status ≠ .unresolved

/-- The counters of `RunSummary` that processing adds to, the gauge of records in flight
and the counter of outcomes. -/
inductive Counter where
  | consumedRecords
  | validRecords
  | processedRecords
  | duplicateRecords
  | dlqRecords
  | retries
  | retryExhausted
  | redisErrors
  | commitSuccesses
  | commitFailures
  | processingFailures
  | unresolvedRecords
  | validationFailures (category : ValidationCategory)
  | processedEvents (eventType : EventType)
  | databaseTransactionsStarted
  | databaseTransactionsCommitted
  | databaseTransactionsRolledBack
  | alreadyPersistedEvents
  | databaseRetries
  | databaseErrors
  | missingDependencyErrors
  | integrityFailures
  | rowsWrittenByTable (table : Table)
  | slowDatabaseOperations
  | fraudEvaluations
  | approveDecisions
  | reviewDecisions
  | blockDecisions
  | matchedRules (ruleId : String)
  | fraudContextFailures
  | fraudIntegrityFailures
  | fraudAlertsCreated
  | fraudOutboxRowsCreated
  | inflight
  | eventsTerminal (eventType : Option EventType) (status : ProcessingStatus)
  deriving DecidableEq

/-- What becomes of a record handed to the DLQ producer. -/
inductive Delivery where
  | confirmed
  /-- `flush` timed out, or the delivery report holds an error. -/
  | unconfirmed
  /-- `BufferError` or `RuntimeError`. -/
  | refused
  | raised (e : PyException)
  deriving DecidableEq

/-- The calls of `process`. -/
inductive Effect where
  | tally (counts : List (Counter × Int))
  | now
  | reserve (eventId : UUID) (token : String) (message : ConsumedMessage)
  | complete (eventId : UUID) (token : String)
  | release (eventId : UUID) (token : String)
  | persist (event : EventEnvelope) (message : ConsumedMessage)
  | deliver (record : DlqEnvelope) (value : List UInt8)
  | commitTerminal (message : ConsumedMessage)

def Effect.Answer : Effect → Type
  | tally _ => Unit
  | now => Instant
  | reserve .. => Except PyException Reservation
  | complete .. => Except PyException Bool
  | release .. => Except PyException Bool
  | persist .. => Except PyException PersistenceResult
  | deliver .. => Delivery
  | commitTerminal _ => Except PyException Unit

abbrev Proc := Prog Effect Effect.Answer PyException

def perform (s : Effect) : Proc s.Answer := Prog.perform s

def tally (counts : List (Counter × Int)) : Proc Unit := perform (.tally counts)

/-! ### retry.py -/

/-- The rounds of `run_with_retry` that are left, from round `attempt` on. -/
def retryFrom {α : Type} (operation : Nat → Proc α) (onRetry : Nat → PyException → Proc Unit) :
    (left attempt : Nat) → Proc (α × Nat)
  | 0, _ => .throw .assertionError
  | left + 1, attempt =>
    (operation attempt).thenWith fun
      | .ok a => return (a, attempt)
      | .error e =>
        if e.isInstance .retryableProcessingError ∧ left ≠ 0 then do
          onRetry attempt e
          retryFrom operation onRetry left (attempt + 1)
        else .throw e

/-- `run_with_retry`. -/
def runWithRetry {α : Type} (maximumAttempts : Nat) (operation : Nat → Proc α)
    (onRetry : Nat → PyException → Proc Unit) : Proc (α × Nat) :=
  retryFrom operation onRetry maximumAttempts 1

/-! ### processor.py -/

structure MessageProcessor where
  validator : Validator
  rt : Runtime
  config : ProcessorConfig
  instanceId : String
  /-- The datetime format of `model_dump(mode="json")`. -/
  renderInstant : Instant → String
  metrics : Bool := true

/-- `_on_retry`. -/
def onRetry (_attempt : Nat) (e : PyException) : Proc Unit :=
  tally ((.retries, 1) ::
    if e.isInstance .retryableDatabaseError ∨ e.isInstance .missingBusinessDependencyError then
      [(.databaseRetries, 1)]
    else [])

/-- `_handle`, with persistence. -/
def handle (event : EventEnvelope) (message : ConsumedMessage) (_attempt : Nat) :
    Proc PersistenceResult := do
  tally [(.databaseTransactionsStarted, 1)]
  match ← perform (.persist event message) with
  | .ok result => return result
  | .error e => do
    tally [(.databaseTransactionsRolledBack, 1)]
    .throw e

/-- What `_record_persistence` counts. -/
def persistenceCounts (config : ProcessorConfig) (result : PersistenceResult) :
    List (Counter × Int) :=
  (if result.alreadyPersisted then [(.alreadyPersistedEvents, 1)]
  else
    let rows (t : Table) : Int := (result.rowsWritten.get? t).getD 0
    [(.databaseTransactionsCommitted, 1)] ++
      result.rowsWritten.entries.map (fun entry => (.rowsWrittenByTable entry.1, (entry.2 : Int))) ++
      [(.fraudEvaluations, rows .fraudEvaluations), (.fraudAlertsCreated, rows .fraudAlerts),
        (.fraudOutboxRowsCreated, rows .fraudOutbox)] ++
      (match result.fraudDecision with
        | some .approve => [(.approveDecisions, 1)]
        | some .review => [(.reviewDecisions, 1)]
        | some .block => [(.blockDecisions, 1)]
        | none => []) ++
      result.matchedRuleIds.map fun ruleId => (.matchedRules ruleId, 1)) ++
  if config.dbLogSlowQueryMs ≤ result.durationMs then [(.slowDatabaseOperations, 1)] else []

/-- The name of an error class, as `type(error).__name__`. -/
def className : ErrorClass → String
  | .processorError => "ProcessorError"
  | .permanentMessageError => "PermanentMessageError"
  | .retryableProcessingError => "RetryableProcessingError"
  | .permanentProcessingError => "PermanentProcessingError"
  | .fatalInfrastructureError => "FatalInfrastructureError"
  | .retryableDatabaseError => "RetryableDatabaseError"
  | .missingBusinessDependencyError => "MissingBusinessDependencyError"
  | .permanentDatabaseIntegrityError => "PermanentDatabaseIntegrityError"
  | .alreadyPersistedEvent => "AlreadyPersistedEvent"
  | .startupDatabaseError => "StartupDatabaseError"
  | .fraudContextDependencyError => "FraudContextDependencyError"
  | .fraudRuleConfigurationError => "FraudRuleConfigurationError"
  | .fraudEvaluationIntegrityError => "FraudEvaluationIntegrityError"
  | .fraudOutboxRetryableError => "FraudOutboxRetryableError"
  | .fraudOutboxPermanentError => "FraudOutboxPermanentError"

/-- `_processing_error`. -/
def processingError (event : EventEnvelope) (error : ProcessorError)
    (category : ValidationCategory) : ValidationErrorInfo where
  category
  message := if error.message.isEmpty then category.value else clip error.message
  errorType := className error.cls
  eventId := some event.eventId
  eventType := some (Text.ofString event.eventType.value)
  correlationId := some event.correlationId

namespace MessageProcessor

variable (processor : MessageProcessor)

/-- `_observe_terminal`. -/
def observeTerminal (eventType : Option EventType) (outcome : ProcessingOutcome) :
    Proc ProcessingOutcome := do
  if processor.metrics then
    tally [(.eventsTerminal eventType outcome.status, 1), (.inflight, -1)]
    return outcome
  else return outcome

/-- `DlqPublisher.publish`. -/
def publish (record : DlqEnvelope) : Proc Unit :=
  match record.canonicalBytes processor.renderInstant with
  | .error e => .throw e
  | .ok value => do
    match ← perform (.deliver record value) with
    | .confirmed => return
    | .unconfirmed => .throw (.raised .retryableProcessingError "DLQ delivery was not confirmed")
    | .refused => .throw (.raised .retryableProcessingError "DLQ publication failed")
    | .raised e => .throw e

/-- `_commit`. -/
def commit (message : ConsumedMessage) : Proc Unit := do
  match ← perform (.commitTerminal message) with
  | .ok () => tally [(.commitSuccesses, 1)]
  | .error e => do
    tally [(.commitFailures, 1), (.unresolvedRecords, 1)]
    .throw e

/-- What `_dead_letter` does once `publish` has returned or raised. -/
def afterPublish (message : ConsumedMessage) (attempts : Nat) :
    Except PyException Unit → Proc ProcessingOutcome
  | .error e =>
    if e.isInstance .retryableProcessingError then do
      tally [(.unresolvedRecords, 1)]
      return { status := .unresolved, attempts }
    else .throw e
  | .ok () => do
    commit message
    tally [(.dlqRecords, 1)]
    return { status := .dlq, attempts }

/-- `_dead_letter`. -/
def deadLetter (message : ConsumedMessage) (error : ValidationErrorInfo) (attempts : Nat) :
    Proc ProcessingOutcome := do
  let failedAt ← perform .now
  let record := buildDlqEnvelope processor.rt processor.config processor.instanceId message error
    attempts failedAt
  (processor.publish record).thenWith (afterPublish message attempts)

/-- `_safe_release`. -/
def safeRelease (eventId : UUID) (token : String) : Proc Unit := do
  match ← perform (.release eventId token) with
  | .ok _ => return
  | .error e =>
    if e.isInstance .retryableProcessingError then tally [(.redisErrors, 1)] else .throw e

/-- The category of an exhausted retry. -/
def exhaustedCategory (e : ProcessorError) : ValidationCategory :=
  if e.isInstance .missingBusinessDependencyError then .missingBusinessDependency
  else .retryExhausted

/-- `_persist_with_retry`, and what `process` does with its result. -/
def recoverWith (event : EventEnvelope) (message : ConsumedMessage)
    (next : PersistenceResult → Proc ProcessingOutcome) : Proc ProcessingOutcome :=
  (runWithRetry processor.config.maxProcessingAttempts (handle event message) onRetry).thenWith fun
    | .ok (result, _) => next result
    | .error (.processor e) =>
      if e.isInstance .permanentProcessingError then do
        tally [(.integrityFailures, if e.isInstance .permanentDatabaseIntegrityError then 1 else 0)]
        processor.deadLetter message (processingError event e .databaseIntegrityError) 1
      else if e.isInstance .retryableProcessingError then do
        tally [(.retryExhausted, 1)]
        processor.deadLetter message (processingError event e (exhaustedCategory e))
          processor.config.maxProcessingAttempts
      else .throw (.processor e)
    | .error e => .throw e

/-- The branch of `process` for an event that Redis holds as completed. -/
def processCompleted (event : EventEnvelope) (message : ConsumedMessage) : Proc ProcessingOutcome :=
  processor.recoverWith event message fun recovery => do
    tally (if recovery.alreadyPersisted then []
      else persistenceCounts processor.config recovery)
    commit message
    tally [(.duplicateRecords, 1), (.alreadyPersistedEvents, if recovery.alreadyPersisted then 1 else 0)]
    processor.observeTerminal (some event.eventType)
      { status := .duplicate, eventType := some event.eventType }

/-- What `process` does when the handler of a reserved event fails. -/
def processFailed (event : EventEnvelope) (message : ConsumedMessage) (token : String)
    (e : ProcessorError) : Proc ProcessingOutcome :=
  if e.isInstance .permanentProcessingError then do
    let integrity := e.isInstance .permanentDatabaseIntegrityError
    tally ([(.processingFailures, 1)] ++
      (if e.isInstance .fraudEvaluationIntegrityError then [(.fraudIntegrityFailures, 1)] else []) ++
      if integrity then [(.integrityFailures, 1), (.databaseErrors, 1)] else [])
    safeRelease event.eventId token
    processor.deadLetter message (processingError event e
      (if integrity then .databaseIntegrityError else .permanentProcessingError)) 1
  else if e.isInstance .retryableProcessingError then do
    tally ([(.processingFailures, 1), (.retryExhausted, 1)] ++
      (if e.isInstance .missingBusinessDependencyError then [(.missingDependencyErrors, 1)] else []) ++
      (if e.isInstance .fraudContextDependencyError then [(.fraudContextFailures, 1)] else []) ++
      if e.isInstance .retryableDatabaseError then [(.databaseErrors, 1)] else [])
    safeRelease event.eventId token
    processor.deadLetter message (processingError event e (exhaustedCategory e))
      processor.config.maxProcessingAttempts
  else .throw (.processor e)

/-- What `process` does when the handler of a reserved event has succeeded. -/
def processHandled (event : EventEnvelope) (message : ConsumedMessage) (token : String)
    (result : PersistenceResult) (attempts : Nat) : Proc ProcessingOutcome := do
  tally (persistenceCounts processor.config result)
  match ← perform (.complete event.eventId token) with
  | .error e =>
    if e.isInstance .retryableProcessingError then do
      tally [(.redisErrors, 1), (.unresolvedRecords, 1)]
      return { status := .unresolved, attempts }
    else .throw e
  | .ok false => do
    tally [(.redisErrors, 1), (.unresolvedRecords, 1)]
    return { status := .unresolved, attempts }
  | .ok true => do
    commit message
    tally [(.processedRecords, 1), (.processedEvents event.eventType, 1)]
    processor.observeTerminal (some event.eventType)
      { status := .processed, attempts, eventType := some event.eventType }

/-- The branch of `process` for an event it has reserved. -/
def processReserved (event : EventEnvelope) (message : ConsumedMessage) (token : String) :
    Proc ProcessingOutcome :=
  (runWithRetry processor.config.maxProcessingAttempts (handle event message) onRetry).thenWith fun
    | .ok (result, attempts) => processor.processHandled event message token result attempts
    | .error (.processor e) => processor.processFailed event message token e
    | .error e => .throw e

/-- `process` from the reservation on. -/
def processEvent (event : EventEnvelope) (message : ConsumedMessage) (token : String) :
    Proc ProcessingOutcome := do
  tally [(.validRecords, 1)]
  match ← perform (.reserve event.eventId token message) with
  | .error e =>
    if e.isInstance .retryableProcessingError then do
      tally [(.redisErrors, 1), (.unresolvedRecords, 1)]
      return { status := .unresolved }
    else .throw e
  | .ok reservation =>
    match reservation.state with
    | .completed => processor.processCompleted event message
    | .processing => do
      tally [(.unresolvedRecords, 1)]
      processor.observeTerminal (some event.eventType) { status := .unresolved }
    | .reserved => processor.processReserved event message token

/-- `process`; `token` is the fresh reservation token. -/
def process (message : ConsumedMessage) (token : String) : Proc ProcessingOutcome := do
  tally ((if processor.metrics then [(.inflight, 1)] else []) ++ [(.consumedRecords, 1)])
  match processor.validator.validateMessage message with
  | .error e => .throw e
  | .ok (.invalid error) => do
    tally [(.validationFailures error.category, 1)]
    let outcome ← processor.deadLetter message error 1
    processor.observeTerminal none outcome
  | .ok (.valid event) => processor.processEvent event message token

end MessageProcessor

end CommercePlatform.Processor
