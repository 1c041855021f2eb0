import CommercePlatform.Fraud.Repository

/-!
The unit of work (`persistence/unit_of_work.py`).

`transaction` is the body of the one transaction of an event: ledger row, business
effects and, for the eligible event types, the fraud evaluation. `classify` is the
`except` chain of `persist`.
-/

namespace CommercePlatform.Persistence

open Contract Fraud

/-- `FRAUD_ELIGIBLE_EVENT_TYPES`. -/
def fraudEligible : EventType → Bool
  | .checkoutStarted | .orderCreated | .paymentFailed | .paymentCompleted | .refundRequested => true
  | _ => false

/-- What `persist` returns. Its duration is read off a clock; `transaction` has none. -/
structure PersistenceResult where
  alreadyPersisted : Bool
  rowsWritten : Dict Table Nat := ∅
  fraudEventType : Option EventType := none
  fraudSeverity : Option FraudSeverity := none
  fraudScore : Option Int := none
  fraudDecision : Option FraudDecision := none
  matchedRuleIds : List String := []
  durationMs : Rat := 0
  deriving DecidableEq

/-- What a `UnitOfWorkFactory` is built from. -/
structure UnitOfWork where
  rt : Runtime
  arith : Arithmetic
  fraudConfig : FraudConfig
  rules : List FraudRule
  persistRawJson : Bool := true

/-- The arguments of one call of `persist`; `now` is the transaction's
`CURRENT_TIMESTAMP`. -/
structure PersistCall where
  event : EventEnvelope
  message : ConsumedMessage
  processorInstanceId : String
  now : Instant

/-- `rows[table] = rows.get(table, 0) + count`. -/
def addRows (rows : Dict Table Nat) (counts : RowCounts) : Dict Table Nat :=
  counts.foldl (fun rows c => rows.set c.1 ((rows.get? c.1).getD 0 + c.2)) rows

namespace UnitOfWork

variable (uow : UnitOfWork)

/-- The fraud part of the transaction. -/
def fraudStage (call : PersistCall) (rows : Dict Table Nat) : Sql PersistenceResult := do
  let context ← build uow.arith uow.fraudConfig call.event
  let evaluation ← compute (evaluate uow.rt uow.fraudConfig uow.rules context)
  let fraudRows ← persistEvaluation uow.rt uow.fraudConfig evaluation call.event call.now
  return {
    alreadyPersisted := false
    rowsWritten := (addRows rows fraudRows).set .processedEvents 1
    fraudEventType := some call.event.eventType
    fraudSeverity := some evaluation.severity
    fraudScore := some evaluation.totalScore
    fraudDecision := some evaluation.decision
    matchedRuleIds := evaluation.matchedRules.map (·.ruleId) }

/-- The body of `with connection.transaction()` in `persist`. -/
def transaction (call : PersistCall) : Sql PersistenceResult := do
  insertIdentity uow.rt call.event call.message call.processorInstanceId uow.persistRawJson
  let counts ← applyHandler uow.rt uow.arith call.event
  let rows := addRows ∅ counts
  if uow.fraudConfig.engineEnabled ∧ fraudEligible call.event.eventType then
    uow.fraudStage call rows
  else
    return { alreadyPersisted := false, rowsWritten := rows.set .processedEvents 1 }

/-! ### Sessions -/

/-- Sessions `ι` that run transactions of the unit of work, interleaved in any way. -/
abbrev Sessions (ι : Type) := (database uow.arith).Store ι PersistCall PyException PersistenceResult

abbrev sessions (ι : Type) [DecidableEq ι] :
    Machine (uow.Sessions ι) (ι × Schema.Act PersistCall) :=
  Schema.machine uow.transaction

/-- The sessions before any transaction, on the tables `db`. -/
abbrev startFrom {ι : Type} (db : Db) : uow.Sessions ι := { committed := ⟨db, []⟩ }

end UnitOfWork

/-- A SQLSTATE that `persist` retries: class 08, 40001 or 40P01. -/
def retriedSqlstate (sqlstate : String) : Bool :=
  sqlstate.toList.take 2 = ['0', '8'] ∨ sqlstate = "40001" ∨ sqlstate = "40P01"

/-- The `except` clauses of `persist`. -/
def classify : PyException → Except PyException PersistenceResult
  | .processor e =>
    if e.isInstance .alreadyPersistedEvent then .ok { alreadyPersisted := true }
    else .error (.processor e)
  | .poolTimeout =>
    .error (.raised .retryableDatabaseError "database pool acquisition timed out")
  | .psycopg (some sqlstate) =>
    if retriedSqlstate sqlstate then
      .error (.raised .retryableDatabaseError "transient PostgreSQL failure")
    else
      .error (.raised .permanentDatabaseIntegrityError
        "deterministic PostgreSQL constraint failure")
  | .psycopg none =>
    .error (.raised .permanentDatabaseIntegrityError "deterministic PostgreSQL constraint failure")
  | e => .error e

end CommercePlatform.Persistence
