import CommercePlatform.Contract.Parsing
import CommercePlatform.Fraud.Engine
import CommercePlatform.Persistence.Repositories

/-!
Fraud persistence (`fraud/repository.py`) and the alert message it stores
(`fraud/publisher.py`).
-/

namespace CommercePlatform.Fraud

open Contract Persistence

/-! ### publisher.py -/

/-- `ALERT_NAMESPACE`: 8738db40-333e-491a-a20d-4658782dfc44. -/
def alertNamespace : UUID :=
  ⟨[8, 7, 3, 8, 13, 11, 4, 0, 3, 3, 3, 14, 4, 9, 1, 10, 10, 2, 0, 13, 4, 6, 5, 8, 7, 8, 2, 13, 15,
    12, 4, 4], rfl⟩

/-- `OUTBOX_NAMESPACE`: dc27cc58-f4b8-4849-9417-490923fc7ae2. -/
def outboxNamespace : UUID :=
  ⟨[13, 12, 2, 7, 12, 12, 5, 8, 15, 4, 11, 8, 4, 8, 4, 9, 9, 4, 1, 7, 4, 9, 0, 9, 2, 3, 15, 12, 7,
    10, 14, 2], rfl⟩

structure FraudAlertMessage where
  alertId : UUID
  alertEventId : UUID
  outboxId : UUID
  event : EventEnvelope
  key : List UInt8
  headers : List (String × String)
  payloadBytes : List UInt8

/-- `build_alert_message`, for an evaluation that the constructors of the payload and the
envelope accept; the field type of the reasons strips them. -/
def buildAlertMessage (rt : Runtime) (evaluation : FraudEvaluation) (sourceEvent : EventEnvelope) :
    FraudAlertMessage :=
  let alertId := rt.uuid5 alertNamespace evaluation.evaluationId.str
  let eventId := rt.uuid5 alertEventNamespace alertId.str
  let reasons := evaluation.matchedRules.map (·.reasonCode)
  let payload : FraudAlertCreatedPayload :=
    { alertId
      eventId := evaluation.sourceEventId
      customerId := some evaluation.customerId
      orderId := evaluation.orderId
      fraudScore := { negative := evaluation.totalScore < 0
                      coefficient := evaluation.totalScore.natAbs }
      decision := evaluation.decision
      reasons := (if reasons.isEmpty then ["DECISION_THRESHOLD"] else reasons).map strip
      createdAt := evaluation.evaluatedAt }
  let event : EventEnvelope :=
    { eventId
      eventVersion := 1
      eventTime := evaluation.evaluatedAt
      producedAt := evaluation.evaluatedAt
      source := "fraud-engine"
      correlationId := sourceEvent.correlationId
      payload := .fraudAlertCreated payload }
  { alertId
    alertEventId := eventId
    outboxId := rt.uuid5 outboxNamespace eventId.str
    event
    key := event.messageKey
    headers := event.messageHeaders ++ [("causation_id", sourceEvent.eventId.str)]
    payloadBytes := (rt.canonicalJson event).toUTF8.toList }

/-! ### repository.py -/

section

variable (rt : Runtime) (config : FraudConfig)

def evaluationRow (evaluation : FraudEvaluation) : FraudEvaluationRow :=
  { sourceEventId := evaluation.sourceEventId
    customerId := evaluation.customerId
    orderId := evaluation.orderId
    paymentId := evaluation.paymentId
    totalScore := evaluation.totalScore
    decision := evaluation.decision
    severity := evaluation.severity
    engineVersion := evaluation.engineVersion
    rulesetVersion := evaluation.rulesetVersion
    matchedRuleCount := evaluation.matchedRules.length
    ruleResults := evaluation.ruleResults
    evaluatedAt := evaluation.evaluatedAt }

def alertRow (evaluation : FraudEvaluation) (message : FraudAlertMessage) : FraudAlert :=
  { evaluationId := some evaluation.evaluationId
    sourceEventId := evaluation.sourceEventId
    customerId := some evaluation.customerId
    orderId := evaluation.orderId
    paymentId := evaluation.paymentId
    score := evaluation.totalScore
    decision := evaluation.decision
    severity := evaluation.severity
    reasonCodes := evaluation.matchedRules.map (·.reasonCode)
    alertEventId := message.alertEventId
    createdAt := evaluation.evaluatedAt }

/-- The outbox row; `now` is `CURRENT_TIMESTAMP`. -/
def outboxRow (message : FraudAlertMessage) (now : Instant) : FraudOutbox :=
  { aggregateId := message.alertId
    eventId := message.alertEventId
    topic := config.alertTopic
    messageKey := message.key
    headersJson := message.headers
    payloadBytes := message.payloadBytes
    availableAt := now
    createdAt := now
    updatedAt := now }

/-- What a stored evaluation has to agree on. -/
def sameEvaluation (existing : FraudEvaluationRow) (evaluation : FraudEvaluation) : Bool :=
  existing.totalScore = evaluation.totalScore ∧ existing.decision = evaluation.decision ∧
    existing.severity = evaluation.severity ∧ existing.engineVersion = evaluation.engineVersion ∧
    existing.rulesetVersion = evaluation.rulesetVersion ∧
    existing.ruleResults = evaluation.ruleResults

/-- `FraudRepository.persist`. -/
def persistEvaluation (evaluation : FraudEvaluation) (sourceEvent : EventEnvelope)
    (now : Instant) : Sql RowCounts := do
  match ← sql (.selectEvaluation evaluation.sourceEventId) with
  | some existing =>
    if sameEvaluation existing evaluation then return [(.fraudEvaluations, 0)]
    else
      raise .fraudEvaluationIntegrityError
        "source event has conflicting deterministic fraud evaluation"
  | none =>
    let _ ← sql (.insertEvaluation evaluation.evaluationId (evaluationRow evaluation))
    if evaluation.decision = .approve then return [(.fraudEvaluations, 1)]
    else
      let message := buildAlertMessage rt evaluation sourceEvent
      let _ ← sql (.insertAlert message.alertId (alertRow evaluation message))
      if config.outboxEnabled then
        let _ ← sql (.insertOutbox message.outboxId (outboxRow config message now))
        return [(.fraudEvaluations, 1), (.fraudAlerts, 1), (.fraudOutbox, 1)]
      else return [(.fraudEvaluations, 1), (.fraudAlerts, 1)]

end

end CommercePlatform.Fraud
