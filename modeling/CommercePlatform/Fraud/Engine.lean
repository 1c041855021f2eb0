import CommercePlatform.Fraud.Context

/-!
The fraud engine (`fraud/engine.py`): the enabled rules, in registry order, and the
aggregation of their results.
-/

namespace CommercePlatform.Fraud

open Contract

/-- The `FraudRule` protocol. -/
structure FraudRule where
  ruleId : String
  supportedEventTypes : List EventType
  maximumScore : Int
  evaluate : FraudContext → Except PyException FraudRuleResult

/-- `EVALUATION_NAMESPACE`: af5fe7db-8df2-4e57-b506-39fc223b6e9c. -/
def evaluationNamespace : UUID :=
  ⟨[10, 15, 5, 15, 14, 7, 13, 11, 8, 13, 15, 2, 4, 14, 5, 7, 11, 5, 0, 6, 3, 9, 15, 12, 2, 2, 3,
    11, 6, 14, 9, 12], rfl⟩

def deterministicEvaluationId (rt : Runtime) (sourceEventId : UUID) (rulesetVersion : String) :
    UUID :=
  rt.uuid5 evaluationNamespace (sourceEventId.str ++ ":" ++ rulesetVersion)

/-- The result of one rule; whatever it raises but a configuration error is wrapped. -/
def FraudRule.apply (rule : FraudRule) (context : FraudContext) :
    Except PyException FraudRuleResult :=
  match rule.evaluate context with
  | .error (.processor e) =>
    if e.isInstance .fraudRuleConfigurationError then .error (.processor e)
    else .error (.raised .permanentProcessingError ("fraud rule failed: " ++ rule.ruleId))
  | .error _ => .error (.raised .permanentProcessingError ("fraud rule failed: " ++ rule.ruleId))
  | .ok evaluated =>
    if rule.maximumScore < evaluated.score then
      .error (.raised .fraudRuleConfigurationError ("fraud rule exceeded maximum: " ++ rule.ruleId))
    else .ok evaluated

/-- `FraudEngine.evaluate`. -/
def evaluate (rt : Runtime) (config : FraudConfig) (rules : List FraudRule)
    (context : FraudContext) : Except PyException FraudEvaluation := do
  let supported := rules.filter fun rule => context.eventType ∈ rule.supportedEventTypes
  let results ← supported.mapM (·.apply context)
  let (score, decision, severity) ← aggregate results config
  return {
    evaluationId := deterministicEvaluationId rt context.sourceEventId config.rulesetVersion
    sourceEventId := context.sourceEventId
    customerId := context.customerId
    orderId := context.orderId
    paymentId := context.paymentId
    totalScore := score
    decision
    severity
    ruleResults := results
    evaluatedAt := context.eventTime
    engineVersion := config.engineVersion
    rulesetVersion := config.rulesetVersion }

/-- The evaluation is of the event the context was built for. -/
theorem evaluate_source {rt : Runtime} {config : FraudConfig} {rules : List FraudRule}
    {context : FraudContext} {evaluation : FraudEvaluation}
    (evaluated : evaluate rt config rules context = .ok evaluation) :
    evaluation.sourceEventId = context.sourceEventId := by
  simp only [evaluate, bind, Except.bind] at evaluated
  repeat' split at evaluated
  all_goals first
    | cases evaluated; rfl
    | cases evaluated

end CommercePlatform.Fraud
