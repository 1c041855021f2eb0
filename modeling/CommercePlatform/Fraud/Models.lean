import CommercePlatform.Contract.Events

/-!
Fraud models and scoring (`fraud/models.py`, `fraud/config.py`, `fraud/scoring.py`).

The decision enumeration of the engine has the same three values as the one of the
event contract, and is the same type here.
-/

namespace CommercePlatform.Fraud

open Contract (EventType FraudDecision)

inductive FraudSeverity where
  | low
  | medium
  | high
  | critical
  deriving DecidableEq, Repr

/-- `SEVERITY_ORDER`. -/
def FraudSeverity.order : FraudSeverity → Nat
  | low => 0
  | medium => 1
  | high => 2
  | critical => 3

/-- A value of a rule's evidence. -/
inductive EvidenceValue where
  | null
  | bool (value : Bool)
  | int (value : Int)
  | str (value : String)
  deriving DecidableEq, Repr

structure FraudRuleResult where
  ruleId : String
  ruleVersion : String
  isMatched : Bool
  score : Int
  severity : FraudSeverity
  reasonCode : String
  explanation : String
  evidence : List (String × EvidenceValue)
  evaluatedAt : Instant
  deriving DecidableEq

structure FraudEvaluation where
  evaluationId : UUID
  sourceEventId : UUID
  customerId : UUID
  orderId : Option UUID
  paymentId : Option UUID
  totalScore : Int
  decision : FraudDecision
  severity : FraudSeverity
  ruleResults : List FraudRuleResult
  evaluatedAt : Instant
  engineVersion : String
  rulesetVersion : String
  deriving DecidableEq

def FraudEvaluation.matchedRules (evaluation : FraudEvaluation) : List FraudRuleResult :=
  evaluation.ruleResults.filter (·.isMatched)

/-- `DEFAULT_RULES`. -/
def defaultRules : List String :=
  ["high_amount", "payment_velocity", "failed_payment_burst", "new_device", "country_mismatch",
    "rapid_checkout", "account_takeover_composite", "refund_abuse", "bot_checkout",
    "payment_amount_mismatch"]

/-- The settings of `FraudConfig` that the engine, its rules, its context and its
repository read. -/
structure FraudConfig where
  engineEnabled : Bool := true
  engineVersion : String := "1.0.0"
  rulesetVersion : String := "2026-08"
  enabledRuleIds : List String := defaultRules
  reviewThreshold : Int := 30
  blockThreshold : Int := 60
  historyLookbackDays : Nat := 30
  maxHistoryRecords : Nat := 500
  highAmountThreshold : Rat := 5000
  amountMultiplierThreshold : Rat := 3
  highAmountScore : Nat := 25
  amountDeviationScore : Nat := 20
  velocityMaxAttempts : Nat := 3
  velocityWindowSeconds : Nat := 120
  velocityScore : Nat := 20
  failedPaymentThreshold : Nat := 3
  failedPaymentWindowSeconds : Nat := 300
  failedPaymentScore : Nat := 25
  newDeviceScore : Nat := 15
  minHistoryForDeviceRule : Nat := 2
  countryMismatchScore : Nat := 10
  multiCountryScore : Nat := 10
  countryWindowSeconds : Nat := 600
  rapidCheckoutSeconds : Nat := 15
  rapidCheckoutScore : Nat := 15
  accountTakeoverScore : Nat := 60
  accountTakeoverMinSignals : Nat := 4
  refundRateThreshold : Rat := 1 / 2
  rapidRefundSeconds : Nat := 600
  refundAbuseScore : Nat := 35
  botViewThreshold : Nat := 12
  botCheckoutScore : Nat := 30
  amountMismatchScore : Nat := 100
  alertTopic : String := "commerce.fraud-alerts"
  outboxEnabled : Bool := true

/-- What the validators of `FraudConfig` demand of these settings. -/
structure FraudConfig.Accepted (config : FraudConfig) : Prop where
  thresholds : 0 ≤ config.reviewThreshold ∧ config.reviewThreshold < config.blockThreshold ∧
    config.blockThreshold ≤ 100
  history : (0 < config.historyLookbackDays ∧ config.historyLookbackDays ≤ 365) ∧
    0 < config.maxHistoryRecords ∧ config.maxHistoryRecords ≤ 10000
  amounts : 0 ≤ config.highAmountThreshold ∧ 1 < config.amountMultiplierThreshold ∧
    0 ≤ config.refundRateThreshold ∧ config.refundRateThreshold ≤ 1
  windows : ∀ width ∈ [config.velocityWindowSeconds, config.failedPaymentWindowSeconds,
    config.countryWindowSeconds, config.rapidCheckoutSeconds, config.rapidRefundSeconds], 0 < width
  counts : ∀ count ∈ [config.velocityMaxAttempts, config.failedPaymentThreshold,
    config.minHistoryForDeviceRule, config.botViewThreshold], 0 < count
  signals : 2 ≤ config.accountTakeoverMinSignals ∧ config.accountTakeoverMinSignals ≤ 5
  scores : ∀ score ∈ [config.highAmountScore, config.amountDeviationScore, config.velocityScore,
    config.failedPaymentScore, config.newDeviceScore, config.countryMismatchScore,
    config.multiCountryScore, config.rapidCheckoutScore, config.accountTakeoverScore,
    config.refundAbuseScore, config.botCheckoutScore, config.amountMismatchScore], score ≤ 100
  rules : config.enabledRuleIds.Nodup

/-- The most severe of the matched results, the first of them on a tie. -/
def maxSeverity (minimum : FraudSeverity) : List FraudRuleResult → FraudSeverity
  | [] => minimum
  | r :: rest =>
    rest.foldl (fun s r => if s.order < r.severity.order then r.severity else s) r.severity

/-- `aggregate`: score, decision and severity of the results. -/
def aggregate (results : List FraudRuleResult) (config : FraudConfig) :
    Except PyException (Int × FraudDecision × FraudSeverity) :=
  if results.any (·.score < 0) then .error .valueError
  else
    let hits := results.filter (·.isMatched)
    let score := min 100 (hits.map (·.score)).sum
    let (decision, minimum) : FraudDecision × FraudSeverity :=
      if config.blockThreshold ≤ score then (.block, .high)
      else if config.reviewThreshold ≤ score then (.review, .medium)
      else (.approve, .low)
    let severity := maxSeverity minimum hits
    .ok (score, decision, if severity.order < minimum.order then minimum else severity)

end CommercePlatform.Fraud
