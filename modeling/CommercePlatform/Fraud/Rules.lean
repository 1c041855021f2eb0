import CommercePlatform.Fraud.Engine

/-!
The ten fraud rules (`fraud/rules`) and their registry (`fraud/registry.py`).

Every rule builds its result with `result`, which clears the score and the severity of
a rule that does not match. The two rules that compute with amounts raise what the
decimal context raises.
-/

namespace CommercePlatform.Fraud

open Contract

namespace FraudContext

variable (context : FraudContext)

def establishedHistory : Bool := 0 < context.lifetimeSuccessfulPayments

def isNewDevice : Bool :=
  match context.currentDevice with
  | some device =>
    !context.previousSuccessfulDevices.isEmpty ∧ device ∉ context.previousSuccessfulDevices
  | none => false

def countryMismatch : Bool :=
  match context.currentCountry with
  | some country => country ≠ context.homeCountry
  | none => false

def checkoutSeconds : Option Int :=
  context.sessionStartedAt.map fun started => max 0 (context.eventTime.secondsBetween started)

/-- `checkout_seconds is not None and checkout_seconds <= fraud_rapid_checkout_seconds`. -/
def rapidCheckout (config : FraudConfig) : Bool :=
  context.checkoutSeconds.any (· ≤ (config.rapidCheckoutSeconds : Int))

end FraudContext

/-- `helpers.result`. -/
def result (context : FraudContext) (ruleId : String) (isMatched : Bool) (score : Nat)
    (severity : FraudSeverity) (reasonCode explanation : String)
    (evidence : List (String × EvidenceValue)) : FraudRuleResult where
  ruleId
  ruleVersion := "1.0"
  isMatched
  score := if isMatched then score else 0
  severity := if isMatched then severity else .low
  reasonCode
  explanation := String.ofList (explanation.toList.take 256)
  evidence
  evaluatedAt := context.eventTime

section

variable (arith : DecimalContext) (config : FraudConfig)

/-- `ELIGIBLE` of `amount.py`. -/
def eligible : List EventType :=
  [.checkoutStarted, .orderCreated, .paymentFailed, .paymentCompleted, .refundRequested]

/-- `SUPPORTED` of `account_takeover.py`. -/
def supported : List EventType := [.checkoutStarted, .orderCreated, .paymentFailed, .paymentCompleted]

def paymentEvents : List EventType := [.paymentFailed, .paymentCompleted]

/-- The amount is at least the configured multiple of the average. -/
def deviates (context : FraudContext) : Except PyException Bool :=
  match context.amount, context.historicalAverageAmount with
  | some amount, some average =>
    if 0 < average then do
      let limit ← arith.mul average config.amountMultiplierThreshold
      return limit ≤ amount
    else return false
  | _, _ => return false

def highAmountRule : FraudRule where
  ruleId := "high_amount"
  supportedEventTypes := eligible
  maximumScore := min 100 (config.highAmountScore + config.amountDeviationScore)
  evaluate context := do
    let absolute := context.amount.any (config.highAmountThreshold ≤ ·)
    let deviation ← deviates arith config context
    let score := config.highAmountScore * absolute.toNat +
      config.amountDeviationScore * deviation.toNat
    return result context "high_amount" (absolute || deviation)
      (min score (min 100 (config.highAmountScore + config.amountDeviationScore)))
      (if deviation then .high else .medium) "HIGH_AMOUNT"
      "Transaction amount exceeds a configured behavioral threshold."
      [("absolute_threshold", .bool absolute), ("historical_deviation", .bool deviation)]

def paymentAmountMismatchRule : FraudRule where
  ruleId := "payment_amount_mismatch"
  supportedEventTypes := eligible
  maximumScore := config.amountMismatchScore
  evaluate context :=
    let isMatched := !context.paymentAmountMatchesOrder
    return result context "payment_amount_mismatch" isMatched config.amountMismatchScore .critical
      "PAYMENT_AMOUNT_MISMATCH" "Persisted monetary integrity indicators do not reconcile."
      [("integrity_match", .bool !isMatched)]

def paymentVelocityRule : FraudRule where
  ruleId := "payment_velocity"
  supportedEventTypes := paymentEvents
  maximumScore := config.velocityScore
  evaluate context :=
    return result context "payment_velocity"
      (config.velocityMaxAttempts ≤ context.recentPaymentAttempts) config.velocityScore .medium
      "PAYMENT_VELOCITY" "Several payment attempts occurred inside the configured window."
      [("attempt_count", .int (min context.recentPaymentAttempts 999))]

def failedPaymentBurstRule : FraudRule where
  ruleId := "failed_payment_burst"
  supportedEventTypes := paymentEvents
  maximumScore := config.failedPaymentScore
  evaluate context :=
    return result context "failed_payment_burst"
      (config.failedPaymentThreshold ≤ context.recentFailedPayments) config.failedPaymentScore .high
      "FAILED_PAYMENT_BURST" "Repeated normalized payment failures occurred recently."
      [("failure_count", .int (min context.recentFailedPayments 999)),
        ("distinct_reason_count", .int (min context.recentFailureReasons 20))]

def newDeviceRule : FraudRule where
  ruleId := "new_device"
  supportedEventTypes := paymentEvents
  maximumScore := config.newDeviceScore
  evaluate context :=
    return result context "new_device"
      (decide (config.minHistoryForDeviceRule ≤ context.lifetimeSuccessfulPayments) &&
        context.isNewDevice)
      config.newDeviceScore .medium "NEW_DEVICE"
      "An established account used an unrecognized device indicator."
      [("established_history", .bool context.establishedHistory),
        ("known_device", .bool !context.isNewDevice)]

def countryMismatchRule : FraudRule where
  ruleId := "country_mismatch"
  supportedEventTypes := [.orderCreated, .paymentFailed, .paymentCompleted]
  maximumScore := min 100 (config.countryMismatchScore + config.multiCountryScore)
  evaluate context :=
    let mismatch := context.countryMismatch
    let several : Bool := 1 < context.recentDistinctCountries
    let score := config.countryMismatchScore * mismatch.toNat +
      config.multiCountryScore * several.toNat
    return result context "country_mismatch" (mismatch || several)
      (min score (min 100 (config.countryMismatchScore + config.multiCountryScore)))
      (if several then .high else .medium) "COUNTRY_MISMATCH"
      "Synthetic country indicators differ from established activity."
      [("home_match", .bool !mismatch),
        ("recent_country_count", .int context.recentDistinctCountries)]

def rapidCheckoutRule : FraudRule where
  ruleId := "rapid_checkout"
  supportedEventTypes := supported
  maximumScore := config.rapidCheckoutScore
  evaluate context :=
    return result context "rapid_checkout" (context.rapidCheckout config) config.rapidCheckoutScore
      .medium "RAPID_CHECKOUT" "The transaction followed session start unusually quickly."
      [("elapsed_seconds", match context.checkoutSeconds with
        | some seconds => .int seconds
        | none => .null)]

def accountTakeoverCompositeRule : FraudRule where
  ruleId := "account_takeover_composite"
  supportedEventTypes := supported
  maximumScore := config.accountTakeoverScore
  evaluate context := do
    let high ← deviates arith config context
    let signals := [context.establishedHistory, context.isNewDevice, context.countryMismatch,
      context.rapidCheckout config, high]
    let count := signals.count true
    return result context "account_takeover_composite"
      (config.accountTakeoverMinSignals ≤ count) config.accountTakeoverScore .critical
      "ACCOUNT_TAKEOVER_PATTERN"
      "Multiple established-account change indicators occurred together."
      [("signal_count", .int count),
        ("required_signal_count", .int config.accountTakeoverMinSignals)]

/-- The `near_full` signal: the refund is most of what is refundable. -/
def nearFull (context : FraudContext) : Except PyException Bool :=
  match context.refundAmount, context.refundableAmount with
  | some refund, some refundable =>
    if 0 < refundable then do
      let share ← arith.div refund refundable
      return max config.refundRateThreshold (9 / 10) ≤ share
    else return false
  | _, _ => return false

def refundAbuseRule : FraudRule where
  ruleId := "refund_abuse"
  supportedEventTypes := [.refundRequested]
  maximumScore := config.refundAbuseScore
  evaluate context := do
    let rapid := context.secondsSincePayment.any (· ≤ (config.rapidRefundSeconds : Int))
    let nearFull ← nearFull arith config context
    let repeated : Bool := 3 ≤ context.recentRefunds
    return result context "refund_abuse"
      (repeated || rapid && nearFull && decide (2 ≤ context.recentRefunds))
      config.refundAbuseScore .high "REFUND_ABUSE_PATTERN"
      "Refund timing, frequency, and normalized amount form a suspicious pattern."
      [("rapid", .bool rapid), ("near_full", .bool nearFull),
        ("recent_refund_count", .int context.recentRefunds)]

def botCheckoutRule : FraudRule where
  ruleId := "bot_checkout"
  supportedEventTypes := supported
  maximumScore := config.botCheckoutScore
  evaluate context :=
    let rapid := context.rapidCheckout config
    return result context "bot_checkout"
      (decide (config.botViewThreshold ≤ context.productViewCount) && rapid)
      config.botCheckoutScore .medium "BOT_CHECKOUT_PATTERN"
      "A high browsing count was followed by a very rapid transaction."
      [("view_count", .int (min context.productViewCount 999)), ("rapid", .bool rapid)]

/-! ### registry.py -/

/-- All rules, in the order they are evaluated. -/
def allRules : List FraudRule :=
  [highAmountRule arith config, paymentVelocityRule config, failedPaymentBurstRule config,
    newDeviceRule config, countryMismatchRule config, rapidCheckoutRule config,
    accountTakeoverCompositeRule arith config, refundAbuseRule arith config,
    botCheckoutRule config, paymentAmountMismatchRule config]

/-- `validate_registry`. -/
def validateRegistry (rules : List FraudRule) (enabledRuleIds : List String) :
    Except PyException Unit :=
  let ids := rules.map (·.ruleId)
  let missing := (((enabledRuleIds.filter (· ∉ ids)).dedup.mergeSort (· ≤ ·)).map
    fun id => "'" ++ id ++ "'")
  if ¬ ids.Nodup then .error (.raised .fraudRuleConfigurationError "duplicate fraud rule ID")
  else if missing ≠ [] then
    .error (.raised .fraudRuleConfigurationError
      ("configured fraud rules do not exist: [" ++ ", ".intercalate missing ++ "]"))
  else if ∃ rule ∈ rules, rule.maximumScore < 0 ∨ 100 < rule.maximumScore then
    .error (.raised .fraudRuleConfigurationError "fraud rule score bound is invalid")
  else .ok ()

/-- `build_rule_registry`. -/
def buildRuleRegistry : Except PyException (List FraudRule) := do
  let rules := allRules arith config
  validateRegistry rules config.enabledRuleIds
  return rules.filter (·.ruleId ∈ config.enabledRuleIds)

end

/-- A rule that does not match scores nothing. -/
theorem result_score {context : FraudContext} {ruleId : String} {isMatched : Bool} {score : Nat}
    {severity : FraudSeverity} {reasonCode explanation : String}
    {evidence : List (String × EvidenceValue)} (quiet : isMatched = false) :
    (result context ruleId isMatched score severity reasonCode explanation evidence).score = 0 := by
  simp [result, quiet]

end CommercePlatform.Fraud
