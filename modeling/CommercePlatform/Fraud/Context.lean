import CommercePlatform.Persistence.Statements

/-!
The fraud context (`fraud/context.py`): one bounded snapshot of the customer's
history, read inside the transaction of the event and cut off at its event time.
-/

namespace CommercePlatform.Fraud

open Contract Persistence

structure FraudContext where
  sourceEventId : UUID
  eventType : EventType
  eventTime : Instant
  customerId : UUID
  orderId : Option UUID
  paymentId : Option UUID
  sessionId : Option UUID
  amount : Option Rat
  currency : Option Currency
  paymentStatus : Option PaymentStatus
  paymentMethod : Option PaymentMethod
  currentDevice : Option String
  currentCountry : Option String
  homeCountry : String
  sessionStartedAt : Option Instant
  orderTime : Option Instant
  historicalAverageAmount : Option Rat
  recentPaymentAttempts : Nat
  recentFailedPayments : Nat
  recentFailureReasons : Nat
  recentDistinctDevices : Nat
  recentDistinctCountries : Nat
  recentOrders : Nat
  recentRefunds : Nat
  lifetimeSuccessfulPayments : Nat
  lifetimeFailedPayments : Nat
  lifetimeSpend : Rat
  refundableAmount : Option Rat
  previousSuccessfulDevices : List String
  previousSuccessfulCountries : List String
  productViewCount : Nat
  refundAmount : Option Rat
  secondsSincePayment : Option Int
  paymentAmountMatchesOrder : Bool

section

variable (arith : Arithmetic) (config : FraudConfig)

/-- `timedelta(seconds=..)` and `timedelta(days=..)` in microseconds. -/
def seconds (n : Nat) : Int := n * 1000000

def days (n : Nat) : Int := n * 86400000000

/-- `sum(amounts, Decimal("0"))`. -/
def sumDecimals (amounts : List Rat) : Except PyException Rat := amounts.foldlM arith.add 0

/-- The mean of the amounts, if there are any. -/
def historicalAverage (amounts : List Rat) : Except PyException (Option Rat) :=
  if amounts.isEmpty then .ok none
  else do
    let total ← sumDecimals arith amounts
    let average ← arith.div total amounts.length
    return some average

/-- `self._decimal(payload, "amount") or self._decimal(payload, "total_amount")`: a zero
amount counts as absent. -/
def contextAmount (payload : Payload) : Option Rat :=
  match payload.amount with
  | some amount => if amount.value = 0 then payload.totalAmount.map (·.value) else some amount.value
  | none => payload.totalAmount.map (·.value)

def customerAndOrder (customerId : UUID) (orderId : Option UUID) :
    Sql (String × Option OrderFacts) := do
  match ← sql (.customerAndOrder customerId orderId) with
  | none => raise .fraudContextDependencyError "customer fraud context is unavailable"
  | some row => return row

def refundFacts (paymentId : Option UUID) (eventTime : Instant) :
    Sql (Option Rat × Option Int) := do
  match paymentId with
  | none => return (none, none)
  | some paymentId =>
    match ← sql (.refundFacts paymentId) with
    | none => return (none, none)
    | some row => return (some row.1, some (max 0 (eventTime.secondsBetween row.2)))

/-- The session of the payload, else of its order. -/
def contextSession (payload : Payload) : Sql (Option UUID) :=
  match payload.sessionId with
  | some sessionId => return some sessionId
  | none =>
    match payload.orderId with
    | some orderId => sql (.orderSession orderId)
    | none => return none

/-- The rows the context is computed from. -/
structure History where
  homeCountry : String
  order : Option OrderFacts
  sessionId : Option UUID
  sessionStarted : Option Instant
  payments : List Payment
  priorPayments : List Payment
  refunds : List Refund
  recentOrders : Nat
  viewCount : Nat
  refundable : Option Rat
  secondsSincePayment : Option Int

/-- The statements of `build`. -/
def readHistory (event : EventEnvelope) (customerId : UUID) (lookback : Instant) : Sql History := do
  let limit := config.maxHistoryRecords
  let (homeCountry, order) ← customerAndOrder customerId event.payload.orderId
  let sessionId ← contextSession event.payload
  let sessionStarted : Option Instant ← sql (.sessionStarted sessionId)
  let payments : List Payment ← sql (.paymentsBetween customerId event.eventTime lookback limit)
  let priorPayments : List Payment ← sql (.paymentsBefore customerId event.eventTime limit)
  let refunds : List Refund ← sql (.refundsBetween customerId event.eventTime lookback limit)
  let recentOrders : Nat ← sql (.countOrders customerId event.eventTime lookback limit)
  let viewCount : Nat ← sql (.countViews customerId event.eventTime
    (sessionStarted.getD lookback) limit)
  let (refundable, secondsSincePayment) ← refundFacts event.payload.paymentId event.eventTime
  return { homeCountry, order, sessionId, sessionStarted, payments, priorPayments, refunds
           recentOrders, viewCount, refundable, secondsSincePayment }

/-- The rest of `build`, on the rows read. -/
def contextOf (event : EventEnvelope) (customerId : UUID) (history : History) :
    Except PyException FraudContext := do
  let payload := event.payload
  let amount := contextAmount payload
  let currency := payload.currency
  let successful := history.priorPayments.filter (·.status = .completed)
  let matchingAmounts :=
    (successful.filter fun r => currency = some r.currency).map (·.amount)
  let average ← historicalAverage arith matchingAmounts
  let velocityStart ← event.eventTime.subtract (seconds config.velocityWindowSeconds)
  let failureStart ← event.eventTime.subtract (seconds config.failedPaymentWindowSeconds)
  let countryStart ← event.eventTime.subtract (seconds config.countryWindowSeconds)
  let velocity := history.payments.filter (velocityStart ≤ ·.attemptedAt)
  let failures := history.payments.filter fun r =>
    r.status = .failed ∧ failureStart ≤ r.attemptedAt
  let countries := (history.payments.filter (countryStart ≤ ·.attemptedAt)).map (·.country)
  let lifetimeSpend ← sumDecimals arith (successful.map (·.amount))
  return {
    sourceEventId := event.eventId
    eventType := event.eventType
    eventTime := event.eventTime
    customerId
    orderId := payload.orderId
    paymentId := payload.paymentId
    sessionId := history.sessionId
    amount
    currency
    paymentStatus :=
      if event.eventType = .paymentCompleted then some .completed
      else if event.eventType = .paymentFailed then some .failed else none
    paymentMethod := payload.paymentMethod
    currentDevice := payload.deviceId.map (·.str)
    currentCountry :=
      match payload.countryCode with
      | some country => some country
      | none =>
        if event.eventType = .orderCreated then history.order.map (·.billingCountry) else none
    homeCountry := history.homeCountry
    sessionStartedAt := history.sessionStarted
    orderTime := history.order.map (·.orderedAt)
    historicalAverageAmount := average
    recentPaymentAttempts := velocity.length
    recentFailedPayments := failures.length
    recentFailureReasons := (failures.filterMap (·.failureReason)).dedup.length
    recentDistinctDevices := (velocity.map (·.deviceId)).dedup.length
    recentDistinctCountries := countries.dedup.length
    recentOrders := history.recentOrders
    recentRefunds := history.refunds.length
    lifetimeSuccessfulPayments := successful.length
    lifetimeFailedPayments := (history.priorPayments.filter (·.status = .failed)).length
    lifetimeSpend
    refundableAmount := history.refundable
    previousSuccessfulDevices := (successful.map (·.deviceId)).dedup
    previousSuccessfulCountries := (successful.map (·.country)).dedup
    productViewCount := history.viewCount
    refundAmount :=
      if event.eventType = .refundRequested then payload.amount.map (·.value) else none
    secondsSincePayment := history.secondsSincePayment
    paymentAmountMatchesOrder :=
      match history.order, amount with
      | some order, some amount => order.total = amount ∧ some order.currency = currency
      | _, _ => true }

/-- `FraudContextBuilder.build`. -/
def build (event : EventEnvelope) : Sql FraudContext := do
  match event.payload.customerId with
  | none => raise .fraudContextDependencyError "eligible event has no customer identity"
  | some customerId =>
    let lookback ← compute (event.eventTime.subtract (days config.historyLookbackDays))
    let history ← readHistory config event customerId lookback
    compute (contextOf arith config event customerId history)

end

/-- The context is of the event it was built for. -/
theorem contextOf_source {arith : Arithmetic} {config : FraudConfig} {event : EventEnvelope}
    {customerId : UUID} {history : History} {context : FraudContext}
    (built : contextOf arith config event customerId history = .ok context) :
    context.sourceEventId = event.eventId := by
  simp only [contextOf, bind, Except.bind] at built
  repeat' split at built
  all_goals first
    | cases built; rfl
    | cases built

end CommercePlatform.Fraud
