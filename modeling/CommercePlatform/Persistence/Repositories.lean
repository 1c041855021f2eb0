import CommercePlatform.Persistence.Statements

/-!
The repositories (`persistence/repositories`) and the handler registry
(`persistence/handlers.py`).

Each repository method is the transaction body its cursor runs: every `execute`
is one statement, and every check between statements is on the fetched values.
Handlers return the number of rows written by table.
-/

namespace CommercePlatform.Persistence

open Contract Fraud

/-- Rows written, by table. -/
abbrev RowCounts := List (Table × Nat)

section

variable (rt : Runtime) (arith : Arithmetic)

/-! ### processed_events.py -/

def ledgerRow (event : EventEnvelope) (message : ConsumedMessage) (processorInstanceId : String)
    (persistRawJson : Bool) : ProcessedEvent :=
  { eventType := event.eventType
    eventVersion := event.eventVersion
    correlationId := event.correlationId
    source := event.source
    eventTime := event.eventTime
    producedAt := event.producedAt
    kafkaTopic := message.topic
    kafkaPartition := message.partition
    kafkaOffset := message.offset
    kafkaKey := message.key
    payloadJson := if persistRawJson then rt.canonicalJson event else "\x7b\x7d"
    payloadSha256 := rt.canonicalPayloadHash event
    processorInstanceId }

/-- `ProcessedEventRepository.insert_identity`: a SELECT by id, a SELECT by source
coordinate and a plain INSERT. -/
def insertIdentity (event : EventEnvelope) (message : ConsumedMessage)
    (processorInstanceId : String) (persistRawJson : Bool) : Sql Unit := do
  let digest := rt.canonicalPayloadHash event
  match ← sql (.selectEvent event.eventId) with
  | some existing =>
    if existing.1 = digest then raise .alreadyPersistedEvent event.eventId.str
    else
      raise .permanentDatabaseIntegrityError
        "event_id conflicts with different canonical event content"
  | none =>
    match ← sql (.selectEventAt message.topic message.partition message.offset) with
    | some _ =>
      raise .permanentDatabaseIntegrityError
        "Kafka source coordinate is already assigned to another event"
    | none =>
      let _ ← sql (.insertEvent event.eventId
        (ledgerRow rt event message processorInstanceId persistRawJson))

/-! ### customers.py and sessions.py -/

def registerCustomer (payload : UserRegisteredPayload) (eventId : UUID) : Sql Nat := do
  let identity := (payload.emailHash, payload.persona, payload.countryCode, payload.registeredAt)
  match ← sql (.selectCustomer payload.customerId) with
  | some existing =>
    if existing ≠ identity then
      raise .permanentDatabaseIntegrityError "customer immutable identity conflict"
    else
      let _ ← sql (.updateCustomer payload.customerId eventId)
      return 0
  | none =>
    let _ ← sql (.insertCustomer payload.customerId
      { emailHash := payload.emailHash
        persona := payload.persona
        homeCountry := payload.countryCode
        registeredAt := payload.registeredAt
        firstEventId := eventId
        lastEventId := eventId })
    return 1

/-- The dependency checks of the session-bound handlers. -/
def requireCustomer (customerId : UUID) : Sql Unit := do
  let found : Bool ← sql (.existsCustomer customerId)
  if found then return else raise .missingBusinessDependencyError "customer is not persisted"

def requireSession (sessionId : UUID) : Sql Unit := do
  let found : Bool ← sql (.existsSession sessionId)
  if found then return else raise .missingBusinessDependencyError "session is not persisted"

def insertSession (payload : SessionStartedPayload) (eventId : UUID) : Sql Nat := do
  requireCustomer payload.customerId
  let identity := (payload.customerId, payload.deviceId.str, payload.ipAddress.text,
    payload.countryCode, payload.startedAt)
  match ← sql (.selectSession payload.sessionId) with
  | some existing =>
    if existing ≠ identity then raise .permanentDatabaseIntegrityError "session identity conflict"
    else return 0
  | none =>
    let _ ← sql (.insertSession payload.sessionId
      { customerId := payload.customerId
        deviceId := payload.deviceId.str
        deviceType := payload.deviceType
        ipAddress := payload.ipAddress
        country := payload.countryCode
        channel := payload.channel
        startedAt := payload.startedAt
        firstEventId := eventId })
    return 1

/-! ### product_views.py -/

def insertProductView (payload : ProductViewedPayload) (eventId : UUID) (viewedAt : Instant) :
    Sql Nat := do
  requireCustomer payload.customerId
  requireSession payload.sessionId
  sql (.insertProductView eventId
    { sessionId := payload.sessionId
      customerId := payload.customerId
      productId := payload.productId
      category := payload.category
      price := payload.unitPrice.value
      currency := payload.currency
      quantityAvailable := payload.quantityAvailable
      viewedAt })

/-! ### carts.py -/

def addItem (payload : AddedToCartPayload) (eventId : UUID) : Sql RowCounts := do
  requireCustomer payload.customerId
  requireSession payload.sessionId
  let lineTotal ← compute (arith.mul payload.unitPrice.value payload.quantity)
  let carts : Nat ← sql (.upsertCart payload.cartId
    { customerId := payload.customerId
      sessionId := payload.sessionId
      status := .active
      subtotal := lineTotal
      discount := 0
      total := lineTotal
      currency := payload.currency
      itemCount := payload.quantity
      createdEventId := eventId
      latestEventId := eventId })
  if carts = 0 then raise .permanentDatabaseIntegrityError "cart identity conflict"
  else
    let _ ← sql (.upsertCartItem payload.cartId payload.productId
      { quantity := payload.quantity, unitPrice := payload.unitPrice.value, lineTotal })
    let _ ← sql (.refreshCart payload.cartId eventId)
    return [(.carts, 1), (.cartItems, 1)]

def checkout (payload : CheckoutStartedPayload) (eventId : UUID) : Sql Nat := do
  match ← sql (.lockCart payload.cartId) with
  | none => raise .missingBusinessDependencyError "cart is not persisted"
  | some row =>
    if row.customerId ≠ payload.customerId ∨ row.sessionId ≠ payload.sessionId ∨
        row.subtotal ≠ payload.subtotal.value ∨ row.currency ≠ payload.currency ∨
        row.itemCount ≠ payload.itemCount then
      raise .permanentDatabaseIntegrityError
        "checkout totals or cart identity do not match persisted cart"
    else
      sql (.checkoutCart payload.cartId payload.discountAmount.value payload.totalAmount.value
        eventId)

/-! ### orders.py -/

def insertOrder (payload : OrderCreatedPayload) (eventId : UUID) : Sql RowCounts := do
  match ← sql (.lockCart payload.cartId) with
  | none => raise .missingBusinessDependencyError "cart is not persisted"
  | some cart =>
    if cart.customerId ≠ payload.customerId ∨ cart.sessionId ≠ payload.sessionId ∨
        cart.subtotal ≠ payload.subtotal.value ∨ cart.discount ≠ payload.discountAmount.value ∨
        cart.total ≠ payload.totalAmount.value ∨ cart.currency ≠ payload.currency ∨
        cart.itemCount ≠ payload.itemCount then
      raise .permanentDatabaseIntegrityError "order totals or identity do not match persisted cart"
    else
      let orders : Nat ← sql (.insertOrder payload.orderId
        { customerId := payload.customerId
          sessionId := payload.sessionId
          cartId := payload.cartId
          status := .created
          subtotal := payload.subtotal.value
          discount := payload.discountAmount.value
          total := payload.totalAmount.value
          currency := payload.currency
          itemCount := payload.itemCount
          shippingCountry := payload.shippingCountryCode
          billingCountry := payload.billingCountryCode
          createdEventId := eventId
          latestEventId := eventId
          orderedAt := payload.createdAt })
      if orders = 0 then raise .permanentDatabaseIntegrityError "order identity conflict"
      else
        let _ ← sql (.orderCart payload.cartId eventId)
        return [(.orders, orders), (.carts, 1)]

/-! ### payments.py -/

/-- `PaymentRepository._insert`; `row` holds the columns taken from the payload, the
status and the event. -/
def insertPayment (paymentId : UUID) (row : Payment) : Sql RowCounts := do
  match ← sql (.lockOrder row.orderId) with
  | none => raise .missingBusinessDependencyError "order is not persisted"
  | some order =>
    if order.customerId ≠ row.customerId ∨ order.total ≠ row.amount ∨
        order.currency ≠ row.currency then
      raise .permanentDatabaseIntegrityError
        "payment amount, currency, or customer does not match order"
    else
      let payments : Nat ← sql (.insertPayment paymentId row)
      if payments = 0 then raise .permanentDatabaseIntegrityError "payment identity conflict"
      else if row.status = .completed then
        let orders : Nat ← sql (.updateOrder row.orderId .paid row.eventId)
        return [(.payments, payments), (.orders, orders)]
      else return [(.payments, payments), (.orders, 0)]

def insertCompleted (payload : PaymentCompletedPayload) (eventId : UUID) : Sql RowCounts :=
  insertPayment payload.paymentId
    { orderId := payload.orderId
      customerId := payload.customerId
      status := .completed
      amount := payload.amount.value
      currency := payload.currency
      paymentMethod := payload.paymentMethod
      failureReason := none
      deviceId := payload.deviceId.str
      ipAddress := payload.ipAddress
      country := payload.countryCode
      eventId
      attemptedAt := payload.completedAt }

def insertFailed (payload : PaymentFailedPayload) (eventId : UUID) : Sql RowCounts :=
  insertPayment payload.paymentId
    { orderId := payload.orderId
      customerId := payload.customerId
      status := .failed
      amount := payload.amount.value
      currency := payload.currency
      paymentMethod := payload.paymentMethod
      failureReason := some payload.failureReason
      deviceId := payload.deviceId.str
      ipAddress := payload.ipAddress
      country := payload.countryCode
      eventId
      attemptedAt := payload.failedAt }

/-! ### refunds.py -/

/-- The order status a payment status stands for after a refund. -/
def PaymentStatus.ofOrder : PaymentStatus → OrderStatus
  | .refunded => .refunded
  | _ => .partiallyRefunded

def refundRow (payload : RefundRequestedPayload) (eventId : UUID) : Refund :=
  { paymentId := payload.paymentId
    orderId := payload.orderId
    customerId := payload.customerId
    amount := payload.amount.value
    currency := payload.currency
    reason := payload.reason
    eventId
    requestedAt := payload.requestedAt }

/-- The second half of `RefundRepository.insert`: the balance check and the rows, once
the payment is locked and its refunds are summed. -/
def recordRefund (payload : RefundRequestedPayload) (eventId : UUID) (paid refunded : Rat) :
    Sql RowCounts := do
  let asked ← compute (arith.add refunded payload.amount.value)
  if paid < asked then
    raise .permanentDatabaseIntegrityError "refund exceeds remaining refundable amount"
  else
    let refunds : Nat ← sql (.insertRefund payload.refundId (refundRow payload eventId))
    if refunds = 0 then raise .permanentDatabaseIntegrityError "refund identity conflict"
    else
      let newTotal ← compute (arith.add refunded payload.amount.value)
      let paymentStatus : PaymentStatus :=
        if newTotal = paid then .refunded else .partiallyRefunded
      let _ ← sql (.updatePayment payload.paymentId paymentStatus)
      let _ ← sql (.updateOrder payload.orderId paymentStatus.ofOrder eventId)
      return [(.refunds, refunds), (.payments, 1), (.orders, 1)]

def insertRefund (payload : RefundRequestedPayload) (eventId : UUID) : Sql RowCounts := do
  match ← sql (.lockPayment payload.paymentId) with
  | none => raise .missingBusinessDependencyError "payment is not persisted"
  | some payment =>
    if payment.status ≠ .completed ∧ payment.status ≠ .partiallyRefunded ∧
        payment.status ≠ .refunded then
      raise .permanentDatabaseIntegrityError "refund requires a successful payment"
    else if payment.orderId ≠ payload.orderId ∨ payment.customerId ≠ payload.customerId ∨
        payment.currency ≠ payload.currency then
      raise .permanentDatabaseIntegrityError "refund identity or currency does not match payment"
    else
      let refunded : Rat ← sql (.sumRefunds payload.paymentId)
      recordRefund arith payload eventId payment.amount refunded

/-! ### fraud_alerts.py -/

/-- `ALERT_EVENT_NAMESPACE`: 8b3f028f-d1cb-465c-a662-ebfdcfb74d38. -/
def alertEventNamespace : UUID :=
  ⟨[8, 11, 3, 15, 0, 2, 8, 15, 13, 1, 12, 11, 4, 6, 5, 12, 10, 6, 6, 2, 14, 11, 15, 13, 12, 15,
    11, 7, 4, 13, 3, 8], rfl⟩

/-- The assignment of a number to an `INTEGER` column: to the nearest, ties away from
zero. -/
def toInteger (value : Rat) : Int :=
  if 0 ≤ value then (value + 1 / 2).floor else -(1 / 2 - value).floor

def externalAlertRow (payload : FraudAlertCreatedPayload) : FraudAlert :=
  { evaluationId := none
    sourceEventId := payload.eventId
    customerId := payload.customerId
    orderId := payload.orderId
    paymentId := none
    score := toInteger payload.fraudScore.value
    decision := payload.decision
    severity := if payload.decision = .block then .high else .medium
    reasonCodes := payload.reasons
    alertEventId := rt.uuid5 alertEventNamespace payload.alertId.str
    createdAt := payload.createdAt }

def insertExternalAlert (payload : FraudAlertCreatedPayload) : Sql Nat :=
  sql (.insertExternalAlert payload.alertId (externalAlertRow rt payload))

/-! ### handlers.py -/

/-- `default_persistence_registry()[event.event_type].apply`. -/
def applyHandler (event : EventEnvelope) : Sql RowCounts :=
  match event.payload with
  | .userRegistered payload => do
    let count ← registerCustomer payload event.eventId
    return [(.customers, count)]
  | .sessionStarted payload => do
    let count ← insertSession payload event.eventId
    return [(.sessions, count)]
  | .productViewed payload => do
    let count ← insertProductView payload event.eventId event.eventTime
    return [(.productViews, count)]
  | .addedToCart payload => addItem arith payload event.eventId
  | .checkoutStarted payload => do
    let count ← checkout payload event.eventId
    return [(.carts, count)]
  | .orderCreated payload => insertOrder payload event.eventId
  | .paymentCompleted payload => insertCompleted payload event.eventId
  | .paymentFailed payload => insertFailed payload event.eventId
  | .refundRequested payload => insertRefund arith payload event.eventId
  | .fraudAlertCreated payload => do
    let count ← insertExternalAlert rt payload
    return [(.fraudAlerts, count)]

end

end CommercePlatform.Persistence
