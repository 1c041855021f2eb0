import CommercePlatform.Generator.State

/-!
`JourneyBuilder` (`event_generator/journey.py`).

`build` is cut where the source returns early: `browse` runs to the decision to add to the
cart, `shop` to the decision to check out and `purchase` to the end of the journey. The
pieces hand the local variables of `build` on in a `Visit`, a `Basket` and the like; the
duration of the journey, which is only logged, is left out.
-/

namespace CommercePlatform.Generator

open Contract

structure JourneyResult where
  correlationId : UUID
  customerId : UUID
  events : List EventEnvelope
  persona : CustomerPersona
  returningCustomer : Bool
  customerLifetimeJourneys : Nat
  paymentAttemptCount : Nat

/-- What `_select_customer` returns. -/
structure Selection where
  customer : CustomerState
  returning : Bool

/-- What `_identity_for_session` returns, with the customer it has changed. -/
structure Identity where
  customer : CustomerState
  deviceId : UUID
  ipAddress : IpAddress
  country : String

/-- A journey up to the decision to add to the cart. -/
structure Visit where
  customer : CustomerState
  returning : Bool
  profile : PersonaProfile
  correlationId : UUID
  deviceId : UUID
  ipAddress : IpAddress
  country : String
  sessionId : UUID
  products : List Product
  events : List EventEnvelope
  adds : Bool

/-- The journey puts its product into the cart that an earlier one has abandoned. -/
def Visit.reuses (visit : Visit) : Bool :=
  visit.adds && visit.profile.reuseAbandonedCart && visit.customer.abandonedCart.isSome

/-- What was put into which cart. -/
structure Basket where
  product : Product
  quantity : Nat
  cartId : UUID
  subtotal : Decimal
  discount : Decimal
  event : EventEnvelope

/-- What `_payments` returns, with the events it has appended. -/
structure Payments where
  events : List EventEnvelope := []
  attempts : Nat := 0
  successful : Option UUID := none

/-- The branches that `_probability` knows. -/
inductive Branch where
  | add
  | checkout
  | payment
  | refund
  deriving DecidableEq, Repr

section

variable (rt : Runtime) (source : Source) (config : GeneratorConfig)

/-! ### Choosing the customer -/

/-- One of the branch controls differs from its default. -/
def overridden : Bool :=
  decide (config.maxProductViews ≤ 3 ∨ config.addToCartProbability ≠ 0.55 ∨
    config.checkoutProbability ≠ 0.70 ∨ config.paymentSuccessProbability ≠ 0.85 ∨
    config.refundProbability ≠ 0.05)

/-- The persona that the weights select. -/
def drawPersona : Gen CustomerPersona := do
  match parsePersonaWeights config.personaWeights with
  | none => raiseError (.valueError "invalid persona weights")
  | some weights =>
    let selected ← choices source weights
    if selected = .accountTakeover then
      let candidate ← takeoverCandidate source
      return if candidate.isNone then .normal else selected
    else return selected

/-- `_choose_persona`. -/
def choosePersona : Gen CustomerPersona :=
  match config.persona with
  | some .accountTakeover => do
    let candidate ← takeoverCandidate source
    if candidate.isNone then
      modify fun w => { w with seedingTakeover := true }
      return .normal
    else return .accountTakeover
  | some persona => return persona
  | none => if overridden config then return .normal else drawPersona source config

/-- The condition under which a customer is created although one could return. -/
def preferNew : Gen Bool := do
  let world ← get
  if world.customers.entries.length < config.customerPoolSize then
    chance source config.newCustomerProbability
  else return false

/-- `create`, as `_select_customer` calls it. -/
def newCustomer (persona : CustomerPersona) : Gen Selection := do
  let now ← awareNow source
  let customer ← createCustomer source config.customerPoolSize persona now
  return { customer, returning := false }

/-- `_select_customer`, for a persona that takes no account over. -/
def selectByPersona (persona : CustomerPersona) : Gen Selection := do
  let returning ← returningCustomer source persona
  match returning with
  | none => newCustomer source config persona
  | some customer =>
    if config.statefulMode then
      let create ← preferNew source config
      if create then newCustomer source config persona else return { customer, returning := true }
    else newCustomer source config persona

/-- `_select_customer`. -/
def selectCustomer (persona : CustomerPersona) : Gen Selection :=
  if persona = .accountTakeover then do
    let candidate ← takeoverCandidate source
    match candidate with
    | some customer => return { customer, returning := true }
    | none => selectByPersona source config persona
  else selectByPersona source config persona

/-- `_start_logical_time`. -/
def startLogicalTime (customer : CustomerState) (profile : PersonaProfile) (returning : Bool) :
    Gen Unit := do
  let now ← awareNow source
  match customer.lastActivityTimestamp with
  | some last =>
    if returning then
      let due ← later last profile.returnDelay
      modify fun w => { w with cursor := max now due }
    else modify fun w => { w with cursor := now }
  | none => modify fun w => { w with cursor := now }

/-! ### Events -/

/-- `_append`: the envelope of the next event. -/
def envelope (correlationId : UUID) (payload : Payload) (timestamp : Instant) :
    Gen EventEnvelope := do
  let eventId ← newUuid source
  return {
    eventId
    eventVersion := 1
    eventTime := timestamp
    producedAt := timestamp
    source := "event-generator"
    correlationId, payload }

/-- The registration of a new customer. -/
def register (selection : Selection) (correlationId : UUID) : Gen (List EventEnvelope) :=
  if selection.returning then return []
  else do
    let timestamp ← nextTimestamp 0
    let event ← envelope source correlationId
      (.userRegistered
        { customerId := selection.customer.customerId
          emailHash := emailHash rt selection.customer.customerId
          countryCode := selection.customer.homeCountry
          persona := selection.customer.persona
          registeredAt := timestamp })
      timestamp
    return [event]

/-- The last entry of a list that has one: `xs[-1]`. -/
def lastOf {α : Type} (xs : List α) : Gen α :=
  match xs.getLast? with
  | some a => return a
  | none => raiseError .indexError

/-- The device and address of a session. -/
def deviceFor (customer : CustomerState) (profile : PersonaProfile) : Gen Identity := do
  let changed ← chance source profile.deviceChangeProbability
  if changed then
    let deviceId ← newUuid source
    let address ← ipAddress source
    return {
      customer := { customer with
        knownDeviceIds := customer.knownDeviceIds ++ [deviceId]
        knownIpAddresses := customer.knownIpAddresses ++ [address] }
      deviceId
      ipAddress := address
      country := customer.homeCountry }
  else
    let deviceId ← lastOf customer.knownDeviceIds
    let address ← lastOf customer.knownIpAddresses
    return { customer, deviceId, ipAddress := address, country := customer.homeCountry }

/-- `_identity_for_session`. -/
def identityForSession (customer : CustomerState) (profile : PersonaProfile) : Gen Identity := do
  let identity ← deviceFor source customer profile
  let abroad ← chance source profile.countryChangeProbability
  if abroad then
    let country ← choice source ["DE", "GB", "US"]
    return { identity with country }
  else return identity

/-- The device type of a session. -/
def sessionDevice (persona : CustomerPersona) : Gen DeviceType :=
  if persona = .bot then return .bot else deviceType source

/-- The start of the session `sessionId`. -/
def startSession (identity : Identity) (profile : PersonaProfile) (correlationId sessionId : UUID) :
    Gen EventEnvelope := do
  let timestamp ← nextTimestamp profile.actionDelay
  let device ← sessionDevice source identity.customer.persona
  envelope source correlationId
    (.sessionStarted
      { sessionId
        customerId := identity.customer.customerId
        deviceId := identity.deviceId
        deviceType := device
        ipAddress := identity.ipAddress
        countryCode := identity.country
        channel := if identity.customer.persona = .bot then .api else .web
        startedAt := timestamp })
    timestamp

/-! ### Browsing -/

/-- A product that does not repeat the one before it. -/
def freshProduct (customer : CustomerState) (profile : PersonaProfile) (ranked products : List Product) :
    Gen Product :=
  if profile.highValue ∨ customer.persona = .discountHunter then
    match ranked[products.length % ranked.length]? with
    | some product => return product
    | none => raiseError .indexError
  else choice source ranked

/-- One round of the loop of `_view_products`. -/
def nextProduct (customer : CustomerState) (profile : PersonaProfile)
    (ranked products : List Product) : Gen Product :=
  match products.getLast? with
  | some last =>
    if profile.repeatViews then do
      let again ← chance source 0.45
      if again then return last else freshProduct source customer profile ranked products
    else freshProduct source customer profile ranked products
  | none => freshProduct source customer profile ranked products

/-- `n` rounds of it. -/
def moreProducts (customer : CustomerState) (profile : PersonaProfile) (ranked : List Product) :
    Nat → List Product → Gen (List Product)
  | 0, products => return products
  | n + 1, products => do
    let product ← nextProduct source customer profile ranked products
    moreProducts customer profile ranked n (products ++ [product])

/-- The product a persona with repeated views starts from. -/
def priorProducts (customer : CustomerState) (profile : PersonaProfile) : List Product :=
  if profile.repeatViews then
    (customer.lastViewedProducts.getLast?.bind fun productId =>
      productCatalogue.find? (·.productId = productId)).toList
  else []

/-- `_view_products`. -/
def viewProducts (customer : CustomerState) (profile : PersonaProfile) : Gen (List Product) := do
  let ranked := (strategyFor customer.persona).rankProducts productCatalogue
  let maximum := min profile.maxViews config.maxProductViews
  let minimum := min profile.minViews maximum
  let count ← randint source minimum maximum
  let prior := priorProducts customer profile
  moreProducts source customer profile ranked (count - prior.length) prior

/-- The views of the products. -/
def showProducts (customer : CustomerState) (profile : PersonaProfile)
    (correlationId sessionId : UUID) : List Product → Gen (List EventEnvelope)
  | [] => return []
  | product :: rest => do
    let timestamp ← nextTimestamp profile.actionDelay
    let event ← envelope source correlationId
      (.productViewed
        { sessionId
          customerId := customer.customerId
          productId := product.productId
          category := product.category
          unitPrice := product.price
          currency := customer.preferredCurrency
          quantityAvailable := product.availableQuantity })
      timestamp
    let events ← showProducts customer profile correlationId sessionId rest
    return event :: events

/-- `_probability`. -/
def probability (profile : PersonaProfile) (branch : Branch) : Gen Rat := do
  let world ← get
  return if world.seedingTakeover then
    match branch with
    | .add | .checkout | .payment => 1
    | .refund => 0
  else if profile.persona = .normal then
    match branch with
    | .add => config.addToCartProbability
    | .checkout => config.checkoutProbability
    | .payment => config.paymentSuccessProbability
    | .refund => config.refundProbability
  else
    match branch with
    | .add => profile.addProbability
    | .checkout => profile.checkoutProbability
    | .payment => profile.paymentSuccessProbability
    | .refund => profile.refundProbability

/-- `build`, up to the decision to add to the cart. -/
def browse : Gen Visit := do
  modify fun w => { w with seedingTakeover := false }
  let persona ← choosePersona source config
  let selection ← selectCustomer source config persona
  let profile := (strategyFor selection.customer.persona).profile
  startLogicalTime source selection.customer profile selection.returning
  let correlationId ← newUuid source
  let registration ← register rt source selection correlationId
  let identity ← identityForSession source selection.customer profile
  let sessionId ← newUuid source
  let session ← startSession source identity profile correlationId sessionId
  let products ← viewProducts source config identity.customer profile
  let views ← showProducts source identity.customer profile correlationId sessionId products
  let adding ← probability config profile .add
  let adds ← chance source adding
  return {
    customer := identity.customer
    returning := selection.returning
    profile, correlationId
    deviceId := identity.deviceId
    ipAddress := identity.ipAddress
    country := identity.country
    sessionId, products
    events := registration ++ session :: views
    adds }

/-! ### The cart -/

/-- The first product that no other beats: `max` and `min` with a key. -/
def firstBest (beats : Product → Product → Bool) : List Product → Option Product
  | [] => none
  | product :: rest =>
    some (rest.foldl (fun best other => if beats other best then other else best) product)

def bestProduct (beats : Product → Product → Bool) (products : List Product) : Gen Product :=
  match firstBest beats products with
  | some product => return product
  | none => raiseError (.valueError "iterable argument is empty")

/-- `_cart_product`. -/
def cartProduct (visit : Visit) : Gen Product :=
  if visit.profile.highValue then
    bestProduct (fun a b => b.price.value < a.price.value) visit.products
  else if visit.customer.persona = .discountHunter then
    bestProduct (fun a b => a.price.value < b.price.value) visit.products
  else choice source visit.products

/-- `_discount`. -/
def discountFor (visit : Visit) (subtotal : Decimal) : Gen Decimal := do
  let probability :=
    if visit.customer.persona = .discountHunter ∧ visit.customer.abandonedCart.isSome then 1
    else visit.profile.discountProbability
  let granted ← chance source probability
  return if granted then (subtotal.mul visit.profile.discountRate).quantizeCents else .cents 0

/-- The cart: the abandoned one, or a new one. -/
def cartFor (visit : Visit) : Gen UUID :=
  match visit.customer.abandonedCart with
  | some cart => if visit.profile.reuseAbandonedCart then return cart.cartId else newUuid source
  | none => newUuid source

/-- `build`, from there to the discount. -/
def fillBasket (visit : Visit) : Gen Basket := do
  let product ← cartProduct source visit
  let quantity ← quantity source product
  let cartId ← cartFor source visit
  let timestamp ← nextTimestamp visit.profile.actionDelay
  let event ← envelope source visit.correlationId
    (.addedToCart
      { sessionId := visit.sessionId
        customerId := visit.customer.customerId
        cartId
        productId := product.productId
        quantity
        unitPrice := product.price
        currency := visit.customer.preferredCurrency })
    timestamp
  let subtotal := product.price.mul (.ofNat quantity)
  let discount ← discountFor source visit subtotal
  return { product, quantity, cartId, subtotal, discount, event }

/-- The decision to check out. -/
def checksOut (visit : Visit) (basket : Basket) : Gen Bool := do
  let usual ← probability config visit.profile .checkout
  chance source
    (if visit.customer.persona = .discountHunter ∧ basket.discount.value = 0 then min usual 0.10
      else usual)

/-! ### The purchase -/

/-- `payment_completed`. -/
def completedPayload (visit : Visit) (orderId paymentId : UUID) (total : Decimal)
    (method : PaymentMethod) (timestamp : Instant) : PaymentCompletedPayload :=
  { paymentId, orderId
    customerId := visit.customer.customerId
    amount := total
    currency := visit.customer.preferredCurrency
    paymentMethod := method
    deviceId := visit.deviceId
    ipAddress := visit.ipAddress
    countryCode := visit.country
    completedAt := timestamp }

/-- `payment_failed`. -/
def failedPayload (visit : Visit) (orderId paymentId : UUID) (total : Decimal)
    (method : PaymentMethod) (reason : PaymentFailureReason) (timestamp : Instant) :
    PaymentFailedPayload :=
  { paymentId, orderId
    customerId := visit.customer.customerId
    amount := total
    currency := visit.customer.preferredCurrency
    paymentMethod := method
    failureReason := reason
    deviceId := visit.deviceId
    ipAddress := visit.ipAddress
    countryCode := visit.country
    failedAt := timestamp }

/-- `_payments`, with at most so many rounds of its loop left. -/
def payments (visit : Visit) (orderId : UUID) (total : Decimal) : Nat → Gen Payments
  | 0 => return {}
  | n + 1 => do
    let paymentId ← newUuid source
    let timestamp ← nextTimestamp visit.profile.actionDelay
    let paying ← probability config visit.profile .payment
    let success ← chance source paying
    if success then
      let method ← paymentMethod source
      let event ← envelope source visit.correlationId
        (.paymentCompleted (completedPayload visit orderId paymentId total method timestamp))
        timestamp
      return { events := [event], attempts := 1, successful := some paymentId }
    else
      let method ← paymentMethod source
      let reason ← paymentFailureReason source
      let event ← envelope source visit.correlationId
        (.paymentFailed (failedPayload visit orderId paymentId total method reason timestamp))
        timestamp
      let again ← chance source
        (max visit.profile.retryProbability config.paymentRetryProbability)
      if again then
        let rest ← payments visit orderId total n
        return {
          events := event :: rest.events
          attempts := rest.attempts + 1
          successful := rest.successful }
      else return { events := [event], attempts := 1 }

/-- How often `_payments` tries at most. -/
def maximumAttempts (profile : PersonaProfile) : Nat :=
  if 0 < profile.retryProbability then config.maxPaymentAttempts else 1

/-- The amount that is charged. -/
def Basket.total (basket : Basket) : Decimal := basket.subtotal.sub basket.discount

/-- `checkout_started`. -/
def checkoutPayload (visit : Visit) (basket : Basket) : CheckoutStartedPayload :=
  { sessionId := visit.sessionId
    customerId := visit.customer.customerId
    cartId := basket.cartId
    itemCount := basket.quantity
    subtotal := basket.subtotal
    discountAmount := basket.discount
    totalAmount := basket.total
    currency := visit.customer.preferredCurrency }

def startCheckout (visit : Visit) (basket : Basket) : Gen EventEnvelope := do
  let timestamp ← nextTimestamp visit.profile.actionDelay
  envelope source visit.correlationId (.checkoutStarted (checkoutPayload visit basket)) timestamp

/-- `order_created`. -/
def orderPayload (visit : Visit) (basket : Basket) (orderId : UUID) (timestamp : Instant) :
    OrderCreatedPayload :=
  { orderId
    customerId := visit.customer.customerId
    sessionId := visit.sessionId
    cartId := basket.cartId
    itemCount := basket.quantity
    subtotal := basket.subtotal
    discountAmount := basket.discount
    totalAmount := basket.total
    currency := visit.customer.preferredCurrency
    shippingCountryCode := visit.country
    billingCountryCode := visit.customer.homeCountry
    createdAt := timestamp }

def createOrder (visit : Visit) (basket : Basket) (orderId : UUID) : Gen EventEnvelope := do
  let timestamp ← nextTimestamp visit.profile.actionDelay
  envelope source visit.correlationId
    (.orderCreated (orderPayload visit basket orderId timestamp)) timestamp

/-- `refund_requested`. -/
def refundPayload (visit : Visit) (orderId paymentId refundId : UUID) (total : Decimal)
    (timestamp : Instant) : RefundRequestedPayload :=
  { refundId, paymentId, orderId
    customerId := visit.customer.customerId
    amount := total.half.quantizeCents
    currency := visit.customer.preferredCurrency
    reason := "customer request"
    requestedAt := timestamp }

def requestRefund (visit : Visit) (orderId paymentId : UUID) (total : Decimal) :
    Gen EventEnvelope := do
  let timestamp ← nextTimestamp visit.profile.actionDelay
  let refundId ← newUuid source
  envelope source visit.correlationId
    (.refundRequested (refundPayload visit orderId paymentId refundId total timestamp)) timestamp

/-- The refund of a successful payment, if there is one. -/
def refundFor (visit : Visit) (orderId : UUID) (total : Decimal) (successful : Option UUID) :
    Gen (List EventEnvelope) :=
  match successful with
  | none => return []
  | some paymentId => do
    let refunding ← probability config visit.profile .refund
    let refunded ← chance source refunding
    if refunded then
      let event ← requestRefund source visit orderId paymentId total
      return [event]
    else return []

/-! ### The end of a journey -/

/-- What `_finish` takes from one event. -/
def CustomerState.record (customer : CustomerState) (event : EventEnvelope) : CustomerState :=
  match event.payload with
  | .productViewed payload =>
    let viewed := customer.lastViewedProducts ++ [payload.productId]
    { customer with lastViewedProducts := viewed.drop (viewed.length - 10) }
  | .paymentCompleted payload =>
    { customer with
      previousPaymentIds := customer.previousPaymentIds ++ [payload.paymentId]
      accumulatedSpend := customer.accumulatedSpend + payload.amount.value }
  | .paymentFailed payload =>
    { customer with previousPaymentIds := customer.previousPaymentIds ++ [payload.paymentId] }
  | _ => customer

/-- The customer as `_finish` commits it, for the time of the last event. -/
def CustomerState.finished (customer : CustomerState) (events : List EventEnvelope)
    (sessionId : UUID) (orderId : Option UUID) (last : Instant) : CustomerState :=
  let count := fun type : EventType => events.countP fun event => event.eventType = type
  let successful := customer.successfulPayments + count .paymentCompleted
  let recorded := events.foldl CustomerState.record
    { customer with
      totalJourneys := customer.totalJourneys + 1
      totalProductViews := customer.totalProductViews + count .productViewed
      totalCartAdditions := customer.totalCartAdditions + count .addedToCart
      totalCheckouts := customer.totalCheckouts + count .checkoutStarted
      successfulPayments := successful
      failedPayments := customer.failedPayments + count .paymentFailed
      refunds := customer.refunds + count .refundRequested
      previousSessionIds := customer.previousSessionIds ++ [sessionId]
      previousOrderIds := customer.previousOrderIds ++ orderId.toList }
  { recorded with
    lastActivityTimestamp := some last
    priorNormalHistory :=
      decide (customer.persona = .normal ∧ 0 < successful) || customer.priorNormalHistory
    abandonedCart := if 0 < count .checkoutStarted then none else customer.abandonedCart }

/-- `_finish`. -/
def finish (visit : Visit) (customer : CustomerState) (events : List EventEnvelope)
    (orderId : Option UUID) (attempts : Nat) : Gen JourneyResult := do
  let last ← lastOf events
  let finished := customer.finished events visit.sessionId orderId last.eventTime
  commitCustomer config.customerPoolSize finished
  return {
    correlationId := visit.correlationId
    customerId := finished.customerId
    events
    persona := finished.persona
    returningCustomer := visit.returning
    customerLifetimeJourneys := finished.totalJourneys
    paymentAttemptCount := attempts }

/-- `build`, after the decision to check out. -/
def purchase (visit : Visit) (basket : Basket) : Gen JourneyResult := do
  let checkout ← startCheckout source visit basket
  let orderId ← newUuid source
  let order ← createOrder source visit basket orderId
  let paid ← payments source config visit orderId basket.total (maximumAttempts config visit.profile)
  let refund ← refundFor source config visit orderId basket.total paid.successful
  finish config visit visit.customer
    (visit.events ++ basket.event :: checkout :: order :: (paid.events ++ refund))
    (some orderId) paid.attempts

/-- `build`, after the decision to add to the cart. -/
def shop (visit : Visit) : Gen JourneyResult := do
  let basket ← fillBasket source visit
  let buys ← checksOut source config visit basket
  if buys then purchase source config visit basket
  else
    finish config visit
      { visit.customer with
        abandonedCart := some { cartId := basket.cartId, productId := basket.product.productId } }
      (visit.events ++ [basket.event]) none 0

/-- `JourneyBuilder.build`. -/
def build : Gen JourneyResult := do
  let visit ← browse rt source config
  if visit.adds then shop source config visit
  else finish config visit visit.customer visit.events none 0

end

end CommercePlatform.Generator
