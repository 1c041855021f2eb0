import CommercePlatform.Fraud.Models
import CommercePlatform.Lib.Dict
import CommercePlatform.Outbox.Repository

/-!
The tables of the migrations, with the columns the services read or write.

Every table is a map from its primary key. Money columns hold exact rationals; what
a `NUMERIC(38, 18)` column makes of a number is said by `Arithmetic.numeric`.
`created_at` and `updated_at` bookkeeping that nothing reads is left out.
-/

namespace CommercePlatform.Persistence

open Contract Fraud

/-! ### Rows -/

inductive CartStatus where
  | active
  | checkoutStarted
  | ordered
  deriving DecidableEq, Repr

inductive OrderStatus where
  | created
  | paid
  | partiallyRefunded
  | refunded
  deriving DecidableEq, Repr

inductive PaymentStatus where
  | completed
  | failed
  | partiallyRefunded
  | refunded
  deriving DecidableEq, Repr

structure ProcessedEvent where
  eventType : EventType
  eventVersion : Nat
  correlationId : UUID
  source : String
  eventTime : Instant
  producedAt : Instant
  kafkaTopic : String
  kafkaPartition : Int
  kafkaOffset : Int
  kafkaKey : Option (List UInt8)
  payloadJson : String
  payloadSha256 : String
  processorInstanceId : String
  deriving DecidableEq

structure Customer where
  emailHash : String
  persona : CustomerPersona
  homeCountry : String
  registeredAt : Instant
  firstEventId : UUID
  lastEventId : UUID
  deriving DecidableEq

structure Session where
  customerId : UUID
  deviceId : String
  deviceType : DeviceType
  ipAddress : IpAddress
  country : String
  channel : SessionChannel
  startedAt : Instant
  firstEventId : UUID
  deriving DecidableEq

structure ProductView where
  sessionId : UUID
  customerId : UUID
  productId : UUID
  category : String
  price : Rat
  currency : Currency
  quantityAvailable : Nat
  viewedAt : Instant
  deriving DecidableEq

structure Cart where
  customerId : UUID
  sessionId : UUID
  status : CartStatus
  subtotal : Rat
  discount : Rat
  total : Rat
  currency : Currency
  itemCount : Nat
  createdEventId : UUID
  latestEventId : UUID
  deriving DecidableEq

structure CartItem where
  quantity : Nat
  unitPrice : Rat
  lineTotal : Rat
  deriving DecidableEq

structure Order where
  customerId : UUID
  sessionId : UUID
  cartId : UUID
  status : OrderStatus
  subtotal : Rat
  discount : Rat
  total : Rat
  currency : Currency
  itemCount : Nat
  shippingCountry : String
  billingCountry : String
  createdEventId : UUID
  latestEventId : UUID
  orderedAt : Instant
  deriving DecidableEq

structure Payment where
  orderId : UUID
  customerId : UUID
  status : PaymentStatus
  amount : Rat
  currency : Currency
  paymentMethod : PaymentMethod
  failureReason : Option PaymentFailureReason
  deviceId : String
  ipAddress : IpAddress
  country : String
  eventId : UUID
  attemptedAt : Instant
  deriving DecidableEq

structure Refund where
  paymentId : UUID
  orderId : UUID
  customerId : UUID
  amount : Rat
  currency : Currency
  reason : String
  eventId : UUID
  requestedAt : Instant
  deriving DecidableEq

structure FraudEvaluationRow where
  sourceEventId : UUID
  customerId : UUID
  orderId : Option UUID
  paymentId : Option UUID
  totalScore : Int
  decision : FraudDecision
  severity : FraudSeverity
  engineVersion : String
  rulesetVersion : String
  matchedRuleCount : Nat
  ruleResults : List FraudRuleResult
  evaluatedAt : Instant
  deriving DecidableEq

/-- A row of `fraud_alerts`, under its unique `alert_id`. An alert of the engine names
its evaluation; an external one does not. -/
structure FraudAlert where
  evaluationId : Option UUID
  sourceEventId : UUID
  customerId : Option UUID
  orderId : Option UUID
  paymentId : Option UUID
  score : Int
  decision : FraudDecision
  severity : FraudSeverity
  reasonCodes : List String
  alertEventId : UUID
  createdAt : Instant
  deriving DecidableEq

/-- A row of `fraud_outbox` with the alert it is for. -/
structure FraudOutbox extends Outbox.Row where
  aggregateId : UUID
  deriving DecidableEq

/-! ### The database -/

structure Db where
  processedEvents : Dict UUID ProcessedEvent := ∅
  customers : Dict UUID Customer := ∅
  sessions : Dict UUID Session := ∅
  productViews : Dict UUID ProductView := ∅
  carts : Dict UUID Cart := ∅
  cartItems : Dict (UUID × UUID) CartItem := ∅
  orders : Dict UUID Order := ∅
  payments : Dict UUID Payment := ∅
  refunds : Dict UUID Refund := ∅
  fraudEvaluations : Dict UUID FraudEvaluationRow := ∅
  fraudAlerts : Dict UUID FraudAlert := ∅
  fraudOutbox : Dict UUID FraudOutbox := ∅

inductive Table where
  | processedEvents
  | customers
  | sessions
  | productViews
  | carts
  | cartItems
  | orders
  | payments
  | refunds
  | fraudEvaluations
  | fraudAlerts
  | fraudOutbox
  deriving DecidableEq, Repr

/-- One row written under its key. -/
inductive Write where
  | processedEvents (id : UUID) (row : ProcessedEvent)
  | customers (id : UUID) (row : Customer)
  | sessions (id : UUID) (row : Session)
  | productViews (id : UUID) (row : ProductView)
  | carts (id : UUID) (row : Cart)
  | cartItems (id : UUID × UUID) (row : CartItem)
  | orders (id : UUID) (row : Order)
  | payments (id : UUID) (row : Payment)
  | refunds (id : UUID) (row : Refund)
  | fraudEvaluations (id : UUID) (row : FraudEvaluationRow)
  | fraudAlerts (id : UUID) (row : FraudAlert)
  | fraudOutbox (id : UUID) (row : FraudOutbox)
  deriving DecidableEq

def Write.table : Write → Table
  | processedEvents _ _ => .processedEvents
  | customers _ _ => .customers
  | sessions _ _ => .sessions
  | productViews _ _ => .productViews
  | carts _ _ => .carts
  | cartItems _ _ => .cartItems
  | orders _ _ => .orders
  | payments _ _ => .payments
  | refunds _ _ => .refunds
  | fraudEvaluations _ _ => .fraudEvaluations
  | fraudAlerts _ _ => .fraudAlerts
  | fraudOutbox _ _ => .fraudOutbox

def Db.apply (db : Db) : Write → Db
  | .processedEvents id row => { db with processedEvents := db.processedEvents.set id row }
  | .customers id row => { db with customers := db.customers.set id row }
  | .sessions id row => { db with sessions := db.sessions.set id row }
  | .productViews id row => { db with productViews := db.productViews.set id row }
  | .carts id row => { db with carts := db.carts.set id row }
  | .cartItems id row => { db with cartItems := db.cartItems.set id row }
  | .orders id row => { db with orders := db.orders.set id row }
  | .payments id row => { db with payments := db.payments.set id row }
  | .refunds id row => { db with refunds := db.refunds.set id row }
  | .fraudEvaluations id row => { db with fraudEvaluations := db.fraudEvaluations.set id row }
  | .fraudAlerts id row => { db with fraudAlerts := db.fraudAlerts.set id row }
  | .fraudOutbox id row => { db with fraudOutbox := db.fraudOutbox.set id row }

/-! ### SQL errors -/

/-- What the server answers to a statement it refuses. -/
structure SqlError where
  sqlstate : String
  deriving DecidableEq

namespace SqlError

def uniqueViolation : SqlError := ⟨"23505"⟩

def foreignKeyViolation : SqlError := ⟨"23503"⟩

def checkViolation : SqlError := ⟨"23514"⟩

def numericValueOutOfRange : SqlError := ⟨"22003"⟩

end SqlError

/-! ### Arithmetic -/

/-- Decimal arithmetic, with the value a `NUMERIC(38, 18)` column stores for a number, if
it has one. -/
structure Arithmetic extends DecimalContext where
  numeric : Rat → Option Rat

/-- Arithmetic in which every number is represented exactly. -/
def Arithmetic.exact : Arithmetic where
  sum a b := some (a + b)
  product a b := some (a * b)
  quotient a b := some (a / b)
  numeric := some

/-- `INTEGER` and `BIGINT` columns. -/
def int4Max : Int := 2147483647

def int8Max : Int := 9223372036854775807

end CommercePlatform.Persistence
