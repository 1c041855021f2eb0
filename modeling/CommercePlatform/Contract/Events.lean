import Mathlib.Data.Rat.Defs
import Mathlib.Algebra.Order.Ring.Rat
import Mathlib.Algebra.Field.Rat
import CommercePlatform.Models

/-!
The event contract (`shared/schemas`, `shared/commerce_common`).

The payload of an event decides its type: the envelope's validator rejects every
other combination, so `EventEnvelope.eventType` is read off the payload.
-/

namespace CommercePlatform.Contract

/-! ### Enumerations -/

inductive EventType where
  | userRegistered
  | sessionStarted
  | productViewed
  | addedToCart
  | checkoutStarted
  | orderCreated
  | paymentCompleted
  | paymentFailed
  | refundRequested
  | fraudAlertCreated
  deriving DecidableEq, Repr

def EventType.value : EventType → String
  | userRegistered => "user_registered"
  | sessionStarted => "session_started"
  | productViewed => "product_viewed"
  | addedToCart => "added_to_cart"
  | checkoutStarted => "checkout_started"
  | orderCreated => "order_created"
  | paymentCompleted => "payment_completed"
  | paymentFailed => "payment_failed"
  | refundRequested => "refund_requested"
  | fraudAlertCreated => "fraud_alert_created"

inductive CustomerPersona where
  | normal
  | indecisive
  | discountHunter
  | suspicious
  | bot
  | accountTakeover
  deriving DecidableEq, Repr

inductive Currency where
  | try_
  | eur
  | usd
  | gbp
  deriving DecidableEq, Repr

inductive PaymentMethod where
  | creditCard
  | debitCard
  | bankTransfer
  | digitalWallet
  deriving DecidableEq, Repr

inductive PaymentFailureReason where
  | insufficientFunds
  | declined
  | expiredCard
  | invalidDetails
  | processorError
  | fraudSuspected
  deriving DecidableEq, Repr

inductive FraudDecision where
  | approve
  | review
  | block
  deriving DecidableEq, Repr

inductive DeviceType where
  | desktop
  | mobile
  | tablet
  | bot
  deriving DecidableEq, Repr

inductive SessionChannel where
  | web
  | mobileApp
  | partner
  | api
  deriving DecidableEq, Repr

/-! ### Scalars -/

/-- A finite `decimal.Decimal`: sign, coefficient and exponent. -/
structure Decimal where
  negative : Bool := false
  coefficient : Nat
  exponent : Int := 0
  deriving DecidableEq

/-- The number a `Decimal` stands for; comparisons and arithmetic go by it. -/
def Decimal.value (d : Decimal) : Rat :=
  (if d.negative then -1 else 1) * d.coefficient * (10 : Rat) ^ d.exponent

/-- The operators of Python's decimal context, which have no result where they raise
`decimal.Overflow`. -/
structure DecimalContext where
  sum : Rat → Rat → Option Rat
  product : Rat → Rat → Option Rat
  quotient : Rat → Rat → Option Rat

namespace DecimalContext

/-- The result of an operator, or the exception it raises. -/
def orOverflow : Option Rat → Except PyException Rat
  | some r => .ok r
  | none => .error .decimalOverflow

variable (context : DecimalContext)

def add (a b : Rat) : Except PyException Rat := orOverflow (context.sum a b)

def mul (a b : Rat) : Except PyException Rat := orOverflow (context.product a b)

def div (a b : Rat) : Except PyException Rat := orOverflow (context.quotient a b)

end DecimalContext

/-- An IP address in its canonical text; a netmask is no part of it. -/
structure IpAddress where
  text : String
  v6 : Bool := false
  plain : '/' ∉ text.toList := by decide +kernel
  deriving DecidableEq

/-- `inet::text` writes the netmask length too. -/
def IpAddress.inetText (ip : IpAddress) : String := ip.text ++ (if ip.v6 then "/128" else "/32")

/-- So the column never reads as an address is written. -/
theorem IpAddress.inetText_ne (ip other : IpAddress) : ip.inetText ≠ other.text := by
  intro same
  apply other.plain
  rw [← same, inetText, String.toList_append]
  apply List.mem_append_right
  cases ip.v6 <;> decide

/-! ### Payloads -/

structure UserRegisteredPayload where
  customerId : UUID
  emailHash : String
  countryCode : String
  persona : CustomerPersona
  registeredAt : Instant
  deriving DecidableEq

structure SessionStartedPayload where
  sessionId : UUID
  customerId : UUID
  deviceId : UUID
  deviceType : DeviceType
  ipAddress : IpAddress
  countryCode : String
  channel : SessionChannel
  startedAt : Instant
  deriving DecidableEq

structure ProductViewedPayload where
  sessionId : UUID
  customerId : UUID
  productId : UUID
  category : String
  unitPrice : Decimal
  currency : Currency
  quantityAvailable : Nat
  deriving DecidableEq

structure AddedToCartPayload where
  sessionId : UUID
  customerId : UUID
  cartId : UUID
  productId : UUID
  quantity : Nat
  unitPrice : Decimal
  currency : Currency
  deriving DecidableEq

structure CheckoutStartedPayload where
  sessionId : UUID
  customerId : UUID
  cartId : UUID
  itemCount : Nat
  subtotal : Decimal
  discountAmount : Decimal
  totalAmount : Decimal
  currency : Currency
  deriving DecidableEq

structure OrderCreatedPayload where
  orderId : UUID
  customerId : UUID
  sessionId : UUID
  cartId : UUID
  itemCount : Nat
  subtotal : Decimal
  discountAmount : Decimal
  totalAmount : Decimal
  currency : Currency
  shippingCountryCode : String
  billingCountryCode : String
  createdAt : Instant
  deriving DecidableEq

structure PaymentCompletedPayload where
  paymentId : UUID
  orderId : UUID
  customerId : UUID
  amount : Decimal
  currency : Currency
  paymentMethod : PaymentMethod
  deviceId : UUID
  ipAddress : IpAddress
  countryCode : String
  completedAt : Instant
  deriving DecidableEq

structure PaymentFailedPayload where
  paymentId : UUID
  orderId : UUID
  customerId : UUID
  amount : Decimal
  currency : Currency
  paymentMethod : PaymentMethod
  failureReason : PaymentFailureReason
  deviceId : UUID
  ipAddress : IpAddress
  countryCode : String
  failedAt : Instant
  deriving DecidableEq

structure RefundRequestedPayload where
  refundId : UUID
  paymentId : UUID
  orderId : UUID
  customerId : UUID
  amount : Decimal
  currency : Currency
  reason : String
  requestedAt : Instant
  deriving DecidableEq

structure FraudAlertCreatedPayload where
  alertId : UUID
  eventId : UUID
  customerId : Option UUID
  orderId : Option UUID
  fraudScore : Decimal
  decision : FraudDecision
  reasons : List String
  createdAt : Instant
  deriving DecidableEq

inductive Payload where
  | userRegistered (payload : UserRegisteredPayload)
  | sessionStarted (payload : SessionStartedPayload)
  | productViewed (payload : ProductViewedPayload)
  | addedToCart (payload : AddedToCartPayload)
  | checkoutStarted (payload : CheckoutStartedPayload)
  | orderCreated (payload : OrderCreatedPayload)
  | paymentCompleted (payload : PaymentCompletedPayload)
  | paymentFailed (payload : PaymentFailedPayload)
  | refundRequested (payload : RefundRequestedPayload)
  | fraudAlertCreated (payload : FraudAlertCreatedPayload)
  deriving DecidableEq

/-- The type registered for a payload class. -/
def Payload.eventType : Payload → EventType
  | userRegistered _ => .userRegistered
  | sessionStarted _ => .sessionStarted
  | productViewed _ => .productViewed
  | addedToCart _ => .addedToCart
  | checkoutStarted _ => .checkoutStarted
  | orderCreated _ => .orderCreated
  | paymentCompleted _ => .paymentCompleted
  | paymentFailed _ => .paymentFailed
  | refundRequested _ => .refundRequested
  | fraudAlertCreated _ => .fraudAlertCreated

structure EventEnvelope where
  eventId : UUID
  eventVersion : Nat
  eventTime : Instant
  producedAt : Instant
  source : String
  correlationId : UUID
  payload : Payload
  deriving DecidableEq

def EventEnvelope.eventType (event : EventEnvelope) : EventType := event.payload.eventType

/-! ### Optional attributes

What `getattr(payload, name, None)` finds. -/

namespace Payload

def customerId : Payload → Option UUID
  | userRegistered p => some p.customerId
  | sessionStarted p => some p.customerId
  | productViewed p => some p.customerId
  | addedToCart p => some p.customerId
  | checkoutStarted p => some p.customerId
  | orderCreated p => some p.customerId
  | paymentCompleted p => some p.customerId
  | paymentFailed p => some p.customerId
  | refundRequested p => some p.customerId
  | fraudAlertCreated p => p.customerId

def orderId : Payload → Option UUID
  | orderCreated p => some p.orderId
  | paymentCompleted p => some p.orderId
  | paymentFailed p => some p.orderId
  | refundRequested p => some p.orderId
  | fraudAlertCreated p => p.orderId
  | _ => none

def paymentId : Payload → Option UUID
  | paymentCompleted p => some p.paymentId
  | paymentFailed p => some p.paymentId
  | refundRequested p => some p.paymentId
  | _ => none

def sessionId : Payload → Option UUID
  | sessionStarted p => some p.sessionId
  | productViewed p => some p.sessionId
  | addedToCart p => some p.sessionId
  | checkoutStarted p => some p.sessionId
  | orderCreated p => some p.sessionId
  | _ => none

def amount : Payload → Option Decimal
  | paymentCompleted p => some p.amount
  | paymentFailed p => some p.amount
  | refundRequested p => some p.amount
  | _ => none

def totalAmount : Payload → Option Decimal
  | checkoutStarted p => some p.totalAmount
  | orderCreated p => some p.totalAmount
  | _ => none

def currency : Payload → Option Currency
  | productViewed p => some p.currency
  | addedToCart p => some p.currency
  | checkoutStarted p => some p.currency
  | orderCreated p => some p.currency
  | paymentCompleted p => some p.currency
  | paymentFailed p => some p.currency
  | refundRequested p => some p.currency
  | _ => none

def deviceId : Payload → Option UUID
  | sessionStarted p => some p.deviceId
  | paymentCompleted p => some p.deviceId
  | paymentFailed p => some p.deviceId
  | _ => none

def countryCode : Payload → Option String
  | userRegistered p => some p.countryCode
  | sessionStarted p => some p.countryCode
  | paymentCompleted p => some p.countryCode
  | paymentFailed p => some p.countryCode
  | _ => none

def paymentMethod : Payload → Option PaymentMethod
  | paymentCompleted p => some p.paymentMethod
  | paymentFailed p => some p.paymentMethod
  | _ => none

end Payload

/-! ### Kafka metadata (`shared/kafka_metadata.py`) -/

/-- `event_message_key`: the customer when there is one, else the correlation. -/
def EventEnvelope.messageKey (event : EventEnvelope) : List UInt8 :=
  ((event.payload.customerId.getD event.correlationId).str).toUTF8.toList

/-- `event_message_headers`. -/
def EventEnvelope.messageHeaders (event : EventEnvelope) : List (String × String) :=
  [("event_id", event.eventId.str), ("event_type", event.eventType.value),
    ("event_version", toString event.eventVersion), ("correlation_id", event.correlationId.str),
    ("source", event.source), ("content_type", "application/json")]

/-! ### Canonical form and digests -/

/-- Functions of the libraries the services rest on: `canonical_json` (the JSON that
pydantic and `json.dumps` render), `sha256(..).hexdigest()` and `uuid5`. -/
structure Runtime where
  canonicalJson : EventEnvelope → String
  sha256Hex : String → String
  uuid5 : UUID → String → UUID

/-- `canonical_payload_hash`. -/
def Runtime.canonicalPayloadHash (rt : Runtime) (event : EventEnvelope) : String :=
  rt.sha256Hex (rt.canonicalJson event)

end CommercePlatform.Contract
