import CommercePlatform.Generator.Personas

/-!
The life of a customer, as the documentation of the generator draws it: a registration,
then sessions, each with its views, perhaps a cart, a checkout, an order, payments and a
refund, every event with the identifiers and amounts of those before it.

`Follows` is one event and `Lives` a sequence of them. Nothing here is about how events are
generated or stored: `Causality` shows that the generator's customers live like this, and
`Persistence.JourneyAcceptance` that the tables accept every such life.
-/

namespace CommercePlatform.Generator

open Contract

/-! ### Amounts -/

/-- An amount of money: whole hundredths, well inside every numeric type. -/
def IsAmount (d : Decimal) : Prop := ∃ n < 10 ^ 9, d = .cents n

/-! ### Stages -/

/-- How far a customer has come. -/
inductive Stage where
  | unregistered
  | registered
  | browsing (sessionId : UUID)
  | carted (cart : AddedToCartPayload)
  | checkedOut (checkout : CheckoutStartedPayload)
  | ordered (order : OrderCreatedPayload)
  | paid (order : OrderCreatedPayload) (payment : PaymentCompletedPayload)
  | refunded

/-- The checkout is of that cart. -/
structure Checks (cart : AddedToCartPayload) (checkout : CheckoutStartedPayload) : Prop where
  sessionId : checkout.sessionId = cart.sessionId
  cartId : checkout.cartId = cart.cartId
  itemCount : checkout.itemCount = cart.quantity
  currency : checkout.currency = cart.currency
  subtotal : checkout.subtotal = cart.unitPrice.mul (.ofNat cart.quantity)
  discount : IsAmount checkout.discountAmount
  total : IsAmount checkout.totalAmount

/-- The order is for that checkout. -/
structure Orders (checkout : CheckoutStartedPayload) (order : OrderCreatedPayload) : Prop where
  sessionId : order.sessionId = checkout.sessionId
  cartId : order.cartId = checkout.cartId
  itemCount : order.itemCount = checkout.itemCount
  currency : order.currency = checkout.currency
  subtotal : order.subtotal = checkout.subtotal
  discount : order.discountAmount = checkout.discountAmount
  total : order.totalAmount = checkout.totalAmount
  positive : 0 < order.totalAmount.value

/-- The refund is of that payment. -/
structure Refunds (order : OrderCreatedPayload) (payment : PaymentCompletedPayload)
    (refund : RefundRequestedPayload) : Prop where
  paymentId : refund.paymentId = payment.paymentId
  orderId : refund.orderId = order.orderId
  currency : refund.currency = payment.currency
  amount : IsAmount refund.amount
  positive : 0 < refund.amount.value
  covered : refund.amount.value ≤ payment.amount.value

/-- One event in the life of a customer. -/
inductive Follows : Stage → Payload → Stage → Prop where
  | register (p : UserRegisteredPayload) : Follows .unregistered (.userRegistered p) .registered
  | visit {stage : Stage} (p : SessionStartedPayload) (known : stage ≠ .unregistered) :
      Follows stage (.sessionStarted p) (.browsing p.sessionId)
  | view {id : UUID} (p : ProductViewedPayload) (session : p.sessionId = id)
      (price : IsAmount p.unitPrice) (stock : p.quantityAvailable ≤ 1000) :
      Follows (.browsing id) (.productViewed p) (.browsing id)
  | add {id : UUID} (p : AddedToCartPayload) (session : p.sessionId = id)
      (price : IsAmount p.unitPrice) (line : IsAmount (p.unitPrice.mul (.ofNat p.quantity)))
      (some_ : 0 < p.quantity) (few : p.quantity ≤ 1000) :
      Follows (.browsing id) (.addedToCart p) (.carted p)
  | checkout {cart : AddedToCartPayload} (p : CheckoutStartedPayload) (checks : Checks cart p) :
      Follows (.carted cart) (.checkoutStarted p) (.checkedOut p)
  | order {checkout : CheckoutStartedPayload} (p : OrderCreatedPayload)
      (orders : Orders checkout p) : Follows (.checkedOut checkout) (.orderCreated p) (.ordered p)
  | fail {order : OrderCreatedPayload} (p : PaymentFailedPayload)
      (orderId : p.orderId = order.orderId) (amount : p.amount = order.totalAmount)
      (currency : p.currency = order.currency) :
      Follows (.ordered order) (.paymentFailed p) (.ordered order)
  | pay {order : OrderCreatedPayload} (p : PaymentCompletedPayload)
      (orderId : p.orderId = order.orderId) (amount : p.amount = order.totalAmount)
      (currency : p.currency = order.currency) :
      Follows (.ordered order) (.paymentCompleted p) (.paid order p)
  | refund {order : OrderCreatedPayload} {payment : PaymentCompletedPayload}
      (p : RefundRequestedPayload) (refunds : Refunds order payment p) :
      Follows (.paid order payment) (.refundRequested p) .refunded

/-- A sequence of events. -/
inductive Lives : Stage → List EventEnvelope → Stage → Prop where
  | nil (stage : Stage) : Lives stage [] stage
  | cons {stage next last : Stage} {event : EventEnvelope} {events : List EventEnvelope}
      (first : Follows stage event.payload next) (rest : Lives next events last) :
      Lives stage (event :: events) last

theorem Lives.append {stage middle last : Stage} {events events' : List EventEnvelope}
    (first : Lives stage events middle) (second : Lives middle events' last) :
    Lives stage (events ++ events') last := by
  induction first with
  | nil stage => exact second
  | cons step _ ih => exact .cons step (ih second)

/-- Nobody unregisters. -/
theorem Follows.registered {stage next : Stage} {payload : Payload}
    (follows : Follows stage payload next) : next ≠ .unregistered := by
  cases follows <;> exact Stage.noConfusion

theorem Lives.registered {stage last : Stage} {events : List EventEnvelope}
    (lives : Lives stage events last) (known : stage ≠ .unregistered ∨ events ≠ []) :
    last ≠ .unregistered := by
  induction lives with
  | nil stage => exact known.resolve_right fun none_ => none_ rfl
  | cons first _ ih => exact ih (Or.inl first.registered)

/-! ### Identifiers -/

/-- The identifier under which the tables keep what the event brings into being. -/
def creates : Payload → Option UUID
  | .userRegistered p => some p.customerId
  | .sessionStarted p => some p.sessionId
  | .addedToCart p => some p.cartId
  | .orderCreated p => some p.orderId
  | .paymentCompleted p => some p.paymentId
  | .paymentFailed p => some p.paymentId
  | .refundRequested p => some p.refundId
  | _ => none

/-- The identifiers that are new with an event. -/
def newIds (event : EventEnvelope) : List UUID := (creates event.payload).toList ++ [event.eventId]

def allNewIds (events : List EventEnvelope) : List UUID := events.flatMap newIds

@[simp] theorem allNewIds_nil : allNewIds [] = [] := rfl

@[simp] theorem allNewIds_cons (event : EventEnvelope) (events : List EventEnvelope) :
    allNewIds (event :: events) = newIds event ++ allNewIds events := rfl

theorem allNewIds_append (events events' : List EventEnvelope) :
    allNewIds (events ++ events') = allNewIds events ++ allNewIds events' :=
  List.flatMap_append

/-- The identifiers that are new with an event whatever its customer has left behind: the
cart may be an abandoned one. -/
def ownIds (event : EventEnvelope) : List UUID :=
  match event.payload with
  | .addedToCart _ => [event.eventId]
  | _ => newIds event

def allOwnIds (events : List EventEnvelope) : List UUID := events.flatMap ownIds

@[simp] theorem allOwnIds_nil : allOwnIds [] = [] := rfl

@[simp] theorem allOwnIds_cons (event : EventEnvelope) (events : List EventEnvelope) :
    allOwnIds (event :: events) = ownIds event ++ allOwnIds events := rfl

theorem allOwnIds_append (events events' : List EventEnvelope) :
    allOwnIds (events ++ events') = allOwnIds events ++ allOwnIds events' :=
  List.flatMap_append

theorem ownIds_sublist (event : EventEnvelope) : (ownIds event).Sublist (newIds event) := by
  unfold ownIds
  split
  · exact List.sublist_append_right _ _
  · exact List.Sublist.refl _

theorem allOwnIds_sublist (events : List EventEnvelope) :
    (allOwnIds events).Sublist (allNewIds events) := by
  induction events with
  | nil => exact List.Sublist.refl _
  | cons event events ih => exact (ownIds_sublist event).append ih

/-- An event brings at most one other identifier with its own. -/
theorem length_allNewIds (events : List EventEnvelope) :
    (allNewIds events).length ≤ 2 * events.length := by
  induction events with
  | nil => simp
  | cons event events ih =>
    have own : (newIds event).length ≤ 2 := by
      cases created : creates event.payload <;> simp [newIds, created]
    simp only [allNewIds_cons, List.length_append, List.length_cons]
    omega

end CommercePlatform.Generator
