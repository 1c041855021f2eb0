import Mathlib.Data.List.Lex
import CommercePlatform.Lib.ReadCommitted
import CommercePlatform.Persistence.Tables

/-!
The SQL statements of the event processor.

A statement is described by four functions of the database it sees: the
constraints it has to pass, in the order the server checks them, the answer it
gives, the rows it writes and the rows or index keys it locks. `database` puts
them together as a `Schema`, with the deferred foreign keys checked at COMMIT.

`INSERT` locks the keys it adds, `UPDATE` and `SELECT .. FOR UPDATE` the rows they
find. The shared locks of foreign-key checks are left out: no row is ever deleted
and no key ever changes.
-/

namespace CommercePlatform.Persistence

open Contract Fraud

/-! ### Statements -/

/-- The columns of the order joined to its customer. -/
structure OrderFacts where
  orderedAt : Instant
  total : Rat
  currency : Currency
  billingCountry : String
  deriving DecidableEq

inductive Stmt where
  -- processed_events.py
  | selectEvent (eventId : UUID)
  | selectEventAt (topic : String) (partition offset : Int)
  | insertEvent (eventId : UUID) (row : ProcessedEvent)
  -- base.py
  | existsCustomer (customerId : UUID)
  | existsSession (sessionId : UUID)
  -- customers.py
  | selectCustomer (customerId : UUID)
  | updateCustomer (customerId eventId : UUID)
  | insertCustomer (customerId : UUID) (row : Customer)
  -- sessions.py
  | selectSession (sessionId : UUID)
  | insertSession (sessionId : UUID) (row : Session)
  -- product_views.py
  | insertProductView (eventId : UUID) (row : ProductView)
  -- carts.py
  | upsertCart (cartId : UUID) (row : Cart)
  | upsertCartItem (cartId productId : UUID) (row : CartItem)
  | refreshCart (cartId eventId : UUID)
  | lockCart (cartId : UUID)
  | checkoutCart (cartId : UUID) (discount total : Rat) (eventId : UUID)
  -- orders.py
  | insertOrder (orderId : UUID) (row : Order)
  | orderCart (cartId eventId : UUID)
  -- payments.py
  | lockOrder (orderId : UUID)
  | insertPayment (paymentId : UUID) (row : Payment)
  | updateOrder (orderId : UUID) (status : OrderStatus) (eventId : UUID)
  -- refunds.py
  | lockPayment (paymentId : UUID)
  | sumRefunds (paymentId : UUID)
  | insertRefund (refundId : UUID) (row : Refund)
  | updatePayment (paymentId : UUID) (status : PaymentStatus)
  -- fraud_alerts.py
  | insertExternalAlert (alertId : UUID) (row : FraudAlert)
  -- fraud/context.py
  | customerAndOrder (customerId : UUID) (orderId : Option UUID)
  | orderSession (orderId : UUID)
  | sessionStarted (sessionId : Option UUID)
  | paymentsBetween (customerId : UUID) (upTo from_ : Instant) (limit : Nat)
  | paymentsBefore (customerId : UUID) (before : Instant) (limit : Nat)
  | refundsBetween (customerId : UUID) (upTo from_ : Instant) (limit : Nat)
  | countOrders (customerId : UUID) (upTo from_ : Instant) (limit : Nat)
  | countViews (customerId : UUID) (upTo from_ : Instant) (limit : Nat)
  | refundFacts (paymentId : UUID)
  -- fraud/repository.py
  | selectEvaluation (sourceEventId : UUID)
  | insertEvaluation (evaluationId : UUID) (row : FraudEvaluationRow)
  | insertAlert (alertId : UUID) (row : FraudAlert)
  | insertOutbox (outboxId : UUID) (row : FraudOutbox)

namespace Stmt

/-- The fetched row or rows, or the row count. -/
def Result : Stmt → Type
  | selectEvent _ => Option (String × String × Int × Int)
  | selectEventAt _ _ _ => Option UUID
  | existsCustomer _ | existsSession _ => Bool
  | selectCustomer _ => Option (String × CustomerPersona × String × Instant)
  | selectSession _ => Option (UUID × String × String × String × Instant)
  | lockCart _ => Option Cart
  | lockOrder _ => Option Order
  | lockPayment _ => Option Payment
  | sumRefunds _ => Rat
  | customerAndOrder _ _ => Option (String × Option OrderFacts)
  | orderSession _ => Option UUID
  | sessionStarted _ => Option Instant
  | paymentsBetween _ _ _ _ | paymentsBefore _ _ _ => List Payment
  | refundsBetween _ _ _ _ => List Refund
  | refundFacts _ => Option (Rat × Instant)
  | selectEvaluation _ => Option FraudEvaluationRow
  | _ => Nat

end Stmt

/-! ### Queries -/

namespace Db

/-- The refunds of a payment. -/
def refundsOf (db : Db) (paymentId : UUID) : List Refund :=
  db.refunds.values.filter (·.paymentId = paymentId)

/-- `COALESCE(SUM(amount), 0)` over them. -/
def refunded (db : Db) (paymentId : UUID) : Rat := ((db.refundsOf paymentId).map (·.amount)).sum

/-- The lines of a cart. -/
def linesOf (db : Db) (cartId : UUID) : List CartItem :=
  (db.cartItems.entries.filter (·.1.1 = cartId)).map Prod.snd

/-- Evaluations, alerts and ledger rows by a unique column. -/
def evaluationOf (db : Db) (sourceEventId : UUID) : Option FraudEvaluationRow :=
  db.fraudEvaluations.values.find? (·.sourceEventId = sourceEventId)

def eventAt (db : Db) (topic : String) (partition offset : Int) : Option UUID :=
  (db.processedEvents.entries.find? fun e =>
    e.2.kafkaTopic = topic ∧ e.2.kafkaPartition = partition ∧ e.2.kafkaOffset = offset).map Prod.fst

/-- `ORDER BY at DESC, id LIMIT limit` over the rows that satisfy `p`. -/
def latest {ρ : Type} (table : Dict UUID ρ) (p : ρ → Bool) (at_ : ρ → Instant) (limit : Nat) :
    List ρ :=
  (((table.entries.filter fun e => p e.2).mergeSort fun a b =>
    at_ b.2 < at_ a.2 ∨ (at_ a.2 = at_ b.2 ∧ a.1.hex.map Fin.val ≤ b.1.hex.map Fin.val)).take
    limit).map Prod.snd

end Db

section

variable (arith : Arithmetic)

/-- What a money column stores; the constraint `storable` comes first. -/
def Arithmetic.stored (value : Rat) : Rat := (arith.numeric value).getD 0

def Arithmetic.storable (value : Rat) : Bool := (arith.numeric value).isSome

@[simp] theorem Arithmetic.exact_add (a b : Rat) : Arithmetic.exact.add a b = .ok (a + b) := rfl

@[simp] theorem Arithmetic.exact_stored (value : Rat) : Arithmetic.exact.stored value = value := rfl

namespace Stmt

/-! ### Answers -/

/-- The row count of an `INSERT .. DO NOTHING`. -/
def inserted (present : Bool) : Nat := if present then 0 else 1

/-- The row count of an `UPDATE` by key. -/
def updated (present : Bool) : Nat := if present then 1 else 0

/-- A counted row was not there before. -/
theorem absent_of_inserted {ρ : Type} {rows : Dict UUID ρ} {id : UUID}
    (added : inserted (rows.get? id).isSome ≠ 0) : rows.get? id = none := by
  cases found : rows.get? id with
  | none => rfl
  | some row => simp [inserted, found] at added

def answer : (s : Stmt) → Db → s.Result
  | selectEvent eventId, db =>
    (db.processedEvents.get? eventId).map fun r =>
      (r.payloadSha256, r.kafkaTopic, r.kafkaPartition, r.kafkaOffset)
  | selectEventAt topic partition offset, db => db.eventAt topic partition offset
  | insertEvent _ _, _ => (1 : Nat)
  | existsCustomer id, db => (db.customers.get? id).isSome
  | existsSession id, db => (db.sessions.get? id).isSome
  | selectCustomer id, db =>
    (db.customers.get? id).map fun r => (r.emailHash, r.persona, r.homeCountry, r.registeredAt)
  | updateCustomer id _, db => updated (db.customers.get? id).isSome
  | insertCustomer _ _, _ => (1 : Nat)
  | selectSession id, db =>
    (db.sessions.get? id).map fun r =>
      (r.customerId, r.deviceId, r.ipAddress.inetText, r.country, r.startedAt)
  | insertSession _ _, _ => (1 : Nat)
  | insertProductView id _, db => inserted (db.productViews.get? id).isSome
  | upsertCart id row, db =>
    match db.carts.get? id with
    | some old =>
      updated (old.customerId = row.customerId ∧ old.sessionId = row.sessionId ∧
        old.currency = row.currency)
    | none => (1 : Nat)
  | upsertCartItem _ _ _, _ => (1 : Nat)
  | refreshCart id _, db =>
    updated ((db.carts.get? id).isSome ∧ db.linesOf id ≠ [])
  | lockCart id, db => db.carts.get? id
  | checkoutCart id _ _ _, db => updated (db.carts.get? id).isSome
  | insertOrder id _, db => inserted (db.orders.get? id).isSome
  | orderCart id _, db => updated (db.carts.get? id).isSome
  | lockOrder id, db => db.orders.get? id
  | insertPayment id _, db => inserted (db.payments.get? id).isSome
  | updateOrder id _ _, db => updated (db.orders.get? id).isSome
  | lockPayment id, db => db.payments.get? id
  | sumRefunds id, db => db.refunded id
  | insertRefund id _, db => inserted (db.refunds.get? id).isSome
  | updatePayment id _, db => updated (db.payments.get? id).isSome
  | insertExternalAlert _ row, db =>
    inserted (db.fraudAlerts.values.any (·.sourceEventId = row.sourceEventId))
  | customerAndOrder id orderId, db =>
    (db.customers.get? id).map fun c =>
      (c.homeCountry, (orderId.bind db.orders.get?).map fun o =>
        ⟨o.orderedAt, o.total, o.currency, o.billingCountry⟩)
  | orderSession id, db => (db.orders.get? id).map (·.sessionId)
  | sessionStarted id, db => (id.bind db.sessions.get?).map (·.startedAt)
  | paymentsBetween customerId upTo from_ limit, db =>
    Db.latest db.payments (fun r => r.customerId = customerId ∧ r.attemptedAt ≤ upTo ∧
      from_ ≤ r.attemptedAt) (·.attemptedAt) limit
  | paymentsBefore customerId before limit, db =>
    Db.latest db.payments (fun r => r.customerId = customerId ∧ r.attemptedAt < before)
      (·.attemptedAt) limit
  | refundsBetween customerId upTo from_ limit, db =>
    Db.latest db.refunds (fun r => r.customerId = customerId ∧ r.requestedAt ≤ upTo ∧
      from_ ≤ r.requestedAt) (·.requestedAt) limit
  | countOrders customerId upTo from_ limit, db =>
    (Db.latest db.orders (fun r => r.customerId = customerId ∧ r.orderedAt ≤ upTo ∧
      from_ ≤ r.orderedAt) (·.orderedAt) limit).length
  | countViews customerId upTo from_ limit, db =>
    (Db.latest db.productViews (fun r => r.customerId = customerId ∧ r.viewedAt ≤ upTo ∧
      from_ ≤ r.viewedAt) (·.viewedAt) limit).length
  | refundFacts id, db =>
    (db.payments.get? id).map fun p => (p.amount - db.refunded id, p.attemptedAt)
  | selectEvaluation id, db => db.evaluationOf id
  | insertEvaluation _ _, _ => (1 : Nat)
  | insertAlert _ _, _ => (1 : Nat)
  | insertOutbox _ _, _ => (1 : Nat)

/-! ### Writes -/

def writes : Stmt → Db → List Write
  | insertEvent id row, _ => [.processedEvents id row]
  | updateCustomer id eventId, db =>
    ((db.customers.get? id).map fun r => .customers id { r with lastEventId := eventId }).toList
  | insertCustomer id row, _ => [.customers id row]
  | insertSession id row, _ => [.sessions id row]
  | insertProductView id row, db =>
    if (db.productViews.get? id).isSome then []
    else [.productViews id { row with price := arith.stored row.price }]
  | upsertCart id row, db =>
    match db.carts.get? id with
    | some old =>
      if old.customerId = row.customerId ∧ old.sessionId = row.sessionId ∧
          old.currency = row.currency then
        [.carts id { old with latestEventId := row.latestEventId }]
      else []
    | none =>
      [.carts id { row with
        subtotal := arith.stored row.subtotal
        discount := arith.stored row.discount
        total := arith.stored row.total }]
  | upsertCartItem cartId productId row, _ =>
    [.cartItems (cartId, productId) { row with
      unitPrice := arith.stored row.unitPrice
      lineTotal := arith.stored row.lineTotal }]
  | refreshCart id eventId, db =>
    let lines := db.linesOf id
    let subtotal := (lines.map (·.lineTotal)).sum
    if lines = [] then []
    else ((db.carts.get? id).map fun r => .carts id { r with
      subtotal := arith.stored subtotal
      total := arith.stored (subtotal - r.discount)
      itemCount := (lines.map (·.quantity)).sum
      latestEventId := eventId }).toList
  | checkoutCart id discount total eventId, db =>
    ((db.carts.get? id).map fun r => .carts id { r with
      status := .checkoutStarted
      discount := arith.stored discount
      total := arith.stored total
      latestEventId := eventId }).toList
  | insertOrder id row, db =>
    if (db.orders.get? id).isSome then []
    else [.orders id { row with
      subtotal := arith.stored row.subtotal
      discount := arith.stored row.discount
      total := arith.stored row.total }]
  | orderCart id eventId, db =>
    ((db.carts.get? id).map fun r =>
      .carts id { r with status := .ordered, latestEventId := eventId }).toList
  | insertPayment id row, db =>
    if (db.payments.get? id).isSome then []
    else [.payments id { row with amount := arith.stored row.amount }]
  | updateOrder id status eventId, db =>
    ((db.orders.get? id).map fun r =>
      .orders id { r with status := status, latestEventId := eventId }).toList
  | insertRefund id row, db =>
    if (db.refunds.get? id).isSome then []
    else [.refunds id { row with amount := arith.stored row.amount }]
  | updatePayment id status, db =>
    ((db.payments.get? id).map fun r => .payments id { r with status := status }).toList
  | insertExternalAlert id row, db =>
    if db.fraudAlerts.values.any (·.sourceEventId = row.sourceEventId) then []
    else [.fraudAlerts id row]
  | insertEvaluation id row, _ => [.fraudEvaluations id row]
  | insertAlert id row, _ => [.fraudAlerts id row]
  | insertOutbox id row, _ => [.fraudOutbox id row]
  | _, _ => []

/-- The table a statement may write. -/
def target : Stmt → Option Table
  | insertEvent _ _ => some .processedEvents
  | updateCustomer _ _ | insertCustomer _ _ => some .customers
  | insertSession _ _ => some .sessions
  | insertProductView _ _ => some .productViews
  | upsertCart _ _ | refreshCart _ _ | checkoutCart _ _ _ _ | orderCart _ _ => some .carts
  | upsertCartItem _ _ _ => some .cartItems
  | insertOrder _ _ | updateOrder _ _ _ => some .orders
  | insertPayment _ _ | updatePayment _ _ => some .payments
  | insertRefund _ _ => some .refunds
  | insertExternalAlert _ _ | insertAlert _ _ => some .fraudAlerts
  | insertEvaluation _ _ => some .fraudEvaluations
  | insertOutbox _ _ => some .fraudOutbox
  | _ => none

/-! ### Constraints -/

/-- Constraints and the errors that report them, in the order they are checked. -/
abbrev Constraints := List (Bool × SqlError)

def int4 (value : Int) : Constraints :=
  [(-int4Max - 1 ≤ value ∧ value ≤ int4Max, .numericValueOutOfRange)]

def int8 (value : Int) : Constraints :=
  [(-int8Max - 1 ≤ value ∧ value ≤ int8Max, .numericValueOutOfRange)]

def check (holds : Bool) : Constraints := [(holds, .checkViolation)]

def unique (free : Bool) : Constraints := [(free, .uniqueViolation)]

def references (present : Bool) : Constraints := [(present, .foreignKeyViolation)]

/-- Constraints of a row that is really inserted. -/
def ifAdded (present : Bool) (constraints : Constraints) : Constraints :=
  if present then [] else constraints

/-- A money column: the number has to fit, and then to pass the column's `CHECK`. -/
def money (value : Rat) (holds : Rat → Bool) : Constraints :=
  [(arith.storable value, .numericValueOutOfRange), (holds (arith.stored value), .checkViolation)]

def nonnegative (value : Rat) : Constraints := money arith value (0 ≤ ·)

def positive (value : Rat) : Constraints := money arith value (0 < ·)

theorem positive_passed {value : Rat} (passed : ∀ x ∈ positive arith value, x.1 = true) :
    0 < arith.stored value :=
  of_decide_eq_true (passed _ (List.mem_cons_of_mem _ (List.mem_singleton_self _)))

theorem nonnegative_passed {value : Rat} (passed : ∀ x ∈ nonnegative arith value, x.1 = true) :
    0 ≤ arith.stored value :=
  of_decide_eq_true (passed _ (List.mem_cons_of_mem _ (List.mem_singleton_self _)))

/-- A primary key that passed its constraint is new. -/
theorem absent_of_passed {ρ : Type} {rows : Dict UUID ρ} {id : UUID} {cs : Constraints}
    (passed : ∀ x ∈ cs, x.1 = true)
    (mem : ((rows.get? id).isNone, SqlError.uniqueViolation) ∈ cs) : rows.get? id = none :=
  Option.isNone_iff_eq_none.mp (passed _ mem)

/-- The constraints of the statement. -/
def constraints : Stmt → Db → Constraints
  | insertEvent id row, db =>
    int4 row.eventVersion ++ int4 row.kafkaPartition ++ int8 row.kafkaOffset ++
      check (0 < row.eventVersion) ++ check (0 ≤ row.kafkaPartition) ++
      check (0 ≤ row.kafkaOffset) ++ unique (db.processedEvents.get? id).isNone ++
      unique (db.eventAt row.kafkaTopic row.kafkaPartition row.kafkaOffset).isNone
  | insertCustomer id _, db => unique (db.customers.get? id).isNone
  | insertSession id row, db =>
    unique (db.sessions.get? id).isNone ++ references (db.customers.get? row.customerId).isSome
  | insertProductView id row, db =>
    int4 row.quantityAvailable ++ nonnegative arith row.price ++
      ifAdded (db.productViews.get? id).isSome (
        references (db.sessions.get? row.sessionId).isSome ++
        references (db.customers.get? row.customerId).isSome)
  | upsertCart id row, db =>
    int4 row.itemCount ++ nonnegative arith row.subtotal ++ nonnegative arith row.discount ++
      nonnegative arith row.total ++
      ifAdded (db.carts.get? id).isSome (
        references (db.customers.get? row.customerId).isSome ++
        references (db.sessions.get? row.sessionId).isSome)
  | upsertCartItem cartId _ row, db =>
    int4 row.quantity ++ check (0 < row.quantity) ++ nonnegative arith row.unitPrice ++
      nonnegative arith row.lineTotal ++ references (db.carts.get? cartId).isSome
  | refreshCart id _, db =>
    let lines := db.linesOf id
    let subtotal := (lines.map (·.lineTotal)).sum
    match db.carts.get? id with
    | some r =>
      if lines = [] then []
      else
        int4 (lines.map (·.quantity)).sum ++ nonnegative arith subtotal ++
          nonnegative arith (subtotal - r.discount)
    | none => []
  | checkoutCart _ discount total _, _ => nonnegative arith discount ++ nonnegative arith total
  | insertOrder id row, db =>
    int4 row.itemCount ++ nonnegative arith row.subtotal ++ nonnegative arith row.discount ++
      nonnegative arith row.total ++ check (0 < row.itemCount) ++
      ifAdded (db.orders.get? id).isSome (
        references (db.customers.get? row.customerId).isSome ++
        references (db.sessions.get? row.sessionId).isSome ++
        references (db.carts.get? row.cartId).isSome)
  | insertPayment id row, db =>
    positive arith row.amount ++
      ifAdded (db.payments.get? id).isSome (
        unique (db.payments.values.all (·.eventId ≠ row.eventId)) ++
        references (db.orders.get? row.orderId).isSome ++
        references (db.customers.get? row.customerId).isSome)
  | insertRefund id row, db =>
    positive arith row.amount ++
      ifAdded (db.refunds.get? id).isSome (
        unique (db.refunds.values.all (·.eventId ≠ row.eventId)) ++
        references (db.payments.get? row.paymentId).isSome ++
        references (db.orders.get? row.orderId).isSome ++
        references (db.customers.get? row.customerId).isSome)
  | insertExternalAlert id row, db =>
    int4 row.score ++
      ifAdded (db.fraudAlerts.values.any (·.sourceEventId = row.sourceEventId)) (
        unique (db.fraudAlerts.get? id).isNone ++
        unique (db.fraudAlerts.values.all (·.alertEventId ≠ row.alertEventId)))
  | insertEvaluation id row, db =>
    check (0 ≤ row.totalScore ∧ row.totalScore ≤ 100) ++
      unique (db.fraudEvaluations.get? id).isNone ++
      unique (db.evaluationOf row.sourceEventId).isNone ++
      references (db.customers.get? row.customerId).isSome
  | insertAlert id row, db =>
    unique (db.fraudAlerts.values.all (·.sourceEventId ≠ row.sourceEventId)) ++
      unique (db.fraudAlerts.get? id).isNone ++
      unique (db.fraudAlerts.values.all fun r =>
        r.evaluationId.isNone || r.evaluationId ≠ row.evaluationId) ++
      unique (db.fraudAlerts.values.all (·.alertEventId ≠ row.alertEventId))
  | insertOutbox id row, db =>
    unique (db.fraudOutbox.get? id).isNone ++
      unique (db.fraudOutbox.values.all (·.eventId ≠ row.eventId))
  | _, _ => []

end Stmt

end

/-! ### Locks -/

/-- The unique indexes besides the primary keys. -/
inductive UniqueIndex where
  | paymentsEventId
  | refundsEventId
  | evaluationsSourceEventId
  | alertsSourceEventId
  | alertsEvaluationId
  | alertsAlertEventId
  | outboxEventId
  deriving DecidableEq, Repr

/-- A row, or a key of a unique index. -/
inductive Lock where
  | row (table : Table) (id : UUID)
  | key (index : UniqueIndex) (id : UUID)
  | cartItem (cartId productId : UUID)
  | source (topic : String) (partition offset : Int)
  deriving DecidableEq

namespace Stmt

/-- The lock on a row that is there. -/
def lockRow {ρ : Type} (table : Table) (rows : Dict UUID ρ) (id : UUID) : List Lock :=
  if (rows.get? id).isSome then [.row table id] else []

/-- The lock of a key that is not there yet. -/
def addKey (present : Bool) (lock : Lock) : List Lock := if present then [] else [lock]

def locks : Stmt → Db → List Lock
  | insertEvent id row, db =>
    addKey (db.processedEvents.get? id).isSome (.row .processedEvents id) ++
      addKey (db.eventAt row.kafkaTopic row.kafkaPartition row.kafkaOffset).isSome
        (.source row.kafkaTopic row.kafkaPartition row.kafkaOffset)
  | updateCustomer id _, db => lockRow .customers db.customers id
  | insertCustomer id _, db => addKey (db.customers.get? id).isSome (.row .customers id)
  | insertSession id _, db => addKey (db.sessions.get? id).isSome (.row .sessions id)
  | insertProductView id _, db => addKey (db.productViews.get? id).isSome (.row .productViews id)
  | upsertCart id _, _ => [.row .carts id]
  | upsertCartItem cartId productId _, _ => [.cartItem cartId productId]
  | refreshCart id _, db => lockRow .carts db.carts id
  | lockCart id, db => lockRow .carts db.carts id
  | checkoutCart id _ _ _, db => lockRow .carts db.carts id
  | insertOrder id _, db => addKey (db.orders.get? id).isSome (.row .orders id)
  | orderCart id _, db => lockRow .carts db.carts id
  | lockOrder id, db => lockRow .orders db.orders id
  | insertPayment id row, db =>
    if (db.payments.get? id).isSome then []
    else .row .payments id ::
      addKey (db.payments.values.any (·.eventId = row.eventId)) (.key .paymentsEventId row.eventId)
  | updateOrder id _ _, db => lockRow .orders db.orders id
  | lockPayment id, db => lockRow .payments db.payments id
  | insertRefund id row, db =>
    if (db.refunds.get? id).isSome then []
    else .row .refunds id ::
      addKey (db.refunds.values.any (·.eventId = row.eventId)) (.key .refundsEventId row.eventId)
  | updatePayment id _, db => lockRow .payments db.payments id
  | insertExternalAlert id row, db =>
    if db.fraudAlerts.values.any (·.sourceEventId = row.sourceEventId) then []
    else .key .alertsSourceEventId row.sourceEventId ::
      (addKey (db.fraudAlerts.get? id).isSome (.row .fraudAlerts id) ++
        addKey (db.fraudAlerts.values.any (·.alertEventId = row.alertEventId))
          (.key .alertsAlertEventId row.alertEventId))
  | insertEvaluation id row, db =>
    addKey (db.fraudEvaluations.get? id).isSome (.row .fraudEvaluations id) ++
      addKey (db.evaluationOf row.sourceEventId).isSome
        (.key .evaluationsSourceEventId row.sourceEventId)
  | insertAlert id row, db =>
    addKey (db.fraudAlerts.get? id).isSome (.row .fraudAlerts id) ++
      addKey (db.fraudAlerts.values.any (·.sourceEventId = row.sourceEventId))
        (.key .alertsSourceEventId row.sourceEventId) ++
      row.evaluationId.toList.flatMap (fun e =>
        addKey (db.fraudAlerts.values.any (·.evaluationId = some e)) (.key .alertsEvaluationId e)) ++
      addKey (db.fraudAlerts.values.any (·.alertEventId = row.alertEventId))
        (.key .alertsAlertEventId row.alertEventId)
  | insertOutbox id row, db =>
    addKey (db.fraudOutbox.get? id).isSome (.row .fraudOutbox id) ++
      addKey (db.fraudOutbox.values.any (·.eventId = row.eventId)) (.key .outboxEventId row.eventId)
  | _, _ => []

end Stmt

/-! ### The schema -/

/-- The ledger rows a written row refers to by a deferred foreign key. -/
def Write.events : Write → List UUID
  | .customers _ r => [r.firstEventId, r.lastEventId]
  | .sessions _ r => [r.firstEventId]
  | .productViews id _ => [id]
  | .carts _ r => [r.createdEventId, r.latestEventId]
  | .orders _ r => [r.createdEventId, r.latestEventId]
  | .payments _ r => [r.eventId]
  | .refunds _ r => [r.eventId]
  | .fraudEvaluations _ r => [r.sourceEventId]
  | .fraudAlerts _ r => [r.sourceEventId]
  | .processedEvents _ _ | .cartItems _ _ | .fraudOutbox _ _ => []

/-- The evaluations it refers to. -/
def Write.evaluations : Write → List UUID
  | .fraudAlerts _ r => r.evaluationId.toList
  | _ => []

/-- The constraints declared `DEFERRABLE INITIALLY DEFERRED`. -/
def deferredConstraints (db : Db) (writes : List Write) : Stmt.Constraints :=
  writes.flatMap fun w =>
    w.events.flatMap (fun id => Stmt.references (db.processedEvents.get? id).isSome) ++
      w.evaluations.flatMap fun id => Stmt.references (db.fraudEvaluations.get? id).isSome

/-- The error of the first constraint that fails. -/
def firstFailure (constraints : Stmt.Constraints) : Option SqlError :=
  (constraints.find? fun c => !c.1).map Prod.snd

@[reducible] def database (arith : Arithmetic) : Schema where
  Db := Db
  Write := Write
  Lock := Lock
  Stmt := Stmt
  Result := Stmt.Result
  Error := SqlError
  apply := Db.apply
  locks := Stmt.locks
  exec s db :=
    match firstFailure (s.constraints arith db) with
    | some e => .error e
    | none => .ok (s.answer db, s.writes arith db)
  deferred db writes := firstFailure (deferredConstraints db writes)

/-! ### Transaction bodies -/

/-- Python code that runs statements on one connection. -/
abbrev Sql := Prog Stmt Stmt.Result PyException

def sql (s : Stmt) : Sql s.Result := Prog.perform s

/-- `raise cls(message)`. -/
def raise {α : Type} (cls : ErrorClass) (message : String) : Sql α :=
  .throw (.raised cls message)

/-- A computation outside the database. -/
def compute {α : Type} : Except PyException α → Sql α
  | .ok a => .pure a
  | .error e => .throw e

@[simp] theorem compute_ok_bind {α β : Type} (a : α) (f : α → Sql β) :
    (compute (.ok a) >>= f) = f a := rfl

end CommercePlatform.Persistence
