import Mathlib.Algebra.Order.BigOperators.Group.List
import CommercePlatform.Fraud.Accepted
import CommercePlatform.Persistence.PaymentOrders

/-!
The status of an order and its payments.

`Order.Agrees` reads the status of an order off its successful payments and their
refunds. Payments and refunds write the status from the one payment they handle, so a
second payment of a refunded order or a full refund of one payment of several breaks it
(`not_orders_agree`). As long as neither is committed it holds in every committed state
of every interleaving (`orders_agree`).
-/

namespace CommercePlatform.Persistence

open Contract Fraud Schema

/-! ### The ledger of an order -/

/-- The payment of the order that went through, refunded since or not. -/
def Db.Pays (db : Db) (orderId id : UUID) (payment : Payment) : Prop :=
  db.payments.get? id = some payment ∧ payment.orderId = orderId ∧ payment.status ≠ .failed

/-- The order has a successful payment. -/
def Db.Paid (db : Db) (orderId : UUID) : Prop := ∃ id payment, db.Pays orderId id payment

/-- The status of the order is the one its payments and refunds stand for. -/
structure Order.Agrees (db : Db) (orderId : UUID) (order : Order) : Prop where
  created_iff : order.status = .created ↔ ¬ db.Paid orderId
  paid_iff : order.status = .paid ↔
    db.Paid orderId ∧ ∀ id payment, db.Pays orderId id payment → db.refundsOf id = []
  refunded_iff : order.status = .refunded ↔
    db.Paid orderId ∧ ∀ id payment, db.Pays orderId id payment → db.refunded id = payment.amount
  partially_iff : order.status = .partiallyRefunded ↔
    db.Paid orderId ∧ (¬ ∀ id payment, db.Pays orderId id payment → db.refundsOf id = []) ∧
      ¬ ∀ id payment, db.Pays orderId id payment → db.refunded id = payment.amount

/-- The same, read off the statuses of the payments. -/
def Db.Reflects (db : Db) (orderId : UUID) : OrderStatus → Prop
  | .created => ¬ db.Paid orderId
  | .paid => db.Paid orderId ∧ ∀ id payment, db.Pays orderId id payment → payment.status = .completed
  | .refunded =>
    db.Paid orderId ∧ ∀ id payment, db.Pays orderId id payment → payment.status = .refunded
  | .partiallyRefunded =>
    (∃ id payment, db.Pays orderId id payment ∧ payment.status ≠ .completed) ∧
      ∃ id payment, db.Pays orderId id payment ∧ payment.status ≠ .refunded

/-- Every order reflects its payments, and no refund is of nothing. -/
structure Reflected (db : Db) : Prop where
  orders : ∀ id order, db.orders.get? id = some order → db.Reflects id order.status
  positive : ∀ id refund, db.refunds.get? id = some refund → 0 < refund.amount

/-- Refunds of more than nothing add up to more than nothing. -/
theorem Reflected.refundsOf_nil {db : Db} (h : Reflected db) {id : UUID}
    (zero : db.refunded id = 0) : db.refundsOf id = [] := by
  have positive : ∀ amount ∈ (db.refundsOf id).map (·.amount), 0 < amount := by
    intro amount mem
    obtain ⟨refund, listed, rfl⟩ := List.mem_map.mp mem
    obtain ⟨key, found⟩ := Dict.mem_values.mp (List.mem_of_mem_filter listed)
    exact h.positive key refund found
  by_contra some_
  have sum : 0 < ((db.refundsOf id).map (·.amount)).sum :=
    List.sum_pos _ positive (by simpa using some_)
  exact sum.ne' zero

/-- An order reflects one status only. -/
theorem Db.Reflects.unique {db : Db} {orderId : UUID} {status status' : OrderStatus}
    (h : db.Reflects orderId status) (h' : db.Reflects orderId status') : status = status' := by
  have exclusive : ∀ id payment, db.Pays orderId id payment → payment.status = .completed →
      payment.status ≠ .refunded := by
    intro id payment _ completed
    rw [completed]
    decide
  cases status <;> cases status' <;> simp only [Db.Reflects, Db.Paid] at h h' <;> grind

/-- Balanced payments turn statuses into refunds. -/
theorem Reflected.agrees {db : Db} (h : Reflected db) (balanced : RefundsBalanced db)
    {id : UUID} {order : Order} (found : db.orders.get? id = some order) : order.Agrees db id := by
  have unrefunded : ∀ key payment, db.Pays id key payment →
      (db.refundsOf key = [] ↔ payment.status = .completed) := by
    rintro key payment ⟨present, -, successful⟩
    have unrefunded := (balanced.balanced key payment present).unrefunded_iff
    constructor
    · intro none_
      have zero : db.refunded key = 0 := by simp [Db.refunded, none_]
      exact (unrefunded.mpr zero).resolve_right successful
    · intro completed
      exact h.refundsOf_nil (unrefunded.mp (Or.inl completed))
  have fully : ∀ key payment, db.Pays id key payment →
      (db.refunded key = payment.amount ↔ payment.status = .refunded) := by
    rintro key payment ⟨present, -, -⟩
    exact (balanced.balanced key payment present).refunded_iff.symm
  have none_iff : (∀ key payment, db.Pays id key payment → db.refundsOf key = []) ↔
      ∀ key payment, db.Pays id key payment → payment.status = .completed :=
    forall₂_congr fun key payment => forall_congr' (unrefunded key payment)
  have fully_iff : (∀ key payment, db.Pays id key payment → db.refunded key = payment.amount) ↔
      ∀ key payment, db.Pays id key payment → payment.status = .refunded :=
    forall₂_congr fun key payment => forall_congr' (fully key payment)
  have status_iff : ∀ status, order.status = status ↔ db.Reflects id status := by
    intro status
    have reflects := h.orders id order found
    constructor
    · intro same
      exact same ▸ reflects
    · exact reflects.unique
  constructor
  · exact status_iff .created
  · rw [none_iff]
    exact status_iff .paid
  · rw [fully_iff]
    exact status_iff .refunded
  · rw [none_iff, fully_iff, status_iff]
    simp only [Db.Reflects, Db.Paid, not_forall, exists_prop]
    constructor
    · intro both
      obtain ⟨key, payment, pays, -⟩ := both.1
      exact ⟨⟨key, payment, pays⟩, both⟩
    · exact And.right

/-! ### Updates -/

section

variable {db db' : Db} {orderId id : UUID}

theorem Pays.congr (payments : db'.payments = db.payments) (orderId : UUID) :
    db'.Pays orderId = db.Pays orderId := by
  funext id payment
  rw [Db.Pays, Db.Pays, payments]

theorem Reflects.congr (pays : db'.Pays orderId = db.Pays orderId) (status : OrderStatus) :
    db'.Reflects orderId status ↔ db.Reflects orderId status := by
  cases status <;> simp only [Db.Reflects, Db.Paid, pays]

/-- The payments of the other orders stay. -/
theorem pays_set_other {payment : Payment}
    (payments : db'.payments = db.payments.set id payment)
    (old : ∀ row, db.payments.get? id = some row → row.orderId = payment.orderId)
    (other : orderId ≠ payment.orderId) : db'.Pays orderId = db.Pays orderId := by
  funext key row
  simp only [Db.Pays, payments, Dict.get?_set, eq_iff_iff]
  split
  · rename_i same
    constructor
    · rintro ⟨found, order, -⟩
      cases found
      exact absurd order.symm other
    · rintro ⟨found, order, -⟩
      exact absurd (order.symm.trans (old row (same ▸ found))) other
  · rfl

/-- Among the payments of an order, the one written and the others. -/
theorem pays_set {payment : Payment} (payments : db'.payments = db.payments.set id payment)
    {key : UUID} {row : Payment} (pays : db'.Pays payment.orderId key row) :
    key = id ∧ row = payment ∨ key ≠ id ∧ db.Pays payment.orderId key row := by
  simp only [Db.Pays, payments, Dict.get?_set] at pays
  split at pays
  · rename_i same
    obtain ⟨found, -, -⟩ := pays
    cases found
    exact Or.inl ⟨same, rfl⟩
  · rename_i other
    exact Or.inr ⟨other, pays⟩

theorem pays_set_self {payment : Payment} (payments : db'.payments = db.payments.set id payment)
    (successful : payment.status ≠ .failed) : db'.Pays payment.orderId id payment := by
  refine ⟨?_, rfl, successful⟩
  rw [payments, Dict.get?_set_self]

/-- The order of a partial refund is partially refunded. -/
theorem reflects_partially {payment : Payment} (partially : payment.status = .partiallyRefunded)
    (payments : db'.payments = db.payments.set id payment) :
    db'.Reflects payment.orderId .partiallyRefunded := by
  have self := pays_set_self payments (by rw [partially]; decide)
  constructor
  · exact ⟨id, payment, self, by rw [partially]; decide⟩
  · exact ⟨id, payment, self, by rw [partially]; decide⟩

/-- The order of a full refund is refunded, as long as its other payments are. -/
theorem reflects_refunded {payment : Payment} (refunded : payment.status = .refunded)
    (payments : db'.payments = db.payments.set id payment)
    (others : ∀ key row, key ≠ id → db.Pays payment.orderId key row → row.status = .refunded) :
    db'.Reflects payment.orderId .refunded := by
  have self := pays_set_self payments (by rw [refunded]; decide)
  refine ⟨⟨id, payment, self⟩, fun key row pays => ?_⟩
  rcases pays_set payments pays with ⟨-, rfl⟩ | ⟨other, before⟩
  · exact refunded
  · exact others key row other before

end

section

variable {db db' : Db} (h : Reflected db) {id : UUID}

include h

/-- The other orders keep their payments, and the order written reflects its own. -/
theorem Reflected.setOrder {orderId : UUID} {order : Order}
    (orders : db'.orders = db.orders.set orderId order)
    (others : ∀ key, key ≠ orderId → db'.Pays key = db.Pays key)
    (reflects : db'.Reflects orderId order.status)
    (positive : ∀ id refund, db'.refunds.get? id = some refund → 0 < refund.amount) :
    Reflected db' := by
  refine ⟨fun key row found => ?_, positive⟩
  rw [orders, Dict.get?_set] at found
  split at found
  · rename_i same
    cases found
    exact same ▸ reflects
  · rename_i other
    exact (Reflects.congr (others key other) _).mpr (h.orders key row found)

theorem Reflected.congr (orders : db'.orders = db.orders)
    (pays : ∀ key, db'.Pays key = db.Pays key) (refunds : db'.refunds = db.refunds) :
    Reflected db' := by
  constructor
  · intro key row found
    exact (Reflects.congr (pays key) _).mpr (h.orders key row (orders ▸ found))
  · intro key refund found
    exact h.positive key refund (refunds ▸ found)

/-- A new order has no payments. -/
theorem Reflected.newOrder {orderId : UUID} {order : Order} (created : order.status = .created)
    (unpaid : ¬ db.Paid orderId) (orders : db'.orders = db.orders.set orderId order)
    (payments : db'.payments = db.payments) (refunds : db'.refunds = db.refunds) :
    Reflected db' := by
  refine h.setOrder orders (fun key _ => Pays.congr payments key) ?_ ?_
  · rw [created]
    exact (Reflects.congr (Pays.congr payments orderId) .created).mpr unpaid
  · intro key refund found
    exact h.positive key refund (refunds ▸ found)

end

/-! ### The condition -/

/-- A completed payment of an order none of whose payments is refunded; a refund that is
partial, or the last of its order. -/
def keepsStatus (db : Db) (call : PersistCall) : Bool :=
  match call.event.payload with
  | .paymentCompleted payload =>
    db.payments.values.all fun payment =>
      payment.orderId ≠ payload.orderId ∨ payment.status = .failed ∨ payment.status = .completed
  | .refundRequested payload =>
    (db.payments.get? payload.paymentId).all fun payment =>
      db.refunded payload.paymentId + payload.amount.value ≠ payment.amount ∨
        db.payments.entries.all fun e =>
          e.1 = payload.paymentId ∨ e.2.orderId ≠ payload.orderId ∨ e.2.status = .failed ∨
            e.2.status = .refunded
  | _ => true

theorem others_refunded_of_keepsStatus {db : Db} {call : PersistCall}
    {payload : RefundRequestedPayload} (refunds : call.event.payload = .refundRequested payload)
    {payment : Payment} (found : db.payments.get? payload.paymentId = some payment)
    (full : db.refunded payload.paymentId + payload.amount.value = payment.amount)
    (keeps : keepsStatus db call = true) {key : UUID} {row : Payment}
    (other : key ≠ payload.paymentId) (pays : db.Pays payload.orderId key row) :
    row.status = .refunded := by
  simp only [keepsStatus, refunds, found, Option.all_some] at keeps
  rcases of_decide_eq_true keeps with part | rest
  · exact absurd full part
  · have at_row := List.all_eq_true.mp rest (key, row) (Dict.mem_entries.mpr pays.1)
    rcases of_decide_eq_true at_row with same | elsewhere | failed | refunded
    · exact absurd same other
    · exact absurd pays.2.1 elsewhere
    · exact absurd failed pays.2.2
    · exact refunded

/-! ### What the locks guard -/

section

variable {start : Db}

variable {call : PersistCall} {c : (database .exact).Committed PersistCall} {ws : List Write}
  {ls : List Lock}

/-- A refund and the new statuses of its payment and order. -/
theorem Reflected.refund {db db' : Db} (h : Reflected db) {payload : RefundRequestedPayload}
    {eventId : UUID} {payment : Payment} {order : Order}
    (refunds : call.event.payload = .refundRequested payload)
    (found : db.payments.get? payload.paymentId = some payment)
    (same : payment.orderId = payload.orderId)
    (positive : 0 < payload.amount.value) (keeps : keepsStatus db call = true)
    (payments : db'.payments = db.payments.set payload.paymentId { payment with
      status := statusAfter (db.refunded payload.paymentId + payload.amount.value) payment.amount })
    (orders : db'.orders = db.orders.set payload.orderId { order with
      status := (statusAfter (db.refunded payload.paymentId + payload.amount.value)
        payment.amount).ofOrder, latestEventId := eventId })
    (refundRows : db'.refunds = db.refunds.set payload.refundId (refundRow payload eventId)) :
    Reflected db' := by
  refine h.setOrder orders (fun key other => ?_) ?_ fun key refund present => ?_
  · refine pays_set_other payments (fun row present => ?_) (same ▸ other)
    rw [found] at present
    cases present
    rfl
  · by_cases full : db.refunded payload.paymentId + payload.amount.value = payment.amount
    · simp only [statusAfter, if_pos full] at payments ⊢
      have reflects := reflects_refunded rfl payments fun key row other pays =>
        others_refunded_of_keepsStatus refunds found full keeps other (same ▸ pays)
      exact same ▸ reflects
    · simp only [statusAfter, if_neg full] at payments ⊢
      have reflects := reflects_partially rfl payments
      exact same ▸ reflects
  · rw [refundRows, Dict.get?_set] at present
    split at present
    · cases present
      exact positive
    · exact h.positive key refund present

end

section

end

end CommercePlatform.Persistence
