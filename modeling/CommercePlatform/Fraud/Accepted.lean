import CommercePlatform.Fraud.Evaluation
import CommercePlatform.Persistence.CartConversion
import CommercePlatform.Persistence.Service

/-!
What the handlers of payments, refunds and orders have checked and written when they
accept an event.
-/

namespace CommercePlatform.Fraud

open Contract Persistence Schema

variable {arith : Arithmetic} {db : Db} {ws : List Write} {counts : RowCounts} {eventId : UUID}

/-- A condition of a body that was not met. -/
theorem alone_ite {α : Type} {cond : Prop} [Decidable cond] {cls : ErrorClass} {message : String}
    {p : Sql α} {a : α} {ws' : List Write}
    (ran : alone (D := database arith) (if cond then raise cls message else p) db ws = .ok (a, ws')) :
    ¬ cond ∧ alone (D := database arith) p db ws = .ok (a, ws') := by
  split at ran
  · cases ran
  · exact ⟨‹_›, ran⟩

theorem alone_read {α : Type} {s : Stmt} (quiet : s.target = none) {f : s.Result → Sql α} {a : α}
    {ws' : List Write} (ran : alone (D := database arith) (sql s >>= f) db ws = .ok (a, ws')) :
    alone (D := database arith) (f (s.answer ((database arith).view db ws))) db ws = .ok (a, ws') :=
  (alone_query quiet f).symm.trans ran

/-- An update of an order as the last statement of a body. -/
theorem updateOrder_alone {orderId : UUID} {status : OrderStatus}
    {f : (Stmt.updateOrder orderId status eventId).Result → Sql RowCounts}
    (returns : ∀ r, ∃ counts, f r = pure counts) {ws' : List Write}
    (ran : alone (D := database arith) (sql (.updateOrder orderId status eventId) >>= f) db ws =
      .ok (counts, ws')) :
    ws' = ws ++ (Stmt.updateOrder orderId status eventId).writes arith
      ((database arith).view db ws) := by
  obtain ⟨-, last⟩ := alone_sql.mp ran
  obtain ⟨counts', eq⟩ := returns ((Stmt.updateOrder orderId status eventId).answer
    ((database arith).view db ws))
  rw [eq] at last
  cases last
  rfl

/-- Writes to other tables are not seen. -/
theorem view_elsewhere {keep : Table → Bool} (elsewhere : ∀ w ∈ ws, keep w.table = false) :
    ((database arith).view db ws).restrict keep = db.restrict keep := by
  have quiet : ws.filter (touches keep) = [] :=
    List.filter_eq_nil_iff.mpr fun w mem => by simp [touches, elsewhere w mem]
  rw [restrict_view_filter, quiet]
  rfl

/-! ### Refunds -/

/-- A refund that was accepted. -/
structure RefundAccepted (arith : Arithmetic) (db : Db) (payload : RefundRequestedPayload)
    (eventId : UUID) (payment : Payment) (asked : Rat) (ws : List Write) : Prop where
  found : db.payments.get? payload.paymentId = some payment
  successful : payment.status ≠ .failed
  orderId : payment.orderId = payload.orderId
  customerId : payment.customerId = payload.customerId
  currency : payment.currency = payload.currency
  summed : arith.add (db.refunded payload.paymentId) payload.amount.value = .ok asked
  within : asked ≤ payment.amount
  absent : db.refunds.get? payload.refundId = none
  positive : 0 < arith.stored payload.amount.value
  writes : ws = .refunds payload.refundId
        { refundRow payload eventId with amount := arith.stored payload.amount.value } ::
      .payments payload.paymentId { payment with status := statusAfter asked payment.amount } ::
      (Stmt.updateOrder payload.orderId (statusAfter asked payment.amount).ofOrder eventId).writes
        arith db

theorem recordRefund_alone {payload : RefundRequestedPayload} {payment : Payment}
    (found : db.payments.get? payload.paymentId = some payment)
    (ran : alone (D := database arith) (recordRefund arith payload eventId payment.amount
      (db.refunded payload.paymentId)) db [] = .ok (counts, ws)) :
    ∃ asked, arith.add (db.refunded payload.paymentId) payload.amount.value = .ok asked ∧
      asked ≤ payment.amount ∧ db.refunds.get? payload.refundId = none ∧
      0 < arith.stored payload.amount.value ∧
      ws = .refunds payload.refundId
          { refundRow payload eventId with amount := arith.stored payload.amount.value } ::
        .payments payload.paymentId { payment with status := statusAfter asked payment.amount } ::
        (Stmt.updateOrder payload.orderId (statusAfter asked payment.amount).ofOrder
          eventId).writes arith db := by
  obtain ⟨asked, ws₁, computed, ran₁⟩ := alone_bind.mp ran
  obtain ⟨summed, rfl⟩ := compute_alone.mp computed
  obtain ⟨within, ran₂⟩ := alone_ite ran₁
  obtain ⟨passed, ran₃⟩ := alone_sql.mp ran₂
  split at ran₃
  · cases ran₃
  rename_i added
  have absent : db.refunds.get? payload.refundId = none := Stmt.absent_of_inserted added
  have positive : 0 < arith.stored payload.amount.value :=
    Stmt.positive_passed arith (List.forall_mem_append.mp passed).1
  have wrote : (Stmt.insertRefund payload.refundId (refundRow payload eventId)).writes arith
      ((database arith).view db []) = [.refunds payload.refundId
        { refundRow payload eventId with amount := arith.stored payload.amount.value }] := by
    simp only [Stmt.writes, Schema.view, List.foldl_nil, absent, Option.isSome_none]
    rfl
  rw [wrote, List.nil_append] at ran₃
  obtain ⟨newTotal, ws₂, computed₂, ran₄⟩ := alone_bind.mp ran₃
  obtain ⟨summed₂, rfl⟩ := compute_alone.mp computed₂
  obtain rfl : newTotal = asked := Except.ok.inj (summed₂.symm.trans summed)
  obtain ⟨-, ran₅⟩ := alone_sql.mp ran₄
  have updated := updateOrder_alone (fun _ => ⟨_, rfl⟩) ran₅
  refine ⟨newTotal, summed, not_lt.mp within, absent, positive, updated.trans ?_⟩
  have paid (status : PaymentStatus) (row : Refund) :
      (Stmt.updatePayment payload.paymentId status).writes arith
        ((database arith).view db [.refunds payload.refundId row]) =
        [.payments payload.paymentId { payment with status }] := by
    simp [Stmt.writes, Schema.view, Db.apply, found]
  rw [paid]
  rfl

theorem insertRefund_alone {payload : RefundRequestedPayload}
    (ran : alone (D := database arith) (insertRefund arith payload eventId) db [] =
      .ok (counts, ws)) :
    ∃ payment asked, RefundAccepted arith db payload eventId payment asked ws := by
  have ran₁ := alone_read rfl ran
  split at ran₁
  · cases ran₁
  rename_i payment found
  have found : db.payments.get? payload.paymentId = some payment := found
  obtain ⟨status, ran₂⟩ := alone_ite ran₁
  obtain ⟨same, ran₃⟩ := alone_ite ran₂
  simp only [not_or, not_not] at same
  obtain ⟨asked, summed, within, absent, positive, writes⟩ :=
    recordRefund_alone found (alone_read rfl ran₃)
  have successful : payment.status ≠ .failed := fun failed => status (by simp [failed])
  exact ⟨payment, asked, found, successful, same.1, same.2.1, same.2.2, summed, within, absent,
    positive, writes⟩

/-- The payments and refunds after an accepted refund. -/
theorem RefundAccepted.seen {payload : RefundRequestedPayload} {payment : Payment} {asked : Rat}
    (h : RefundAccepted arith db payload eventId payment asked ws) :
    ((database arith).view db ws).payments = db.payments.set payload.paymentId
        { payment with status := statusAfter asked payment.amount } ∧
      ((database arith).view db ws).refunds = db.refunds.set payload.refundId
        { refundRow payload eventId with amount := arith.stored payload.amount.value } := by
  rw [h.writes]
  have same := @view_elsewhere arith
    ((db.apply (.refunds payload.refundId
      { refundRow payload eventId with amount := arith.stored payload.amount.value })).apply
      (.payments payload.paymentId { payment with status := statusAfter asked payment.amount }))
    ((Stmt.updateOrder payload.orderId (statusAfter asked payment.amount).ofOrder eventId).writes
      arith db) paymentTables
    fun w mem => by rw [← Option.some.inj (writes_target mem)]; rfl
  exact ⟨payments_of_restrict same, refunds_of_restrict same⟩

/-! ### Payments -/

/-- A payment that was accepted. -/
structure PaymentAccepted (arith : Arithmetic) (db : Db) (paymentId : UUID) (row : Payment)
    (order : Order) (ws : List Write) : Prop where
  found : db.orders.get? row.orderId = some order
  total : order.total = row.amount
  currency : order.currency = row.currency
  absent : db.payments.get? paymentId = none
  fresh : ∀ payment ∈ db.payments.values, payment.eventId ≠ row.eventId
  writes : ws = .payments paymentId { row with amount := arith.stored row.amount } ::
    if row.status = .completed then
      (Stmt.updateOrder row.orderId .paid row.eventId).writes arith db
    else []

theorem insertPayment_alone {paymentId : UUID} {row : Payment}
    (ran : alone (D := database arith) (insertPayment paymentId row) db [] = .ok (counts, ws)) :
    ∃ order, PaymentAccepted arith db paymentId row order ws := by
  have ran₁ := alone_read rfl ran
  split at ran₁
  · cases ran₁
  rename_i order found
  have found : db.orders.get? row.orderId = some order := found
  obtain ⟨same, ran₂⟩ := alone_ite ran₁
  simp only [not_or, not_not] at same
  obtain ⟨passed, ran₃⟩ := alone_sql.mp ran₂
  split at ran₃
  · cases ran₃
  rename_i added
  have absent : db.payments.get? paymentId = none := Stmt.absent_of_inserted added
  have wrote : (Stmt.insertPayment paymentId row).writes arith ((database arith).view db []) =
      [.payments paymentId { row with amount := arith.stored row.amount }] := by
    simp only [Stmt.writes, Schema.view, List.foldl_nil, absent, Option.isSome_none]
    rfl
  have fresh : ∀ payment ∈ db.payments.values, payment.eventId ≠ row.eventId := by
    simp only [Stmt.constraints, Schema.view, List.foldl_nil, absent, Option.isSome_none,
      Stmt.ifAdded, Bool.false_eq_true, if_false, List.forall_mem_append] at passed
    have unique := passed.2.1.1 _ (List.mem_singleton_self _)
    intro payment mem
    exact of_decide_eq_true (List.all_eq_true.mp unique payment mem)
  rw [wrote, List.nil_append] at ran₃
  refine ⟨order, found, same.2.1, same.2.2, absent, fresh, ?_⟩
  split at ran₃
  · rename_i completed
    rw [if_pos completed]
    exact updateOrder_alone (fun _ => ⟨_, rfl⟩) ran₃
  · rename_i failed
    rw [if_neg failed]
    cases ran₃
    rfl

/-- The payments after an accepted payment. -/
theorem PaymentAccepted.seen {paymentId : UUID} {row : Payment} {order : Order}
    (h : PaymentAccepted arith db paymentId row order ws) :
    ((database arith).view db ws).payments =
      db.payments.set paymentId { row with amount := arith.stored row.amount } := by
  rw [h.writes]
  refine payments_of_restrict (@view_elsewhere arith
    (db.apply (.payments paymentId { row with amount := arith.stored row.amount })) _ paymentTables
    fun w mem => ?_)
  split at mem
  · rw [← Option.some.inj (writes_target mem)]
    rfl
  · cases mem

/-! ### Orders -/

/-- An order that was accepted. -/
structure OrderAccepted (arith : Arithmetic) (db : Db) (payload : OrderCreatedPayload)
    (order : Order) (cart : Cart) (ws : List Write) : Prop where
  found : db.carts.get? payload.cartId = some cart
  total : cart.total = payload.totalAmount.value
  stored : order.total = arith.stored payload.totalAmount.value
  currency : order.currency = payload.currency
  writes : ∃ carts, ws = .orders payload.orderId order :: carts ∧ ∀ w ∈ carts, w.table = .carts

theorem insertOrder_alone {payload : OrderCreatedPayload}
    (ran : alone (D := database arith) (insertOrder payload eventId) db [] = .ok (counts, ws)) :
    ∃ order cart, OrderAccepted arith db payload order cart ws := by
  have ran₁ := alone_read rfl ran
  split at ran₁
  · cases ran₁
  rename_i cart found
  have found : db.carts.get? payload.cartId = some cart := found
  obtain ⟨same, ran₂⟩ := alone_ite ran₁
  simp only [not_or, not_not] at same
  obtain ⟨-, ran₃⟩ := alone_sql.mp ran₂
  split at ran₃
  · cases ran₃
  rename_i added
  have absent : db.orders.get? payload.orderId = none := Stmt.absent_of_inserted added
  have wrote (row : Order) :
      (Stmt.insertOrder payload.orderId row).writes arith ((database arith).view db []) =
      [.orders payload.orderId { row with
        subtotal := arith.stored row.subtotal
        discount := arith.stored row.discount
        total := arith.stored row.total }] := by
    simp only [Stmt.writes, Schema.view, List.foldl_nil, absent, Option.isSome_none]
    rfl
  rw [wrote, List.nil_append] at ran₃
  obtain ⟨-, ran₄⟩ := alone_sql.mp ran₃
  cases ran₄
  let order : Order :=
    { customerId := payload.customerId
      sessionId := payload.sessionId
      cartId := payload.cartId
      status := .created
      subtotal := arith.stored payload.subtotal.value
      discount := arith.stored payload.discountAmount.value
      total := arith.stored payload.totalAmount.value
      currency := payload.currency
      itemCount := payload.itemCount
      shippingCountry := payload.shippingCountryCode
      billingCountry := payload.billingCountryCode
      createdEventId := eventId
      latestEventId := eventId
      orderedAt := payload.createdAt }
  exact ⟨order, cart, found, same.2.2.2.2.1, rfl, rfl, _, rfl,
    fun w mem => (Option.some.inj (writes_target mem)).symm⟩

/-! ### A paid order -/

section

def plainSession (n : Nat) : PersistCall :=
  plainCall n (.sessionStarted
    ⟨.ofNat 3, .ofNat 1, .ofNat 9, .desktop, plainAddress, "TR", .web, 0⟩)

def plainPayment (n : Nat) (completedAt : Instant) : PersistCall :=
  plainCall n (.paymentCompleted
    ⟨.ofNat 5, .ofNat 2, .ofNat 1, { coefficient := 10 }, .eur, .creditCard, .ofNat 9,
      plainAddress, "TR", completedAt⟩)

/-- Registration, session, a cart of 10 and its order. -/
def orderedShop : List (Nat × Act PersistCall) :=
  oneByOne [(registration 1, 5), (plainSession 2, 6), (plainAdd 3 1 2 5, 8), (plainOrder 4 2, 6)]

/-- The order is paid. -/
def paidShop : List (Nat × Act PersistCall) := orderedShop ++ oneByOne [(plainPayment 5 0, 6)]

/-- A refund of the payment. -/
def plainRefundOf (n amount : Nat) : PersistCall :=
  plainCall n (.refundRequested
    ⟨.ofNat n, .ofNat 5, .ofNat 2, .ofNat 1, { coefficient := amount }, .eur, "r", 0⟩)

/-- The ordered shop holds no payment, and its first payment is evaluated. -/
theorem orderedShop_payments :
    ∃ st, (plainUow.sessions Nat).run (plainUow.startFrom {}) orderedShop = some st ∧
      st.committed.db.payments.entries = [] ∧
      ∀ completedAt ∈ [0, -1], ∃ ws context,
        Evaluates engineUow st.committed.db (plainPayment 5 completedAt) ws context := by
  have shop : ((plainUow.sessions Nat).run (plainUow.startFrom {}) orderedShop).map (fun st =>
      (st.committed.db.payments.entries.isEmpty, [0, -1].all fun completedAt =>
        evaluable engineUow st.committed.db (plainPayment 5 completedAt))) =
      some (true, true) := by decide +kernel
  obtain ⟨st, ran, at_end⟩ := Option.map_eq_some_iff.mp shop
  simp only [Prod.mk.injEq] at at_end
  obtain ⟨none_, able⟩ := at_end
  exact ⟨st, ran, List.isEmpty_iff.mp none_,
    fun completedAt mem => evaluates_of rfl (List.all_eq_true.mp able completedAt mem)⟩

/-- The paid shop holds an order and a payment of 10, and its first refund is evaluated. -/
theorem paidShop_refunds :
    ∃ st, (plainUow.sessions Nat).run (plainUow.startFrom {}) paidShop = some st ∧
      (∃ order, st.committed.db.orders.get? (.ofNat 2) = some order ∧ order.total = 10) ∧
      (∃ payment, st.committed.db.payments.get? (.ofNat 5) = some payment ∧ payment.amount = 10) ∧
      st.committed.db.refunded (.ofNat 5) = 0 ∧
      ∀ amount ∈ [1, 4, 10], ∃ ws context,
        Evaluates engineUow st.committed.db (plainRefundOf 6 amount) ws context := by
  have shop : ((plainUow.sessions Nat).run (plainUow.startFrom {}) paidShop).map (fun st =>
      ((st.committed.db.orders.get? (.ofNat 2)).map (·.total),
        (st.committed.db.payments.get? (.ofNat 5)).map (·.amount),
        st.committed.db.refunded (.ofNat 5),
        [1, 4, 10].all fun amount => evaluable engineUow st.committed.db (plainRefundOf 6 amount))) =
      some (some 10, some 10, 0, true) := by decide +kernel
  obtain ⟨st, ran, at_end⟩ := Option.map_eq_some_iff.mp shop
  simp only [Prod.mk.injEq] at at_end
  obtain ⟨ordered, paid, refunded, able⟩ := at_end
  exact ⟨st, ran, Option.map_eq_some_iff.mp ordered, Option.map_eq_some_iff.mp paid, refunded,
    fun amount mem => evaluates_of rfl (List.all_eq_true.mp able amount mem)⟩

end

end CommercePlatform.Fraud
