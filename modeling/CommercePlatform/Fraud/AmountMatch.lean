import CommercePlatform.Fraud.Accepted
import CommercePlatform.Persistence.PaymentOrders

/-!
The amount-mismatch rule and what the handlers accept.

The rule compares the amount of any event with the total of its order. Checkouts,
orders and payments that were accepted agree with it; a refund agrees only when it is
for the whole total.
-/

namespace CommercePlatform.Fraud

open Contract Persistence Schema

/-! ### The order an event is compared with -/

section

variable {arith : Arithmetic} {config : FraudConfig} {event : EventEnvelope} {db : Db}
  {customerId : UUID} {customer : Customer} {lookback : Instant} {context : FraudContext}

theorem matches_noOrder (h : ContextFrom arith config event db context customerId customer lookback)
    (none_ : event.payload.orderId = none) : context.paymentAmountMatchesOrder = true := by
  obtain ⟨-, -, flag⟩ := contextOf_amounts h.context
  rw [flag]
  simp [historyOf, none_]

theorem matches_noAmount
    (h : ContextFrom arith config event db context customerId customer lookback)
    (none_ : contextAmount event.payload = none) : context.paymentAmountMatchesOrder = true := by
  obtain ⟨-, -, flag⟩ := contextOf_amounts h.context
  rw [flag, none_]
  cases (historyOf config db event customerId customer lookback).order <;> rfl

theorem matches_order (h : ContextFrom arith config event db context customerId customer lookback)
    {orderId : UUID} {order : Order} {amount : Rat} (named : event.payload.orderId = some orderId)
    (found : db.orders.get? orderId = some order) (some_ : contextAmount event.payload = some amount)
    (currency : some order.currency = event.payload.currency) :
    context.paymentAmountMatchesOrder = true ↔ order.total = amount := by
  obtain ⟨-, -, flag⟩ := contextOf_amounts h.context
  rw [flag, some_]
  simp [historyOf, named, found, currency]

/-- An amount other than zero is the amount of the context. -/
theorem contextAmount_some {payload : Payload} {amount : Decimal} (given : payload.amount = some amount)
    (noTotal : payload.totalAmount = none) :
    contextAmount payload = if amount.value = 0 then none else some amount.value := by
  simp [contextAmount, given, noTotal]

end

section

variable {arith : Arithmetic} {db db' : Db} {ws : List Write} {eventId : UUID}

/-- An order keeps its total and currency when its status is updated. -/
theorem updateOrder_keeps {orderId : UUID} {order : Order} {status : OrderStatus}
    (found : db.orders.get? orderId = some order) :
    ∃ order', ((database arith).view db'
        ((Stmt.updateOrder orderId status eventId).writes arith db)).orders.get? orderId =
          some order' ∧ order'.total = order.total ∧ order'.currency = order.currency := by
  refine ⟨{ order with status := status, latestEventId := eventId }, ?_, rfl, rfl⟩
  simp [Stmt.writes, found, Schema.view, Db.apply]

theorem PaymentAccepted.order_after {paymentId : UUID} {row : Payment} {order : Order}
    (h : PaymentAccepted arith db paymentId row order ws) :
    ∃ order', ((database arith).view db ws).orders.get? row.orderId = some order' ∧
      order'.total = row.amount ∧ order'.currency = row.currency := by
  rw [h.writes, ← h.total, ← h.currency]
  split
  · exact updateOrder_keeps h.found
  · exact ⟨order, h.found, rfl, rfl⟩

theorem RefundAccepted.order_after {payload : RefundRequestedPayload} {payment : Payment}
    {asked : Rat} (h : RefundAccepted arith db payload eventId payment asked ws) {order : Order}
    (found : db.orders.get? payload.orderId = some order) :
    ∃ order', ((database arith).view db ws).orders.get? payload.orderId = some order' ∧
      order'.total = order.total ∧ order'.currency = order.currency := by
  rw [h.writes]
  exact updateOrder_keeps found

theorem OrderAccepted.order_after {payload : OrderCreatedPayload} {order : Order} {cart : Cart}
    (h : OrderAccepted arith db payload order cart ws) :
    ((database arith).view db ws).orders.get? payload.orderId = some order := by
  obtain ⟨carts, rfl, only⟩ := h.writes
  have same := @view_elsewhere arith (db.apply (.orders payload.orderId order)) carts
    (· = .orders) fun w mem => by simp [only w mem]
  have orders : ((database arith).view (db.apply (.orders payload.orderId order)) carts).orders =
      (db.apply (.orders payload.orderId order)).orders := by
    simpa [Db.restrict] using congrArg Db.orders same
  exact (congrArg (·.get? payload.orderId) orders).trans (Dict.get?_set_self _ _ _)

end

/-! ### Accepted events -/

/-- A refund of another amount than the total of its order. -/
def PartialRefund (db : Db) (payload : Payload) : Prop :=
  ∃ p order, payload = .refundRequested p ∧ db.orders.get? p.orderId = some order ∧
    order.total ≠ p.amount.value

section

variable {uow : UnitOfWork} {db : Db} {call : PersistCall} {ws : List Write}
  {context : FraudContext}

theorem payment_matches {paymentId : UUID} {row : Payment} {amount : Decimal} {db' : Db}
    {ws' : List Write} {counts : RowCounts}
    (handled : alone (D := database uow.arith) (insertPayment paymentId row) db' [] =
      .ok (counts, ws'))
    {customerId : UUID} {customer : Customer} {lookback : Instant}
    (from_ : ContextFrom uow.arith uow.fraudConfig call.event
      ((database uow.arith).view db' ws') context customerId customer lookback)
    (named : call.event.payload.orderId = some row.orderId)
    (given : call.event.payload.amount = some amount) (value : row.amount = amount.value)
    (noTotal : call.event.payload.totalAmount = none)
    (currency : call.event.payload.currency = some row.currency) :
    context.paymentAmountMatchesOrder = true := by
  obtain ⟨order, accepted⟩ := insertPayment_alone handled
  obtain ⟨order', found, total, same⟩ := accepted.order_after
  have amount_ := contextAmount_some given noTotal
  split at amount_
  · exact matches_noAmount from_ amount_
  · exact (matches_order from_ named found amount_ (by rw [same, currency])).mpr (total.trans value)

/-- On a database with stored carts and priced payments, the amount of an accepted event
matches its order unless it is a partial refund. -/
theorem matches_iff (zero : uow.arith.stored 0 = 0) (columns : CartColumns uow.arith db)
    (priced : PaymentsPriced db) (evaluated : Evaluates uow db call ws context) :
    context.paymentAmountMatchesOrder = true ↔ ¬ PartialRefund db call.event.payload := by
  obtain ⟨db', ws', counts, same, handled, seen, customerId, customer, lookback, from_⟩ :=
    evaluated.handled
  rw [seen] at from_
  have eligible := evaluated.eligible
  have carts : db'.carts = db.carts := by
    simpa [Db.restrict, businessTables] using congrArg Db.carts same
  have orders : db'.orders = db.orders := by
    simpa [Db.restrict, businessTables] using congrArg Db.orders same
  have payments : db'.payments = db.payments := by
    simpa [Db.restrict, businessTables] using congrArg Db.payments same
  unfold applyHandler at handled
  cases payload : call.event.payload with
  | checkoutStarted p =>
    refine iff_of_true (matches_noOrder from_ (by simp [payload, Payload.orderId])) ?_
    simp [PartialRefund]
  | orderCreated p =>
    simp only [payload] at handled
    obtain ⟨order, cart, accepted⟩ := insertOrder_alone handled
    have column : uow.arith.stored cart.total = cart.total :=
      (columns p.cartId cart (carts ▸ accepted.found)).total.stored
    have total : order.total = p.totalAmount.value := by
      rw [accepted.stored, ← accepted.total, column]
    refine iff_of_true ?_ (by simp [PartialRefund])
    exact (matches_order from_ (by simp [payload, Payload.orderId]) accepted.order_after
      (by simp [payload, contextAmount, Payload.amount, Payload.totalAmount])
      (by simp [payload, Payload.currency, accepted.currency])).mpr total
  | paymentCompleted p =>
    simp only [payload] at handled
    refine iff_of_true ?_ (by simp [PartialRefund])
    exact payment_matches handled from_ (by simp [payload, Payload.orderId])
      (by simp [payload, Payload.amount]) rfl (by simp [payload, Payload.totalAmount])
      (by simp [payload, Payload.currency])
  | paymentFailed p =>
    simp only [payload] at handled
    refine iff_of_true ?_ (by simp [PartialRefund])
    exact payment_matches handled from_ (by simp [payload, Payload.orderId])
      (by simp [payload, Payload.amount]) rfl (by simp [payload, Payload.totalAmount])
      (by simp [payload, Payload.currency])
  | refundRequested p =>
    simp only [payload] at handled
    obtain ⟨payment, asked, accepted⟩ := insertRefund_alone handled
    obtain ⟨order, found, currency⟩ := priced p.paymentId payment (payments ▸ accepted.found)
    rw [accepted.orderId] at found
    obtain ⟨order', found', total, currency'⟩ := accepted.order_after (orders ▸ found)
    have amount := @contextAmount_some (.refundRequested p) p.amount rfl rfl
    have positive : p.amount.value ≠ 0 := by
      intro none_
      have some_ := accepted.positive
      rw [none_, zero] at some_
      exact lt_irrefl _ some_
    rw [if_neg positive] at amount
    rw [matches_order from_ (by simp [payload, Payload.orderId]) found' (payload ▸ amount)
      (by simp [payload, Payload.currency, currency', currency, accepted.currency]), total]
    simp [PartialRefund, found]
  | userRegistered p | sessionStarted p | productViewed p | addedToCart p | fraudAlertCreated p =>
    simp [EventEnvelope.eventType, payload, Payload.eventType, fraudEligible] at eligible

/-- What the rule says of a context. -/
theorem mismatch_result (config : FraudConfig) (context : FraudContext) :
    ∃ r, (paymentAmountMismatchRule config).evaluate context = .ok r ∧
      r.isMatched = !context.paymentAmountMatchesOrder ∧
      (context.paymentAmountMatchesOrder = true → r.score = 0) :=
  ⟨_, rfl, rfl, fun same => result_score (by simp [same])⟩

end

/-! ### Every reachable state -/

/-- In every reachable state the amount of an accepted event matches its order, and the rule
does not match and scores nothing, if and only if the event is not a refund of another amount
than the total of its order. The transactions before may have run under other fraud settings. -/
theorem amount_matches_iff {ι : Type} [DecidableEq ι] {uow past : UnitOfWork}
    (arithmetic : past.arith = uow.arith) (stable : uow.arith.Stable)
    (zero : uow.arith.stored 0 = 0) {start : Db} (columns : CartColumns uow.arith start)
    (priced : PaymentsPriced start) {acts : List (ι × Act PersistCall)} {st : past.Sessions ι}
    (ran : (past.sessions ι).run (past.startFrom start) acts = some st) {call : PersistCall}
    {ws : List Write} {context : FraudContext}
    (evaluated : Evaluates uow st.committed.db call ws context) :
    (context.paymentAmountMatchesOrder = true ∧
        ∃ r, (paymentAmountMismatchRule uow.fraudConfig).evaluate context = .ok r ∧
          r.isMatched = false ∧ r.score = 0) ↔
      ¬ PartialRefund st.committed.db call.event.payload := by
  have stored : CartColumns uow.arith st.committed.db := by
    rw [← arithmetic] at stable columns ⊢
    exact (run_converting stable columns ran).columns
  have flag := matches_iff zero stored (run_priced priced ran) evaluated
  obtain ⟨r, evaluates, matched, score⟩ := mismatch_result uow.fraudConfig context
  constructor
  · rintro ⟨same, -⟩
    exact flag.mp same
  · intro whole
    have same := flag.mpr whole
    exact ⟨same, r, evaluates, by rw [matched, same]; rfl, score same⟩

theorem noCarts_noPayments : CartColumns .exact {} ∧ PaymentsPriced {} :=
  ⟨fun _ _ found => by simp at found, paymentsPriced_empty⟩

/-- A refund of 4 of the 10 that were paid is accepted and does not match. -/
theorem not_amount_matches :
    ¬ ∀ (acts : List (Nat × Act PersistCall)) (st : plainUow.Sessions Nat) (call : PersistCall)
      (ws : List Write) (context : FraudContext),
      (plainUow.sessions Nat).run (plainUow.startFrom {}) acts = some st →
      Evaluates engineUow st.committed.db call ws context →
      context.paymentAmountMatchesOrder = true ∧
        ∃ r, (paymentAmountMismatchRule engineUow.fraudConfig).evaluate context = .ok r ∧
          r.isMatched = false ∧ r.score = 0 := by
  intro quiet
  obtain ⟨st, ran, ⟨order, found, total⟩, -, -, evaluates⟩ := paidShop_refunds
  obtain ⟨ws, context, evaluated⟩ := evaluates 4 (by simp)
  obtain ⟨columns, priced⟩ := noCarts_noPayments
  have stored := (run_converting exact_stable columns ran).columns
  have flag := @matches_iff engineUow _ _ _ _ rfl stored (run_priced priced ran) evaluated
  refine flag.mp (quiet paidShop st _ ws context ran evaluated).1 ⟨_, order, rfl, found, ?_⟩
  rw [total]
  norm_num [Decimal.value]

/-- A refund of all 10 matches. -/
theorem amount_matches_iff_whole :
    ∃ (st : plainUow.Sessions Nat) (ws : List Write) (context : FraudContext) (r : FraudRuleResult),
      (plainUow.sessions Nat).run (plainUow.startFrom {}) paidShop = some st ∧
      Evaluates engineUow st.committed.db (plainRefundOf 6 10) ws context ∧
      context.paymentAmountMatchesOrder = true ∧
      (paymentAmountMismatchRule engineUow.fraudConfig).evaluate context = .ok r ∧
      r.score = 0 := by
  obtain ⟨st, ran, ⟨order, found, total⟩, -, -, evaluates⟩ := paidShop_refunds
  obtain ⟨ws, context, evaluated⟩ := evaluates 10 (by simp)
  obtain ⟨columns, priced⟩ := noCarts_noPayments
  have whole : ¬ PartialRefund st.committed.db (plainRefundOf 6 10).event.payload := by
    rintro ⟨p, order', payload, found', different⟩
    cases payload
    obtain rfl : order = order' := Option.some.inj (found.symm.trans found')
    exact different (by rw [total]; norm_num [Decimal.value])
  obtain ⟨same, r, rule, -, score⟩ := (@amount_matches_iff _ _ engineUow plainUow rfl exact_stable rfl
    _ columns priced _ _ ran _ _ _ evaluated).mpr whole
  exact ⟨st, ws, context, r, ran, evaluated, same, rule, score⟩

end CommercePlatform.Fraud
