import CommercePlatform.Generator.Accounts
import CommercePlatform.Persistence.Handling
import CommercePlatform.Persistence.JourneyTables

/-!
Generated journeys and the tables.

The generator keeps the state of its customers, the processor keeps rows. The handler of
every event that `Follows` accepts it on tables that are `Consistent`, and leaves them so.
Hence any order of the events that keeps the order of each customer's own is accepted, as
long as no abandoned cart is filled again: a cart belongs to the session in which it was
first filled, and a line of another session is a conflict.
-/

namespace CommercePlatform.Persistence

open Contract Fraud Schema Generator

/-! ### One event -/

/-- The identifiers of the carts that are filled. -/
def cartIds (events : List EventEnvelope) : List UUID :=
  events.filterMap fun event =>
    match event.payload with
    | .addedToCart p => some p.cartId
    | _ => none

/-- The handler accepts the event, with writes of the customer's own, and leaves the
customer at the next stage. -/
def Handles (rt : Runtime) (arith : Arithmetic) (db : Db) (c : UUID) (ids filled : List UUID)
    (event : EventEnvelope) (next : Stage) : Prop :=
  ∃ counts ws, alone (D := database arith) (applyHandler rt arith event) db [] = .ok (counts, ws) ∧
    FitAll c ids filled db ws ∧ Stored ((database arith).view db ws) c next

section

variable {rt : Runtime} {arith : Arithmetic} {db : Db} {c : UUID} {event : EventEnvelope}
  {past past' filled filled' : List UUID} {stage : Stage}

/-- A handler that counts the rows of one table. -/
theorem applies {p : Sql Nat} {t : Table} {n : Nat} {ws : List Write}
    (same : applyHandler rt arith event = p >>= fun count => pure [(t, count)])
    (ran : alone (D := database arith) p db [] = .ok (n, ws)) :
    alone (D := database arith) (applyHandler rt arith event) db [] = .ok ([(t, n)], ws) := by
  rw [same]
  exact (alone_then ran).trans rfl

/-- A handler that is the repository's method. -/
theorem applied {p : Sql RowCounts} {r : Except (SqlError ⊕ PyException) (RowCounts × List Write)}
    (same : applyHandler rt arith event = p) (ran : alone (D := database arith) p db [] = r) :
    alone (D := database arith) (applyHandler rt arith event) db [] = r := by
  rw [same]
  exact ran

theorem handles_register {p : UserRegisteredPayload} (payload : event.payload = .userRegistered p)
    (own : p.customerId = c) (stored : Stored db c .unregistered) :
    Handles rt arith db c past' filled' event .registered := by
  subst own
  have same : applyHandler rt arith event =
      registerCustomer p event.eventId >>= fun count => pure [(.customers, count)] := by
    simp only [applyHandler, payload]
  refine ⟨_, _, applies same (registerCustomer_accepts stored), ⟨rfl, trivial⟩, ?_⟩
  exact Option.isSome_of_eq_some (Dict.get?_set_self _ _ _)

theorem handles_visit {p : SessionStartedPayload} (payload : event.payload = .sessionStarted p)
    (own : p.customerId = c) (known : stage ≠ .unregistered) (stored : Stored db c stage)
    (traced : Traced db past filled) (fresh : p.sessionId ∉ past) (mem : p.sessionId ∈ past') :
    Handles rt arith db c past' filled' event (.browsing p.sessionId) := by
  subst own
  have customer := stored.customer known
  have absent := absent_of_fresh (traced.sessions p.sessionId) fresh
  have same : applyHandler rt arith event =
      insertSession p event.eventId >>= fun count => pure [(.sessions, count)] := by
    simp only [applyHandler, payload]
  refine ⟨_, _, applies same (insertSession_accepts customer absent),
    ⟨⟨rfl, mem, absent⟩, trivial⟩, customer, ⟨_, Dict.get?_set_self _ _ _, rfl⟩, ?_⟩
  -- The session is new, so no cart has been filled in it.
  intro cartId cart found _ same
  have present := (traced.carts cartId cart found).2
  rw [same, absent] at present
  cases present

/-- The session of a customer who is looking around. -/
theorem Visiting.present {id : UUID} (visiting : Visiting db c id) :
    (db.sessions.get? id).isSome := by
  obtain ⟨row, found, -⟩ := visiting
  exact Option.isSome_of_eq_some found

theorem handles_view (cents : arith.Cents) {p : ProductViewedPayload} {id : UUID}
    (payload : event.payload = .productViewed p) (own : p.customerId = c)
    (session : p.sessionId = id) (price : IsAmount p.unitPrice) (stock : p.quantityAvailable ≤ 1000)
    (stored : Stored db c (.browsing id)) :
    Handles rt arith db c past' filled' event (.browsing id) := by
  subst own session
  have present := stored.2.1.present
  have same : applyHandler rt arith event =
      insertProductView p event.eventId event.eventTime >>=
        fun count => pure [(.productViews, count)] := by
    simp only [applyHandler, payload]
  obtain ⟨count, ws, ran, shape⟩ := insertProductView_accepts cents stored.1 present price stock
  refine ⟨_, ws, applies same ran, ?_⟩
  rcases shape with rfl | ⟨row, rfl⟩
  · exact ⟨trivial, stored⟩
  · exact ⟨⟨trivial, trivial⟩, stored⟩

theorem handles_add (cents : arith.Cents) {p : AddedToCartPayload} {id : UUID}
    (payload : event.payload = .addedToCart p) (own : p.customerId = c) (session : p.sessionId = id)
    (price : IsAmount p.unitPrice) (line : IsAmount (p.unitPrice.mul (.ofNat p.quantity)))
    (some_ : 0 < p.quantity) (few : p.quantity ≤ 1000) (stored : Stored db c (.browsing id))
    (traced : Traced db past filled) (fresh : p.cartId ∉ filled) (mem : p.cartId ∈ filled') :
    Handles rt arith db c past' filled' event (.carted p) := by
  subst own session
  have present := stored.2.1.present
  have absent : db.carts.get? p.cartId = none :=
    absent_of_fresh (fun row found => (traced.carts _ row found).1) fresh
  have empty : ∀ key item, db.cartItems.get? key = some item → key.1 ≠ p.cartId :=
    fun key item found same => fresh (same ▸ traced.lines key item found)
  have same : applyHandler rt arith event = addItem arith p event.eventId := by
    simp only [applyHandler, payload]
  have again := Dict.get?_set_self db.carts p.cartId (newCart p event.eventId)
  refine ⟨_, _, applied same (addItem_accepts cents stored.1 present absent empty price line some_
    few), ⟨⟨rfl, ⟨mem, present⟩, forall_absent absent⟩, mem,
      ⟨rfl, ⟨mem, present⟩, forall_found again rfl⟩, trivial⟩, ?_⟩
  exact ⟨stored.1, stored.2.1, ⟨newCart p event.eventId, Dict.get?_set_self _ _ _, rfl, rfl, rfl,
      rfl, rfl⟩, line, some_, few⟩

/-- A cart of the past belongs to another session. -/
theorem conflicts_add (cents : arith.Cents) {p : AddedToCartPayload} {id : UUID} {cart : Cart}
    (payload : event.payload = .addedToCart p) (own : p.customerId = c) (session : p.sessionId = id)
    (price : IsAmount p.unitPrice) (line : IsAmount (p.unitPrice.mul (.ofNat p.quantity)))
    (few : p.quantity ≤ 1000) (stored : Stored db c (.browsing id))
    (found : db.carts.get? p.cartId = some cart) :
    alone (D := database arith) (applyHandler rt arith event) db [] =
      .error (.inr (.raised .permanentDatabaseIntegrityError "cart identity conflict")) := by
  subst own session
  have same : applyHandler rt arith event = addItem arith p event.eventId := by
    simp only [applyHandler, payload]
  rw [same]
  refine addItem_conflict cents stored.1 stored.2.1.present found ?_ price line few
  intro both
  exact stored.2.2 p.cartId cart found both.1 both.2

theorem handles_checkout (cents : arith.Cents) {added : AddedToCartPayload}
    {p : CheckoutStartedPayload} (payload : event.payload = .checkoutStarted p)
    (own : p.customerId = c) (checks : Checks added p) (stored : Stored db c (.carted added))
    (traced : Traced db past' filled') :
    Handles rt arith db c past' filled' event (.checkedOut p) := by
  subst own
  obtain ⟨customer, session, ⟨cart, of_⟩, line, some_, few⟩ := stored
  have found := of_.found
  rw [← checks.cartId] at found
  rw [← checks.sessionId] at session
  have same : applyHandler rt arith event =
      checkout p event.eventId >>= fun count => pure [(.carts, count)] := by
    simp only [applyHandler, payload]
  have agrees : cart.customerId = p.customerId ∧ cart.sessionId = p.sessionId ∧
      cart.subtotal = p.subtotal.value ∧ cart.currency = p.currency ∧
      cart.itemCount = p.itemCount := by
    rw [checks.sessionId, checks.subtotal, checks.currency, checks.itemCount]
    exact ⟨of_.customerId, of_.sessionId, of_.subtotal, of_.currency, of_.itemCount⟩
  have kept := traced.carts _ _ found
  refine ⟨_, _, applies same (checkout_accepts cents found agrees checks.discount checks.total),
    ⟨⟨agrees.1, kept, forall_found found agrees.1⟩, trivial⟩, customer, session,
    ⟨_, Dict.get?_set_self _ _ _, agrees.1, agrees.2.1, agrees.2.2.1, rfl, rfl, agrees.2.2.2.1,
      agrees.2.2.2.2⟩, ⟨?_, checks.discount, checks.total⟩, ?_⟩
  · rw [checks.subtotal]
    exact line
  · rw [checks.itemCount]
    exact ⟨some_, few⟩

theorem handles_order (cents : arith.Cents) {checkout : CheckoutStartedPayload}
    {p : OrderCreatedPayload} (payload : event.payload = .orderCreated p) (own : p.customerId = c)
    (orders : Orders checkout p) (stored : Stored db c (.checkedOut checkout))
    (traced : Traced db past filled) (fresh : p.orderId ∉ past) (mem : p.orderId ∈ past')
    (more : ∀ id ∈ filled, id ∈ filled') :
    Handles rt arith db c past' filled' event (.ordered p) := by
  subst own
  obtain ⟨customer, session, ⟨cart, of_⟩, ⟨subtotal, discount, total⟩, some_, few⟩ := stored
  have found := of_.found
  rw [← orders.cartId] at found
  rw [← orders.sessionId] at session
  rw [← orders.subtotal] at subtotal
  rw [← orders.discount] at discount
  rw [← orders.total] at total
  rw [← orders.itemCount] at some_ few
  have absent := absent_of_fresh (traced.orders p.orderId) fresh
  have same : applyHandler rt arith event = insertOrder p event.eventId := by
    simp only [applyHandler, payload]
  have agrees : cart.customerId = p.customerId ∧ cart.sessionId = p.sessionId ∧
      cart.subtotal = p.subtotal.value ∧ cart.discount = p.discountAmount.value ∧
      cart.total = p.totalAmount.value ∧ cart.currency = p.currency ∧
      cart.itemCount = p.itemCount := by
    rw [orders.sessionId, orders.subtotal, orders.discount, orders.total, orders.currency,
      orders.itemCount]
    exact ⟨of_.customerId, of_.sessionId, of_.subtotal, of_.discount, of_.total, of_.currency,
      of_.itemCount⟩
  have kept := traced.carts _ _ found
  exact ⟨_, _, applied same (insertOrder_accepts cents found agrees absent customer session.present
    subtotal discount total some_ few), ⟨⟨rfl, mem, forall_absent absent⟩,
      ⟨agrees.1, ⟨more _ kept.1, kept.2⟩, forall_found found agrees.1⟩, trivial⟩,
    customer, ⟨newOrder p event.eventId, Dict.get?_set_self _ _ _, rfl, rfl, rfl⟩, total,
    orders.positive⟩

/-- What both kinds of payments have in common. -/
theorem pays (cents : arith.Cents) {order : OrderCreatedPayload} {paymentId : UUID} {row : Payment}
    {amount : Decimal} (same : applyHandler rt arith event = insertPayment paymentId row)
    (own : row.customerId = c) (eventId : row.eventId = event.eventId)
    (orderId : row.orderId = order.orderId) (asked : row.amount = amount.value)
    (whole : amount = order.totalAmount) (currency : row.currency = order.currency)
    (stored : Stored db c (.ordered order)) (traced : Traced db past filled)
    (fresh : paymentId ∉ past ∧ event.eventId ∉ past)
    (mem : (paymentId ∈ past' ∧ order.orderId ∈ past') ∧ event.eventId ∈ past') :
    ∃ counts ws, alone (D := database arith) (applyHandler rt arith event) db [] =
        .ok (counts, ws) ∧ FitAll c past' filled' db ws ∧
      ((database arith).view db ws).customers = db.customers ∧
      ((database arith).view db ws).payments.get? paymentId = some row ∧
      ((database arith).view db ws).refunds = db.refunds ∧
      ∃ order', OrderOf ((database arith).view db ws) c order order' := by
  subst own
  obtain ⟨customer, ⟨ordered, of_⟩, total, positive⟩ := stored
  have absent : db.payments.get? paymentId = none :=
    absent_of_fresh (fun old there => (traced.payments _ old there).1) fresh.1
  have unpaid : ∀ id other, db.payments.get? id = some other → other.eventId ≠ row.eventId := by
    intro id other there again
    exact fresh.2 (eventId ▸ again ▸ (traced.payments id other there).2)
  have found : db.orders.get? row.orderId = some ordered := orderId ▸ of_.found
  have agrees : ordered.customerId = row.customerId ∧ ordered.total = row.amount ∧
      ordered.currency = row.currency := by
    rw [asked, whole, currency]
    exact ⟨of_.customerId, of_.total, of_.currency⟩
  obtain ⟨counts, ran⟩ := insertPayment_accepts cents found agrees absent unpaid customer asked
    (whole ▸ total) (whole ▸ positive)
  have none_ : ∀ old, db.payments.get? paymentId = some old → old.customerId = row.customerId :=
    forall_absent absent
  have known : paymentId ∈ past' ∧ row.eventId ∈ past' := ⟨mem.1.1, eventId ▸ mem.2⟩
  refine ⟨counts, _, applied same ran, ?_⟩
  by_cases completed : row.status = .completed
  · rw [if_pos completed]
    refine ⟨⟨⟨rfl, known, none_⟩, ⟨of_.customerId, orderId ▸ mem.1.2,
      forall_found found of_.customerId⟩, trivial⟩, rfl, Dict.get?_set_self _ _ _, rfl,
      { ordered with status := .paid, latestEventId := row.eventId }, ?_, of_.customerId, of_.total,
      of_.currency⟩
    rw [← orderId]
    exact Dict.get?_set_self _ _ _
  · rw [if_neg completed]
    exact ⟨⟨⟨rfl, known, none_⟩, trivial⟩, rfl, Dict.get?_set_self _ _ _, rfl, ordered,
      of_.found, of_.customerId, of_.total, of_.currency⟩

theorem handles_fail (cents : arith.Cents) {order : OrderCreatedPayload} {p : PaymentFailedPayload}
    (payload : event.payload = .paymentFailed p) (own : p.customerId = c)
    (orderId : p.orderId = order.orderId) (amount : p.amount = order.totalAmount)
    (currency : p.currency = order.currency) (stored : Stored db c (.ordered order))
    (traced : Traced db past filled) (fresh : p.paymentId ∉ past ∧ event.eventId ∉ past)
    (mem : (p.paymentId ∈ past' ∧ order.orderId ∈ past') ∧ event.eventId ∈ past') :
    Handles rt arith db c past' filled' event (.ordered order) := by
  have same : applyHandler rt arith event = insertFailed p event.eventId := by
    simp only [applyHandler, payload]
  obtain ⟨counts, ws, ran, fit, customers, -, -, ordered⟩ :=
    pays cents same own rfl orderId rfl amount currency stored traced fresh mem
  refine ⟨counts, ws, ran, fit, ?_, ordered, stored.2.2⟩
  rw [customers]
  exact stored.1

theorem handles_pay (cents : arith.Cents) {order : OrderCreatedPayload}
    {p : PaymentCompletedPayload} (payload : event.payload = .paymentCompleted p)
    (own : p.customerId = c) (orderId : p.orderId = order.orderId)
    (amount : p.amount = order.totalAmount) (currency : p.currency = order.currency)
    (stored : Stored db c (.ordered order)) (traced : Traced db past filled)
    (fresh : p.paymentId ∉ past ∧ event.eventId ∉ past)
    (mem : (p.paymentId ∈ past' ∧ order.orderId ∈ past') ∧ event.eventId ∈ past') :
    Handles rt arith db c past' filled' event (.paid order p) := by
  have same : applyHandler rt arith event = insertCompleted p event.eventId := by
    simp only [applyHandler, payload]
  obtain ⟨counts, ws, ran, fit, customers, paid, refunds, ordered⟩ :=
    pays cents same own rfl orderId rfl amount currency stored traced fresh mem
  refine ⟨counts, ws, ran, fit, ?_, ordered, ⟨_, paid, own, orderId, rfl, rfl, rfl⟩, ?_⟩
  · rw [customers]
    exact stored.1
  · -- A refund of it would have found the payment before.
    intro id row found _ refers
    rw [refunds] at found
    obtain ⟨-, payment, there, -⟩ := traced.refunds id row found
    exact fresh.1 (refers ▸ (traced.payments _ payment there).1)

theorem handles_refund (cents : arith.Cents) {order : OrderCreatedPayload}
    {payment : PaymentCompletedPayload} {p : RefundRequestedPayload}
    (payload : event.payload = .refundRequested p) (own : p.customerId = c)
    (refunds : Refunds order payment p) (stored : Stored db c (.paid order payment))
    (traced : Traced db past filled) (fresh : p.refundId ∉ past ∧ event.eventId ∉ past)
    (mem : p.refundId ∈ past' ∧ event.eventId ∈ past') (more : ∀ id ∈ past, id ∈ past') :
    Handles rt arith db c past' filled' event .refunded := by
  subst own
  obtain ⟨customer, ⟨ordered, of_⟩, ⟨paid, for_⟩, unrefunded⟩ := stored
  have found : db.payments.get? p.paymentId = some paid := refunds.paymentId ▸ for_.found
  have there : db.orders.get? p.orderId = some ordered := refunds.orderId ▸ of_.found
  have agrees : paid.orderId = p.orderId ∧ paid.customerId = p.customerId ∧
      paid.currency = p.currency := by
    rw [refunds.orderId, refunds.currency]
    exact ⟨for_.orderId, for_.customerId, for_.currency⟩
  have none_ : ∀ id row, db.refunds.get? id = some row → row.paymentId ≠ p.paymentId := by
    intro id row refund refers
    obtain ⟨-, other, at_, owner⟩ := traced.refunds id row refund
    rw [refers, found] at at_
    cases at_
    exact unrefunded id row refund (owner.symm.trans for_.customerId)
      (refers.trans refunds.paymentId)
  have absent : db.refunds.get? p.refundId = none :=
    absent_of_fresh (fun row refund => (traced.refunds _ row refund).1.1) fresh.1
  have unused : ∀ id row, db.refunds.get? id = some row → row.eventId ≠ event.eventId := by
    intro id row refund again
    exact fresh.2 (again ▸ (traced.refunds id row refund).1.2)
  have covered : p.amount.value ≤ paid.amount := for_.amount ▸ refunds.covered
  have same : applyHandler rt arith event = insertRefund arith p event.eventId := by
    simp only [applyHandler, payload]
  obtain ⟨counts, paymentStatus, orderStatus, ran⟩ := insertRefund_accepts cents found for_.status
    agrees there none_ absent unused customer refunds.amount refunds.positive covered
  obtain ⟨known, known'⟩ := traced.payments _ paid found
  exact ⟨counts, _, applied same ran, ⟨⟨rfl, mem, absent, paid, found, agrees.2.1⟩,
    ⟨agrees.2.1, ⟨more _ known, more _ known'⟩, forall_found found agrees.2.1⟩,
    ⟨of_.customerId, more _ (traced.orders _ ordered there), forall_found there of_.customerId⟩,
    trivial⟩, customer⟩

end

/-! ### A run -/

/-- The tables after these events, of customers who have come that far. -/
structure Consistent (db : Db) (past : List EventEnvelope) (stages : UUID → Stage) : Prop where
  stored : ∀ c, Stored db c (stages c)
  traced : Traced db (allOwnIds past) (cartIds past)
  filled : ∀ id ∈ cartIds past, (db.carts.get? id).isSome

theorem consistent_start : Consistent {} [] fun _ => .unregistered where
  stored c := rfl
  traced := by
    constructor <;> intro id row found <;> cases found
  filled id mem := by cases mem

theorem mem_cartIds {events : List EventEnvelope} {id : UUID} :
    id ∈ cartIds events ↔
      ∃ event ∈ events, ∃ p, event.payload = .addedToCart p ∧ p.cartId = id := by
  rw [cartIds, List.mem_filterMap]
  constructor
  · rintro ⟨event, mem, same⟩
    split at same
    · rename_i p payload
      exact ⟨event, mem, p, payload, Option.some.inj same⟩
    · cases same
  · rintro ⟨event, mem, p, payload, same⟩
    refine ⟨event, mem, ?_⟩
    rw [payload]
    exact congrArg some same

theorem eventId_ownIds (event : EventEnvelope) : event.eventId ∈ ownIds event := by
  unfold ownIds
  split
  · exact List.mem_singleton_self _
  · exact List.mem_append_right _ (List.mem_singleton_self _)

section

variable {rt : Runtime} {arith : Arithmetic} {db : Db} {c : UUID} {event : EventEnvelope}
  {past : List EventEnvelope} {stages : UUID → Stage} {next : Stage}

/-- The handler of an event that follows, unless it fills a cart again. -/
theorem Consistent.handles (cents : arith.Cents) (h : Consistent db past stages)
    (owner : event.payload.customerId = some c) (follows : Follows (stages c) event.payload next)
    (fresh : ∀ id ∈ ownIds event, id ∉ allOwnIds past)
    (unfilled : ∀ p, event.payload = .addedToCart p → p.cartId ∉ cartIds past) :
    Handles rt arith db c (allOwnIds (past ++ [event])) (cartIds (past ++ [event])) event next := by
  have stored := h.stored c
  have ids : ∀ id ∈ allOwnIds past, id ∈ allOwnIds (past ++ [event]) := by
    intro id mem
    rw [allOwnIds_append]
    exact List.mem_append_left _ mem
  have filled : ∀ id ∈ cartIds past, id ∈ cartIds (past ++ [event]) := by
    intro id mem
    rw [cartIds, List.filterMap_append]
    exact List.mem_append_left _ mem
  have own : ∀ id ∈ ownIds event, id ∈ allOwnIds (past ++ [event]) := by
    intro id mem
    rw [allOwnIds_append]
    exact List.mem_append_right _ (by simpa using mem)
  have traced := h.traced.mono ids filled
  have issued := eventId_ownIds event
  obtain ⟨payload, same⟩ : ∃ payload, event.payload = payload := ⟨_, rfl⟩
  rw [same] at owner follows
  revert stored follows
  generalize stages c = stage
  intro stored follows
  cases follows with
  | register p => exact handles_register same (Option.some.inj owner) stored
  | visit p known =>
    have mem : p.sessionId ∈ ownIds event := by simp [ownIds, newIds, creates, same]
    exact handles_visit same (Option.some.inj owner) known stored h.traced (fresh _ mem) (own _ mem)
  | view p session price stock =>
    exact handles_view cents same (Option.some.inj owner) session price stock stored
  | add p session price line some_ few =>
    refine handles_add cents same (Option.some.inj owner) session price line some_ few stored
      h.traced (unfilled p same) ?_
    exact mem_cartIds.mpr ⟨event, by simp, p, same, rfl⟩
  | checkout p checks =>
    exact handles_checkout cents same (Option.some.inj owner) checks stored traced
  | order p orders =>
    have mem : p.orderId ∈ ownIds event := by simp [ownIds, newIds, creates, same]
    exact handles_order cents same (Option.some.inj owner) orders stored h.traced (fresh _ mem)
      (own _ mem) filled
  | fail p orderId amount currency =>
    have mem : p.paymentId ∈ ownIds event := by simp [ownIds, newIds, creates, same]
    obtain ⟨ordered, of_⟩ := stored.2.1
    exact handles_fail cents same (Option.some.inj owner) orderId amount currency stored h.traced
      ⟨fresh _ mem, fresh _ issued⟩ ⟨⟨own _ mem, traced.orders _ ordered of_.found⟩, own _ issued⟩
  | pay p orderId amount currency =>
    have mem : p.paymentId ∈ ownIds event := by simp [ownIds, newIds, creates, same]
    obtain ⟨ordered, of_⟩ := stored.2.1
    exact handles_pay cents same (Option.some.inj owner) orderId amount currency stored h.traced
      ⟨fresh _ mem, fresh _ issued⟩ ⟨⟨own _ mem, traced.orders _ ordered of_.found⟩, own _ issued⟩
  | refund p refunds =>
    have mem : p.refundId ∈ ownIds event := by simp [ownIds, newIds, creates, same]
    exact handles_refund cents same (Option.some.inj owner) refunds stored h.traced
      ⟨fresh _ mem, fresh _ issued⟩ ⟨own _ mem, own _ issued⟩ ids

/-- Who puts something into a cart has that cart next. -/
theorem follows_add {stage : Stage} {payload : Payload} (follows : Follows stage payload next)
    {p : AddedToCartPayload} (same : payload = .addedToCart p) : next = .carted p := by
  cases follows with
  | add q =>
    cases same
    rfl
  | register | visit | view | checkout | order | fail | pay | refund => cases same

variable (rt) in
/-- One event of one customer keeps the tables consistent. -/
theorem Consistent.step (cents : arith.Cents) (h : Consistent db past stages)
    (owner : event.payload.customerId = some c) (follows : Follows (stages c) event.payload next)
    (fresh : ∀ id ∈ ownIds event, id ∉ allOwnIds past)
    (unfilled : ∀ p, event.payload = .addedToCart p → p.cartId ∉ cartIds past) :
    ∃ counts ws, alone (D := database arith) (applyHandler rt arith event) db [] =
        .ok (counts, ws) ∧
      Consistent ((database arith).view db ws) (past ++ [event])
        (Function.update stages c next) := by
  obtain ⟨counts, ws, ran, fit, after⟩ := h.handles cents owner follows fresh unfilled
  refine ⟨counts, ws, ran, ?_, ?_, ?_⟩
  · intro other
    by_cases same : other = c
    · subst same
      rw [Function.update_self]
      exact after
    · rw [Function.update_of_ne same]
      exact (h.stored other).frame fit.others same
  · apply fit.traced
    apply h.traced.mono
    · intro id mem
      rw [allOwnIds_append]
      exact List.mem_append_left _ mem
    · intro id mem
      rw [cartIds, List.filterMap_append]
      exact List.mem_append_left _ mem
  · intro id mem
    obtain ⟨other, at_, p, payload, rfl⟩ := mem_cartIds.mp mem
    rcases List.mem_append.mp at_ with early | late
    · exact view_cart (h.filled _ (mem_cartIds.mpr ⟨other, early, p, payload, rfl⟩))
    · obtain rfl := List.mem_singleton.mp late
      obtain rfl := follows_add follows payload
      obtain ⟨cart, of_⟩ := after.2.2.1
      exact Option.isSome_of_eq_some of_.found

variable (rt) in
/-- A cart that was filled before is refused. -/
theorem Consistent.conflict (cents : arith.Cents) (h : Consistent db past stages)
    (owner : event.payload.customerId = some c) (follows : Follows (stages c) event.payload next)
    {p : AddedToCartPayload} (payload : event.payload = .addedToCart p)
    (again : p.cartId ∈ cartIds past) :
    alone (D := database arith) (applyHandler rt arith event) db [] =
      .error (.inr (.raised .permanentDatabaseIntegrityError "cart identity conflict")) := by
  obtain ⟨cart, found⟩ := Option.isSome_iff_exists.mp (h.filled _ again)
  have stored := h.stored c
  rw [payload] at follows owner
  revert stored follows
  generalize stages c = stage
  intro follows stored
  cases follows with
  | add p session price line some_ few =>
    exact conflicts_add cents payload (Option.some.inj owner) session price line few stored found

/-- The events that are left, after the first. -/
theorem lived_tail {rest : List EventEnvelope} (lived : Lived (event :: rest) stages)
    (owner : event.payload.customerId = some c) :
    ∃ next, Follows (stages c) event.payload next ∧ Lived rest (Function.update stages c next) := by
  obtain ⟨last, lives⟩ := lived.lives c
  have own : eventsOf c (event :: rest) = event :: eventsOf c rest :=
    List.filter_cons_of_pos (decide_eq_true owner)
  rw [own] at lives
  cases lives with
  | cons follows later =>
    rename_i next
    refine ⟨next, follows, fun other mem => lived.owned other (List.mem_cons_of_mem _ mem), ?_⟩
    intro other
    by_cases same : other = c
    · subst same
      rw [Function.update_self]
      exact ⟨last, later⟩
    · have skipped : eventsOf other (event :: rest) = eventsOf other rest := by
        refine List.filter_cons_of_neg ?_
        rw [owner]
        simpa using Ne.symm same
      rw [Function.update_of_ne same, ← skipped]
      exact lived.lives other

/-- What the tables make of the rest of a run. -/
theorem Consistent.run (cents : arith.Cents) {rest : List EventEnvelope}
    (h : Consistent db past stages) (lived : Lived rest stages)
    (fresh : (allOwnIds (past ++ rest)).Nodup) (before : (cartIds past).Nodup) :
    ((cartIds (past ++ rest)).Nodup → ∃ db', absorb rt arith db rest = .ok db') ∧
      (¬ (cartIds (past ++ rest)).Nodup → absorb rt arith db rest =
        .error (.inr (.raised .permanentDatabaseIntegrityError "cart identity conflict"))) := by
  induction rest generalizing db past stages with
  | nil =>
    rw [List.append_nil]
    exact ⟨fun _ => ⟨db, rfl⟩, fun again => absurd before again⟩
  | cons event rest ih =>
    obtain ⟨c, owner⟩ := lived.owned event List.mem_cons_self
    obtain ⟨next, follows, later⟩ := lived_tail lived owner
    have joined : past ++ event :: rest = (past ++ [event]) ++ rest := by simp
    have single : cartIds (past ++ [event]) = cartIds past ++ cartIds [event] :=
      List.filterMap_append
    by_cases again : ∃ p, event.payload = .addedToCart p ∧ p.cartId ∈ cartIds past
    · obtain ⟨p, payload, mem⟩ := again
      have refused := h.conflict rt cents owner follows payload mem
      have twice : ¬ (cartIds (past ++ event :: rest)).Nodup := by
        intro nodup
        rw [joined, cartIds, List.filterMap_append] at nodup
        have early := nodup.of_append_left
        rw [← cartIds, single] at early
        have here : p.cartId ∈ cartIds [event] :=
          mem_cartIds.mpr ⟨event, List.mem_singleton_self _, p, payload, rfl⟩
        exact List.disjoint_of_nodup_append early mem here
      refine ⟨fun nodup => absurd nodup twice, fun _ => ?_⟩
      rw [absorb, refused]
    · have unfilled : ∀ p, event.payload = .addedToCart p → p.cartId ∉ cartIds past :=
        fun p payload mem => again ⟨p, payload, mem⟩
      have new : ∀ id ∈ ownIds event, id ∉ allOwnIds past := by
        intro id own mem
        rw [allOwnIds_append, allOwnIds_cons] at fresh
        exact List.disjoint_of_nodup_append fresh mem (List.mem_append_left _ own)
      obtain ⟨counts, ws, ran, consistent⟩ := h.step rt cents owner follows new unfilled
      have still : (cartIds (past ++ [event])).Nodup := by
        rw [single, List.nodup_append]
        refine ⟨before, ?_, ?_⟩
        · unfold cartIds
          rw [List.filterMap_cons, List.filterMap_nil]
          split
          · exact List.nodup_nil
          · exact List.nodup_singleton _
        · intro id mem other here same
          subst same
          obtain ⟨e, at_, p, payload, rfl⟩ := mem_cartIds.mp here
          obtain rfl := List.mem_singleton.mp at_
          exact unfilled p payload mem
      rw [joined] at fresh ⊢
      have tail := ih consistent later fresh still
      rw [absorb, ran]
      exact tail

end

/-- The tables accept the journeys of a builder, in any order that keeps the order of each
customer's own events, if no cart is filled twice; otherwise the first error is that of a cart
that is filled again. -/
theorem journeys_accepted {rt : Runtime} {arith : Arithmetic} {source : Source}
    {config : GeneratorConfig} {w : World} {journeys : List JourneyResult}
    {merged : List EventEnvelope} (cents : arith.Cents) (accepted : config.Accepted)
    (built : Built rt source config (fun _ => True) w journeys)
    (distinct : Distinct source.uuids w.drawnUuids) (merges : Merges (emitted journeys) merged) :
    ((cartIds (emitted journeys)).Nodup → ∃ db, absorb rt arith {} merged = .ok db) ∧
      (¬ (cartIds (emitted journeys)).Nodup → absorb rt arith {} merged =
        .error (.inr (.raised .permanentDatabaseIntegrityError "cart identity conflict"))) := by
  have some_ := accepted.maxPaymentAttempts.1
  have lived := (built.alive some_ distinct).merges merges
  have ids : (allOwnIds merged).Perm (allOwnIds (emitted journeys)) :=
    merges.perm.flatMap_right ownIds
  have fresh : (allOwnIds merged).Nodup :=
    ids.nodup_iff.mpr ((built.ownIds some_).nodup (segment_nodup distinct))
  have carts : (cartIds merged).Perm (cartIds (emitted journeys)) := merges.perm.filterMap _
  rw [← carts.nodup_iff]
  exact consistent_start.run cents lived fresh List.nodup_nil

/-! Two journeys of a customer who buys both times, and of a discount hunter who leaves the
cart of the first and fills it again in the second. -/

/-- Everything that can happen does, but for the first checkout of the hunter. -/
def hesitantSource : Source := { eagerSource with random := fun i => if i = 8 then 0.99 else 0 }

def hunterConfig : GeneratorConfig :=
  { persona := some .discountHunter, newCustomerProbability := 0 }

theorem journeys_accepted_twice :
    (∃ w first second db,
      Built eagerRuntime eagerSource eagerConfig (fun _ => True) w [first, second] ∧
      absorb eagerRuntime .exact {} (emitted [first, second]) = .ok db) ∧
    ∃ w first second,
      Built eagerRuntime hesitantSource hunterConfig (fun _ => True) w [first, second] ∧
      absorb eagerRuntime .exact {} (emitted [first, second]) =
        .error (.inr (.raised .permanentDatabaseIntegrityError "cart identity conflict")) := by
  constructor
  · obtain ⟨w, first, second, built, few, nodup⟩ :=
      journeyTwice_built eagerSource eagerConfig
        (fun journeys => decide (cartIds (emitted journeys)).Nodup) (by decide +kernel)
    obtain ⟨db, ran⟩ := (journeys_accepted Arithmetic.exact_cents (by decide +kernel) built
      (eagerSource_distinct.mono few) ⟨.refl _, fun _ => rfl⟩).1 (of_decide_eq_true nodup)
    exact ⟨w, first, second, db, built, ran⟩
  · obtain ⟨w, first, second, built, few, twice⟩ :=
      journeyTwice_built hesitantSource hunterConfig
        (fun journeys => decide ¬ (cartIds (emitted journeys)).Nodup) (by decide +kernel)
    have refused := (journeys_accepted Arithmetic.exact_cents (by decide +kernel) built
      (eagerSource_distinct.mono few) ⟨.refl _, fun _ => rfl⟩).2 (of_decide_eq_true twice)
    exact ⟨w, first, second, built, refused⟩

end CommercePlatform.Persistence
