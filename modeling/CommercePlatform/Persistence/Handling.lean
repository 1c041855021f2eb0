import CommercePlatform.Fraud.Evaluation
import CommercePlatform.Generator.Lifecycle

/-!
The handlers, each alone on a database that has what its event refers to.

`absorb` is a run of them, every event in a transaction of its own. There is one lemma
for each handler: on rows that agree with the payload it raises nothing, and these are
the rows it writes.
-/

namespace CommercePlatform.Persistence

open Contract Fraud Schema
open Generator (IsAmount)

/-- The database after the handlers of the events, one after the other, or the first
error. -/
def absorb (rt : Runtime) (arith : Arithmetic) (db : Db) :
    List EventEnvelope → Except (SqlError ⊕ PyException) Db
  | [] => .ok db
  | event :: events =>
    match alone (D := database arith) (applyHandler rt arith event) db [] with
    | .ok (_, ws) => absorb rt arith ((database arith).view db ws) events
    | .error e => .error e

/-- Whole hundredths below ten million are exact: in the decimal context, where they have
at most nine digits, and in a `NUMERIC(38, 18)` column. -/
structure Arithmetic.Cents (arith : Arithmetic) : Prop where
  numeric : ∀ n : Nat, n < 10 ^ 9 → arith.numeric ((n : Rat) / 100) = some ((n : Rat) / 100)
  product : ∀ a q : Nat, a * q < 10 ^ 9 →
    arith.product ((a : Rat) / 100) q = some ((a * q : Nat) / 100 : Rat)
  sum : ∀ n : Nat, n < 10 ^ 9 → arith.sum 0 ((n : Rat) / 100) = some ((n : Rat) / 100)

theorem Arithmetic.exact_cents : Arithmetic.exact.Cents where
  numeric _ _ := rfl
  product a q _ := by
    show some _ = some _
    push_cast
    congr 1
    ring
  sum n _ := congrArg some (zero_add _)

section

variable {rt : Runtime} {arith : Arithmetic} {db : Db} {ws : List Write} {α : Type}

/-! ### Money -/

theorem Arithmetic.Cents.amount (cents : arith.Cents) {d : Decimal} (amount : IsAmount d) :
    arith.numeric d.value = some d.value := by
  obtain ⟨n, small, rfl⟩ := amount
  rw [Decimal.cents_value]
  exact cents.numeric n small

theorem Arithmetic.Cents.stored (cents : arith.Cents) {d : Decimal} (amount : IsAmount d) :
    arith.stored d.value = d.value := by
  rw [Arithmetic.stored, cents.amount amount, Option.getD_some]

theorem Arithmetic.Cents.stored_zero (cents : arith.Cents) : arith.stored 0 = 0 := by
  have exact_ := cents.numeric 0 (by norm_num)
  rw [Nat.cast_zero, zero_div] at exact_
  rw [Arithmetic.stored, exact_, Option.getD_some]

theorem Arithmetic.Cents.added (cents : arith.Cents) {d : Decimal} (amount : IsAmount d) :
    arith.add 0 d.value = .ok d.value := by
  obtain ⟨n, small, rfl⟩ := amount
  rw [Decimal.cents_value, DecimalContext.add, cents.sum n small]
  rfl

theorem amount_nonneg {d : Decimal} (amount : IsAmount d) : 0 ≤ d.value := by
  obtain ⟨n, -, rfl⟩ := amount
  rw [Decimal.cents_value]
  exact div_nonneg (Nat.cast_nonneg n) (by norm_num)

/-- The price of a line. -/
theorem Arithmetic.Cents.line (cents : arith.Cents) {price : Decimal} {quantity : Nat}
    (priced : IsAmount price)
    (amount : IsAmount (price.mul (.ofNat quantity))) :
    arith.mul price.value quantity = .ok (price.mul (.ofNat quantity)).value := by
  obtain ⟨a, -, rfl⟩ := priced
  obtain ⟨n, small, same⟩ := amount
  rw [Decimal.cents_mul_ofNat] at same ⊢
  have product : a * quantity = n := congrArg Decimal.coefficient same
  rw [Decimal.cents_value, Decimal.cents_value, DecimalContext.mul,
    cents.product a quantity (product ▸ small)]
  rfl

theorem Arithmetic.Cents.nonnegative (cents : arith.Cents) {d : Decimal}
    (amount : IsAmount d) : ∀ x ∈ Stmt.nonnegative arith d.value, x.1 = true := by
  have fits : arith.storable d.value = true := by
    rw [Arithmetic.storable, cents.amount amount]
    rfl
  have bound := amount_nonneg amount
  simp [Stmt.nonnegative, Stmt.money, fits, cents.stored amount, bound]

theorem Arithmetic.Cents.nonnegative_zero (cents : arith.Cents) :
    ∀ x ∈ Stmt.nonnegative arith 0, x.1 = true := by
  have amount : IsAmount (.cents 0) := ⟨0, by norm_num, rfl⟩
  have passed := cents.nonnegative amount
  rw [Decimal.cents_value, Nat.cast_zero, zero_div] at passed
  exact passed

theorem Arithmetic.Cents.positive (cents : arith.Cents) {d : Decimal}
    (amount : IsAmount d) (positive : 0 < d.value) :
    ∀ x ∈ Stmt.positive arith d.value, x.1 = true := by
  have fits : arith.storable d.value = true := by
    rw [Arithmetic.storable, cents.amount amount]
    rfl
  simp [Stmt.positive, Stmt.money, fits, cents.stored amount, positive]

theorem int4_small {n : Nat} (small : n ≤ 1000) : ∀ x ∈ Stmt.int4 n, x.1 = true := by
  have bound : (n : Int) ≤ 1000 := Int.ofNat_le.mpr small
  simp only [Stmt.int4, int4Max, List.mem_singleton, forall_eq]
  exact decide_eq_true (by constructor <;> omega)

theorem passed_two {a b : Bool} {e f : SqlError} (first : a = true) (second : b = true) :
    ∀ x ∈ [(a, e)] ++ [(b, f)], x.1 = true := by
  simp [first, second]

theorem ifAdded_passed {present : Bool} {cs : Stmt.Constraints} (passed : ∀ x ∈ cs, x.1 = true) :
    ∀ x ∈ Stmt.ifAdded present cs, x.1 = true := by
  unfold Stmt.ifAdded
  split
  · intro x mem
    cases mem
  · exact passed

/-! ### Statements -/

/-- A statement whose constraints pass. -/
theorem alone_passed {s : Stmt} {f : s.Result → Sql α}
    (passed : ∀ x ∈ s.constraints arith ((database arith).view db ws), x.1 = true) :
    alone (D := database arith) (sql s >>= f) db ws =
      alone (D := database arith) (f (s.answer ((database arith).view db ws))) db
        (ws ++ s.writes arith ((database arith).view db ws)) := by
  refine alone_exec ?_
  simp only
  rw [firstFailure_none.mpr passed]

theorem alone_answered {s : Stmt} {f : s.Result → Sql α} {r : s.Result} {ws' : List Write}
    (passed : ∀ x ∈ s.constraints arith ((database arith).view db ws), x.1 = true)
    (answer : s.answer ((database arith).view db ws) = r)
    (writes : s.writes arith ((database arith).view db ws) = ws') :
    alone (D := database arith) (sql s >>= f) db ws =
      alone (D := database arith) (f r) db (ws ++ ws') := by
  rw [alone_passed passed, answer, writes]

theorem requireCustomer_alone {id : UUID} (present : (db.customers.get? id).isSome) :
    alone (D := database arith) (requireCustomer id) db [] = .ok ((), []) := by
  refine (alone_query rfl _).trans ?_
  have found : (Stmt.existsCustomer id).answer ((database arith).view db []) = true := present
  rw [found]
  rfl

theorem requireSession_alone {id : UUID} (present : (db.sessions.get? id).isSome) :
    alone (D := database arith) (requireSession id) db [] = .ok ((), []) := by
  refine (alone_query rfl _).trans ?_
  have found : (Stmt.existsSession id).answer ((database arith).view db []) = true := present
  rw [found]
  rfl

/-- The checks of the session-bound handlers. -/
theorem required_alone {customerId sessionId : UUID} {p : Sql α}
    (customer : (db.customers.get? customerId).isSome)
    (session : (db.sessions.get? sessionId).isSome) :
    alone (D := database arith)
        (requireCustomer customerId >>= fun _ => requireSession sessionId >>= fun _ => p) db [] =
      alone (D := database arith) p db [] :=
  (alone_then (requireCustomer_alone customer)).trans (alone_then (requireSession_alone session))

/-! ### Handlers -/

theorem registerCustomer_accepts {p : UserRegisteredPayload} {eventId : UUID}
    (absent : db.customers.get? p.customerId = none) :
    alone (D := database arith) (registerCustomer p eventId) db [] =
      .ok (1, [.customers p.customerId
        { emailHash := p.emailHash, persona := p.persona, homeCountry := p.countryCode
          registeredAt := p.registeredAt, firstEventId := eventId, lastEventId := eventId }]) := by
  refine (alone_query rfl _).trans ?_
  have none_ : (Stmt.selectCustomer p.customerId).answer ((database arith).view db []) = none :=
    Option.map_eq_none_iff.mpr absent
  rw [none_]
  refine (alone_passed ?_).trans rfl
  simp [Stmt.constraints, Stmt.unique, Schema.view, absent]

theorem insertSession_accepts {p : SessionStartedPayload} {eventId : UUID}
    (customer : (db.customers.get? p.customerId).isSome)
    (absent : db.sessions.get? p.sessionId = none) :
    alone (D := database arith) (insertSession p eventId) db [] =
      .ok (1, [.sessions p.sessionId
        { customerId := p.customerId, deviceId := p.deviceId.str, deviceType := p.deviceType
          ipAddress := p.ipAddress, country := p.countryCode, channel := p.channel
          startedAt := p.startedAt, firstEventId := eventId }]) := by
  refine (alone_then (requireCustomer_alone customer)).trans ?_
  refine (alone_query rfl _).trans ?_
  have none_ : (Stmt.selectSession p.sessionId).answer ((database arith).view db []) = none :=
    Option.map_eq_none_iff.mpr absent
  rw [none_]
  refine (alone_passed ?_).trans rfl
  simp [Stmt.constraints, Stmt.unique, Stmt.references, Schema.view, absent, customer]

theorem insertProductView_accepts (cents : arith.Cents) {p : ProductViewedPayload} {eventId : UUID}
    {viewedAt : Instant} (customer : (db.customers.get? p.customerId).isSome)
    (session : (db.sessions.get? p.sessionId).isSome) (price : IsAmount p.unitPrice)
    (stock : p.quantityAvailable ≤ 1000) :
    ∃ count, ∃ ws, alone (D := database arith) (insertProductView p eventId viewedAt) db [] =
      .ok (count, ws) ∧ (ws = [] ∨ ∃ row, ws = [.productViews eventId row]) := by
  refine ⟨_, _, (required_alone customer session).trans (alone_passed ?_), ?_⟩
  · simp only [Stmt.constraints, List.forall_mem_append]
    exact ⟨⟨int4_small stock, cents.nonnegative price⟩,
      ifAdded_passed (passed_two session customer)⟩
  · simp only [List.nil_append, Stmt.writes]
    split
    · exact Or.inl rfl
    · exact Or.inr ⟨_, rfl⟩

/-- The cart after its first line. -/
def newCart (p : AddedToCartPayload) (eventId : UUID) : Cart :=
  { customerId := p.customerId
    sessionId := p.sessionId
    status := .active
    subtotal := (p.unitPrice.mul (.ofNat p.quantity)).value
    discount := 0
    total := (p.unitPrice.mul (.ofNat p.quantity)).value
    currency := p.currency
    itemCount := p.quantity
    createdEventId := eventId
    latestEventId := eventId }

def newLine (p : AddedToCartPayload) : CartItem :=
  { quantity := p.quantity
    unitPrice := p.unitPrice.value
    lineTotal := (p.unitPrice.mul (.ofNat p.quantity)).value }

/-- The totals of a cart of one line are those of the line. -/
theorem refreshCart_single (cents : arith.Cents) {p : AddedToCartPayload} {eventId : UUID}
    (line : IsAmount (p.unitPrice.mul (.ofNat p.quantity))) (few : p.quantity ≤ 1000)
    {seen : Db} (only : seen.linesOf p.cartId = [newLine p])
    (found : seen.carts.get? p.cartId = some (newCart p eventId)) :
    (∀ x ∈ (Stmt.refreshCart p.cartId eventId).constraints arith seen, x.1 = true) ∧
      (Stmt.refreshCart p.cartId eventId).writes arith seen =
        [.carts p.cartId (newCart p eventId)] := by
  have subtotal : ([newLine p].map (·.lineTotal)).sum =
      (p.unitPrice.mul (.ofNat p.quantity)).value := by simp [newLine]
  have quantity : ([newLine p].map (·.quantity)).sum = p.quantity := by simp [newLine]
  have discount : (newCart p eventId).discount = 0 := rfl
  have none_ : ¬ [newLine p] = [] := List.cons_ne_nil _ _
  simp only [Stmt.constraints, Stmt.writes, only, found, Option.map_some, Option.toList_some,
    subtotal, quantity, discount, sub_zero, if_neg none_, cents.stored line,
    List.forall_mem_append]
  exact ⟨⟨⟨int4_small few, cents.nonnegative line⟩, cents.nonnegative line⟩, rfl⟩

/-- The first line of a new cart. -/
theorem addItem_accepts (cents : arith.Cents) {p : AddedToCartPayload} {eventId : UUID}
    (customer : (db.customers.get? p.customerId).isSome)
    (session : (db.sessions.get? p.sessionId).isSome) (absent : db.carts.get? p.cartId = none)
    (empty : ∀ key item, db.cartItems.get? key = some item → key.1 ≠ p.cartId)
    (price : IsAmount p.unitPrice)
    (line : IsAmount (p.unitPrice.mul (.ofNat p.quantity)))
    (some_ : 0 < p.quantity) (few : p.quantity ≤ 1000) :
    alone (D := database arith) (addItem arith p eventId) db [] =
      .ok ([(.carts, 1), (.cartItems, 1)],
        [.carts p.cartId (newCart p eventId), .cartItems (p.cartId, p.productId) (newLine p),
          .carts p.cartId (newCart p eventId)]) := by
  have fresh : db.cartItems.get? (p.cartId, p.productId) = none := by
    cases found : db.cartItems.get? (p.cartId, p.productId) with
    | none => rfl
    | some item => exact absurd rfl (empty _ _ found)
  refine (required_alone customer session).trans ?_
  rw [cents.line price line, compute_ok_bind]
  -- The cart is inserted.
  have one : (Stmt.upsertCart p.cartId (newCart p eventId)).answer db = (1 : Nat) := by
    simp only [Stmt.answer, absent]
    rfl
  have inserts : (Stmt.upsertCart p.cartId (newCart p eventId)).writes arith db =
      [.carts p.cartId (newCart p eventId)] := by
    simp only [Stmt.writes, absent, newCart, cents.stored line, cents.stored_zero]
  refine (alone_answered ?_ one inserts).trans ?_
  · simp only [Stmt.constraints, List.forall_mem_append]
    exact ⟨⟨⟨⟨int4_small few, cents.nonnegative line⟩, cents.nonnegative_zero⟩,
      cents.nonnegative line⟩, ifAdded_passed (passed_two customer session)⟩
  rw [if_neg Nat.one_ne_zero]
  -- The line is inserted, and refers to the cart.
  have lines : (Stmt.upsertCartItem p.cartId p.productId (newLine p)).writes arith
      (db.apply (.carts p.cartId (newCart p eventId))) =
      [.cartItems (p.cartId, p.productId) (newLine p)] := by
    simp only [Stmt.writes, newLine, cents.stored price, cents.stored line]
  refine (alone_answered ?_ rfl lines).trans ?_
  · simp only [Stmt.constraints, List.forall_mem_append]
    refine ⟨⟨⟨⟨int4_small few, ?_⟩, cents.nonnegative price⟩, cents.nonnegative line⟩, ?_⟩
    · simpa [Stmt.check] using some_
    · simp [Stmt.references, Schema.view, Db.apply]
  -- It is the only one, so the totals stay as they are.
  have only : Db.linesOf ((db.apply (.carts p.cartId (newCart p eventId))).apply
      (.cartItems (p.cartId, p.productId) (newLine p))) p.cartId = [newLine p] := by
    have none_ : db.cartItems.entries.filter (fun e => e.1.1 = p.cartId) = [] := by
      rw [List.filter_eq_nil_iff]
      intro e mem same
      exact empty e.1 e.2 (Dict.mem_entries.mp mem) (of_decide_eq_true same)
    simp only [Db.linesOf, Db.apply, Dict.entries_set_new fresh, List.filter_append, none_]
    simp
  obtain ⟨passed, refreshes⟩ := refreshCart_single cents line few only
    (Dict.get?_set_self db.carts p.cartId (newCart p eventId))
  exact (alone_answered passed rfl refreshes).trans rfl

/-- A line for a cart that is there, but of another customer or another session. -/
theorem addItem_conflict (cents : arith.Cents) {p : AddedToCartPayload} {eventId : UUID}
    {old : Cart} (customer : (db.customers.get? p.customerId).isSome)
    (session : (db.sessions.get? p.sessionId).isSome) (found : db.carts.get? p.cartId = some old)
    (other : ¬ (old.customerId = p.customerId ∧ old.sessionId = p.sessionId))
    (price : IsAmount p.unitPrice)
    (line : IsAmount (p.unitPrice.mul (.ofNat p.quantity)))
    (few : p.quantity ≤ 1000) :
    alone (D := database arith) (addItem arith p eventId) db [] =
      .error (.inr (.raised .permanentDatabaseIntegrityError "cart identity conflict")) := by
  have differs : ¬ (old.customerId = p.customerId ∧ old.sessionId = p.sessionId ∧
      old.currency = p.currency) := fun same => other ⟨same.1, same.2.1⟩
  refine (required_alone customer session).trans ?_
  rw [cents.line price line, compute_ok_bind]
  have none_ : (Stmt.upsertCart p.cartId (newCart p eventId)).answer db = (0 : Nat) := by
    simp only [Stmt.answer, found, newCart, differs]
    rfl
  refine (alone_answered ?_ none_ rfl).trans ?_
  · simp only [Stmt.constraints, List.forall_mem_append]
    exact ⟨⟨⟨⟨int4_small few, cents.nonnegative line⟩, cents.nonnegative_zero⟩,
      cents.nonnegative line⟩, ifAdded_passed (passed_two customer session)⟩
  rw [if_pos rfl]
  rfl

theorem checkout_accepts (cents : arith.Cents) {p : CheckoutStartedPayload} {eventId : UUID}
    {cart : Cart} (found : db.carts.get? p.cartId = some cart)
    (same : cart.customerId = p.customerId ∧ cart.sessionId = p.sessionId ∧
      cart.subtotal = p.subtotal.value ∧ cart.currency = p.currency ∧ cart.itemCount = p.itemCount)
    (discount : IsAmount p.discountAmount) (total : IsAmount p.totalAmount) :
    alone (D := database arith) (checkout p eventId) db [] =
      .ok (1, [.carts p.cartId { cart with
        status := .checkoutStarted
        discount := p.discountAmount.value
        total := p.totalAmount.value
        latestEventId := eventId }]) := by
  refine (alone_query rfl _).trans ?_
  have row : (Stmt.lockCart p.cartId).answer ((database arith).view db []) = some cart := found
  rw [row]
  obtain ⟨customer, session, subtotal, currency, items⟩ := same
  have agrees : ¬ (cart.customerId ≠ p.customerId ∨ cart.sessionId ≠ p.sessionId ∨
      cart.subtotal ≠ p.subtotal.value ∨ cart.currency ≠ p.currency ∨
      cart.itemCount ≠ p.itemCount) := by
    simp [customer, session, subtotal, currency, items]
  have one : (Stmt.checkoutCart p.cartId p.discountAmount.value p.totalAmount.value eventId).answer
      db = (1 : Nat) := by
    simp only [Stmt.answer, found]
    rfl
  have writes : (Stmt.checkoutCart p.cartId p.discountAmount.value p.totalAmount.value
      eventId).writes arith db = [.carts p.cartId { cart with
        status := .checkoutStarted
        discount := p.discountAmount.value
        total := p.totalAmount.value
        latestEventId := eventId }] := by
    simp only [Stmt.writes, found, cents.stored discount, cents.stored total]
    rfl
  refine (congrArg (alone (D := database arith) · db []) (if_neg agrees)).trans ?_
  refine (alone_answered ?_ one writes).trans rfl
  simp only [Stmt.constraints, List.forall_mem_append]
  exact ⟨cents.nonnegative discount, cents.nonnegative total⟩

/-- The order as it is inserted. -/
def newOrder (p : OrderCreatedPayload) (eventId : UUID) : Order :=
  { customerId := p.customerId
    sessionId := p.sessionId
    cartId := p.cartId
    status := .created
    subtotal := p.subtotal.value
    discount := p.discountAmount.value
    total := p.totalAmount.value
    currency := p.currency
    itemCount := p.itemCount
    shippingCountry := p.shippingCountryCode
    billingCountry := p.billingCountryCode
    createdEventId := eventId
    latestEventId := eventId
    orderedAt := p.createdAt }

theorem insertOrder_accepts (cents : arith.Cents) {p : OrderCreatedPayload} {eventId : UUID}
    {cart : Cart} (found : db.carts.get? p.cartId = some cart)
    (same : cart.customerId = p.customerId ∧ cart.sessionId = p.sessionId ∧
      cart.subtotal = p.subtotal.value ∧ cart.discount = p.discountAmount.value ∧
      cart.total = p.totalAmount.value ∧ cart.currency = p.currency ∧ cart.itemCount = p.itemCount)
    (absent : db.orders.get? p.orderId = none)
    (customer : (db.customers.get? p.customerId).isSome)
    (session : (db.sessions.get? p.sessionId).isSome)
    (subtotal : IsAmount p.subtotal) (discount : IsAmount p.discountAmount)
    (total : IsAmount p.totalAmount) (some_ : 0 < p.itemCount)
    (few : p.itemCount ≤ 1000) :
    alone (D := database arith) (insertOrder p eventId) db [] =
      .ok ([(.orders, 1), (.carts, 1)], [.orders p.orderId (newOrder p eventId),
        .carts p.cartId { cart with status := .ordered, latestEventId := eventId }]) := by
  refine (alone_query rfl _).trans ?_
  have row : (Stmt.lockCart p.cartId).answer ((database arith).view db []) = some cart := found
  rw [row]
  have agrees : ¬ (cart.customerId ≠ p.customerId ∨ cart.sessionId ≠ p.sessionId ∨
      cart.subtotal ≠ p.subtotal.value ∨ cart.discount ≠ p.discountAmount.value ∨
      cart.total ≠ p.totalAmount.value ∨ cart.currency ≠ p.currency ∨
      cart.itemCount ≠ p.itemCount) := by
    obtain ⟨sameCustomer, sameSession, sameSubtotal, sameDiscount, sameTotal, sameCurrency,
      sameCount⟩ := same
    simp [sameCustomer, sameSession, sameSubtotal, sameDiscount, sameTotal, sameCurrency, sameCount]
  have one : (Stmt.insertOrder p.orderId (newOrder p eventId)).answer db = (1 : Nat) := by
    simp only [Stmt.answer, absent]
    rfl
  have inserts : (Stmt.insertOrder p.orderId (newOrder p eventId)).writes arith db =
      [.orders p.orderId (newOrder p eventId)] := by
    simp only [Stmt.writes, absent, newOrder, cents.stored subtotal, cents.stored discount,
      cents.stored total]
    rfl
  refine (congrArg (alone (D := database arith) · db []) (if_neg agrees)).trans ?_
  refine (alone_answered ?_ one inserts).trans ?_
  · have positive : ∀ x ∈ Stmt.check (0 < p.itemCount), x.1 = true := by
      simpa [Stmt.check] using some_
    have present : (db.carts.get? p.cartId).isSome = true := by
      rw [found]
      rfl
    simp only [Stmt.constraints, List.forall_mem_append]
    refine ⟨⟨⟨⟨⟨int4_small few, cents.nonnegative subtotal⟩, cents.nonnegative discount⟩,
      cents.nonnegative total⟩, positive⟩, ifAdded_passed ?_⟩
    rw [List.forall_mem_append]
    exact ⟨passed_two customer session, List.forall_mem_singleton.mpr present⟩
  rw [if_neg Nat.one_ne_zero]
  have writes : (Stmt.orderCart p.cartId eventId).writes arith
      (db.apply (.orders p.orderId (newOrder p eventId))) =
      [.carts p.cartId { cart with status := .ordered, latestEventId := eventId }] := by
    have unchanged : (db.apply (.orders p.orderId (newOrder p eventId))).carts = db.carts := rfl
    simp only [Stmt.writes, unchanged, found]
    rfl
  exact (alone_answered (by simp [Stmt.constraints]) rfl writes).trans rfl

/-- A payment for what the order costs. -/
theorem insertPayment_accepts (cents : arith.Cents) {paymentId : UUID} {row : Payment}
    {order : Order} {amount : Decimal} (found : db.orders.get? row.orderId = some order)
    (same : order.customerId = row.customerId ∧ order.total = row.amount ∧
      order.currency = row.currency)
    (absent : db.payments.get? paymentId = none)
    (unpaid : ∀ id other, db.payments.get? id = some other → other.eventId ≠ row.eventId)
    (customer : (db.customers.get? row.customerId).isSome)
    (asked : row.amount = amount.value) (whole : IsAmount amount)
    (positive : 0 < amount.value) :
    ∃ counts, alone (D := database arith) (insertPayment paymentId row) db [] =
      .ok (counts, .payments paymentId row :: if row.status = .completed then
        [.orders row.orderId { order with status := .paid, latestEventId := row.eventId }]
        else []) := by
  have start : alone (D := database arith) (insertPayment paymentId row) db [] = _ :=
    alone_query rfl _
  rw [start]
  have locked : (Stmt.lockOrder row.orderId).answer ((database arith).view db []) = some order :=
    found
  rw [locked]
  have agrees : ¬ (order.customerId ≠ row.customerId ∨ order.total ≠ row.amount ∨
      order.currency ≠ row.currency) := by
    simp [same.1, same.2.1, same.2.2]
  have one : (Stmt.insertPayment paymentId row).answer db = (1 : Nat) := by
    simp only [Stmt.answer, absent]
    rfl
  have inserts : (Stmt.insertPayment paymentId row).writes arith db =
      [.payments paymentId row] := by
    simp only [Stmt.writes, absent, asked, cents.stored whole]
    rw [← asked]
    rfl
  have passed : ∀ x ∈ (Stmt.insertPayment paymentId row).constraints arith db, x.1 = true := by
    have present : (db.orders.get? row.orderId).isSome = true := by
      rw [found]
      rfl
    have free : db.payments.values.all (·.eventId ≠ row.eventId) = true := by
      rw [List.all_eq_true]
      intro other mem
      obtain ⟨id, there⟩ := Dict.mem_values.mp mem
      exact decide_eq_true (unpaid id other there)
    simp only [Stmt.constraints, List.forall_mem_append]
    refine ⟨asked ▸ cents.positive whole positive, ifAdded_passed ?_⟩
    rw [List.forall_mem_append]
    exact ⟨passed_two free present, List.forall_mem_singleton.mpr customer⟩
  refine ⟨[(.payments, 1), (.orders, if row.status = .completed then 1 else 0)], ?_⟩
  refine (congrArg (alone (D := database arith) · db []) (if_neg agrees)).trans ?_
  refine (alone_answered passed one inserts).trans ?_
  rw [if_neg Nat.one_ne_zero]
  by_cases completed : row.status = .completed
  · have unchanged : (db.apply (.payments paymentId row)).orders = db.orders := rfl
    have counted : (Stmt.updateOrder row.orderId .paid row.eventId).answer
        (db.apply (.payments paymentId row)) = (1 : Nat) := by
      simp only [Stmt.answer, unchanged, found]
      rfl
    have writes : (Stmt.updateOrder row.orderId .paid row.eventId).writes arith
        (db.apply (.payments paymentId row)) =
        [.orders row.orderId { order with status := .paid, latestEventId := row.eventId }] := by
      simp only [Stmt.writes, unchanged, found]
      rfl
    simp only [if_pos completed]
    exact (alone_answered (by simp [Stmt.constraints]) counted writes).trans rfl
  · simp only [if_neg completed]
    rfl

/-- The rows of a refund that is covered, of a payment without any yet. -/
theorem recordRefund_accepts (cents : arith.Cents) {p : RefundRequestedPayload} {eventId : UUID}
    {payment : Payment} {order : Order} {paymentStatus : PaymentStatus}
    (found : db.payments.get? p.paymentId = some payment)
    (ordered : db.orders.get? p.orderId = some order)
    (absent : db.refunds.get? p.refundId = none)
    (unused : ∀ id row, db.refunds.get? id = some row → row.eventId ≠ eventId)
    (customer : (db.customers.get? p.customerId).isSome) (whole : IsAmount p.amount)
    (positive : 0 < p.amount.value) (covered : p.amount.value ≤ payment.amount)
    (status : paymentStatus =
      if p.amount.value = payment.amount then .refunded else .partiallyRefunded) :
    alone (D := database arith) (recordRefund arith p eventId payment.amount 0) db [] =
      .ok ([(.refunds, 1), (.payments, 1), (.orders, 1)],
        [.refunds p.refundId (refundRow p eventId),
          .payments p.paymentId { payment with status := paymentStatus },
          .orders p.orderId { order with
            status := paymentStatus.ofOrder, latestEventId := eventId }]) := by
  unfold recordRefund
  rw [cents.added whole, compute_ok_bind, if_neg (not_lt.mpr covered)]
  have one : (Stmt.insertRefund p.refundId (refundRow p eventId)).answer db = (1 : Nat) := by
    simp only [Stmt.answer, absent]
    rfl
  have inserts : (Stmt.insertRefund p.refundId (refundRow p eventId)).writes arith db =
      [.refunds p.refundId (refundRow p eventId)] := by
    simp only [Stmt.writes, absent, refundRow, cents.stored whole]
    rfl
  refine (alone_answered ?_ one inserts).trans ?_
  · have present : (db.payments.get? p.paymentId).isSome = true := by
      rw [found]
      rfl
    have there : (db.orders.get? p.orderId).isSome = true := by
      rw [ordered]
      rfl
    have free : db.refunds.values.all (·.eventId ≠ eventId) = true := by
      rw [List.all_eq_true]
      intro other mem
      obtain ⟨id, at_⟩ := Dict.mem_values.mp mem
      exact decide_eq_true (unused id other at_)
    have passed : ∀ x ∈ (Stmt.insertRefund p.refundId (refundRow p eventId)).constraints arith db,
        x.1 = true := by
      simp only [Stmt.constraints, List.forall_mem_append]
      refine ⟨cents.positive whole positive, ifAdded_passed ?_⟩
      rw [List.forall_mem_append, List.forall_mem_append]
      exact ⟨⟨passed_two free present, List.forall_mem_singleton.mpr there⟩,
        List.forall_mem_singleton.mpr customer⟩
    exact passed
  rw [if_neg Nat.one_ne_zero, compute_ok_bind]
  subst status
  generalize (if p.amount.value = payment.amount then PaymentStatus.refunded
    else .partiallyRefunded) = paymentStatus
  have pays : (Stmt.updatePayment p.paymentId paymentStatus).writes arith
      (db.apply (.refunds p.refundId (refundRow p eventId))) =
      [.payments p.paymentId { payment with status := paymentStatus }] := by
    have unchanged :
        (db.apply (.refunds p.refundId (refundRow p eventId))).payments = db.payments := rfl
    simp only [Stmt.writes, unchanged, found]
    rfl
  have orders : (Stmt.updateOrder p.orderId paymentStatus.ofOrder eventId).writes arith
      ((db.apply (.refunds p.refundId (refundRow p eventId))).apply
        (.payments p.paymentId { payment with status := paymentStatus })) =
      [.orders p.orderId { order with
        status := paymentStatus.ofOrder, latestEventId := eventId }] := by
    have unchanged : ((db.apply (.refunds p.refundId (refundRow p eventId))).apply
        (.payments p.paymentId { payment with status := paymentStatus })).orders = db.orders := rfl
    simp only [Stmt.writes, unchanged, ordered]
    rfl
  refine (alone_answered (by simp [Stmt.constraints]) rfl pays).trans ?_
  exact (alone_answered (by simp [Stmt.constraints]) rfl orders).trans rfl

/-- The first refund of a payment. -/
theorem insertRefund_accepts (cents : arith.Cents) {p : RefundRequestedPayload} {eventId : UUID}
    {payment : Payment} {order : Order} (found : db.payments.get? p.paymentId = some payment)
    (completed : payment.status = .completed)
    (same : payment.orderId = p.orderId ∧ payment.customerId = p.customerId ∧
      payment.currency = p.currency)
    (ordered : db.orders.get? p.orderId = some order)
    (none_ : ∀ id row, db.refunds.get? id = some row → row.paymentId ≠ p.paymentId)
    (absent : db.refunds.get? p.refundId = none)
    (unused : ∀ id row, db.refunds.get? id = some row → row.eventId ≠ eventId)
    (customer : (db.customers.get? p.customerId).isSome) (whole : IsAmount p.amount)
    (positive : 0 < p.amount.value) (covered : p.amount.value ≤ payment.amount) :
    ∃ counts, ∃ paymentStatus orderStatus,
      alone (D := database arith) (insertRefund arith p eventId) db [] =
        .ok (counts, [.refunds p.refundId (refundRow p eventId),
          .payments p.paymentId { payment with status := paymentStatus },
          .orders p.orderId { order with status := orderStatus, latestEventId := eventId }]) := by
  let paymentStatus : PaymentStatus :=
    if p.amount.value = payment.amount then .refunded else .partiallyRefunded
  refine ⟨[(.refunds, 1), (.payments, 1), (.orders, 1)], paymentStatus, paymentStatus.ofOrder, ?_⟩
  have start : alone (D := database arith) (insertRefund arith p eventId) db [] = _ :=
    alone_query rfl _
  rw [start]
  have locked : (Stmt.lockPayment p.paymentId).answer ((database arith).view db []) =
      some payment := found
  rw [locked]
  have successful : ¬ (payment.status ≠ .completed ∧ payment.status ≠ .partiallyRefunded ∧
      payment.status ≠ .refunded) := fun failed => failed.1 completed
  have agrees : ¬ (payment.orderId ≠ p.orderId ∨ payment.customerId ≠ p.customerId ∨
      payment.currency ≠ p.currency) := by
    simp [same.1, same.2.1, same.2.2]
  refine (congrArg (alone (D := database arith) · db []) (if_neg successful)).trans ?_
  refine (congrArg (alone (D := database arith) · db []) (if_neg agrees)).trans ?_
  -- Nothing has been refunded yet.
  have zero : db.refunded p.paymentId = 0 := by
    have empty : db.refundsOf p.paymentId = [] := by
      rw [Db.refundsOf, List.filter_eq_nil_iff]
      intro row mem refers
      obtain ⟨id, there⟩ := Dict.mem_values.mp mem
      exact none_ id row there (of_decide_eq_true refers)
    rw [Db.refunded, empty]
    rfl
  have summed : (Stmt.sumRefunds p.paymentId).answer ((database arith).view db []) = (0 : Rat) :=
    zero
  refine (alone_query rfl _).trans ?_
  rw [summed]
  exact recordRefund_accepts cents found ordered absent unused customer whole positive covered rfl

end

end CommercePlatform.Persistence
