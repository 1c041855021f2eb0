import CommercePlatform.Persistence.CartSafety

/-!
The conversion of carts to orders.

`Converted` is what the schema's documentation says of carts and their orders: a cart
converts to at most one order and then agrees with it. The three handlers compare
totals and identities but not the status of the cart, so a later event of a cart that
has been ordered breaks it (`not_orders_converted`). As long as none is committed,
it holds in every committed state of every interleaving (`orders_converted`).
-/

namespace CommercePlatform.Persistence

open Contract Fraud Schema

/-- An order and the row of its cart. -/
structure Order.Of (order : Order) (cart : Cart) : Prop where
  status : cart.status = .ordered
  subtotal : cart.subtotal = order.subtotal
  discount : cart.discount = order.discount
  total : cart.total = order.total
  itemCount : cart.itemCount = order.itemCount

/-- A cart converts to at most one order, and agrees with it. -/
structure Converted (db : Db) : Prop where
  once : ∀ id id' order order', db.orders.get? id = some order → db.orders.get? id' = some order' →
    order.cartId = order'.cartId → id = id'
  agrees : ∀ id order, db.orders.get? id = some order →
    ∃ cart, db.carts.get? order.cartId = some cart ∧ order.Of cart

/-- Some order refers to the cart. -/
def Db.ordered (db : Db) (cartId : UUID) : Bool := db.orders.values.any (·.cartId = cartId)

theorem not_ordered {db : Db} {cartId : UUID} (free : db.ordered cartId = false) {id : UUID}
    {order : Order} (found : db.orders.get? id = some order) : order.cartId ≠ cartId := by
  have all := List.any_eq_false.mp free order (Dict.mem_values.mpr ⟨id, found⟩)
  simpa using all

/-- The cart that an event changes. -/
def changedCart : Payload → Option UUID
  | .addedToCart p => some p.cartId
  | .checkoutStarted p => some p.cartId
  | .orderCreated p => some p.cartId
  | _ => none

/-- The event changes no cart that has been ordered. -/
def sparesOrdered (db : Db) (payload : Payload) : Bool :=
  (changedCart payload).all fun cartId => !db.ordered cartId

/-- What `NUMERIC(38, 18)` stores, it stores again unchanged. -/
def Arithmetic.Stable (arith : Arithmetic) : Prop :=
  ∀ value column, arith.numeric value = some column → arith.numeric column = some column

/-- The value of a money column. -/
def Arithmetic.Column (arith : Arithmetic) (value : Rat) : Prop := arith.numeric value = some value

section

variable {arith : Arithmetic}

theorem Arithmetic.Column.stored {value : Rat} (column : arith.Column value) :
    arith.stored value = value := by
  rw [Arithmetic.stored, show arith.numeric value = some value from column, Option.getD_some]

theorem Arithmetic.Stable.column (stable : arith.Stable) {value : Rat}
    (storable : arith.storable value = true) : arith.Column (arith.stored value) := by
  obtain ⟨column, stores⟩ := Option.isSome_iff_exists.mp storable
  rw [Arithmetic.stored, stores, Option.getD_some]
  exact stable value column stores

/-- The money columns of a cart. -/
structure Cart.Columns (arith : Arithmetic) (cart : Cart) : Prop where
  subtotal : arith.Column cart.subtotal
  discount : arith.Column cart.discount
  total : arith.Column cart.total

theorem Stmt.nonnegative_column (stable : arith.Stable) {value : Rat}
    (passed : ∀ x ∈ Stmt.nonnegative arith value, x.1 = true) :
    arith.Column (arith.stored value) :=
  stable.column (passed (arith.storable value, _) List.mem_cons_self)

end

/-! ### Updates -/

section

variable {db db' : Db} (h : Converted db) {id : UUID}

include h

/-- A cart that has not been ordered may change. -/
theorem Converted.changeCart (id : UUID) (free : db.ordered id = false)
    (carts : ∀ key, key ≠ id → db'.carts.get? key = db.carts.get? key)
    (orders : db'.orders = db.orders) : Converted db' := by
  refine ⟨fun key key' order order' found found' => ?_, fun key order found => ?_⟩
  · exact h.once key key' order order' (orders ▸ found) (orders ▸ found')
  · rw [orders] at found
    rw [carts _ (not_ordered free found)]
    exact h.agrees key order found

/-- A cart that has not been ordered may be. -/
theorem Converted.convert {order : Order} {cart : Cart} (free : db.ordered order.cartId = false)
    (of : order.Of cart) (orders : db'.orders = db.orders.set id order)
    (carts : db'.carts = db.carts.set order.cartId cart) : Converted db' := by
  refine ⟨fun key key' row row' found found' same => ?_, fun key row found => ?_⟩
  · rw [orders, Dict.get?_set] at found found'
    split at found <;> split at found'
    · rename_i eq eq'
      exact eq.trans eq'.symm
    · cases found
      exact absurd same.symm (not_ordered free found')
    · cases found'
      exact absurd same (not_ordered free found)
    · exact h.once key key' row row' found found' same
  · rw [orders, Dict.get?_set] at found
    rw [carts]
    split at found
    · cases found
      exact ⟨cart, Dict.get?_set_self _ _ _, of⟩
    · rw [Dict.get?_set_ne _ _ (not_ordered free found)]
      exact h.agrees key row found

/-- The status of an order may change. -/
theorem Converted.updateOrder {old order : Order} (present : db.orders.get? id = some old)
    (cartId : order.cartId = old.cartId) (of : ∀ cart, old.Of cart → order.Of cart)
    (orders : db'.orders = db.orders.set id order) (carts : db'.carts = db.carts) :
    Converted db' := by
  have before : ∀ key row, db'.orders.get? key = some row →
      ∃ row', db.orders.get? key = some row' ∧ row.cartId = row'.cartId ∧
        ∀ cart, row'.Of cart → row.Of cart := by
    intro key row found
    rw [orders, Dict.get?_set] at found
    split at found
    · rename_i eq
      cases found
      exact ⟨old, eq ▸ present, cartId, of⟩
    · exact ⟨row, found, rfl, fun _ of => of⟩
  refine ⟨fun key key' row row' found found' same => ?_, fun key row found => ?_⟩
  · obtain ⟨old₁, found₁, same₁, -⟩ := before key row found
    obtain ⟨old₂, found₂, same₂, -⟩ := before key' row' found'
    exact h.once key key' old₁ old₂ found₁ found₂ (by rw [← same₁, ← same₂, same])
  · obtain ⟨old₁, found₁, same₁, of₁⟩ := before key row found
    obtain ⟨cart, present, agrees⟩ := h.agrees key old₁ found₁
    rw [carts, same₁]
    exact ⟨cart, present, of₁ cart agrees⟩

theorem Converted.congr (orders : db'.orders = db.orders) (carts : db'.carts = db.carts) :
    Converted db' := by
  refine ⟨fun key key' order order' found found' => ?_, fun key order found => ?_⟩
  · exact h.once key key' order order' (orders ▸ found) (orders ▸ found')
  · rw [carts]
    exact h.agrees key order (orders ▸ found)

end

/-! ### What the locks guard -/

def conversionTables (t : Table) : Bool := t = .carts ∨ t = .orders

/-- A locked cart or order keeps its row. -/
def conversionAgree : Lock → Db → Db → Prop
  | .row .carts id, db, db' => db'.carts.get? id = db.carts.get? id
  | .row .orders id, db, db' => db'.orders.get? id = db.orders.get? id
  | _, _, _ => True

theorem conversionAgree_of {db db' : Db} {l : Lock}
    (carts : ∀ id, l = .row .carts id → db'.carts.get? id = db.carts.get? id)
    (orders : ∀ id, l = .row .orders id → db'.orders.get? id = db.orders.get? id) :
    conversionAgree l db db' := by
  unfold conversionAgree
  split
  · exact carts _ rfl
  · exact orders _ rfl
  · trivial

theorem conversionAgree_guard (arith : Arithmetic) :
    IsGuard (D := database arith) conversionAgree where
  refl l db := conversionAgree_of (fun _ _ => rfl) fun _ _ => rfl
  trans l db db' db'' first next := by
    unfold conversionAgree at *
    split
    · exact next.trans first
    · exact next.trans first
    · trivial

/-! ### The invariant -/

section

variable {arith : Arithmetic} {start : Db}

/-- The database after the transactions of a history, last first. -/
def replay (arith : Arithmetic) (start : Db) : List (PersistCall × List Write) → Db
  | [] => start
  | (_, ws) :: history => (database arith).view (replay arith start history) ws

/-- No event of the history changed a cart that had been ordered before. -/
def SparesOrdered (arith : Arithmetic) (start : Db) : List (PersistCall × List Write) → Prop
  | [] => True
  | (call, _) :: history =>
    SparesOrdered arith start history ∧
      sparesOrdered (replay arith start history) call.event.payload = true

/-- The money columns of the carts. -/
def CartColumns (arith : Arithmetic) (db : Db) : Prop :=
  ∀ id cart, db.carts.get? id = some cart → cart.Columns arith

structure Converting (arith : Arithmetic) (start : Db)
    (c : (database arith).Committed PersistCall) : Prop where
  replayed : c.db = replay arith start c.history
  columns : CartColumns arith c.db
  converted : Converted start → SparesOrdered arith start c.history → Converted c.db

abbrev KnowsOrders (arith : Arithmetic) (start : Db) (rel : List Write) (need : List Lock)
    (P : Db → Prop) : Assn (database arith) PersistCall :=
  Holds (D := database arith) (Converting arith start) (touches conversionTables) rel need P

abbrev OrdersSettled (arith : Arithmetic) (start : Db) (call : PersistCall) :
    Assn (database arith) PersistCall :=
  Settled (D := database arith) (Converting arith start) conversionAgree
    (touches conversionTables) call

abbrev ordersWp {α : Type} (start : Db) (p : Sql α) (Q : α → Assn (database arith) PersistCall) :
    Assn (database arith) PersistCall :=
  wp (D := database arith) (Converting arith start) conversionAgree p Q

theorem conversion_seen (db : Db) {ws rel : List Write}
    (only : ws.filter (touches conversionTables) = rel) :
    ((database arith).view db ws).carts = ((database arith).view db rel).carts ∧
      ((database arith).view db ws).orders = ((database arith).view db rel).orders := by
  have same := only ▸ @restrict_view_filter arith conversionTables db ws
  constructor
  · simpa [Db.restrict, conversionTables] using congrArg Db.carts same
  · simpa [Db.restrict, conversionTables] using congrArg Db.orders same

variable {call : PersistCall} {c : (database arith).Committed PersistCall} {ws : List Write}
  {ls : List Lock}

/-- Writes that keep the columns, and the conversion where it is spared, may be
committed. -/
theorem ordersSettled_of (rel : List Write) {need : List Lock} {P : Db → Prop}
    (guards : Guards (D := database arith) conversionAgree need P)
    (h : KnowsOrders arith start rel need P c ws ls)
    (keep : ∀ db db', CartColumns arith db → P db →
      db'.carts = ((database arith).view db rel).carts →
      db'.orders = ((database arith).view db rel).orders →
      CartColumns arith db' ∧
      (sparesOrdered db call.event.payload = true → Converted db → Converted db') ∧
      ∀ l, l ∉ need → conversionAgree l db db') :
    OrdersSettled arith start call c ws ls := by
  refine ⟨rel, need, P, guards, h, fun c' ws' inv known only _ => ?_⟩
  obtain ⟨carts, orders⟩ := @conversion_seen arith c'.db _ _ only
  obtain ⟨columns, converted, agree⟩ := keep c'.db ((database arith).view c'.db ws') inv.columns
    known carts orders
  refine ⟨⟨?_, columns, ?_⟩, agree⟩
  · rw [Committed.commit, inv.replayed, replay]
  · rintro first ⟨before, spares⟩
    rw [← inv.replayed] at spares
    exact converted spares (inv.converted first before)

theorem no_order_guarded : Guards (D := database arith) conversionAgree [] fun _ => True :=
  fun _ _ _ _ => trivial

/-- A transaction that writes neither table may commit. -/
theorem ordersSettled_nil (h : KnowsOrders arith start [] [] (fun _ => True) c ws ls) :
    OrdersSettled arith start call c ws ls := by
  refine ordersSettled_of [] no_order_guarded h fun db db' columns _ carts orders => ?_
  have carts : db'.carts = db.carts := carts
  have orders : db'.orders = db.orders := orders
  refine ⟨by rw [CartColumns, carts]; exact columns, fun _ h => h.congr orders carts, fun l _ => ?_⟩
  exact conversionAgree_of (fun _ _ => by rw [carts]) fun _ _ => by rw [orders]

/-! #### add_item and checkout -/

/-- Rows of one cart. -/
def RowsOf (arith : Arithmetic) (cartId : UUID) (rel : List Write) : Prop :=
  ∀ w ∈ rel, ∃ cart, w = .carts cartId cart ∧ cart.Columns arith

theorem RowsOf.view {cartId : UUID} {rel : List Write} (rows : RowsOf arith cartId rel) {db : Db}
    (columns : CartColumns arith db) :
    ((database arith).view db rel).orders = db.orders ∧
      (∀ key, key ≠ cartId →
        ((database arith).view db rel).carts.get? key = db.carts.get? key) ∧
      CartColumns arith ((database arith).view db rel) := by
  induction rel generalizing db with
  | nil => exact ⟨rfl, fun _ _ => rfl, columns⟩
  | cons w rel ih =>
    obtain ⟨cart, rfl, cartColumns⟩ := rows w List.mem_cons_self
    have next : CartColumns arith (db.apply (.carts cartId cart)) := by
      intro key row found
      simp only [Db.apply, Dict.get?_set] at found
      split at found
      · cases found; exact cartColumns
      · exact columns key row found
    obtain ⟨orders, others, after⟩ := ih (fun w mem => rows w (List.mem_cons_of_mem _ mem)) next
    refine ⟨orders, fun key ne => ?_, after⟩
    refine (others key ne).trans ?_
    simp only [Db.apply, Dict.get?_set_ne _ _ ne]

/-- A transaction that writes one cart under its lock may commit. -/
theorem cartRows_settled {cartId : UUID} {rel : List Write} {P : Db → Prop}
    (ours : changedCart call.event.payload = some cartId) (rows : RowsOf arith cartId rel)
    (guards : Guards (D := database arith) conversionAgree [.row .carts cartId] P)
    (h : KnowsOrders arith start rel [.row .carts cartId] P c ws ls) :
    OrdersSettled arith start call c ws ls := by
  refine ordersSettled_of rel guards h fun db db' columns _ carts orders => ?_
  obtain ⟨sameOrders, others, after⟩ := rows.view columns
  refine ⟨by rw [CartColumns, carts]; exact after, fun spares converted => ?_, fun l free => ?_⟩
  · refine converted.changeCart cartId ?_ (fun key ne => by rw [carts, others key ne])
      (orders.trans sameOrders)
    simpa [sparesOrdered, ours] using spares
  · refine conversionAgree_of (fun key eq => ?_) fun key _ => by rw [orders, sameOrders]
    rw [carts, others key fun same => free (by rw [eq, same]; simp)]

section

variable (stable : arith.Stable)

include stable

theorem upsertCart_rows {cartId : UUID} {row : Cart} {seen : Db}
    (columns : CartColumns arith seen)
    (passed : ∀ x ∈ (Stmt.upsertCart cartId row).constraints arith seen, x.1 = true) :
    RowsOf arith cartId ((Stmt.upsertCart cartId row).writes arith seen) := by
  intro w mem
  cases found : seen.carts.get? cartId with
  | none =>
    simp only [Stmt.writes, found, List.mem_singleton] at mem
    simp only [Stmt.constraints, List.forall_mem_append] at passed
    obtain ⟨⟨⟨⟨-, subtotal⟩, discount⟩, total⟩, -⟩ := passed
    exact ⟨_, mem, Stmt.nonnegative_column stable subtotal, Stmt.nonnegative_column stable discount,
      Stmt.nonnegative_column stable total⟩
  | some old =>
    simp only [Stmt.writes, found] at mem
    split at mem
    · have oldColumns := columns cartId old found
      exact ⟨_, List.mem_singleton.mp mem, oldColumns.subtotal, oldColumns.discount,
        oldColumns.total⟩
    · cases mem

theorem refreshCart_rows {cartId eventId : UUID} {seen : Db} (columns : CartColumns arith seen)
    (passed : ∀ x ∈ (Stmt.refreshCart cartId eventId).constraints arith seen, x.1 = true) :
    RowsOf arith cartId ((Stmt.refreshCart cartId eventId).writes arith seen) := by
  intro w mem
  simp only [Stmt.writes] at mem
  split at mem
  · cases mem
  rename_i some_
  obtain ⟨cart, found, rfl⟩ := Option.map_eq_some_iff.mp (Option.mem_toList.mp mem)
  simp only [Stmt.constraints, found, if_neg some_, List.forall_mem_append] at passed
  obtain ⟨⟨-, subtotal⟩, total⟩ := passed
  exact ⟨_, rfl, Stmt.nonnegative_column stable subtotal, (columns cartId cart found).discount,
    Stmt.nonnegative_column stable total⟩

theorem checkoutCart_rows {cartId eventId : UUID} {discount total : Rat} {seen : Db}
    (columns : CartColumns arith seen)
    (passed : ∀ x ∈ (Stmt.checkoutCart cartId discount total eventId).constraints arith seen,
      x.1 = true) :
    RowsOf arith cartId ((Stmt.checkoutCart cartId discount total eventId).writes arith seen) := by
  intro w mem
  obtain ⟨cart, found, rfl⟩ := Option.map_eq_some_iff.mp (Option.mem_toList.mp mem)
  obtain ⟨discount, total⟩ := List.forall_mem_append.mp passed
  exact ⟨_, rfl, (columns cartId cart found).subtotal, Stmt.nonnegative_column stable discount,
    Stmt.nonnegative_column stable total⟩

end

/-- Writes of one cart are all relevant. -/
theorem RowsOf.filter {cartId : UUID} {rel : List Write} (rows : RowsOf arith cartId rel) :
    rel.filter (touches conversionTables) = rel := by
  refine List.filter_eq_self.mpr fun w mem => ?_
  obtain ⟨cart, rfl, -⟩ := rows w mem
  rfl

theorem RowsOf.append {cartId : UUID} {rel rel' : List Write} (rows : RowsOf arith cartId rel)
    (rows' : RowsOf arith cartId rel') : RowsOf arith cartId (rel ++ rel') :=
  fun w mem => (List.mem_append.mp mem).elim (rows w) (rows' w)

/-- What a transaction that has written one cart sees of the columns. -/
theorem RowsOf.columns {cartId : UUID} {rel : List Write} {need : List Lock} {P : Db → Prop}
    (rows : RowsOf arith cartId rel) (h : KnowsOrders arith start rel need P c ws ls) {seen : Db}
    (view : seen = (database arith).view c.db ws) : CartColumns arith seen := by
  rw [view, CartColumns, (conversion_seen c.db h.rel).1]
  exact (rows.view h.inv.columns).2.2

/-- A statement that writes rows of one cart under its lock. -/
theorem RowsOf.knows {cartId : UUID} {rel : List Write} {need : List Lock} {P : Db → Prop}
    {s : Stmt} {seen : Db} (rows : RowsOf arith cartId (s.writes arith seen))
    (h : KnowsOrders arith start rel need P c ws ls)
    (locked : .row .carts cartId ∈ ls ++ s.locks seen) :
    KnowsOrders arith start (rel ++ s.writes arith seen) [.row .carts cartId] (fun _ => True) c
      (ws ++ s.writes arith seen) (ls ++ s.locks seen) := by
  refine ⟨h.inv, ?_, fun l mem => List.mem_singleton.mp mem ▸ locked, trivial⟩
  rw [List.filter_append, h.rel, rows.filter]

theorem addItem_orders (stable : arith.Stable) {payload : AddedToCartPayload} {eventId : UUID}
    (ours : call.event.payload = .addedToCart payload)
    (h : KnowsOrders arith start [] [] (fun _ => True) c ws ls) :
    ordersWp start (addItem arith payload eventId) (fun _ => OrdersSettled arith start call)
      c ws ls := by
  have guards : Guards (D := database arith) conversionAgree [.row .carts payload.cartId]
      fun _ => True := fun _ _ _ _ => trivial
  have none_ : RowsOf arith payload.cartId [] := fun w mem => by cases mem
  refine wp_then (wp_frame ((requireCustomer_writes _).irrelevant (by simp)) no_order_guarded h)
    fun _ c ws ls h => ?_
  refine wp_then (wp_frame ((requireSession_writes _).irrelevant (by simp)) no_order_guarded h)
    fun _ c ws ls h => ?_
  refine wp_compute fun lineTotal _ => ?_
  refine wp_sql no_order_guarded h fun c h seen view passed count _ => ?_
  split
  · trivial
  have upserted := upsertCart_rows stable (none_.columns h view) passed
  refine wp_sql guards (upserted.knows h (by simp [Stmt.locks])) fun c h seen _ _ _ _ => ?_
  refine wp_sql guards (holds_statement (by simp [Stmt.target, conversionTables]) h seen)
    fun c h seen view passed _ _ => ?_
  have refreshed := refreshCart_rows stable (upserted.columns h view) passed
  exact cartRows_settled (by rw [ours]; rfl) (upserted.append refreshed) guards
    (refreshed.knows h (List.mem_append_left _ (h.need _ (by simp))))

theorem checkout_orders (stable : arith.Stable) {payload : CheckoutStartedPayload} {eventId : UUID}
    (ours : call.event.payload = .checkoutStarted payload)
    (h : KnowsOrders arith start [] [] (fun _ => True) c ws ls) :
    ordersWp start (checkout payload eventId) (fun _ => OrdersSettled arith start call)
      c ws ls := by
  have guards : Guards (D := database arith) conversionAgree [.row .carts payload.cartId]
      fun _ => True := fun _ _ _ _ => trivial
  have none_ : RowsOf arith payload.cartId [] := fun w mem => by cases mem
  refine wp_sql no_order_guarded h fun c h seen view _ fetched answered => ?_
  split
  · trivial
  rename_i row
  refine wp_ite (fun _ => trivial) fun _ => ?_
  have present : seen.carts.get? payload.cartId = some row := answered.symm
  have locked : .row .carts payload.cartId ∈ ls ++ (Stmt.lockCart payload.cartId).locks seen := by
    simp [Stmt.locks, Stmt.lockRow, present]
  refine wp_sql (f := pure) guards (none_.knows h locked) fun c h seen view passed _ _ => ?_
  have rows := checkoutCart_rows stable (none_.columns h view) passed
  exact cartRows_settled (by rw [ours]; rfl) (none_.append rows) guards
    (rows.knows h (List.mem_append_left _ (h.need _ (by simp))))

/-! #### insert -/

/-- The rows of a cart and an order, while both keys are locked. -/
def conversionKnown (cartId orderId : UUID) (cart : Cart) (db : Db) : Prop :=
  db.carts.get? cartId = some cart ∧ db.orders.get? orderId = none

theorem conversionKnown_guarded {cartId orderId : UUID} {cart : Cart} :
    Guards (D := database arith) conversionAgree [.row .carts cartId, .row .orders orderId]
      (conversionKnown cartId orderId cart) := by
  intro db db' same known
  have sameCart : conversionAgree (.row .carts cartId) db db' := same _ (by simp)
  have sameOrder : conversionAgree (.row .orders orderId) db db' := same _ (by simp)
  exact ⟨sameCart.trans known.1, sameOrder.trans known.2⟩

/-- The rows of a new order and its cart may be committed. -/
theorem convert_settled {orderId : UUID} {order : Order} {old cart : Cart}
    (ours : changedCart call.event.payload = some order.cartId) (of : order.Of cart)
    (columns : cart.Columns arith)
    (h : KnowsOrders arith start [.orders orderId order, .carts order.cartId cart]
      [.row .carts order.cartId, .row .orders orderId]
      (conversionKnown order.cartId orderId old) c ws ls) :
    OrdersSettled arith start call c ws ls := by
  refine ordersSettled_of _ conversionKnown_guarded h fun db db' before _ carts orders => ?_
  have orders : db'.orders = db.orders.set orderId order := orders
  have carts : db'.carts = db.carts.set order.cartId cart := carts
  refine ⟨fun key row found => ?_, fun spares converted => ?_, fun l free => ?_⟩
  · rw [carts, Dict.get?_set] at found
    split at found
    · cases found; exact columns
    · exact before key row found
  · refine converted.convert ?_ of orders carts
    simpa [sparesOrdered, ours] using spares
  · simp only [List.mem_cons, List.not_mem_nil, or_false, not_or] at free
    refine conversionAgree_of (fun key eq => ?_) fun key eq => ?_
    · rw [carts, Dict.get?_set_ne _ _ fun same => free.1 (by rw [eq, same])]
    · rw [orders, Dict.get?_set_ne _ _ fun same => free.2 (by rw [eq, same])]

/-- The last statement of `insert`. -/
theorem orderCart_settled {cartId orderId eventId : UUID} {order : Order} {cart : Cart}
    {counts : RowCounts} (ours : changedCart call.event.payload = some order.cartId)
    (of : ∀ eventId, order.Of { cart with status := .ordered, latestEventId := eventId })
    (columns : cart.Columns arith) (same : order.cartId = cartId)
    (h : KnowsOrders arith start [.orders orderId order]
      [.row .carts order.cartId, .row .orders orderId]
      (conversionKnown order.cartId orderId cart) c ws ls) :
    ordersWp start (do
        let _ ← sql (.orderCart cartId eventId)
        return counts)
      (fun _ => OrdersSettled arith start call) c ws ls := by
  refine wp_sql conversionKnown_guarded h fun c h seen view _ _ _ => ?_
  have present : seen.carts.get? order.cartId = some cart := by
    rw [view, (conversion_seen c.db h.rel).1]
    exact h.known.1
  have wrote : (Stmt.orderCart cartId eventId).writes arith seen =
      [.carts order.cartId { cart with status := .ordered, latestEventId := eventId }] := by
    simp [Stmt.writes, ← same, present]
  refine convert_settled ours (of eventId) ⟨columns.subtotal, columns.discount, columns.total⟩
    ⟨h.inv, ?_, fun l mem => List.mem_append_left _ (h.need l mem), h.known⟩
  rw [List.filter_append, h.rel, wrote]
  rfl

/-- An order row that was added agrees with the cart it was compared with. -/
theorem insertOrder_added {orderId : UUID} {row : Order} {cart : Cart} {seen : Db} {count : Nat}
    (columns : cart.Columns arith) (subtotal : cart.subtotal = row.subtotal)
    (discount : cart.discount = row.discount) (total : cart.total = row.total)
    (itemCount : cart.itemCount = row.itemCount)
    (counted : count = (Stmt.insertOrder orderId row).answer seen) (added : count ≠ 0) :
    seen.orders.get? orderId = none ∧
      .row .orders orderId ∈ (Stmt.insertOrder orderId row).locks seen ∧
      ∃ order, (Stmt.insertOrder orderId row).writes arith seen = [.orders orderId order] ∧
        order.cartId = row.cartId ∧
        ∀ eventId, order.Of { cart with status := .ordered, latestEventId := eventId } := by
  subst counted
  have absent : seen.orders.get? orderId = none := Stmt.absent_of_inserted added
  refine ⟨absent, by simp [Stmt.locks, Stmt.addKey, absent], { row with
    subtotal := arith.stored row.subtotal
    discount := arith.stored row.discount
    total := arith.stored row.total }, by simp [Stmt.writes, absent], rfl, fun eventId => ?_⟩
  exact ⟨rfl, by rw [← subtotal, columns.subtotal.stored],
    by rw [← discount, columns.discount.stored], by rw [← total, columns.total.stored], itemCount⟩

theorem insertOrder_orders {payload : OrderCreatedPayload} {eventId : UUID}
    (ours : call.event.payload = .orderCreated payload)
    (h : KnowsOrders arith start [] [] (fun _ => True) c ws ls) :
    ordersWp start (insertOrder payload eventId) (fun _ => OrdersSettled arith start call)
      c ws ls := by
  refine wp_sql no_order_guarded h fun c h seen view _ fetched answered => ?_
  split
  · trivial
  rename_i cart
  refine wp_ite (fun _ => trivial) fun agree => ?_
  push Not at agree
  obtain ⟨-, -, subtotal, discount, total, -, itemCount⟩ := agree
  have present : seen.carts.get? payload.cartId = some cart := answered.symm
  have found : c.db.carts.get? payload.cartId = some cart := by
    rw [← present, view, (conversion_seen c.db h.rel).1]
    rfl
  have columns := h.inv.columns _ _ found
  have locked : KnowsOrders arith start [] [.row .carts payload.cartId]
      (fun db => db.carts.get? payload.cartId = some cart) c
      (ws ++ (Stmt.lockCart payload.cartId).writes arith seen)
      (ls ++ (Stmt.lockCart payload.cartId).locks seen) := by
    have h := holds_statement (s := .lockCart payload.cartId) (by simp [Stmt.target]) h seen
    refine ⟨h.inv, h.rel, fun l mem => List.mem_append_right _ ?_, found⟩
    simpa [Stmt.locks, Stmt.lockRow, present] using mem
  refine wp_sql (fun db db' same known => ?_) locked fun c h seen view passed count counted => ?_
  · have sameCart : conversionAgree (.row .carts payload.cartId) db db' := same _ (by simp)
    exact sameCart.trans known
  split
  · trivial
  rename_i added
  obtain ⟨absent, keyed, order, wrote, cartId, of⟩ :=
    insertOrder_added columns subtotal discount total itemCount counted added
  have cartId : order.cartId = payload.cartId := cartId
  have free : c.db.orders.get? payload.orderId = none := by
    rw [← absent, view, (conversion_seen c.db h.rel).2]
    rfl
  refine orderCart_settled (by rw [ours, cartId]; rfl) of columns cartId
    ⟨h.inv, ?_, ?_, cartId ▸ h.known, free⟩
  · rw [List.filter_append, h.rel, wrote]
    rfl
  · simp only [List.forall_mem_cons]
    exact ⟨List.mem_append_left _ (h.need _ (by simp [cartId])), List.mem_append_right _ keyed,
      by simp⟩

/-! #### Payments and refunds -/

/-- The status of an order may be written at the end of a transaction. -/
theorem updateOrder_settled {orderId eventId : UUID} {status : OrderStatus}
    (f : (Stmt.updateOrder orderId status eventId).Result → Sql RowCounts)
    (returns : ∀ r, ∃ counts, f r = pure counts)
    (h : KnowsOrders arith start [] [] (fun _ => True) c ws ls) :
    ordersWp start (sql (.updateOrder orderId status eventId) >>= f)
      (fun _ => OrdersSettled arith start call) c ws ls := by
  refine wp_sql no_order_guarded h fun c h seen view _ count _ => ?_
  obtain ⟨counts, eq⟩ := returns count
  rw [eq]
  have orders : seen.orders = c.db.orders := view ▸ (conversion_seen c.db h.rel).2
  cases found : c.db.orders.get? orderId with
  | none =>
    exact ordersSettled_nil (h.skip (by simp [Stmt.writes, orders, found]) _)
  | some old =>
    set order : Order := { old with status := status, latestEventId := eventId } with orderEq
    have guards : Guards (D := database arith) conversionAgree [.row .orders orderId]
        fun db => db.orders.get? orderId = some old := by
      intro db db' same known
      have sameOrder : conversionAgree (.row .orders orderId) db db' := same _ (by simp)
      exact sameOrder.trans known
    refine ordersSettled_of [.orders orderId order] guards ⟨h.inv, ?_, ?_, found⟩
      fun db db' columns present carts orders => ?_
    · rw [List.filter_append, h.rel]
      simp only [Stmt.writes, orders, found, Option.map_some, Option.toList_some, orderEq]
      rfl
    · intro l mem
      refine List.mem_append_right _ ?_
      simpa [Stmt.locks, Stmt.lockRow, orders, found] using mem
    · have orders : db'.orders = db.orders.set orderId order := orders
      have carts : db'.carts = db.carts := carts
      refine ⟨by rw [CartColumns, carts]; exact columns, fun _ converted => ?_, fun l free => ?_⟩
      · have cartId : order.cartId = old.cartId := rfl
        refine converted.updateOrder present cartId (fun cart of => ?_) orders carts
        exact ⟨of.status, of.subtotal, of.discount, of.total, of.itemCount⟩
      · refine conversionAgree_of (fun key _ => by rw [carts]) fun key eq => ?_
        rw [orders, Dict.get?_set_ne _ _ fun same => free (by rw [eq, same]; simp)]

theorem insertPayment_orders {paymentId : UUID} {row : Payment}
    (h : KnowsOrders arith start [] [] (fun _ => True) c ws ls) :
    ordersWp start (insertPayment paymentId row) (fun _ => OrdersSettled arith start call)
      c ws ls := by
  refine wp_sql no_order_guarded h fun c h seen _ _ order _ => ?_
  split
  · trivial
  split
  · trivial
  refine wp_sql no_order_guarded (holds_statement (by simp [Stmt.target]) h seen)
    fun c h seen _ _ count _ => ?_
  split
  · trivial
  have h := holds_statement (s := .insertPayment paymentId row)
    (by simp [Stmt.target, conversionTables]) h seen
  split
  · exact updateOrder_settled _ (fun _ => ⟨_, rfl⟩) h
  · exact ordersSettled_nil h

theorem insertRefund_orders {payload : RefundRequestedPayload} {eventId : UUID}
    (h : KnowsOrders arith start [] [] (fun _ => True) c ws ls) :
    ordersWp start (insertRefund arith payload eventId) (fun _ => OrdersSettled arith start call)
      c ws ls := by
  refine wp_sql no_order_guarded h fun c h seen _ _ payment _ => ?_
  split
  · trivial
  refine wp_ite (fun _ => trivial) fun _ => wp_ite (fun _ => trivial) fun _ => ?_
  refine wp_sql no_order_guarded (holds_statement (by simp [Stmt.target]) h seen)
    fun c h seen _ _ refunded _ => ?_
  refine wp_compute fun asked _ => wp_ite (fun _ => trivial) fun _ => ?_
  refine wp_sql no_order_guarded (holds_statement (by simp [Stmt.target]) h seen)
    fun c h seen _ _ count _ => ?_
  split
  · trivial
  refine wp_compute fun newTotal _ => ?_
  refine wp_sql no_order_guarded
    (holds_statement (by simp [Stmt.target, conversionTables]) h seen) fun c h seen _ _ _ _ => ?_
  exact updateOrder_settled _ (fun _ => ⟨_, rfl⟩)
    (holds_statement (by simp [Stmt.target, conversionTables]) h seen)

/-! #### The whole transaction -/

variable (call) in
theorem applyHandler_orders (stable : arith.Stable) (rt : Runtime)
    (h : KnowsOrders arith start [] [] (fun _ => True) c ws ls) :
    ordersWp start (applyHandler rt arith call.event) (fun _ => OrdersSettled arith start call)
      c ws ls := by
  have frame {p : Sql RowCounts} {ts : List Table} (writes : Writes ts p)
      (elsewhere : ∀ t ∈ ts, conversionTables t = false) :
      ordersWp start p (fun _ => OrdersSettled arith start call) c ws ls :=
    wp_settled (writes.irrelevant elsewhere) (ordersSettled_nil h)
  have writes := applyHandler_writes rt arith call.event
  unfold applyHandler at writes ⊢
  unfold EventEnvelope.eventType at writes
  cases payload : call.event.payload with
  | addedToCart p => exact addItem_orders stable payload h
  | checkoutStarted p =>
    exact wp_then (checkout_orders stable payload h) fun _ _ _ _ settled => settled
  | orderCreated p => exact insertOrder_orders payload h
  | paymentCompleted p => exact insertPayment_orders h
  | paymentFailed p => exact insertPayment_orders h
  | refundRequested p => exact insertRefund_orders h
  | _ =>
    rw [payload] at writes
    exact frame writes (by simp [handlerTables, Payload.eventType, conversionTables])

end

/-- Every transaction keeps the invariant. -/
theorem transaction_converting {uow : UnitOfWork} (stable : uow.arith.Stable) {start : Db}
    (call : PersistCall) :
    Keeps (D := database uow.arith) (Converting uow.arith start) conversionAgree uow.transaction
      call := by
  intro c inv
  have weaken : ∀ (_ : PersistenceResult) c ws ls, OrdersSettled uow.arith start call c ws ls →
      CommitSafe (D := database uow.arith) (Converting uow.arith start) conversionAgree call
        c ws ls :=
    fun _ _ _ _ settled => settled.commitSafe
  refine wp_mono ?_ weaken
  unfold UnitOfWork.transaction
  have begins : KnowsOrders uow.arith start [] [] (fun _ => True) c [] [] :=
    ⟨inv, rfl, by simp, trivial⟩
  refine wp_then (wp_frame ((insertIdentity_writes _ _ _ _ _).irrelevant (by decide))
    no_order_guarded begins) fun _ c ws ls h => ?_
  refine wp_then (applyHandler_orders call stable _ h) fun counts c ws ls settled => ?_
  refine wp_ite (fun _ => ?_) fun _ => settled
  exact wp_settled ((fraudStage_writes uow call _).irrelevant (by decide)) settled

/-! ### Every run -/

section

variable {ι : Type} [DecidableEq ι] {uow : UnitOfWork}

theorem run_converting (stable : uow.arith.Stable) {start : Db}
    (columns : CartColumns uow.arith start) {acts : List (ι × Act PersistCall)}
    {st : uow.Sessions ι} (ran : (uow.sessions ι).run (uow.startFrom start) acts = some st) :
    Converting uow.arith start st.committed := by
  have init : Converting uow.arith start ⟨start, []⟩ := ⟨rfl, columns, fun first _ => first⟩
  exact run_inv (conversionAgree_guard _) (fun _ call _ => transaction_converting stable call) init ran

/-- The step commits no added item, checkout or order of a cart that has been ordered. -/
def commitSpares (st : uow.Sessions ι) (a : ι × Act PersistCall) : Bool :=
  match a.2, st.open_.get? a.1 with
  | .commit, some tx => sparesOrdered st.committed.db tx.request.event.payload
  | _, _ => true

/-- A run whose commits spare the ordered carts has a history that does. -/
theorem sparesOrdered_run {start : Db} {acts : List (ι × Act PersistCall)} {st : uow.Sessions ι}
    (met : (uow.sessions ι).Along (fun st a => commitSpares st a = true) (uow.startFrom start) acts)
    (ran : (uow.sessions ι).run (uow.startFrom start) acts = some st) :
    SparesOrdered uow.arith start st.committed.history := by
  let Inv (st : uow.Sessions ι) : Prop :=
    st.committed.db = replay uow.arith start st.committed.history ∧
      SparesOrdered uow.arith start st.committed.history
  have keep : ∀ st a st', Inv st → commitSpares st a = true →
      (uow.sessions ι).step st a = some st' → Inv st' := by
    rintro st ⟨i, a⟩ st' ⟨replayed, spared⟩ spares stepped
    rcases Store.step_committed stepped with same | ⟨rfl, tx, found, after⟩
    · simp only [Inv, same]
      exact ⟨replayed, spared⟩
    · simp only [commitSpares, found] at spares
      simp only [Inv, after]
      exact ⟨by rw [Committed.commit, replayed, replay], spared, replayed ▸ spares⟩
  have init : Inv (uow.startFrom start) := ⟨rfl, trivial⟩
  exact ((uow.sessions ι).invariant_along keep init met ran).2

/-- In every run that commits no event of a cart that has been ordered, a cart converts to
at most one order and agrees with it. -/
theorem orders_converted (stable : uow.arith.Stable) {start : Db}
    (columns : CartColumns uow.arith start) (converted : Converted start)
    {acts : List (ι × Act PersistCall)} {st : uow.Sessions ι}
    (met : (uow.sessions ι).Along (fun st a => commitSpares st a = true) (uow.startFrom start) acts)
    (ran : (uow.sessions ι).run (uow.startFrom start) acts = some st) :
    Converted st.committed.db := by
  exact (run_converting stable columns ran).converted converted (sparesOrdered_run met ran)

end

/-! ### A second order of one cart -/

section

def plainOrder (n orderId : Nat) : PersistCall :=
  plainCall n (.orderCreated
    ⟨.ofNat orderId, .ofNat 1, .ofNat 3, .ofNat 4, 2, { coefficient := 10 }, { coefficient := 0 },
      { coefficient := 10 }, .eur, "TR", "TR", 0⟩)

/-- One session handles the calls one after the other, each with this many statements. -/
def oneByOne (calls : List (PersistCall × Nat)) : List (Nat × Act PersistCall) :=
  calls.flatMap fun call =>
    [(0, .begin call.1)] ++ List.replicate call.2 (0, .statement) ++ [(0, .commit)]

/-- A cart of two items, and an order of it. -/
def oneOrder : List (Nat × Act PersistCall) := oneByOne [(plainAdd 10 1 2 5, 8), (plainOrder 11 2, 6)]

/-- The same cart is ordered once more under another order id. -/
def twoOrders : List (Nat × Act PersistCall) := oneOrder ++ oneByOne [(plainOrder 12 7, 6)]

theorem exact_stable : Arithmetic.exact.Stable := fun _ _ _ => rfl

theorem shopDb_converted : CartColumns .exact shopDb ∧ Converted shopDb :=
  ⟨fun _ _ found => by simp [shopDb] at found, fun _ _ _ _ found => by simp [shopDb] at found,
    fun _ _ found => by simp [shopDb] at found⟩

/-- Two orders refer to one cart. -/
theorem not_orders_converted :
    ¬ ∀ (acts : List (Nat × Act PersistCall)) (st : plainUow.Sessions Nat),
      (plainUow.sessions Nat).run (plainUow.startFrom shopDb) acts = some st →
      Converted st.committed.db := by
  intro safe
  have orders : ((plainUow.sessions Nat).run (plainUow.startFrom shopDb) twoOrders).map
      (fun st => ([.ofNat 2, .ofNat 7] : List UUID).map fun id =>
        (st.committed.db.orders.get? id).map (·.cartId)) =
      some [some (.ofNat 4), some (.ofNat 4)] := by decide +kernel
  obtain ⟨st, ran, found⟩ := Option.map_eq_some_iff.mp orders
  simp only [List.map_cons, List.map_nil, List.cons.injEq, Option.map_eq_some_iff, and_true] at found
  obtain ⟨⟨order, present, cart⟩, ⟨order', present', cart'⟩⟩ := found
  have same := (safe twoOrders st ran).once _ _ order order' present present' (cart.trans cart'.symm)
  exact absurd same (by decide)

/-- Up to its only order the cart is spared. -/
theorem orders_converted_oneOrder :
    ∃ st : plainUow.Sessions Nat,
      (plainUow.sessions Nat).run (plainUow.startFrom shopDb) oneOrder = some st ∧
      Converted st.committed.db ∧ st.committed.db.ordered (.ofNat 4) = true := by
  have ordered : ((plainUow.sessions Nat).run (plainUow.startFrom shopDb) oneOrder).map
      (fun st => st.committed.db.ordered (.ofNat 4)) = some true := by decide +kernel
  obtain ⟨st, ran, ordered⟩ := Option.map_eq_some_iff.mp ordered
  exact ⟨st, ran, orders_converted exact_stable shopDb_converted.1 shopDb_converted.2
    (by decide +kernel) ran, ordered⟩

end

end CommercePlatform.Persistence
