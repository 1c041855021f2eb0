import CommercePlatform.Fraud.Context
import CommercePlatform.Lib.Relational

/-!
The combined lookup of a customer and an order (`FraudContextBuilder._customer_and_order`)
and the two lookups it replaced.

The tables are lists of rows in which every column may be `NULL`, so that what the join
relies on is stated and not built in: the primary keys, and the two `NOT NULL` columns
that tell a row from the `NULL`s of the outer join. `Db.rows` reads the tables of the
model as such lists, and there the query answers what `Stmt.customerAndOrder` does.
-/

namespace CommercePlatform.Fraud

open Contract Persistence Relational

/-! ### The tables -/

/-- The columns of `customers` the lookup reads. -/
structure CustomerRow where
  customerId : Option UUID
  homeCountry : Option String
  deriving DecidableEq

/-- The columns of `orders` the lookup selects. -/
structure OrderTuple where
  orderedAt : Option Instant
  total : Option Rat
  currency : Option Currency
  billingCountry : Option String
  deriving DecidableEq

structure OrderRow extends OrderTuple where
  orderId : Option UUID
  deriving DecidableEq

structure Rows where
  customers : List CustomerRow
  orders : List OrderRow

/-- The constraints of the two tables on these columns. -/
structure Rows.Constrained (rows : Rows) : Prop where
  customerKey : PrimaryKey CustomerRow.customerId rows.customers
  orderKey : PrimaryKey OrderRow.orderId rows.orders
  homeCountry : NotNull CustomerRow.homeCountry rows.customers
  orderedAt : NotNull (fun o : OrderRow => o.orderedAt) rows.orders
  total : NotNull (fun o : OrderRow => o.total) rows.orders
  currency : NotNull (fun o : OrderRow => o.currency) rows.orders
  billingCountry : NotNull (fun o : OrderRow => o.billingCountry) rows.orders

/-! ### The two lookups -/

/-- `str(value)` of a text column. -/
def pyStr (value : Option String) : String := value.getD "None"

def unavailable : PyException :=
  .raised .fraudContextDependencyError "customer fraud context is unavailable"

/-- The five columns of a joined row; those of the order are `NULL` where none matched. -/
def joinedColumns (row : CustomerRow × Option OrderRow) : Option String × OrderTuple :=
  (row.1.homeCountry,
    { orderedAt := row.2.bind (·.orderedAt)
      total := row.2.bind (·.total)
      currency := row.2.bind (·.currency)
      billingCountry := row.2.bind (·.billingCountry) })

/-- The rows of the one query: `orders` is joined on the parameter alone. -/
def customerAndOrderRows (rows : Rows) (customerId : UUID) (orderId : Option UUID) :
    List (Option String × OrderTuple) :=
  ((leftJoin rows.customers rows.orders fun _ o => equals o.orderId orderId).filter
    fun row => equals row.1.customerId (some customerId)).map joinedColumns

/-- `_customer_and_order`. -/
def customerAndOrderOf (rows : Rows) (customerId : UUID) (orderId : Option UUID) :
    Except PyException (String × Option OrderTuple) :=
  match (customerAndOrderRows rows customerId orderId).head? with
  | none => .error unavailable
  | some row => .ok (pyStr row.1, if row.2.orderedAt.isSome then some row.2 else none)

/-- `_legacy_customer_and_order`: the customer first, then the order. -/
def legacyCustomerAndOrder (rows : Rows) (customerId : UUID) (orderId : Option UUID) :
    Except PyException (String × Option OrderTuple) :=
  match (rows.customers.filter fun c => equals c.customerId (some customerId)).head? with
  | none => .error unavailable
  | some customer =>
    .ok (pyStr customer.homeCountry,
      ((rows.orders.filter fun o => equals o.orderId orderId).map (·.toOrderTuple)).head?)

/-! ### Their agreement -/

/-- The order columns of a joined row are those of the order, and all `NULL` without one. -/
theorem joinedColumns_order (customer : CustomerRow) (order : Option OrderRow) :
    (joinedColumns (customer, order)).2 =
      (order.map (·.toOrderTuple)).getD ⟨none, none, none, none⟩ := by
  cases order <;> rfl

/-- The primary key of `orders` makes the join a lookup. -/
theorem customerAndOrderRows_eq {rows : Rows} (keyed : PrimaryKey OrderRow.orderId rows.orders)
    (customerId : UUID) (orderId : Option UUID) :
    customerAndOrderRows rows customerId orderId =
      (rows.customers.filter fun c => equals c.customerId (some customerId)).map fun c =>
        joinedColumns (c, rows.orders.find? fun o => equals o.orderId orderId) := by
  rw [customerAndOrderRows, keyed.unique.leftJoin rows.customers fun _ => orderId,
    List.filter_map, List.map_map]
  rfl

/-- `ordered_at` tells an order from no order: it is `NULL` only where no row matched. -/
theorem order_of_joined {orders : List OrderRow}
    (ordered : NotNull (fun o : OrderRow => o.orderedAt) orders) (customer : CustomerRow)
    (p : OrderRow → Bool) :
    (if (joinedColumns (customer, orders.find? p)).2.orderedAt.isSome
      then some (joinedColumns (customer, orders.find? p)).2 else none) =
      (orders.find? p).map (·.toOrderTuple) := by
  rw [joinedColumns_order]
  cases found : orders.find? p with
  | none => rfl
  | some order =>
    have present : order.orderedAt.isSome = true := ordered order (List.mem_of_find?_eq_some found)
    simp [present]

/-- What both lookups come to under the constraints. -/
def lookedUp (customer : Option CustomerRow) (order : Option OrderRow) :
    Except PyException (String × Option OrderTuple) :=
  match customer with
  | none => .error unavailable
  | some customer => .ok (pyStr customer.homeCountry, order.map (·.toOrderTuple))

theorem customerAndOrderOf_eq {rows : Rows} (constrained : rows.Constrained)
    (customerId : UUID) (orderId : Option UUID) :
    customerAndOrderOf rows customerId orderId =
      lookedUp (rows.customers.find? fun c => equals c.customerId (some customerId))
        (rows.orders.find? fun o => equals o.orderId orderId) := by
  rw [customerAndOrderOf, customerAndOrderRows_eq constrained.orderKey, List.head?_map,
    List.head?_filter]
  cases rows.customers.find? fun c => equals c.customerId (some customerId) with
  | none => rfl
  | some customer =>
    rw [lookedUp, ← order_of_joined constrained.orderedAt customer]
    rfl

/-- One query for two: the same home country and the same order or none, for a customer's
own order, another's, an unknown one or no order at all, and the same error. -/
theorem customer_and_order_eq_legacy (rows : Rows) (constrained : rows.Constrained)
    (customerId : UUID) (orderId : Option UUID) :
    customerAndOrderOf rows customerId orderId = legacyCustomerAndOrder rows customerId orderId := by
  rw [customerAndOrderOf_eq constrained, legacyCustomerAndOrder, List.head?_map, List.head?_filter,
    List.head?_filter]
  cases rows.customers.find? fun c => equals c.customerId (some customerId) with
  | none => rfl
  | some customer => rfl

/-- A customer without orders looks up the order of another. -/
theorem customer_and_order_eq_legacy_foreign :
    let rows : Rows :=
      { customers := [⟨some (.ofNat 1), some "DE"⟩, ⟨some (.ofNat 2), some "FR"⟩]
        orders := [⟨⟨some (5 : Int), some 30, some .eur, some "FR"⟩, some (.ofNat 9)⟩] }
    customerAndOrderOf rows (.ofNat 1) (some (.ofNat 9)) =
        legacyCustomerAndOrder rows (.ofNat 1) (some (.ofNat 9)) ∧
      legacyCustomerAndOrder rows (.ofNat 1) (some (.ofNat 9)) =
        .ok ("DE", some ⟨some (5 : Int), some 30, some .eur, some "FR"⟩) := by
  refine ⟨customer_and_order_eq_legacy _ ?_ _ _, by decide +kernel⟩
  exact
    { customerKey := ⟨by decide +kernel, by decide +kernel⟩
      orderKey := ⟨by decide +kernel, by decide +kernel⟩
      homeCountry := by decide +kernel
      orderedAt := by decide +kernel
      total := by decide +kernel
      currency := by decide +kernel
      billingCountry := by decide +kernel }

/-! ### The tables of the model -/

/-- An order as the lookup selects it. -/
def orderColumns (order : OrderFacts) : OrderTuple where
  orderedAt := some order.orderedAt
  total := some order.total
  currency := some order.currency
  billingCountry := some order.billingCountry

/-- The tables of the model, row by row. -/
def dbRows (db : Db) : Rows where
  customers := db.customers.entries.map fun e => ⟨some e.1, some e.2.homeCountry⟩
  orders := db.orders.entries.map fun e =>
    { toOrderTuple :=
        orderColumns ⟨e.2.orderedAt, e.2.total, e.2.currency, e.2.billingCountry⟩
      orderId := some e.1 }

theorem dbRows_constrained (db : Db) : (dbRows db).Constrained where
  customerKey := primaryKey_entries _ fun _ => rfl
  orderKey := primaryKey_entries _ fun _ => rfl
  homeCountry := notNull_map fun _ => rfl
  orderedAt := notNull_map fun _ => rfl
  total := notNull_map fun _ => rfl
  currency := notNull_map fun _ => rfl
  billingCountry := notNull_map fun _ => rfl

/-- What `customerAndOrder` makes of the answer to its statement. -/
def customerAndOrderResult :
    Option (String × Option OrderFacts) → Except PyException (String × Option OrderTuple)
  | none => .error unavailable
  | some row => .ok (row.1, row.2.map orderColumns)

/-- The statement of the model answers as the query does. -/
theorem customerAndOrder_answer (db : Db) (customerId : UUID) (orderId : Option UUID) :
    customerAndOrderOf (dbRows db) customerId orderId =
      customerAndOrderResult ((Stmt.customerAndOrder customerId orderId).answer db) := by
  have customer : (dbRows db).customers.find? (fun c => equals c.customerId (some customerId)) =
      (db.customers.entries.find? fun e => equals (some e.1) (some customerId)).map
        fun e => ⟨some e.1, some e.2.homeCountry⟩ := List.find?_map
  have order : ((dbRows db).orders.find? fun o => equals o.orderId orderId).map
        (·.toOrderTuple) =
      (orderId.bind db.orders.get?).map fun o =>
        orderColumns ⟨o.orderedAt, o.total, o.currency, o.billingCountry⟩ := by
    rw [← find?_entries, dbRows, List.find?_map, Option.map_map, Option.map_map]
    rfl
  have key := find?_entries db.customers (some customerId)
  rw [customerAndOrderOf_eq (dbRows_constrained db), customer]
  cases found : db.customers.entries.find? fun e => equals (some e.1) (some customerId) with
  | none =>
    rw [found] at key
    simp only [Option.bind_some] at key
    simp [lookedUp, customerAndOrderResult, Stmt.answer, ← key]
  | some e =>
    rw [found] at key
    simp only [Option.bind_some] at key
    simp [lookedUp, customerAndOrderResult, Stmt.answer, ← key, order, pyStr, Function.comp_def]

end CommercePlatform.Fraud
