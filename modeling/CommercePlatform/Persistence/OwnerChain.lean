import CommercePlatform.Lib.Rows
import CommercePlatform.Fraud.Accepted

/-!
Rows and their owners.

No transaction ever deletes a row, and an `UPDATE` changes only the columns it is for:
the others are frozen when the row is inserted. So what a row was checked against when
it was inserted stays true: a refund belongs to the customer of its payment, a payment
to the customer of its order, an order to the customer and the session of its cart.
-/

namespace CommercePlatform.Persistence

open Contract Fraud Schema

/-! ### Rows under their locks -/

def Db.row? (db : Db) : Lock → Option Write
  | .row .processedEvents id => (db.processedEvents.get? id).map (.processedEvents id)
  | .row .customers id => (db.customers.get? id).map (.customers id)
  | .row .sessions id => (db.sessions.get? id).map (.sessions id)
  | .row .productViews id => (db.productViews.get? id).map (.productViews id)
  | .row .carts id => (db.carts.get? id).map (.carts id)
  | .row .cartItems _ => none
  | .row .orders id => (db.orders.get? id).map (.orders id)
  | .row .payments id => (db.payments.get? id).map (.payments id)
  | .row .refunds id => (db.refunds.get? id).map (.refunds id)
  | .row .fraudEvaluations id => (db.fraudEvaluations.get? id).map (.fraudEvaluations id)
  | .row .fraudAlerts id => (db.fraudAlerts.get? id).map (.fraudAlerts id)
  | .row .fraudOutbox id => (db.fraudOutbox.get? id).map (.fraudOutbox id)
  | .cartItem cartId productId =>
    (db.cartItems.get? (cartId, productId)).map (.cartItems (cartId, productId))
  | .key _ _ | .source _ _ _ => none

/-- The row with the columns that an `UPDATE` may change set to one fixed value. -/
def Write.frozen : Write → Write
  | .customers id r => .customers id { r with lastEventId := r.firstEventId }
  | .carts id r => .carts id { r with
      status := .active, subtotal := 0, discount := 0, total := 0, itemCount := 0
      latestEventId := r.createdEventId }
  | .cartItems id _ => .cartItems id ⟨0, 0, 0⟩
  | .orders id r => .orders id { r with status := .created, latestEventId := r.createdEventId }
  | .payments id r => .payments id { r with status := .completed }
  | w => w

theorem row?_apply (db : Db) (w : Write) (l : Lock) :
    (db.apply w).row? l = if l = w.lock then some w else db.row? l := by
  by_cases here : l = w.lock
  · subst here
    cases w <;> simp [Db.apply, Db.row?, Write.lock]
  · rw [if_neg here]
    cases w <;> cases l <;> try rfl
    all_goals rename_i table id
    all_goals first
      | (cases table <;> first
          | rfl
          | (refine congrArg (Option.map _) (Dict.get?_set_ne _ _ fun same => here ?_)
             rw [same]
             rfl))
      | (refine congrArg (Option.map _) (Dict.get?_set_ne _ _ fun same => here ?_)
         rw [← same]
         rfl)

/-- The rows of the tables. -/
abbrev rows (arith : Arithmetic) : Rows (database arith) where
  Frozen := Write
  row? := Db.row?
  lockOf := Write.lock
  frozen := Write.frozen
  row?_apply := row?_apply

/-! ### Owners -/

/-- What a row was checked against when it was inserted. -/
def Owned (arith : Arithmetic) (db : Db) : Write → Prop
  | .sessions _ s => (db.customers.get? s.customerId).isSome
  | .productViews _ v =>
    (db.sessions.get? v.sessionId).isSome ∧ (db.customers.get? v.customerId).isSome
  | .carts _ c => (db.customers.get? c.customerId).isSome ∧ (db.sessions.get? c.sessionId).isSome
  | .cartItems id _ => (db.carts.get? id.1).isSome
  | .orders _ o => ∃ cart, db.carts.get? o.cartId = some cart ∧ cart.customerId = o.customerId ∧
      cart.sessionId = o.sessionId ∧ cart.currency = o.currency
  | .payments _ p => ∃ order, db.orders.get? p.orderId = some order ∧
      order.customerId = p.customerId ∧ order.currency = p.currency ∧
      p.amount = arith.stored order.total
  | .refunds _ r => ∃ payment, db.payments.get? r.paymentId = some payment ∧
      payment.orderId = r.orderId ∧ payment.customerId = r.customerId ∧
      payment.currency = r.currency
  | .fraudEvaluations _ e => (db.customers.get? e.customerId).isSome
  | _ => True

/-- The events and the evaluation that a row names are there. -/
def Referred (db : Db) (w : Write) : Prop :=
  (∀ id ∈ w.events, (db.processedEvents.get? id).isSome) ∧
    ∀ id ∈ w.evaluations, (db.fraudEvaluations.get? id).isSome

section

variable {arith : Arithmetic} {db db' : Db} (extended : (rows arith).Extends db db')

include extended

/-- A row that is there stays, in its table, with what is frozen of it. -/
theorem kept {ρ : Type} (t : Db → Option ρ) (row : ρ → Write) (l : Lock)
    (at_ : ∀ db, db.row? l = (t db).map row) {r : ρ} (found : t db = some r) :
    ∃ r', t db' = some r' ∧ (row r').frozen = (row r).frozen := by
  obtain ⟨w, there, same⟩ := extended l (row r) ((at_ db).trans (by rw [found]; rfl))
  have there : db'.row? l = some w := there
  rw [at_] at there
  obtain ⟨r', found', rfl⟩ := Option.map_eq_some_iff.mp there
  exact ⟨r', found', same⟩

theorem kept_isSome {ρ : Type} (t : Db → Option ρ) (row : ρ → Write) (l : Lock)
    (at_ : ∀ db, db.row? l = (t db).map row) (present : (t db).isSome) : (t db').isSome := by
  obtain ⟨r, found⟩ := Option.isSome_iff_exists.mp present
  obtain ⟨r', found', -⟩ := kept extended t row l at_ found
  rw [found']
  rfl

theorem kept_customer {id : UUID} :
    (db.customers.get? id).isSome → (db'.customers.get? id).isSome :=
  kept_isSome extended (fun db => db.customers.get? id) (.customers id) (.row .customers id)
    fun _ => rfl

theorem kept_session {id : UUID} :
    (db.sessions.get? id).isSome → (db'.sessions.get? id).isSome :=
  kept_isSome extended (fun db => db.sessions.get? id) (.sessions id) (.row .sessions id)
    fun _ => rfl

theorem kept_cart {id : UUID} {r : Cart} (found : db.carts.get? id = some r) :
    ∃ r', db'.carts.get? id = some r' ∧ r'.customerId = r.customerId ∧
      r'.sessionId = r.sessionId ∧ r'.currency = r.currency := by
  obtain ⟨r', found', same⟩ := kept extended (fun db => db.carts.get? id)
    (.carts id) (.row .carts id) (fun _ => rfl) found
  simp only [Write.frozen, Write.carts.injEq, Cart.mk.injEq, true_and] at same
  exact ⟨r', found', same.1, same.2.1, same.2.2.1⟩

theorem kept_order {id : UUID} {r : Order} (found : db.orders.get? id = some r) :
    ∃ r', db'.orders.get? id = some r' ∧ r'.customerId = r.customerId ∧
      r'.currency = r.currency ∧ r'.total = r.total := by
  obtain ⟨r', found', same⟩ := kept extended (fun db => db.orders.get? id)
    (.orders id) (.row .orders id) (fun _ => rfl) found
  simp only [Write.frozen, Write.orders.injEq, Order.mk.injEq, true_and] at same
  obtain ⟨customer, -, -, -, -, total, currency, -⟩ := same
  exact ⟨r', found', customer, currency, total⟩

theorem kept_payment {id : UUID} {r : Payment} (found : db.payments.get? id = some r) :
    ∃ r', db'.payments.get? id = some r' ∧ r'.orderId = r.orderId ∧
      r'.customerId = r.customerId ∧ r'.currency = r.currency := by
  obtain ⟨r', found', same⟩ := kept extended (fun db => db.payments.get? id)
    (.payments id) (.row .payments id) (fun _ => rfl) found
  simp only [Write.frozen, Write.payments.injEq, Payment.mk.injEq, true_and] at same
  obtain ⟨order, customer, -, currency, -⟩ := same
  exact ⟨r', found', order, customer, currency⟩

theorem owned_extends {w : Write} (owned : Owned arith db w) : Owned arith db' w := by
  cases w with
  | sessions id s => exact kept_customer extended owned
  | productViews id v => exact ⟨kept_session extended owned.1, kept_customer extended owned.2⟩
  | carts id c => exact ⟨kept_customer extended owned.1, kept_session extended owned.2⟩
  | cartItems id line =>
    obtain ⟨cart, found⟩ := Option.isSome_iff_exists.mp owned
    obtain ⟨cart', found', -⟩ := kept_cart extended found
    exact Option.isSome_iff_exists.mpr ⟨cart', found'⟩
  | orders id o =>
    obtain ⟨cart, found, customer, session, currency⟩ := owned
    obtain ⟨cart', found', customer', session', currency'⟩ := kept_cart extended found
    exact ⟨cart', found', customer'.trans customer, session'.trans session,
      currency'.trans currency⟩
  | payments id p =>
    obtain ⟨order, found, customer, currency, amount⟩ := owned
    obtain ⟨order', found', customer', currency', total'⟩ := kept_order extended found
    exact ⟨order', found', customer'.trans customer, currency'.trans currency, total' ▸ amount⟩
  | refunds id r =>
    obtain ⟨payment, found, order, customer, currency⟩ := owned
    obtain ⟨payment', found', order', customer', currency'⟩ := kept_payment extended found
    exact ⟨payment', found', order'.trans order, customer'.trans customer,
      currency'.trans currency⟩
  | fraudEvaluations id e => exact kept_customer extended owned
  | _ => trivial

theorem referred_extends {w : Write} (referred : Referred db w) : Referred db' w := by
  constructor
  · intro id mem
    exact kept_isSome extended (fun db => db.processedEvents.get? id) (.processedEvents id)
      (.row .processedEvents id) (fun _ => rfl) (referred.1 id mem)
  · intro id mem
    exact kept_isSome extended (fun db => db.fraudEvaluations.get? id) (.fraudEvaluations id)
      (.row .fraudEvaluations id) (fun _ => rfl) (referred.2 id mem)

end

/-- What a row is owned by is frozen. -/
theorem owned_frozen {arith : Arithmetic} {db : Db} {w w' : Write} (same : w'.frozen = w.frozen)
    (owned : Owned arith db w) : Owned arith db w' := by
  cases w <;> cases w' <;> simp only [Write.frozen, reduceCtorEq] at same
  all_goals first
    | trivial
    | skip
  case sessions.sessions => cases same; exact owned
  case productViews.productViews => cases same; exact owned
  case refunds.refunds => cases same; exact owned
  case fraudEvaluations.fraudEvaluations => cases same; exact owned
  case carts.carts id c id' c' =>
    simp only [Write.carts.injEq, Cart.mk.injEq] at same
    obtain ⟨-, customer, session, -⟩ := same
    simp only [Owned, customer, session] at owned ⊢
    exact owned
  case cartItems.cartItems id line id' line' =>
    simp only [Write.cartItems.injEq, and_true] at same
    rw [Owned, same]
    exact owned
  case orders.orders id o id' o' =>
    simp only [Write.orders.injEq, Order.mk.injEq] at same
    obtain ⟨-, customer, session, cart, -, -, -, -, currency, -⟩ := same
    simp only [Owned, customer, session, cart, currency] at owned ⊢
    exact owned
  case payments.payments id p id' p' =>
    simp only [Write.payments.injEq, Payment.mk.injEq] at same
    obtain ⟨-, order, customer, -, amount, currency, -⟩ := same
    simp only [Owned, order, customer, amount, currency] at owned ⊢
    exact owned

theorem referred_checked {arith : Arithmetic} {db : Db} {ws : List Write}
    (checked : (database arith).deferred db ws = none) {w : Write} (mem : w ∈ ws) :
    Referred db w := by
  have passed : ∀ c ∈ deferredConstraints db ws, c.1 = true := by
    simp only [firstFailure, Option.map_eq_none_iff, List.find?_eq_none] at checked
    intro c mem
    simpa using checked c mem
  constructor
  · intro id named
    refine passed (_, .foreignKeyViolation)
      (List.mem_flatMap.mpr ⟨w, mem, List.mem_append_left _ ?_⟩)
    exact List.mem_flatMap.mpr ⟨id, named, List.mem_singleton_self _⟩
  · intro id named
    refine passed (_, .foreignKeyViolation)
      (List.mem_flatMap.mpr ⟨w, mem, List.mem_append_right _ ?_⟩)
    exact List.mem_flatMap.mpr ⟨id, named, List.mem_singleton_self _⟩

/-- The owners of the rows of the tables. -/
abbrev owners (arith : Arithmetic) : Rows.Ownership (rows arith) where
  Owned := Owned arith
  Referred := Referred
  owned_extends _ _ _ extended := owned_extends extended
  owned_frozen _ _ _ same := owned_frozen same
  referred_extends _ _ _ extended := referred_extends extended
  referred_checked _ _ checked _ mem := referred_checked checked mem

/-! ### Statements -/

/-- The writes keep what is frozen of the rows of `db`, and their locks are among `ls`. -/
def KeptBy (arith : Arithmetic) (db : Db) (ws : List Write) (ls : List Lock) : Prop :=
  (rows arith).Grows db ws ∧ ∀ w ∈ ws, w.lock ∈ ls

section

variable {arith : Arithmetic} {db : Db} {ls : List Lock}

theorem keptBy_nil : KeptBy arith db [] ls := ⟨trivial, by simp⟩

theorem keptBy_one {w : Write} (replaces : (rows arith).Replaces db w) (locked : w.lock ∈ ls) :
    KeptBy arith db [w] ls := by
  refine ⟨⟨replaces, trivial⟩, fun v mem => ?_⟩
  rw [List.mem_singleton.mp mem]
  exact locked

/-- An inserted row. -/
theorem keptBy_new {w : Write} (absent : db.row? w.lock = none) (locked : w.lock ∈ ls) :
    KeptBy arith db [w] ls := by
  refine keptBy_one (fun old found => ?_) locked
  have found : db.row? w.lock = some old := found
  rw [absent] at found
  cases found

/-- An inserted row whose key is checked. -/
theorem keptBy_added {ρ : Type} {t : Dict UUID ρ} {id : UUID} {row : ρ → Write} {w : Write}
    (at_ : db.row? w.lock = (t.get? id).map row) (absent : t.get? id = none)
    (locked : t.get? id = none → w.lock ∈ ls) : KeptBy arith db [w] ls :=
  keptBy_new (by rw [at_, absent]; rfl) (locked absent)

/-- A row that is inserted unless it is there. -/
theorem keptBy_ifNew {ρ : Type} {t : Dict UUID ρ} {id : UUID} {row : ρ → Write} {w : Write}
    (at_ : db.row? w.lock = (t.get? id).map row) (locked : t.get? id = none → w.lock ∈ ls) :
    KeptBy arith db (if (t.get? id).isSome then [] else [w]) ls := by
  split
  · exact keptBy_nil
  · rename_i absent
    exact keptBy_added at_ (by simpa using absent) locked

/-- An updated row. -/
theorem keptBy_updated {ρ : Type} {table : Table} {t : Dict UUID ρ} {id : UUID}
    {row update : ρ → Write} (at_ : db.row? (.row table id) = (t.get? id).map row)
    (lock : ∀ r, (update r).lock = .row table id)
    (same : ∀ r, (update r).frozen = (row r).frozen) :
    KeptBy arith db ((t.get? id).map update).toList (Stmt.lockRow table t id) := by
  cases found : t.get? id with
  | none => exact keptBy_nil
  | some r =>
    refine keptBy_one (fun old there => ?_) ?_
    · have there : db.row? (update r).lock = some old := there
      rw [lock, at_, found] at there
      cases there
      exact same r
    · rw [lock]
      simp [Stmt.lockRow, found]

end

/-- A statement locks the rows it writes, and keeps what is frozen of them. -/
theorem disciplined (arith : Arithmetic) (s : Stmt) : (rows arith).Disciplined s := by
  intro db r ws ran
  obtain ⟨-, rfl, passed⟩ := exec_ok ran
  change KeptBy arith db (s.writes arith db) (s.locks db)
  have absent {ρ : Type} {t : Dict UUID ρ} {id : UUID}
      (mem : ((t.get? id).isNone, SqlError.uniqueViolation) ∈ s.constraints arith db) :
      t.get? id = none := Stmt.absent_of_passed passed mem
  cases s with
  | insertEvent id row =>
    exact keptBy_added (t := db.processedEvents) rfl
      (absent (by simp [Stmt.constraints, Stmt.unique])) fun new => by simp [Stmt.locks, Stmt.addKey, new, Write.lock]
  | updateCustomer id eventId => exact keptBy_updated rfl (fun _ => rfl) fun _ => rfl
  | insertCustomer id row =>
    exact keptBy_added (t := db.customers) rfl (absent (by simp [Stmt.constraints, Stmt.unique]))
      fun new => by simp [Stmt.locks, Stmt.addKey, new, Write.lock]
  | insertSession id row =>
    exact keptBy_added (t := db.sessions) rfl (absent (by simp [Stmt.constraints, Stmt.unique]))
      fun new => by simp [Stmt.locks, Stmt.addKey, new, Write.lock]
  | insertProductView id row =>
    exact keptBy_ifNew rfl fun new => by simp [Stmt.locks, Stmt.addKey, new, Write.lock]
  | upsertCart id row =>
    simp only [Stmt.writes, Stmt.locks]
    split
    · rename_i old found
      split
      · refine keptBy_one (fun cart there => ?_) (by simp [Write.lock])
        have there : (db.carts.get? id).map (.carts id) = some cart := there
        rw [found] at there
        cases there
        rfl
      · exact keptBy_nil
    · rename_i new
      exact keptBy_added (t := db.carts) rfl new fun _ => by simp [Write.lock]
  | upsertCartItem cartId productId row =>
    refine keptBy_one (fun line there => ?_) (by simp [Stmt.locks, Write.lock])
    obtain ⟨old, -, rfl⟩ := Option.map_eq_some_iff.mp there
    rfl
  | refreshCart id eventId =>
    simp only [Stmt.writes, Stmt.locks]
    split
    · exact keptBy_nil
    · exact keptBy_updated rfl (fun _ => rfl) fun _ => rfl
  | checkoutCart id discount total eventId => exact keptBy_updated rfl (fun _ => rfl) fun _ => rfl
  | insertOrder id row =>
    exact keptBy_ifNew rfl fun new => by simp [Stmt.locks, Stmt.addKey, new, Write.lock]
  | orderCart id eventId => exact keptBy_updated rfl (fun _ => rfl) fun _ => rfl
  | insertPayment id row =>
    exact keptBy_ifNew rfl fun new => by simp [Stmt.locks, new, Write.lock]
  | updateOrder id status eventId => exact keptBy_updated rfl (fun _ => rfl) fun _ => rfl
  | insertRefund id row =>
    exact keptBy_ifNew rfl fun new => by simp [Stmt.locks, new, Write.lock]
  | updatePayment id status => exact keptBy_updated rfl (fun _ => rfl) fun _ => rfl
  | insertExternalAlert id row =>
    simp only [Stmt.writes]
    split
    · exact keptBy_nil
    · rename_i fresh
      exact keptBy_added (t := db.fraudAlerts) rfl
        (absent (by simp [Stmt.constraints, Stmt.unique, Stmt.ifAdded, fresh]))
        fun new => by simp [Stmt.locks, Stmt.addKey, fresh, new, Write.lock]
  | insertEvaluation id row =>
    exact keptBy_added (t := db.fraudEvaluations) rfl
      (absent (by simp [Stmt.constraints, Stmt.unique]))
      fun new => by simp [Stmt.locks, Stmt.addKey, new, Write.lock]
  | insertAlert id row =>
    exact keptBy_added (t := db.fraudAlerts) rfl (absent (by simp [Stmt.constraints, Stmt.unique]))
      fun new => by simp [Stmt.locks, Stmt.addKey, new, Write.lock]
  | insertOutbox id row =>
    exact keptBy_added (t := db.fraudOutbox) rfl (absent (by simp [Stmt.constraints, Stmt.unique]))
      fun new => by simp [Stmt.locks, Stmt.addKey, new, Write.lock]
  | _ => exact keptBy_nil

/-- An updated row is not new. -/
theorem not_new {db : Db} {ρ : Type} {table : Table} {t : Dict UUID ρ} {id : UUID}
    {row update : ρ → Write} (at_ : db.row? (.row table id) = (t.get? id).map row)
    (lock : ∀ r, (update r).lock = .row table id) {w : Write}
    (mem : w ∈ ((t.get? id).map update).toList) : db.row? w.lock ≠ none := by
  obtain ⟨r, found, rfl⟩ := Option.map_eq_some_iff.mp (Option.mem_toList.mp mem)
  rw [lock, at_, found]
  exact Option.some_ne_none _

/-- The statements whose rows no constraint compares with their owners. -/
def Stmt.comparedBefore : Stmt → Bool
  | .insertOrder _ _ | .insertPayment _ _ | .insertRefund _ _ => true
  | _ => false

/-- The owners of every other row that is added are checked by its foreign keys. -/
theorem admits {arith : Arithmetic} {s : Stmt} (checked : s.comparedBefore = false) (db : Db) :
    Rows.Admits (owners arith) s db := by
  intro r ws ran w mem new
  obtain ⟨-, rfl, passed⟩ := exec_ok ran
  have new : db.row? w.lock = none := new
  have referenced {ρ : Type} {o : Option ρ}
      (mem : (o.isSome, SqlError.foreignKeyViolation) ∈ s.constraints arith db) : o.isSome :=
    passed _ mem
  cases s with
  | insertOrder id row => cases checked
  | insertPayment id row => cases checked
  | insertRefund id row => cases checked
  | updateCustomer id eventId => exact absurd new (not_new rfl (fun _ => rfl) mem)
  | checkoutCart id discount total eventId => exact absurd new (not_new rfl (fun _ => rfl) mem)
  | orderCart id eventId => exact absurd new (not_new rfl (fun _ => rfl) mem)
  | updateOrder id status eventId => exact absurd new (not_new rfl (fun _ => rfl) mem)
  | updatePayment id status => exact absurd new (not_new rfl (fun _ => rfl) mem)
  | refreshCart id eventId =>
    simp only [Stmt.writes] at mem
    split at mem
    · cases mem
    · exact absurd new (not_new rfl (fun _ => rfl) mem)
  | insertSession id row =>
    obtain rfl := List.mem_singleton.mp mem
    exact referenced (by simp [Stmt.constraints, Stmt.references])
  | insertProductView id row =>
    simp only [Stmt.writes] at mem
    split at mem
    · cases mem
    · rename_i absent
      obtain rfl := List.mem_singleton.mp mem
      constructor <;>
        exact referenced (by simp [Stmt.constraints, Stmt.references, Stmt.ifAdded, absent])
  | upsertCart id row =>
    simp only [Stmt.writes] at mem
    split at mem
    · rename_i old found
      split at mem
      · obtain rfl := List.mem_singleton.mp mem
        simp [Write.lock, Db.row?, found] at new
      · cases mem
    · rename_i absent
      obtain rfl := List.mem_singleton.mp mem
      constructor <;>
        exact referenced (by simp [Stmt.constraints, Stmt.references, Stmt.ifAdded, absent])
  | upsertCartItem cartId productId row =>
    obtain rfl := List.mem_singleton.mp mem
    exact referenced (by simp [Stmt.constraints, Stmt.references])
  | insertEvaluation id row =>
    obtain rfl := List.mem_singleton.mp mem
    exact referenced (by simp [Stmt.constraints, Stmt.references])
  | insertExternalAlert id row =>
    simp only [Stmt.writes] at mem
    split at mem
    · cases mem
    · obtain rfl := List.mem_singleton.mp mem
      trivial
  | insertEvent id row => obtain rfl := List.mem_singleton.mp mem; trivial
  | insertCustomer id row => obtain rfl := List.mem_singleton.mp mem; trivial
  | insertAlert id row => obtain rfl := List.mem_singleton.mp mem; trivial
  | insertOutbox id row => obtain rfl := List.mem_singleton.mp mem; trivial
  | _ => cases mem

/-! ### Handlers -/

/-- A statement that asks for nothing first. -/
def Quiet (s : Stmt) : Prop := s.comparedBefore = false

section

variable {arith : Arithmetic} {start : Db} {c : (database arith).Committed PersistCall}
  {ws : List Write} {ls : List Lock}

abbrev OwnedSoFar (arith : Arithmetic) (start : Db) : Assn (database arith) PersistCall :=
  Rows.Growing (owners arith) start

abbrev ownerWp {α : Type} (arith : Arithmetic) (start : Db) (p : Sql α)
    (Q : α → Assn (database arith) PersistCall) : Assn (database arith) PersistCall :=
  wp (D := database arith) (Rows.Kept (owners arith) start) (rows arith).Agrees p Q

abbrev HasRead (arith : Arithmetic) (start : Db) (l : Lock) (old : Write) :
    Assn (database arith) PersistCall :=
  Rows.Read (owners arith) start l old

theorem wp_quiet {α : Type} {p : Sql α} (quiet : p.All Quiet) (h : OwnedSoFar arith start c ws ls) :
    ownerWp arith start p (fun _ => OwnedSoFar arith start) c ws ls :=
  Rows.wp_growing (quiet.mono fun s calm => ⟨disciplined arith s, admits calm⟩) h

/-- A body that writes none of the three tables is quiet. -/
theorem Writes.quiet {α : Type} {p : Sql α} {ts : List Table} (writes : Writes ts p)
    (elsewhere : ∀ t ∈ ts, t ≠ .orders ∧ t ≠ .payments ∧ t ≠ .refunds) : p.All Quiet := by
  refine Prog.All.mono writes fun s targets => ?_
  cases s with
  | insertOrder id row => exact absurd rfl (elsewhere _ (targets _ rfl)).1
  | insertPayment id row => exact absurd rfl (elsewhere _ (targets _ rfl)).2.1
  | insertRefund id row => exact absurd rfl (elsewhere _ (targets _ rfl)).2.2
  | _ => rfl

theorem writes_query {s : Stmt} (query : s.target = none) (db : Db) : s.writes arith db = [] := by
  refine List.eq_nil_iff_forall_not_mem.mpr fun w mem => ?_
  have into := writes_target mem
  rw [query] at into
  cases into

/-- A query, with what it finds. -/
theorem wp_query {α : Type} {s : Stmt} {f : s.Result → Sql α}
    {Q : α → Assn (database arith) PersistCall} (query : s.target = none)
    (h : OwnedSoFar arith start c ws ls)
    (next : ∀ c seen, seen = (database arith).view c.db ws → OwnedSoFar arith start c ws ls →
      ∀ r, r = s.answer seen → ownerWp arith start (f r) Q c ws (ls ++ s.locks seen)) :
    ownerWp arith start (sql s >>= f) Q c ws ls := by
  intro c' env r W ran
  obtain ⟨rfl, rfl, -⟩ := exec_ok ran
  rw [writes_query query, List.append_nil]
  exact next c' _ rfl (h.env env) _ rfl

/-- A query of a transaction that has read a row. -/
theorem wp_query_read {α : Type} {s : Stmt} {f : s.Result → Sql α}
    {Q : α → Assn (database arith) PersistCall} {l : Lock} {old : Write} (query : s.target = none)
    (h : HasRead arith start l old c ws ls)
    (next : ∀ r c ls, HasRead arith start l old c ws ls → ownerWp arith start (f r) Q c ws ls) :
    ownerWp arith start (sql s >>= f) Q c ws ls := by
  intro c' env r W ran
  obtain ⟨rfl, rfl, -⟩ := exec_ok ran
  rw [writes_query query, List.append_nil]
  exact next _ c' _ ((h.env env).lock _)

/-- A row that is inserted next to the locked row it was compared with. -/
theorem wp_compared {α : Type} {s : Stmt} {f : s.Result → Sql α}
    {Q : α → Assn (database arith) PersistCall} {l : Lock} {old : Write}
    (compared : ∀ db : Db, db.row? l = some old → ∀ w ∈ s.writes arith db, Owned arith db w)
    (h : HasRead arith start l old c ws ls)
    (next : ∀ r c ws ls, OwnedSoFar arith start c ws ls → ownerWp arith start (f r) Q c ws ls) :
    ownerWp arith start (sql s >>= f) Q c ws ls := by
  intro c' env r W ran
  have h := h.env env
  refine next r c' _ _ (h.growing.statement (disciplined arith s) ?_ ran)
  intro r W ran w mem _
  obtain ⟨rfl, rfl, -⟩ := exec_ok ran
  exact compared _ h.found w mem

/-- The row a `SELECT .. FOR UPDATE` finds is read. -/
theorem read_of (l : Lock) (old : Write) (locks : List Lock) {seen : Db}
    (view : seen = (database arith).view c.db ws) (h : OwnedSoFar arith start c ws ls)
    (found : seen.row? l = some old) (locked : l ∈ locks) :
    HasRead arith start l old c ws (ls ++ locks) := by
  subst view
  exact ⟨h.lock _, List.mem_append_right _ locked, found⟩

/-- The order is compared with its locked cart. -/
theorem insertOrder_owned {payload : OrderCreatedPayload} {eventId : UUID}
    (h : OwnedSoFar arith start c ws ls) :
    ownerWp arith start (insertOrder payload eventId) (fun _ => OwnedSoFar arith start) c ws
      ls := by
  refine wp_query rfl h fun c seen view h fetched answered => ?_
  split
  · trivial
  rename_i cart
  refine wp_ite (fun _ => trivial) fun agree => ?_
  simp only [not_or, not_not] at agree
  obtain ⟨customer, session, -, -, -, currency, -⟩ := agree
  have present : seen.carts.get? payload.cartId = some cart := answered.symm
  have read := read_of (.row .carts payload.cartId) (.carts payload.cartId cart)
    ((Stmt.lockCart payload.cartId).locks seen) view h (by simp [Db.row?, present])
    (by simp [Stmt.locks, Stmt.lockRow, present])
  refine wp_compared (fun db there w mem => ?_) read fun count c ws ls h => ?_
  · simp only [Stmt.writes] at mem
    split at mem
    · cases mem
    · obtain rfl := List.mem_singleton.mp mem
      obtain ⟨cart', present, same⟩ := Option.map_eq_some_iff.mp there
      cases same
      exact ⟨cart, present, customer, session, currency⟩
  · split
    · trivial
    · exact wp_quiet ⟨rfl, fun _ => trivial⟩ h

/-- The payment is compared with its locked order. -/
theorem insertPayment_owned {paymentId : UUID} {row : Payment}
    (h : OwnedSoFar arith start c ws ls) :
    ownerWp arith start (insertPayment paymentId row) (fun _ => OwnedSoFar arith start) c ws
      ls := by
  refine wp_query rfl h fun c seen view h fetched answered => ?_
  split
  · trivial
  rename_i order
  refine wp_ite (fun _ => trivial) fun agree => ?_
  simp only [not_or, not_not] at agree
  obtain ⟨customer, total, currency⟩ := agree
  have present : seen.orders.get? row.orderId = some order := answered.symm
  have read := read_of (.row .orders row.orderId) (.orders row.orderId order)
    ((Stmt.lockOrder row.orderId).locks seen) view h (by simp [Db.row?, present])
    (by simp [Stmt.locks, Stmt.lockRow, present])
  refine wp_compared (fun db there w mem => ?_) read fun count c ws ls h => ?_
  · simp only [Stmt.writes] at mem
    split at mem
    · cases mem
    · obtain rfl := List.mem_singleton.mp mem
      obtain ⟨order', present, same⟩ := Option.map_eq_some_iff.mp there
      cases same
      exact ⟨order, present, customer, currency, by rw [total]⟩
  · split
    · trivial
    · refine wp_quiet ?_ h
      split
      · exact ⟨rfl, fun _ => trivial⟩
      · trivial

/-- The refund is compared with its locked payment. -/
theorem insertRefund_owned {payload : RefundRequestedPayload} {eventId : UUID}
    (h : OwnedSoFar arith start c ws ls) :
    ownerWp arith start (insertRefund arith payload eventId) (fun _ => OwnedSoFar arith start) c ws
      ls := by
  refine wp_query rfl h fun c seen view h fetched answered => ?_
  split
  · trivial
  rename_i payment
  refine wp_ite (fun _ => trivial) fun _ => wp_ite (fun _ => trivial) fun agree => ?_
  simp only [not_or, not_not] at agree
  obtain ⟨order, customer, currency⟩ := agree
  have present : seen.payments.get? payload.paymentId = some payment := answered.symm
  have read := read_of (.row .payments payload.paymentId) (.payments payload.paymentId payment)
    ((Stmt.lockPayment payload.paymentId).locks seen) view h (by simp [Db.row?, present])
    (by simp [Stmt.locks, Stmt.lockRow, present])
  refine wp_query_read rfl read fun refunded c ls read => ?_
  refine wp_compute fun asked _ => wp_ite (fun _ => trivial) fun _ => ?_
  refine wp_compared (fun db there w mem => ?_) read fun count c ws ls h => ?_
  · simp only [Stmt.writes] at mem
    split at mem
    · cases mem
    · obtain rfl := List.mem_singleton.mp mem
      obtain ⟨payment', present, same⟩ := Option.map_eq_some_iff.mp there
      cases same
      exact ⟨payment, present, order, customer, currency⟩
  · split
    · trivial
    · refine wp_compute fun newTotal _ => wp_quiet ?_ h
      exact ⟨rfl, fun _ => ⟨rfl, fun _ => trivial⟩⟩

theorem applyHandler_owned (rt : Runtime) (event : EventEnvelope)
    (h : OwnedSoFar arith start c ws ls) :
    ownerWp arith start (applyHandler rt arith event) (fun _ => OwnedSoFar arith start) c ws
      ls := by
  have writes := applyHandler_writes rt arith event
  unfold applyHandler at writes ⊢
  unfold EventEnvelope.eventType at writes
  cases payload : event.payload with
  | orderCreated p => exact insertOrder_owned h
  | paymentCompleted p => exact insertPayment_owned h
  | paymentFailed p => exact insertPayment_owned h
  | refundRequested p => exact insertRefund_owned h
  | _ =>
    rw [payload] at writes
    exact wp_quiet (writes.quiet (by simp [handlerTables, Payload.eventType])) h

end

/-- Every transaction keeps the rows and their owners. -/
theorem transaction_owned (uow : UnitOfWork) (start : Db) (call : PersistCall) :
    Keeps (D := database uow.arith) (Rows.Kept (owners uow.arith) start) (rows uow.arith).Agrees
      uow.transaction call := by
  intro c inv
  refine wp_mono ?_ fun _ c ws ls settled => Rows.Growing.commitSafe settled call
  unfold UnitOfWork.transaction
  refine wp_then (wp_quiet ((insertIdentity_writes _ _ _ _ _).quiet (by simp)) (.begins inv))
    fun _ c ws ls h => wp_then (applyHandler_owned _ _ h) fun counts c ws ls h => ?_
  exact wp_ite (fun _ => wp_quiet ((fraudStage_writes uow call _).quiet (by simp)) h) fun _ => h

/-! ### Runs -/

section

variable {ι : Type} [DecidableEq ι] {uow : UnitOfWork} {start : Db}
  {acts acts' : List (ι × Act PersistCall)} {st st' : uow.Sessions ι}

/-- No committed row is ever lost, and what is frozen of it stays, whatever the sessions do
from then on. -/
theorem rows_kept (sound : (owners uow.arith).Sound start)
    (ran : (uow.sessions ι).run (uow.startFrom start) acts = some st)
    (later : (uow.sessions ι).run st acts' = some st') :
    (rows uow.arith).Extends st.committed.db st'.committed.db :=
  Rows.run_extends (transaction_owned uow start) sound ran later

/-- In every committed state every row has its owners, and what it refers to. -/
theorem rows_owned (sound : (owners uow.arith).Sound start)
    (ran : (uow.sessions ι).run (uow.startFrom start) acts = some st) :
    (owners uow.arith).Sound st.committed.db :=
  Rows.run_sound (transaction_owned uow start) sound ran

end

theorem sound_empty (arith : Arithmetic) : (owners arith).Sound {} := by
  intro l w found
  have found : ({} : Db).row? l = some w := found
  rcases l with ⟨table, id⟩ | _ | _ | _
  · cases table <;> simp [Db.row?] at found
  all_goals simp [Db.row?] at found

/-- A payment that is refunded later is the same payment. -/
theorem rows_kept_refunded :
    ∃ st st', (plainUow.sessions Nat).run (plainUow.startFrom {}) paidShop = some st ∧
      (plainUow.sessions Nat).run st (oneByOne [(plainRefundOf 8 10, 8)]) = some st' ∧
      ((st.committed.db.payments.get? (.ofNat 5)).map (·.status),
        (st'.committed.db.payments.get? (.ofNat 5)).map (·.status)) =
        (some .completed, some .refunded) ∧
      (rows plainUow.arith).Extends st.committed.db st'.committed.db := by
  have shop : (((plainUow.sessions Nat).run (plainUow.startFrom {}) paidShop).bind fun st =>
      ((plainUow.sessions Nat).run st (oneByOne [(plainRefundOf 8 10, 8)])).map fun st' =>
        ((st.committed.db.payments.get? (.ofNat 5)).map (·.status),
          (st'.committed.db.payments.get? (.ofNat 5)).map (·.status))) =
      some (some .completed, some .refunded) := by decide +kernel
  obtain ⟨st, ran, rest⟩ := Option.bind_eq_some_iff.mp shop
  obtain ⟨st', later, statuses⟩ := Option.map_eq_some_iff.mp rest
  exact ⟨st, st', ran, later, statuses, rows_kept (sound_empty _) ran later⟩

/-- The refund of a paid order. -/
theorem rows_owned_refunded :
    ∃ st, (plainUow.sessions Nat).run (plainUow.startFrom {})
        (paidShop ++ oneByOne [(plainRefundOf 8 10, 8)]) = some st ∧
      (st.committed.db.refunds.get? (.ofNat 8)).isSome ∧
      (owners plainUow.arith).Sound st.committed.db := by
  have shop : ((plainUow.sessions Nat).run (plainUow.startFrom {})
      (paidShop ++ oneByOne [(plainRefundOf 8 10, 8)])).map
      (fun st => (st.committed.db.refunds.get? (.ofNat 8)).isSome) = some true := by decide +kernel
  obtain ⟨st, ran, refunded⟩ := Option.map_eq_some_iff.mp shop
  exact ⟨st, ran, refunded, rows_owned (sound_empty _) ran⟩

/-- A refund, its payment, the order and its cart are of one customer and in one currency. -/
theorem refund_chain {arith : Arithmetic} {db : Db} (sound : (owners arith).Sound db) {id : UUID}
    {refund : Refund} (found : db.refunds.get? id = some refund) :
    ∃ payment order cart, db.payments.get? refund.paymentId = some payment ∧
      db.orders.get? refund.orderId = some order ∧ db.carts.get? order.cartId = some cart ∧
      (payment.customerId = refund.customerId ∧ order.customerId = refund.customerId ∧
        cart.customerId = refund.customerId) ∧
      payment.currency = refund.currency ∧ order.currency = refund.currency ∧
      cart.currency = refund.currency := by
  obtain ⟨payment, paid, ofOrder, customer, currency⟩ :=
    (sound (.row .refunds id) (.refunds id refund) (by simp [Db.row?, found])).1
  obtain ⟨order, ordered, customer', currency', -⟩ :=
    (sound (.row .payments refund.paymentId) (.payments refund.paymentId payment)
      (by simp [Db.row?, paid])).1
  obtain ⟨cart, carted, customer'', -, currency''⟩ :=
    (sound (.row .orders payment.orderId) (.orders payment.orderId order)
      (by simp [Db.row?, ordered])).1
  have customer' := customer'.trans customer
  have currency' := currency'.trans currency
  exact ⟨payment, order, cart, paid, ofOrder ▸ ordered, carted,
    ⟨customer, customer', customer''.trans customer'⟩, currency, currency',
    currency''.trans currency'⟩

end CommercePlatform.Persistence
