import CommercePlatform.Generator.Lifecycle
import CommercePlatform.Persistence.Statements

/-!
What the tables tell of the life of a customer.

`Stored` are the rows that the next event of a customer relies on, `Traced` says that
every key in the tables was brought by an earlier event. A write that `Fits` is one of the
customer's own: it leaves the rows of everybody else as they are (`Others`) and keeps the
tables traced.
-/

namespace CommercePlatform.Persistence

open Contract Schema Generator

/-! ### The rows of a customer -/

/-- The rows of everybody but `c` are the same in both tables. -/
def KeepsOthers {ρ : Type} (owner : ρ → UUID) (c : UUID) (rows rows' : Dict UUID ρ) : Prop :=
  ∀ id row, owner row ≠ c → (rows'.get? id = some row ↔ rows.get? id = some row)

section

variable {ρ : Type} {owner : ρ → UUID} {c : UUID} {rows rows' rows'' : Dict UUID ρ}

theorem KeepsOthers.refl : KeepsOthers owner c rows rows := fun _ _ _ => Iff.rfl

theorem KeepsOthers.iff (h : KeepsOthers owner c rows rows') {other id : UUID} {row : ρ}
    (own : owner row = other) (ne : other ≠ c) :
    rows'.get? id = some row ↔ rows.get? id = some row :=
  h id row (own ▸ ne)

theorem KeepsOthers.trans (first : KeepsOthers owner c rows rows')
    (second : KeepsOthers owner c rows' rows'') : KeepsOthers owner c rows rows'' :=
  fun id row other => (second id row other).trans (first id row other)

theorem KeepsOthers.set {id : UUID} {new : ρ} (own : owner new = c)
    (replaced : ∀ old, rows.get? id = some old → owner old = c) :
    KeepsOthers owner c rows (rows.set id new) := by
  intro key row other
  rw [Dict.get?_set]
  by_cases here : key = id
  · subst here
    rw [if_pos rfl]
    constructor
    · intro same
      cases same
      exact absurd own other
    · intro found
      exact absurd (replaced row found) other
  · rw [if_neg here]

end

/-- The rows of everybody but `c` are the same in both databases. -/
structure Others (c : UUID) (db db' : Db) : Prop where
  customers : ∀ id, id ≠ c → db'.customers.get? id = db.customers.get? id
  sessions : KeepsOthers (·.customerId) c db.sessions db'.sessions
  carts : KeepsOthers (·.customerId) c db.carts db'.carts
  orders : KeepsOthers (·.customerId) c db.orders db'.orders
  payments : KeepsOthers (·.customerId) c db.payments db'.payments
  refunds : KeepsOthers (·.customerId) c db.refunds db'.refunds

theorem Others.refl (c : UUID) (db : Db) : Others c db db :=
  ⟨fun _ _ => rfl, .refl, .refl, .refl, .refl, .refl⟩

theorem Others.trans {c : UUID} {db db' db'' : Db} (first : Others c db db')
    (second : Others c db' db'') : Others c db db'' where
  customers id other := (second.customers id other).trans (first.customers id other)
  sessions := first.sessions.trans second.sessions
  carts := first.carts.trans second.carts
  orders := first.orders.trans second.orders
  payments := first.payments.trans second.payments
  refunds := first.refunds.trans second.refunds

/-- The cart of a checkout that has not started yet. -/
structure CartOf (db : Db) (c : UUID) (p : AddedToCartPayload) (cart : Cart) : Prop where
  found : db.carts.get? p.cartId = some cart
  customerId : cart.customerId = c
  sessionId : cart.sessionId = p.sessionId
  subtotal : cart.subtotal = (p.unitPrice.mul (.ofNat p.quantity)).value
  currency : cart.currency = p.currency
  itemCount : cart.itemCount = p.quantity

/-- The cart of a started checkout. -/
structure CheckedCart (db : Db) (c : UUID) (p : CheckoutStartedPayload) (cart : Cart) : Prop where
  found : db.carts.get? p.cartId = some cart
  customerId : cart.customerId = c
  sessionId : cart.sessionId = p.sessionId
  subtotal : cart.subtotal = p.subtotal.value
  discount : cart.discount = p.discountAmount.value
  total : cart.total = p.totalAmount.value
  currency : cart.currency = p.currency
  itemCount : cart.itemCount = p.itemCount

/-- The order as payments see it. -/
structure OrderOf (db : Db) (c : UUID) (p : OrderCreatedPayload) (order : Order) : Prop where
  found : db.orders.get? p.orderId = some order
  customerId : order.customerId = c
  total : order.total = p.totalAmount.value
  currency : order.currency = p.currency

/-- The payment as refunds see it. -/
structure PaymentOf (db : Db) (c : UUID) (orderId : UUID) (p : PaymentCompletedPayload)
    (payment : Payment) : Prop where
  found : db.payments.get? p.paymentId = some payment
  customerId : payment.customerId = c
  orderId : payment.orderId = orderId
  status : payment.status = .completed
  amount : payment.amount = p.amount.value
  currency : payment.currency = p.currency

def Visiting (db : Db) (c sessionId : UUID) : Prop :=
  ∃ row, db.sessions.get? sessionId = some row ∧ row.customerId = c

/-- What the tables hold of a customer who has come that far. -/
def Stored (db : Db) (c : UUID) : Stage → Prop
  | .unregistered => db.customers.get? c = none
  | .registered | .refunded => (db.customers.get? c).isSome
  | .browsing id =>
    (db.customers.get? c).isSome ∧ Visiting db c id ∧
      ∀ cartId cart, db.carts.get? cartId = some cart → cart.customerId = c → cart.sessionId ≠ id
  | .carted p =>
    (db.customers.get? c).isSome ∧ Visiting db c p.sessionId ∧ (∃ cart, CartOf db c p cart) ∧
      IsAmount (p.unitPrice.mul (.ofNat p.quantity)) ∧ 0 < p.quantity ∧ p.quantity ≤ 1000
  | .checkedOut p =>
    (db.customers.get? c).isSome ∧ Visiting db c p.sessionId ∧ (∃ cart, CheckedCart db c p cart) ∧
      (IsAmount p.subtotal ∧ IsAmount p.discountAmount ∧ IsAmount p.totalAmount) ∧
      0 < p.itemCount ∧ p.itemCount ≤ 1000
  | .ordered p =>
    (db.customers.get? c).isSome ∧ (∃ order, OrderOf db c p order) ∧
      IsAmount p.totalAmount ∧ 0 < p.totalAmount.value
  | .paid order p =>
    (db.customers.get? c).isSome ∧ (∃ row, OrderOf db c order row) ∧
      (∃ payment, PaymentOf db c order.orderId p payment) ∧
      ∀ id row, db.refunds.get? id = some row → row.customerId = c → row.paymentId ≠ p.paymentId

/-- Whoever has come that far is registered. -/
theorem Stored.customer {db : Db} {c : UUID} {stage : Stage} (stored : Stored db c stage)
    (known : stage ≠ .unregistered) : (db.customers.get? c).isSome := by
  cases stage with
  | unregistered => exact absurd rfl known
  | registered | refunded => exact stored
  | browsing | carted | checkedOut | ordered | paid => exact stored.1

/-- Nothing that happens to somebody else changes it. -/
theorem Stored.frame {db db' : Db} {c other : UUID} {stage : Stage} (stored : Stored db other stage)
    (keeps : Others c db db') (ne : other ≠ c) : Stored db' other stage := by
  have same := keeps.customers other ne
  have visiting : ∀ id, Visiting db other id → Visiting db' other id := by
    rintro id ⟨row, found, own⟩
    exact ⟨row, (keeps.sessions.iff own ne).mpr found, own⟩
  cases stage with
  | unregistered | registered | refunded =>
    unfold Stored
    rw [same]
    exact stored
  | browsing id =>
    obtain ⟨customer, session, unused⟩ := stored
    refine ⟨same ▸ customer, visiting id session, ?_⟩
    intro cartId cart found own
    exact unused cartId cart ((keeps.carts.iff own ne).mp found) own
  | carted p =>
    obtain ⟨customer, session, ⟨cart, of_⟩, bounds⟩ := stored
    have found := (keeps.carts.iff of_.customerId ne).mpr of_.found
    exact ⟨same ▸ customer, visiting _ session, ⟨cart, { of_ with found }⟩, bounds⟩
  | checkedOut p =>
    obtain ⟨customer, session, ⟨cart, of_⟩, bounds⟩ := stored
    have found := (keeps.carts.iff of_.customerId ne).mpr of_.found
    exact ⟨same ▸ customer, visiting _ session, ⟨cart, { of_ with found }⟩, bounds⟩
  | ordered p =>
    obtain ⟨customer, ⟨order, of_⟩, bounds⟩ := stored
    have found := (keeps.orders.iff of_.customerId ne).mpr of_.found
    exact ⟨same ▸ customer, ⟨order, { of_ with found }⟩, bounds⟩
  | paid p q =>
    obtain ⟨customer, ⟨order, of_⟩, ⟨payment, paid⟩, unrefunded⟩ := stored
    have ordered := (keeps.orders.iff of_.customerId ne).mpr of_.found
    have found := (keeps.payments.iff paid.customerId ne).mpr paid.found
    refine ⟨same ▸ customer, ⟨order, { of_ with found := ordered }⟩, ⟨payment, { paid with found }⟩,
      ?_⟩
    intro id row refund own
    exact unrefunded id row ((keeps.refunds.iff own ne).mp refund) own

/-! ### Where the keys come from -/

/-- Every key of the tables is among these identifiers, and rows refer to rows of the same
customer. -/
structure Traced (db : Db) (ids filled : List UUID) : Prop where
  sessions : ∀ id row, db.sessions.get? id = some row → id ∈ ids
  carts : ∀ id row, db.carts.get? id = some row →
    id ∈ filled ∧ (db.sessions.get? row.sessionId).isSome
  lines : ∀ key item, db.cartItems.get? key = some item → key.1 ∈ filled
  orders : ∀ id row, db.orders.get? id = some row → id ∈ ids
  payments : ∀ id row, db.payments.get? id = some row → id ∈ ids ∧ row.eventId ∈ ids
  refunds : ∀ id row, db.refunds.get? id = some row → (id ∈ ids ∧ row.eventId ∈ ids) ∧
    ∃ payment, db.payments.get? row.paymentId = some payment ∧ payment.customerId = row.customerId

theorem Traced.mono {db : Db} {ids ids' filled filled' : List UUID} (h : Traced db ids filled)
    (more : ∀ id ∈ ids, id ∈ ids') (more' : ∀ id ∈ filled, id ∈ filled') :
    Traced db ids' filled' where
  sessions id row found := more id (h.sessions id row found)
  carts id row found := ⟨more' id (h.carts id row found).1, (h.carts id row found).2⟩
  lines key item found := more' key.1 (h.lines key item found)
  orders id row found := more id (h.orders id row found)
  payments id row found := ⟨more id (h.payments id row found).1, more _ (h.payments id row found).2⟩
  refunds id row found :=
    ⟨⟨more id (h.refunds id row found).1.1, more _ (h.refunds id row found).1.2⟩,
      (h.refunds id row found).2⟩

/-- A write of the customer's own rows, under keys from these. -/
def Fits (c : UUID) (ids filled : List UUID) (db : Db) : Write → Prop
  | .customers id _ => id = c
  | .sessions id row => row.customerId = c ∧ id ∈ ids ∧ db.sessions.get? id = none
  | .productViews _ _ => True
  | .carts id row =>
    row.customerId = c ∧ (id ∈ filled ∧ (db.sessions.get? row.sessionId).isSome) ∧
      ∀ old, db.carts.get? id = some old → old.customerId = c
  | .cartItems key _ => key.1 ∈ filled
  | .orders id row =>
    row.customerId = c ∧ id ∈ ids ∧ ∀ old, db.orders.get? id = some old → old.customerId = c
  | .payments id row =>
    row.customerId = c ∧ (id ∈ ids ∧ row.eventId ∈ ids) ∧
      ∀ old, db.payments.get? id = some old → old.customerId = c
  | .refunds id row =>
    row.customerId = c ∧ (id ∈ ids ∧ row.eventId ∈ ids) ∧ db.refunds.get? id = none ∧
      ∃ payment, db.payments.get? row.paymentId = some payment ∧ payment.customerId = c
  | _ => False

/-- All of them do, each on what the ones before it left. -/
def FitAll (c : UUID) (ids filled : List UUID) : Db → List Write → Prop
  | _, [] => True
  | db, w :: ws => Fits c ids filled db w ∧ FitAll c ids filled (db.apply w) ws

section

variable {arith : Arithmetic} {c : UUID} {ids filled : List UUID} {db : Db}

/-- A key is not there if it would have to be among these. -/
theorem absent_of_fresh {ρ : Type} {rows : Dict UUID ρ} {id : UUID} {known : List UUID}
    (traced : ∀ row, rows.get? id = some row → id ∈ known) (fresh : id ∉ known) :
    rows.get? id = none := by
  cases found : rows.get? id with
  | none => rfl
  | some row => exact absurd (traced row found) fresh

/-- Whatever is found under a key that is not there. -/
theorem forall_absent {ρ : Type} {P : ρ → Prop} {rows : Dict UUID ρ} {id : UUID}
    (absent : rows.get? id = none) : ∀ old, rows.get? id = some old → P old := by
  intro old found
  rw [absent] at found
  cases found

/-- Whatever is found under the key of a row is that row. -/
theorem forall_found {ρ : Type} {P : ρ → Prop} {rows : Dict UUID ρ} {id : UUID} {row : ρ}
    (found : rows.get? id = some row) (here : P row) : ∀ old, rows.get? id = some old → P old := by
  intro old again
  rw [found] at again
  cases again
  exact here

theorem Fits.others {w : Write} (fits : Fits c ids filled db w) : Others c db (db.apply w) := by
  have unchanged := Others.refl c db
  cases w with
  | customers id row =>
    refine { unchanged with customers := ?_ }
    intro key other
    exact Dict.get?_set_ne _ _ fun same => other (same.trans fits)
  | sessions id row =>
    exact { unchanged with sessions := .set fits.1 (forall_absent fits.2.2) }
  | productViews id row => exact { unchanged with }
  | carts id row => exact { unchanged with carts := .set fits.1 fits.2.2 }
  | cartItems id row => exact { unchanged with }
  | orders id row => exact { unchanged with orders := .set fits.1 fits.2.2 }
  | payments id row => exact { unchanged with payments := .set fits.1 fits.2.2 }
  | refunds id row =>
    exact { unchanged with refunds := .set fits.1 (forall_absent fits.2.2.1) }
  | processedEvents | fraudEvaluations | fraudAlerts | fraudOutbox => exact fits.elim

/-- What holds of the new row and of the others holds of all. -/
theorem forall_set {κ ρ : Type} [DecidableEq κ] {P : κ → ρ → Prop} {rows : Dict κ ρ} {id : κ}
    {new : ρ} (here : P id new) (there : ∀ key row, rows.get? key = some row → P key row) :
    ∀ key row, (rows.set id new).get? key = some row → P key row := by
  intro key row found
  rw [Dict.get?_set] at found
  split at found
  · rename_i same
    cases found
    exact same ▸ here
  · exact there key row found

theorem isSome_set {κ ρ : Type} [DecidableEq κ] {rows : Dict κ ρ} {id key : κ} {new : ρ}
    (present : (rows.get? key).isSome) : ((rows.set id new).get? key).isSome := by
  rw [Dict.get?_set]
  split
  · rfl
  · exact present

theorem Fits.traced {w : Write} (fits : Fits c ids filled db w) (h : Traced db ids filled) :
    Traced (db.apply w) ids filled := by
  cases w with
  | customers | productViews => exact { h with }
  | sessions id row =>
    refine { h with sessions := forall_set fits.2.1 h.sessions, carts := ?_ }
    intro cartId cart found
    exact ⟨(h.carts cartId cart found).1, isSome_set (h.carts cartId cart found).2⟩
  | carts id row => exact { h with carts := forall_set fits.2.1 h.carts }
  | cartItems key row => exact { h with lines := forall_set fits h.lines }
  | orders id row => exact { h with orders := forall_set fits.2.1 h.orders }
  | payments id row =>
    refine { h with payments := forall_set fits.2.1 h.payments, refunds := ?_ }
    intro refundId refund found
    obtain ⟨known, payment, paid, owner⟩ := h.refunds refundId refund found
    refine ⟨known, ?_⟩
    by_cases here : refund.paymentId = id
    · -- The payment is the one that is written again, for the same customer.
      subst here
      refine ⟨row, Dict.get?_set_self _ _ _, ?_⟩
      rw [fits.1, ← owner]
      exact (fits.2.2 payment paid).symm
    · exact ⟨payment, (Dict.get?_set_ne _ _ here).trans paid, owner⟩
  | refunds id row =>
    obtain ⟨own, known, -, payment, paid, owner⟩ := fits
    refine { h with refunds := forall_set ?_ h.refunds }
    exact ⟨known, payment, paid, owner.trans own.symm⟩
  | processedEvents | fraudEvaluations | fraudAlerts | fraudOutbox => exact fits.elim

theorem FitAll.others {ws : List Write} (fit : FitAll c ids filled db ws) :
    Others c db ((database arith).view db ws) := by
  induction ws generalizing db with
  | nil => exact .refl c db
  | cons w ws ih => exact fit.1.others.trans (ih fit.2)

theorem FitAll.traced {ws : List Write} (fit : FitAll c ids filled db ws)
    (h : Traced db ids filled) : Traced ((database arith).view db ws) ids filled := by
  induction ws generalizing db with
  | nil => exact h
  | cons w ws ih => exact ih fit.2 (fit.1.traced h)

/-- No write removes a cart. -/
theorem view_cart {ws : List Write} {id : UUID} (present : (db.carts.get? id).isSome) :
    (((database arith).view db ws).carts.get? id).isSome := by
  induction ws generalizing db with
  | nil => exact present
  | cons w ws ih =>
    refine ih ?_
    cases w <;> first
      | exact present
      | exact isSome_set present

end

end CommercePlatform.Persistence
