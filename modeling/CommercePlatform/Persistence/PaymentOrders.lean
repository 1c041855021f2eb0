import CommercePlatform.Persistence.CartConversion

/-!
Payments and the currency of their orders.

A payment is accepted in the currency of its order, and no later transaction changes the
currency of an order: the order row is locked whenever it is written.
-/

namespace CommercePlatform.Persistence

open Contract Fraud Schema

/-- Every payment has an order, in the same currency. -/
def PaymentsPriced (db : Db) : Prop :=
  ∀ id payment, db.payments.get? id = some payment →
    ∃ order, db.orders.get? payment.orderId = some order ∧ order.currency = payment.currency

theorem paymentsPriced_empty : PaymentsPriced {} := fun _ _ found => by simp at found

section

variable {db db' : Db} (h : PaymentsPriced db) {id : UUID}

include h

theorem PaymentsPriced.congr (payments : db'.payments = db.payments) (orders : db'.orders = db.orders) :
    PaymentsPriced db' := by
  intro key payment found
  rw [orders]
  exact h key payment (payments ▸ found)

/-- An order may be added, or written in its currency. -/
theorem PaymentsPriced.setOrder {order : Order}
    (currency : ∀ old, db.orders.get? id = some old → order.currency = old.currency)
    (orders : db'.orders = db.orders.set id order) (payments : db'.payments = db.payments) :
    PaymentsPriced db' := by
  intro key payment found
  obtain ⟨old, present, same⟩ := h key payment (payments ▸ found)
  rw [orders]
  by_cases eq : payment.orderId = id
  · rw [eq] at present ⊢
    exact ⟨order, Dict.get?_set_self _ _ _, (currency old present).trans same⟩
  · exact ⟨old, by rw [Dict.get?_set_ne _ _ eq]; exact present, same⟩

/-- A payment may be written in the currency of its order. -/
theorem PaymentsPriced.setPayment {payment : Payment}
    (order : ∃ order, db.orders.get? payment.orderId = some order ∧
      order.currency = payment.currency)
    (payments : db'.payments = db.payments.set id payment) (orders : db'.orders = db.orders) :
    PaymentsPriced db' := by
  intro key row found
  rw [orders]
  rw [payments, Dict.get?_set] at found
  split at found
  · cases found; exact order
  · exact h key row found

end

/-! ### What the locks guard -/

def pricedTables (t : Table) : Bool := t = .payments ∨ t = .orders

/-- A locked payment or order keeps its row. -/
def pricedAgree : Lock → Db → Db → Prop
  | .row .payments id, db, db' => db'.payments.get? id = db.payments.get? id
  | .row .orders id, db, db' => db'.orders.get? id = db.orders.get? id
  | _, _, _ => True

theorem pricedAgree_of {db db' : Db} {l : Lock}
    (payments : ∀ id, l = .row .payments id → db'.payments.get? id = db.payments.get? id)
    (orders : ∀ id, l = .row .orders id → db'.orders.get? id = db.orders.get? id) :
    pricedAgree l db db' := by
  unfold pricedAgree
  split
  · exact payments _ rfl
  · exact orders _ rfl
  · trivial

theorem pricedAgree_guard (arith : Arithmetic) : IsGuard (D := database arith) pricedAgree where
  refl l db := pricedAgree_of (fun _ _ => rfl) fun _ _ => rfl
  trans l db db' db'' first next := by
    unfold pricedAgree at *
    split
    · exact next.trans first
    · exact next.trans first
    · trivial

/-! ### The bodies -/

section

variable {arith : Arithmetic}

def Priced (arith : Arithmetic) (c : (database arith).Committed PersistCall) : Prop :=
  PaymentsPriced c.db

abbrev KnowsPriced (arith : Arithmetic) (rel : List Write) (need : List Lock) (P : Db → Prop) :
    Assn (database arith) PersistCall :=
  Holds (D := database arith) (Priced arith) (touches pricedTables) rel need P

abbrev PricedSettled (arith : Arithmetic) (call : PersistCall) :
    Assn (database arith) PersistCall :=
  Settled (D := database arith) (Priced arith) pricedAgree (touches pricedTables) call

abbrev pricedWp {α : Type} (p : Sql α) (Q : α → Assn (database arith) PersistCall) :
    Assn (database arith) PersistCall :=
  wp (D := database arith) (Priced arith) pricedAgree p Q

theorem priced_seen (db : Db) {ws rel : List Write}
    (only : ws.filter (touches pricedTables) = rel) :
    ((database arith).view db ws).payments = ((database arith).view db rel).payments ∧
      ((database arith).view db ws).orders = ((database arith).view db rel).orders := by
  have same := only ▸ @restrict_view_filter arith pricedTables db ws
  constructor
  · simpa [Db.restrict, pricedTables] using congrArg Db.payments same
  · simpa [Db.restrict, pricedTables] using congrArg Db.orders same

variable {call : PersistCall} {c : (database arith).Committed PersistCall} {ws : List Write}
  {ls : List Lock}

theorem pricedSettled_of (rel : List Write) {need : List Lock} {P : Db → Prop}
    (guards : Guards (D := database arith) pricedAgree need P)
    (h : KnowsPriced arith rel need P c ws ls)
    (keep : ∀ db db', PaymentsPriced db → P db →
      db'.payments = ((database arith).view db rel).payments →
      db'.orders = ((database arith).view db rel).orders →
      PaymentsPriced db' ∧ ∀ l, l ∉ need → pricedAgree l db db') :
    PricedSettled arith call c ws ls := by
  refine ⟨rel, need, P, guards, h, fun c' ws' inv known only _ => ?_⟩
  obtain ⟨payments, orders⟩ := @priced_seen arith c'.db _ _ only
  exact keep c'.db ((database arith).view c'.db ws') inv known payments orders

theorem nothing_priced : Guards (D := database arith) pricedAgree [] fun _ => True :=
  fun _ _ _ _ => trivial

theorem pricedSettled_nil (h : KnowsPriced arith [] [] (fun _ => True) c ws ls) :
    PricedSettled arith call c ws ls := by
  refine pricedSettled_of [] nothing_priced h fun db db' priced _ payments orders => ?_
  have payments : db'.payments = db.payments := payments
  have orders : db'.orders = db.orders := orders
  exact ⟨priced.congr payments orders, fun l _ =>
    pricedAgree_of (fun _ _ => by rw [payments]) fun _ _ => by rw [orders]⟩

/-- A payment row under its lock may be committed, when its order is known. -/
theorem setPayment_settled {paymentId : UUID} {row : Payment} {need : List Lock} {P : Db → Prop}
    (guards : Guards (D := database arith) pricedAgree need P)
    (locked : .row .payments paymentId ∈ need)
    (orderOf : ∀ db, PaymentsPriced db → P db → ∃ order, db.orders.get? row.orderId = some order ∧
      order.currency = row.currency)
    (h : KnowsPriced arith [.payments paymentId row] need P c ws ls) :
    PricedSettled arith call c ws ls := by
  refine pricedSettled_of _ guards h fun db db' priced known payments orders => ?_
  have payments : db'.payments = db.payments.set paymentId row := payments
  have orders : db'.orders = db.orders := orders
  refine ⟨priced.setPayment (orderOf db priced known) payments orders, fun l free => ?_⟩
  refine pricedAgree_of (fun key eq => ?_) fun _ _ => by rw [orders]
  rw [payments, Dict.get?_set_ne _ _ fun same => free (by rw [eq, same]; exact locked)]

/-- The order of a payment may be updated after it. -/
theorem updateOrder_priced (row : Payment) {paymentId orderId eventId : UUID} {status : OrderStatus}
    {need : List Lock} {P : Db → Prop}
    (guards : Guards (D := database arith) pricedAgree need P)
    (locked : .row .payments paymentId ∈ need)
    (orderOf : ∀ db, PaymentsPriced db → P db → ∃ order, db.orders.get? row.orderId = some order ∧
      order.currency = row.currency)
    (f : (Stmt.updateOrder orderId status eventId).Result → Sql RowCounts)
    (returns : ∀ r, ∃ counts, f r = pure counts)
    (h : KnowsPriced arith [.payments paymentId row] need P c ws ls) :
    pricedWp (sql (.updateOrder orderId status eventId) >>= f)
      (fun _ => PricedSettled arith call) c ws ls := by
  refine wp_sql guards h fun c h seen view _ count _ => ?_
  obtain ⟨counts, eq⟩ := returns count
  rw [eq]
  have orders : seen.orders = c.db.orders := view ▸ (priced_seen c.db h.rel).2
  cases found : c.db.orders.get? orderId with
  | none =>
    exact setPayment_settled guards locked orderOf
      (h.skip (by simp [Stmt.writes, orders, found]) _)
  | some old =>
    set order : Order := { old with status := status, latestEventId := eventId } with orderEq
    have guards' : Guards (D := database arith) pricedAgree (.row .orders orderId :: need)
        fun db => P db ∧ db.orders.get? orderId = some old := by
      intro db db' same known
      have sameOrder : pricedAgree (.row .orders orderId) db db' := same _ List.mem_cons_self
      exact ⟨guards db db' (fun l mem => same l (List.mem_cons_of_mem _ mem)) known.1,
        sameOrder.trans known.2⟩
    refine pricedSettled_of [.payments paymentId row, .orders orderId order] guards'
      ⟨h.inv, ?_, ?_, h.known, found⟩ fun db db' priced known payments orders => ?_
    · rw [List.filter_append, h.rel]
      simp only [Stmt.writes, orders, found, Option.map_some, Option.toList_some, orderEq]
      rfl
    · intro l mem
      rcases List.mem_cons.mp mem with rfl | held
      · exact List.mem_append_right _ (by simp [Stmt.locks, Stmt.lockRow, orders, found])
      · exact List.mem_append_left _ (h.need l held)
    · have payments : db'.payments = db.payments.set paymentId row := payments
      have orders : db'.orders = db.orders.set orderId order := orders
      have paid : PaymentsPriced (db.apply (.payments paymentId row)) :=
        priced.setPayment (orderOf db priced known.1) rfl rfl
      refine ⟨paid.setOrder (fun old' present => ?_) orders payments, fun l free => ?_⟩
      · have present : db.orders.get? orderId = some old' := present
        rw [known.2] at present
        cases present
        rfl
      · refine pricedAgree_of (fun key eq => ?_) fun key eq => ?_
        · rw [payments, Dict.get?_set_ne _ _ fun same => free ?_]
          rw [eq, same]
          exact List.mem_cons_of_mem _ locked
        · rw [orders, Dict.get?_set_ne _ _ fun same => free ?_]
          rw [eq, same]
          exact List.mem_cons_self

/-- A new order under its lock may be committed. -/
theorem setOrder_settled (order : Order) {orderId : UUID}
    (h : KnowsPriced arith [.orders orderId order] [.row .orders orderId]
      (fun db => db.orders.get? orderId = none) c ws ls) :
    PricedSettled arith call c ws ls := by
  refine pricedSettled_of _ (fun db db' same known => ?_) h
    fun db db' priced known payments orders => ?_
  · have sameOrder : pricedAgree (.row .orders orderId) db db' := same _ (by simp)
    exact sameOrder.trans known
  · have payments : db'.payments = db.payments := payments
    have orders : db'.orders = db.orders.set orderId order := orders
    refine ⟨priced.setOrder (fun old present => ?_) orders payments, fun l free => ?_⟩
    · rw [known] at present
      cases present
    · refine pricedAgree_of (fun _ _ => by rw [payments]) fun key eq => ?_
      rw [orders, Dict.get?_set_ne _ _ fun same => free (by rw [eq, same]; simp)]

theorem insertOrder_wrote {orderId : UUID} {row : Order} {seen : Db} {count : Nat}
    (counted : count = (Stmt.insertOrder orderId row).answer seen) (added : count ≠ 0) :
    seen.orders.get? orderId = none ∧
      .row .orders orderId ∈ (Stmt.insertOrder orderId row).locks seen ∧
      ∃ order, (Stmt.insertOrder orderId row).writes arith seen = [.orders orderId order] := by
  subst counted
  have absent : seen.orders.get? orderId = none := Stmt.absent_of_inserted added
  exact ⟨absent, by simp [Stmt.locks, Stmt.addKey, absent], _, by simp [Stmt.writes, absent]; rfl⟩

theorem insertOrder_priced {payload : OrderCreatedPayload} {eventId : UUID}
    (h : KnowsPriced arith [] [] (fun _ => True) c ws ls) :
    pricedWp (insertOrder payload eventId) (fun _ => PricedSettled arith call) c ws ls := by
  refine wp_sql nothing_priced h fun c h seen _ _ cart _ => ?_
  split
  · trivial
  refine wp_ite (fun _ => trivial) fun _ => ?_
  refine wp_sql nothing_priced (holds_statement (by simp [Stmt.target]) h seen)
    fun c h seen view _ count counted => ?_
  split
  · trivial
  rename_i added
  obtain ⟨absent, locked, order, wrote⟩ := @insertOrder_wrote arith _ _ _ _ counted added
  rw [view, (priced_seen c.db h.rel).2] at absent
  refine wp_settled (Writes.irrelevant (T := [.carts])
    (.bind (.update rfl (by simp)) fun _ => .pure _) (by decide)) ?_
  refine setOrder_settled order ⟨h.inv, ?_, fun l mem => ?_, absent⟩
  · rw [List.filter_append, h.rel, wrote]
    rfl
  · rw [List.mem_singleton.mp mem]
    exact List.mem_append_right _ locked

/-- The payment of a locked order. -/
theorem payOrder_priced {paymentId : UUID} {row : Payment} {order : Order}
    (currency : order.currency = row.currency)
    (h : KnowsPriced arith [] [.row .orders row.orderId]
      (fun db => db.orders.get? row.orderId = some order) c ws ls) :
    pricedWp (do
        let payments : Nat ← sql (.insertPayment paymentId row)
        if payments = 0 then raise .permanentDatabaseIntegrityError "payment identity conflict"
        else if row.status = .completed then
          let orders : Nat ← sql (.updateOrder row.orderId .paid row.eventId)
          return [(Table.payments, payments), (Table.orders, orders)]
        else return [(Table.payments, payments), (Table.orders, 0)])
      (fun _ => PricedSettled arith call) c ws ls := by
  have guards : Guards (D := database arith) pricedAgree [.row .orders row.orderId]
      fun db => db.orders.get? row.orderId = some order := by
    intro db db' same known
    have sameOrder : pricedAgree (.row .orders row.orderId) db db' := same _ (by simp)
    exact sameOrder.trans known
  refine wp_sql guards h fun c h seen _ _ count counted => ?_
  split
  · trivial
  rename_i added
  subst counted
  have absent : seen.payments.get? paymentId = none := Stmt.absent_of_inserted added
  set paid : Payment := { row with amount := arith.stored row.amount } with paidEq
  have h : KnowsPriced arith [.payments paymentId paid]
      [.row .payments paymentId, .row .orders row.orderId]
      (fun db => db.orders.get? row.orderId = some order) c
      (ws ++ (Stmt.insertPayment paymentId row).writes arith seen)
      (ls ++ (Stmt.insertPayment paymentId row).locks seen) := by
    refine ⟨h.inv, ?_, ?_, h.known⟩
    · rw [List.filter_append, h.rel]
      simp [Stmt.writes, absent, paidEq, touches, pricedTables, Write.table]
    · simp only [List.forall_mem_cons]
      refine ⟨List.mem_append_right _ ?_, List.mem_append_left _ (h.need _ (by simp)), by simp⟩
      simp [Stmt.locks, absent]
  have guards : Guards (D := database arith) pricedAgree
      [.row .payments paymentId, .row .orders row.orderId]
      fun db => db.orders.get? row.orderId = some order :=
    fun db db' same known => guards db db' (fun l mem => same l (List.mem_cons_of_mem _ mem)) known
  have orderOf : ∀ db, PaymentsPriced db → db.orders.get? row.orderId = some order →
      ∃ order, db.orders.get? paid.orderId = some order ∧ order.currency = paid.currency :=
    fun db _ known => ⟨order, known, currency⟩
  split
  · exact updateOrder_priced paid guards (by simp) orderOf _ (fun _ => ⟨_, rfl⟩) h
  · exact setPayment_settled guards (by simp) orderOf h

theorem insertPayment_priced {paymentId : UUID} {row : Payment}
    (h : KnowsPriced arith [] [] (fun _ => True) c ws ls) :
    pricedWp (insertPayment paymentId row) (fun _ => PricedSettled arith call) c ws ls := by
  refine wp_sql nothing_priced h fun c h seen view _ fetched answered => ?_
  split
  · trivial
  rename_i order
  refine wp_ite (fun _ => trivial) fun agree => ?_
  simp only [not_or, not_not] at agree
  have present : seen.orders.get? row.orderId = some order := answered.symm
  have found : c.db.orders.get? row.orderId = some order := by
    rw [← present, view, (priced_seen c.db h.rel).2]
    rfl
  refine payOrder_priced agree.2.2 ⟨h.inv, ?_, fun l mem => List.mem_append_right _ ?_, found⟩
  · simpa [Stmt.writes] using h.rel
  · simpa [Stmt.locks, Stmt.lockRow, present] using mem

theorem insertRefund_priced {payload : RefundRequestedPayload} {eventId : UUID}
    (h : KnowsPriced arith [] [] (fun _ => True) c ws ls) :
    pricedWp (insertRefund arith payload eventId) (fun _ => PricedSettled arith call) c ws ls := by
  refine wp_sql nothing_priced h fun c h seen view _ fetched answered => ?_
  split
  · trivial
  rename_i payment
  refine wp_ite (fun _ => trivial) fun _ => wp_ite (fun _ => trivial) fun _ => ?_
  have present : seen.payments.get? payload.paymentId = some payment := answered.symm
  have found : c.db.payments.get? payload.paymentId = some payment := by
    rw [← present, view, (priced_seen c.db h.rel).1]
    rfl
  have locked : KnowsPriced arith [] [.row .payments payload.paymentId]
      (fun db => db.payments.get? payload.paymentId = some payment) c
      (ws ++ (Stmt.lockPayment payload.paymentId).writes arith seen)
      (ls ++ (Stmt.lockPayment payload.paymentId).locks seen) := by
    have h := holds_statement (s := .lockPayment payload.paymentId) (by simp [Stmt.target]) h seen
    refine ⟨h.inv, h.rel, fun l mem => List.mem_append_right _ ?_, found⟩
    simpa [Stmt.locks, Stmt.lockRow, present] using mem
  have guards : Guards (D := database arith) pricedAgree [.row .payments payload.paymentId]
      fun db => db.payments.get? payload.paymentId = some payment := by
    intro db db' same known
    have samePayment : pricedAgree (.row .payments payload.paymentId) db db' := same _ (by simp)
    exact samePayment.trans known
  refine wp_sql guards locked fun c h seen _ _ refunded _ => ?_
  refine wp_compute fun asked _ => wp_ite (fun _ => trivial) fun _ => ?_
  refine wp_sql guards (holds_statement (by simp [Stmt.target]) h seen)
    fun c h seen _ _ count _ => ?_
  split
  · trivial
  refine wp_compute fun newTotal _ => ?_
  refine wp_sql guards (holds_statement (by simp [Stmt.target, pricedTables]) h seen)
    fun c h seen view _ _ _ => ?_
  have paid : seen.payments.get? payload.paymentId = some payment := by
    rw [view, (priced_seen c.db h.rel).1]
    exact h.known
  set row : Payment := { payment with
    status := if newTotal = payment.amount then .refunded else .partiallyRefunded } with rowEq
  refine updateOrder_priced row guards (by simp) (fun db priced known => ?_) _ (fun _ => ⟨_, rfl⟩)
    (?_ : KnowsPriced arith [.payments payload.paymentId row] _ _ c _ _)
  · exact priced payload.paymentId payment known
  · refine ⟨h.inv, ?_, fun l mem => List.mem_append_left _ (h.need l mem), h.known⟩
    rw [List.filter_append, h.rel]
    simp only [Stmt.writes, paid, Option.map_some, Option.toList_some]
    rfl

/-! #### The whole transaction -/

variable (call) in
theorem applyHandler_priced (rt : Runtime) (h : KnowsPriced arith [] [] (fun _ => True) c ws ls) :
    pricedWp (applyHandler rt arith call.event) (fun _ => PricedSettled arith call) c ws ls := by
  have frame {p : Sql RowCounts} {ts : List Table} (writes : Writes ts p)
      (elsewhere : ∀ t ∈ ts, pricedTables t = false) :
      pricedWp p (fun _ => PricedSettled arith call) c ws ls :=
    wp_settled (writes.irrelevant elsewhere) (pricedSettled_nil h)
  have writes := applyHandler_writes rt arith call.event
  unfold applyHandler at writes ⊢
  unfold EventEnvelope.eventType at writes
  cases payload : call.event.payload with
  | orderCreated p => exact insertOrder_priced h
  | paymentCompleted p => exact insertPayment_priced h
  | paymentFailed p => exact insertPayment_priced h
  | refundRequested p => exact insertRefund_priced h
  | _ =>
    rw [payload] at writes
    exact frame writes (by simp [handlerTables, Payload.eventType, pricedTables])

end

theorem transaction_priced (uow : UnitOfWork) (call : PersistCall) :
    Keeps (D := database uow.arith) (Priced uow.arith) pricedAgree uow.transaction call := by
  intro c inv
  have weaken : ∀ (_ : PersistenceResult) c ws ls, PricedSettled uow.arith call c ws ls →
      CommitSafe (D := database uow.arith) (Priced uow.arith) pricedAgree call c ws ls :=
    fun _ _ _ _ settled => settled.commitSafe
  refine wp_mono ?_ weaken
  unfold UnitOfWork.transaction
  have begins : KnowsPriced uow.arith [] [] (fun _ => True) c [] [] :=
    ⟨inv, rfl, by simp, trivial⟩
  refine wp_then (wp_frame ((insertIdentity_writes _ _ _ _ _).irrelevant (by decide))
    nothing_priced begins) fun _ c ws ls h => ?_
  refine wp_then (applyHandler_priced call _ h) fun counts c ws ls settled => ?_
  refine wp_ite (fun _ => ?_) fun _ => settled
  exact wp_settled ((fraudStage_writes uow call _).irrelevant (by decide)) settled

/-- In every committed state every payment has an order in its currency. -/
theorem run_priced {ι : Type} [DecidableEq ι] {uow : UnitOfWork} {start : Db}
    (priced : PaymentsPriced start) {acts : List (ι × Act PersistCall)} {st : uow.Sessions ι}
    (ran : (uow.sessions ι).run (uow.startFrom start) acts = some st) :
    PaymentsPriced st.committed.db := by
  have init : Priced uow.arith (uow.startFrom (ι := ι) start).committed := priced
  exact run_inv (pricedAgree_guard _) (fun _ call _ => transaction_priced uow call) init ran

end CommercePlatform.Persistence
