import CommercePlatform.Persistence.UnitOfWork

/-!
What a statement leaves alone.

`Db.restrict` forgets all tables but some; what a transaction sees of these depends
on its writes to them only. Every body of the repositories writes the tables of its
statements' `target`, so an invariant about a few tables is proved from the few
statements that write them.
-/

namespace CommercePlatform.Persistence

open Contract Fraud Schema

/-- Only the tables of `keep`. -/
def Db.restrict (keep : Table → Bool) (db : Db) : Db where
  processedEvents := if keep .processedEvents then db.processedEvents else ∅
  customers := if keep .customers then db.customers else ∅
  sessions := if keep .sessions then db.sessions else ∅
  productViews := if keep .productViews then db.productViews else ∅
  carts := if keep .carts then db.carts else ∅
  cartItems := if keep .cartItems then db.cartItems else ∅
  orders := if keep .orders then db.orders else ∅
  payments := if keep .payments then db.payments else ∅
  refunds := if keep .refunds then db.refunds else ∅
  fraudEvaluations := if keep .fraudEvaluations then db.fraudEvaluations else ∅
  fraudAlerts := if keep .fraudAlerts then db.fraudAlerts else ∅
  fraudOutbox := if keep .fraudOutbox then db.fraudOutbox else ∅

/-- A write to one of the tables of `keep`. -/
def touches (keep : Table → Bool) (w : Write) : Bool := keep w.table

theorem restrict_apply (keep : Table → Bool) (db : Db) (w : Write) :
    (db.apply w).restrict keep =
      if touches keep w then (db.restrict keep).apply w else db.restrict keep := by
  cases kept : touches keep w <;> cases w <;> simp only [touches, Write.table] at kept <;>
    simp [Db.apply, Db.restrict, kept]

section

variable {arith : Arithmetic}

theorem restrict_view (keep : Table → Bool) (db : Db) (ws : List Write) :
    Db.restrict keep ((database arith).view db ws) =
      (database arith).view (db.restrict keep) (ws.filter (touches keep)) := by
  induction ws generalizing db with
  | nil => rfl
  | cons w ws ih =>
    have step : (database arith).view db (w :: ws) = (database arith).view (db.apply w) ws := rfl
    rw [step, ih, restrict_apply, List.filter_cons]
    cases touches keep w <;> rfl

/-- What is seen of some tables depends on the writes to them only. -/
theorem restrict_view_filter (keep : Table → Bool) (db : Db) (ws : List Write) :
    Db.restrict keep ((database arith).view db ws) =
      Db.restrict keep ((database arith).view db (ws.filter (touches keep))) := by
  rw [restrict_view, restrict_view, List.filter_filter]
  simp

/-- The answer, the writes and the passed constraints of a statement that ran. -/
theorem exec_ok {s : Stmt} {db : Db} {r : s.Result} {ws : List Write}
    (ran : (database arith).exec s db = .ok (r, ws)) :
    r = s.answer db ∧ ws = s.writes arith db ∧ ∀ c ∈ s.constraints arith db, c.1 = true := by
  simp only at ran
  split at ran
  · cases ran
  · rename_i passed
    cases ran
    refine ⟨rfl, rfl, fun c mem => ?_⟩
    simp only [firstFailure, Option.map_eq_none_iff, List.find?_eq_none] at passed
    simpa using passed c mem

theorem writes_target {s : Stmt} {db : Db} {w : Write} (mem : w ∈ s.writes arith db) :
    s.target = some w.table := by
  cases s <;> simp only [Stmt.writes] at mem
  all_goals first
    | (cases mem; done)
    | (obtain rfl := List.mem_singleton.mp mem; rfl)
    | skip
  all_goals repeat' split at mem
  all_goals first
    | (cases mem; done)
    | (obtain rfl := List.mem_singleton.mp mem; rfl)
    | skip
  all_goals
    obtain ⟨row, -, rfl⟩ := Option.map_eq_some_iff.mp (Option.mem_toList.mp mem)
    rfl

/-- One statement of a body: what it answered, wrote and passed. -/
theorem wp_sql {ρ α : Type} {Inv : (database arith).Committed ρ → Prop}
    {Agree : Lock → Db → Db → Prop} {relevant : Write → Bool} {rel : List Write}
    {need : List Lock} {P : Db → Prop} {c : (database arith).Committed ρ} {ws : List Write}
    {ls : List Lock} {s : Stmt} {f : s.Result → Sql α} {Q : α → Assn (database arith) ρ}
    (guards : Guards (D := database arith) Agree need P)
    (h : Holds (D := database arith) Inv relevant rel need P c ws ls)
    (next : ∀ c, Holds (D := database arith) Inv relevant rel need P c ws ls →
      ∀ seen, seen = (database arith).view c.db ws → (∀ x ∈ s.constraints arith seen, x.1 = true) →
      ∀ r, r = s.answer seen →
      wp (D := database arith) Inv Agree (f r) Q c (ws ++ s.writes arith seen)
        (ls ++ s.locks seen)) :
    wp (D := database arith) Inv Agree (sql s >>= f) Q c ws ls := by
  refine wp_call guards h fun c' holds r ws' ran => ?_
  obtain ⟨rfl, rfl, passed⟩ := exec_ok ran
  exact next c' holds _ rfl passed _ rfl

/-- A computation that raises ends the transaction. -/
theorem wp_compute {ρ α β : Type} {Inv : (database arith).Committed ρ → Prop}
    {Agree : Lock → Db → Db → Prop} {c : (database arith).Committed ρ} {ws : List Write}
    {ls : List Lock} {r : Except PyException α} {f : α → Sql β} {Q : β → Assn (database arith) ρ}
    (next : ∀ a, r = .ok a → wp (D := database arith) Inv Agree (f a) Q c ws ls) :
    wp (D := database arith) Inv Agree (compute r >>= f) Q c ws ls := by
  cases r with
  | error e => trivial
  | ok a => exact next a rfl

/-- A statement whose target is not among the tables is irrelevant to them. -/
theorem irrelevant_of_target {keep : Table → Bool} {s : Stmt}
    (elsewhere : ∀ t, s.target = some t → keep t = false) :
    Irrelevant (D := database arith) (touches keep) s := by
  intro db r ws ran w mem
  obtain ⟨-, rfl, -⟩ := exec_ok ran
  exact elsewhere w.table (writes_target mem)

/-- A statement that writes none of the tables changes nothing that is known. -/
theorem holds_statement {ρ : Type} {Inv : (database arith).Committed ρ → Prop}
    {keep : Table → Bool} {rel : List Write} {need : List Lock} {P : Db → Prop}
    {c : (database arith).Committed ρ} {ws : List Write} {ls : List Lock} {s : Stmt}
    (elsewhere : ∀ t, s.target = some t → keep t = false)
    (h : Holds (D := database arith) Inv (touches keep) rel need P c ws ls) (seen : Db) :
    Holds (D := database arith) Inv (touches keep) rel need P c (ws ++ s.writes arith seen)
      (ls ++ s.locks seen) :=
  h.skip (fun w mem => elsewhere w.table (writes_target mem)) _

end

/-! ### The tables a body writes -/

/-- The body writes no other tables than `ts`. -/
def Writes {α : Type} (ts : List Table) (p : Sql α) : Prop :=
  p.All fun s => ∀ t, s.target = some t → t ∈ ts

namespace Writes

variable {α β : Type} {T : List Table}

theorem query {s : Stmt} (quiet : s.target = none) : Writes T (sql s) :=
  ⟨fun t into => by simp [quiet] at into, fun _ => trivial⟩

theorem update {s : Stmt} {t : Table} (into : s.target = some t) (mem : t ∈ T) :
    Writes T (sql s) :=
  ⟨fun _ into' => (Option.some.inj (into.symm.trans into')) ▸ mem, fun _ => trivial⟩

theorem pure (a : α) : Writes T (Pure.pure a : Sql α) := trivial

theorem raise (cls : ErrorClass) (message : String) :
    Writes T (Persistence.raise cls message : Sql α) := trivial

theorem compute (r : Except PyException α) : Writes T (Persistence.compute r) := by
  cases r <;> trivial

theorem bind {p : Sql α} {f : α → Sql β} (first : Writes T p) (rest : ∀ a, Writes T (f a)) :
    Writes T (p >>= f) :=
  Prog.All.bind first rest

theorem ite {c : Prop} [Decidable c] {p q : Sql α} (then_ : Writes T p) (else_ : Writes T q) :
    Writes T (if c then p else q) := by
  split
  · exact then_
  · exact else_

theorem mono {S : List Table} {p : Sql α} (h : Writes T p) (sub : ∀ t ∈ T, t ∈ S) :
    Writes S p :=
  Prog.All.mono h fun _ targets t into => sub t (targets t into)

theorem irrelevant {arith : Arithmetic} {keep : Table → Bool} {p : Sql α} (h : Writes T p)
    (elsewhere : ∀ t ∈ T, keep t = false) :
    p.All (Irrelevant (D := database arith) (touches keep)) :=
  Prog.All.mono h fun _ targets => irrelevant_of_target fun t into => elsewhere t (targets t into)

end Writes

section

variable (rt : Runtime) (arith : Arithmetic) (eventId : UUID)

theorem insertIdentity_writes (event : EventEnvelope) (message : ConsumedMessage)
    (processorInstanceId : String) (persistRawJson : Bool) :
    Writes [.processedEvents]
      (insertIdentity rt event message processorInstanceId persistRawJson) := by
  refine .bind (.query rfl) fun existing => ?_
  split
  · split <;> exact .raise _ _
  · refine .bind (.query rfl) fun source => ?_
    split
    · exact .raise _ _
    · exact .bind (.update rfl (by simp)) fun _ => .pure _

theorem registerCustomer_writes (payload : UserRegisteredPayload) :
    Writes [.customers] (registerCustomer payload eventId) := by
  refine .bind (.query rfl) fun existing => ?_
  split
  · split
    · exact .raise _ _
    · exact .bind (.update rfl (by simp)) fun _ => .pure _
  · exact .bind (.update rfl (by simp)) fun _ => .pure _

theorem requireCustomer_writes (customerId : UUID) : Writes [] (requireCustomer customerId) := by
  refine .bind (.query rfl) fun found => ?_
  split
  · exact .pure _
  · exact .raise _ _

theorem requireSession_writes (sessionId : UUID) : Writes [] (requireSession sessionId) := by
  refine .bind (.query rfl) fun found => ?_
  split
  · exact .pure _
  · exact .raise _ _

theorem insertSession_writes (payload : SessionStartedPayload) :
    Writes [.sessions] (insertSession payload eventId) := by
  refine .bind ((requireCustomer_writes _).mono (by simp)) fun _ => .bind (.query rfl) fun found => ?_
  split
  · split
    · exact .raise _ _
    · exact .pure _
  · exact .bind (.update rfl (by simp)) fun _ => .pure _

theorem insertProductView_writes (payload : ProductViewedPayload) (viewedAt : Instant) :
    Writes [.productViews] (insertProductView payload eventId viewedAt) :=
  .bind ((requireCustomer_writes _).mono (by simp)) fun _ =>
    .bind ((requireSession_writes _).mono (by simp)) fun _ => .update rfl (by simp)

theorem addItem_writes (payload : AddedToCartPayload) :
    Writes [.carts, .cartItems] (addItem arith payload eventId) := by
  refine .bind ((requireCustomer_writes _).mono (by simp)) fun _ =>
    .bind ((requireSession_writes _).mono (by simp)) fun _ => .bind (.compute _) fun lineTotal =>
    .bind (.update rfl (by simp)) fun carts => ?_
  split
  · exact .raise _ _
  · exact .bind (.update rfl (by simp)) fun _ => .bind (.update rfl (by simp)) fun _ => .pure _

theorem checkout_writes (payload : CheckoutStartedPayload) :
    Writes [.carts] (checkout payload eventId) := by
  refine .bind (.query rfl) fun row => ?_
  split
  · exact .raise _ _
  · exact .ite (.raise _ _) (.update rfl (by simp))

theorem insertOrder_writes (payload : OrderCreatedPayload) :
    Writes [.orders, .carts] (insertOrder payload eventId) := by
  refine .bind (.query rfl) fun cart => ?_
  split
  · exact .raise _ _
  · split
    · exact .raise _ _
    · refine .bind (.update rfl (by simp)) fun orders => ?_
      split
      · exact .raise _ _
      · exact .bind (.update rfl (by simp)) fun _ => .pure _

theorem insertPayment_writes (paymentId : UUID) (row : Payment) :
    Writes [.payments, .orders] (insertPayment paymentId row) := by
  refine .bind (.query rfl) fun order => ?_
  split
  · exact .raise _ _
  · split
    · exact .raise _ _
    · refine .bind (.update rfl (by simp)) fun payments => ?_
      split
      · exact .raise _ _
      · split
        · exact .bind (.update rfl (by simp)) fun _ => .pure _
        · exact .pure _

theorem recordRefund_writes (payload : RefundRequestedPayload) (paid refunded : Rat) :
    Writes [.refunds, .payments, .orders] (recordRefund arith payload eventId paid refunded) := by
  refine .bind (.compute _) fun asked => .ite (.raise _ _) ?_
  refine .bind (.update rfl (by simp)) fun refunds => .ite (.raise _ _) ?_
  exact .bind (.compute _) fun _ => .bind (.update rfl (by simp)) fun _ =>
    .bind (.update rfl (by simp)) fun _ => .pure _

theorem insertRefund_writes (payload : RefundRequestedPayload) :
    Writes [.refunds, .payments, .orders] (insertRefund arith payload eventId) := by
  refine .bind (.query rfl) fun payment => ?_
  split
  · exact .raise _ _
  · exact .ite (.raise _ _) (.ite (.raise _ _)
      (.bind (.query rfl) fun refunded => recordRefund_writes _ _ _ _ _))

theorem insertExternalAlert_writes (payload : FraudAlertCreatedPayload) :
    Writes [.fraudAlerts] (insertExternalAlert rt payload) :=
  .update rfl (by simp)

/-- The business tables a handler writes. -/
def handlerTables : EventType → List Table
  | .userRegistered => [.customers]
  | .sessionStarted => [.sessions]
  | .productViewed => [.productViews]
  | .addedToCart => [.carts, .cartItems]
  | .checkoutStarted => [.carts]
  | .orderCreated => [.orders, .carts]
  | .paymentCompleted | .paymentFailed => [.payments, .orders]
  | .refundRequested => [.refunds, .payments, .orders]
  | .fraudAlertCreated => [.fraudAlerts]

theorem applyHandler_writes (event : EventEnvelope) :
    Writes (handlerTables event.eventType) (applyHandler rt arith event) := by
  unfold applyHandler EventEnvelope.eventType
  cases event.payload with
  | userRegistered payload => exact .bind (registerCustomer_writes _ payload) fun _ => .pure _
  | sessionStarted payload => exact .bind (insertSession_writes _ payload) fun _ => .pure _
  | productViewed payload => exact .bind (insertProductView_writes _ payload _) fun _ => .pure _
  | addedToCart payload => exact addItem_writes arith _ payload
  | checkoutStarted payload => exact .bind (checkout_writes _ payload) fun _ => .pure _
  | orderCreated payload => exact insertOrder_writes _ payload
  | paymentCompleted payload => exact insertPayment_writes _ _
  | paymentFailed payload => exact insertPayment_writes _ _
  | refundRequested payload => exact insertRefund_writes arith _ payload
  | fraudAlertCreated payload => exact .bind (insertExternalAlert_writes rt payload) fun _ => .pure _

/-- The context is only read. -/
theorem build_writes (config : FraudConfig) (event : EventEnvelope) :
    Writes [] (build arith config event) := by
  unfold build
  split
  · exact .raise _ _
  · rename_i customerId _
    refine .bind (.compute _) fun lookback => .bind ?_ fun history => .compute _
    have order : Writes [] (customerAndOrder customerId event.payload.orderId) := by
      refine .bind (.query rfl) fun row => ?_
      split
      · exact .raise _ _
      · exact .pure _
    have session : Writes [] (contextSession event.payload) := by
      unfold contextSession
      split
      · exact .pure _
      · split
        · exact .query rfl
        · exact .pure _
    have facts : Writes [] (refundFacts event.payload.paymentId event.eventTime) := by
      unfold refundFacts
      split
      · exact .pure _
      · refine .bind (.query rfl) fun row => ?_
        split <;> exact .pure _
    exact .bind order fun _ => .bind session fun _ => .bind (.query rfl) fun _ =>
      .bind (.query rfl) fun _ => .bind (.query rfl) fun _ => .bind (.query rfl) fun _ =>
      .bind (.query rfl) fun _ => .bind (.query rfl) fun _ => .bind facts fun _ => .pure _

theorem persistEvaluation_writes (config : FraudConfig) (evaluation : FraudEvaluation)
    (event : EventEnvelope) (now : Instant) :
    Writes [.fraudEvaluations, .fraudAlerts, .fraudOutbox]
      (persistEvaluation rt config evaluation event now) := by
  refine .bind (.query rfl) fun existing => ?_
  split
  · split
    · exact .pure _
    · exact .raise _ _
  · refine .bind (.update rfl (by simp)) fun _ => ?_
    split
    · exact .pure _
    · refine .bind (.update rfl (by simp)) fun _ => ?_
      split
      · exact .bind (.update rfl (by simp)) fun _ => .pure _
      · exact .pure _

theorem fraudStage_writes (uow : UnitOfWork) (call : PersistCall) (rows : Dict Table Nat) :
    Writes [.fraudEvaluations, .fraudAlerts, .fraudOutbox] (uow.fraudStage call rows) :=
  .bind ((build_writes _ _ _).mono (by simp)) fun _ => .bind (.compute _) fun evaluation =>
    .bind (persistEvaluation_writes _ _ evaluation _ _) fun _ => .pure _

end

end CommercePlatform.Persistence
