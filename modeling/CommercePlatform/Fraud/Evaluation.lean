import CommercePlatform.Fraud.Rules
import CommercePlatform.Lib.Alone
import CommercePlatform.Lib.Stateful
import CommercePlatform.Persistence.Frame

/-!
What the fraud engine sees of an event.

The context is built inside the transaction of the event, after its handler has
written: `Evaluates` says that the handler accepts the event on a committed database
and which context is then built. `historyOf` is the history that the statements of
`build` read, as a function of the database they see.
-/

namespace CommercePlatform.Fraud

open Contract Persistence Schema

/-! ### Statements that run alone -/

section

variable {arith : Arithmetic} {α : Type} {db : Db} {ws ws' : List Write}

theorem firstFailure_none {cs : Stmt.Constraints} :
    firstFailure cs = none ↔ ∀ x ∈ cs, x.1 = true := by
  simp [firstFailure, List.find?_eq_none]

/-- One statement of a body that runs alone. -/
theorem alone_sql {s : Stmt} {f : s.Result → Sql α} {a : α} :
    alone (D := database arith) (sql s >>= f) db ws = .ok (a, ws') ↔
      (∀ x ∈ s.constraints arith ((database arith).view db ws), x.1 = true) ∧
        alone (D := database arith) (f (s.answer ((database arith).view db ws))) db
          (ws ++ s.writes arith ((database arith).view db ws)) = .ok (a, ws') := by
  refine Iff.trans alone_call ?_
  constructor
  · rintro ⟨r, more, ran, rest⟩
    obtain ⟨rfl, rfl, passed⟩ := exec_ok ran
    exact ⟨passed, rest⟩
  · rintro ⟨passed, rest⟩
    refine ⟨_, _, ?_, rest⟩
    simp only
    rw [firstFailure_none.mpr passed]

/-- A statement that only reads. -/
theorem alone_query {s : Stmt} (quiet : s.target = none) (f : s.Result → Sql α) :
    alone (D := database arith) (sql s >>= f) db ws =
      alone (D := database arith) (f (s.answer ((database arith).view db ws))) db ws := by
  have ran : (database arith).exec s ((database arith).view db ws) =
      .ok (s.answer ((database arith).view db ws), []) := by
    cases s <;> first
      | rfl
      | cases quiet
  refine (alone_exec ran).trans ?_
  rw [List.append_nil]
  rfl

end

/-! ### The history -/

/-- The history of a customer in a database. -/
def historyOf (config : FraudConfig) (db : Db) (event : EventEnvelope) (customerId : UUID)
    (customer : Customer) (lookback : Instant) : History :=
  let limit := config.maxHistoryRecords
  let sessionId := event.payload.sessionId.or
    ((event.payload.orderId.bind db.orders.get?).map (·.sessionId))
  let sessionStarted := (sessionId.bind db.sessions.get?).map (·.startedAt)
  let facts := event.payload.paymentId.bind fun id =>
    (db.payments.get? id).map fun p => (p.amount - db.refunded id, p.attemptedAt)
  { homeCountry := customer.homeCountry
    order := (event.payload.orderId.bind db.orders.get?).map fun o =>
      ⟨o.orderedAt, o.total, o.currency, o.billingCountry⟩
    sessionId
    sessionStarted
    payments := (Stmt.paymentsBetween customerId event.eventTime lookback limit).answer db
    priorPayments := (Stmt.paymentsBefore customerId event.eventTime limit).answer db
    refunds := (Stmt.refundsBetween customerId event.eventTime lookback limit).answer db
    recentOrders := (Stmt.countOrders customerId event.eventTime lookback limit).answer db
    viewCount := (Stmt.countViews customerId event.eventTime
      (sessionStarted.getD lookback) limit).answer db
    refundable := facts.map Prod.fst
    secondsSincePayment := facts.map fun row => max 0 (event.eventTime.secondsBetween row.2) }

section

variable {arith : Arithmetic} {config : FraudConfig} {event : EventEnvelope} {db : Db}
  {ws ws' : List Write}

theorem contextSession_alone (payload : Payload) :
    alone (D := database arith) (contextSession payload) db ws =
      .ok (payload.sessionId.or
        ((payload.orderId.bind ((database arith).view db ws).orders.get?).map (·.sessionId)), ws) := by
  unfold contextSession
  cases payload.sessionId with
  | some sessionId => rfl
  | none =>
    cases payload.orderId with
    | none => rfl
    | some orderId => exact alone_query rfl pure

theorem refundFacts_alone (paymentId : Option UUID) (eventTime : Instant) :
    alone (D := database arith) (refundFacts paymentId eventTime) db ws =
      .ok (let facts := paymentId.bind fun id =>
            (((database arith).view db ws).payments.get? id).map fun p =>
              (p.amount - ((database arith).view db ws).refunded id, p.attemptedAt)
          (facts.map Prod.fst, facts.map fun row => max 0 (eventTime.secondsBetween row.2)), ws) := by
  cases paymentId with
  | none => rfl
  | some id =>
    refine (alone_query rfl _).trans ?_
    simp only [Stmt.answer, Option.bind_some]
    cases ((database arith).view db ws).payments.get? id <;> rfl

theorem customerAndOrder_found {customerId : UUID} {orderId : Option UUID} {customer : Customer}
    (found : ((database arith).view db ws).customers.get? customerId = some customer) :
    alone (D := database arith) (customerAndOrder customerId orderId) db ws =
      .ok ((customer.homeCountry,
        (orderId.bind ((database arith).view db ws).orders.get?).map fun o =>
          ⟨o.orderedAt, o.total, o.currency, o.billingCountry⟩), ws) := by
  refine (alone_query rfl _).trans ?_
  simp only [Stmt.answer, found]
  rfl

theorem readHistory_found {customerId : UUID} {customer : Customer} {lookback : Instant}
    (found : ((database arith).view db ws).customers.get? customerId = some customer) :
    alone (D := database arith) (readHistory config event customerId lookback) db ws =
      .ok (historyOf config ((database arith).view db ws) event customerId customer lookback,
        ws) := by
  refine (alone_then (customerAndOrder_found found)).trans ?_
  refine (alone_then (contextSession_alone event.payload)).trans ?_
  refine (alone_query rfl _).trans <| (alone_query rfl _).trans <| (alone_query rfl _).trans <|
    (alone_query rfl _).trans <| (alone_query rfl _).trans <| (alone_query rfl _).trans ?_
  exact alone_then (refundFacts_alone event.payload.paymentId event.eventTime)

/-- What a context was computed from. -/
structure ContextFrom (arith : Arithmetic) (config : FraudConfig) (event : EventEnvelope) (db : Db)
    (context : FraudContext) (customerId : UUID) (customer : Customer) (lookback : Instant) :
    Prop where
  named : event.payload.customerId = some customerId
  found : db.customers.get? customerId = some customer
  shifted : event.eventTime.subtract (days config.historyLookbackDays) = .ok lookback
  context : contextOf arith config event customerId
    (historyOf config db event customerId customer lookback) = .ok context

theorem compute_alone {α : Type} {r : Except PyException α} {a : α} :
    alone (D := database arith) (compute r) db ws = .ok (a, ws') ↔ r = .ok a ∧ ws' = ws := by
  cases r with
  | error e =>
    constructor
    · intro impossible
      cases impossible
    · rintro ⟨impossible, -⟩
      cases impossible
  | ok b =>
    constructor
    · intro ran
      cases ran
      exact ⟨rfl, rfl⟩
    · rintro ⟨same, rfl⟩
      cases same
      rfl

/-- The context of an event is computed from the history in the database it sees. -/
theorem build_alone {context : FraudContext} :
    alone (D := database arith) (build arith config event) db ws = .ok (context, ws') ↔
      (∃ customerId customer lookback, ContextFrom arith config event ((database arith).view db ws)
        context customerId customer lookback) ∧ ws' = ws := by
  constructor
  · intro built
    unfold build at built
    split at built
    · cases built
    rename_i customerId named
    obtain ⟨lookback, ws₁, first, rest⟩ := alone_bind.mp built
    obtain ⟨shifted, rfl⟩ := compute_alone.mp first
    obtain ⟨history, ws₂, read, last⟩ := alone_bind.mp rest
    obtain ⟨computed, rfl⟩ := compute_alone.mp last
    cases found : ((database arith).view db ws₁).customers.get? customerId with
    | none =>
      obtain ⟨row, ws₃, lookup, -⟩ := alone_bind.mp read
      have missing := (alone_query rfl _).symm.trans lookup
      simp only [Stmt.answer, found] at missing
      cases missing
    | some customer =>
      rw [readHistory_found found] at read
      cases read
      exact ⟨⟨customerId, customer, lookback, named, found, shifted, computed⟩, rfl⟩
  · rintro ⟨⟨customerId, customer, lookback, h⟩, rfl⟩
    unfold build
    rw [h.named]
    refine alone_bind.mpr ⟨lookback, ws', compute_alone.mpr ⟨h.shifted, rfl⟩, ?_⟩
    exact alone_bind.mpr ⟨_, ws', readHistory_found h.found, compute_alone.mpr ⟨h.context, rfl⟩⟩

/-! ### The context of a history -/

/-- The fields of a context that tell of earlier payments. -/
structure PriorFields where
  lifetimeSuccessfulPayments : Nat
  lifetimeFailedPayments : Nat
  lifetimeSpend : Rat
  historicalAverageAmount : Option Rat
  previousSuccessfulDevices : List String
  previousSuccessfulCountries : List String
  deriving DecidableEq

def FraudContext.prior (context : FraudContext) : PriorFields where
  lifetimeSuccessfulPayments := context.lifetimeSuccessfulPayments
  lifetimeFailedPayments := context.lifetimeFailedPayments
  lifetimeSpend := context.lifetimeSpend
  historicalAverageAmount := context.historicalAverageAmount
  previousSuccessfulDevices := context.previousSuccessfulDevices
  previousSuccessfulCountries := context.previousSuccessfulCountries

/-- These fields, from the rows of the payments and the currency of the event. -/
def priorFields (arith : Arithmetic) (currency : Option Currency) (rows : List Payment) :
    Except PyException PriorFields := do
  let successful := rows.filter (·.status = .completed)
  let average ← historicalAverage arith
    ((successful.filter fun r => currency = some r.currency).map (·.amount))
  let lifetimeSpend ← sumDecimals arith (successful.map (·.amount))
  return {
    lifetimeSuccessfulPayments := successful.length
    lifetimeFailedPayments := (rows.filter (·.status = .failed)).length
    lifetimeSpend
    historicalAverageAmount := average
    previousSuccessfulDevices := (successful.map (·.deviceId)).dedup
    previousSuccessfulCountries := (successful.map (·.country)).dedup }

section

variable {customerId : UUID} {history : History} {context : FraudContext}
  (built : contextOf arith config event customerId history = .ok context)

include built

theorem contextOf_prior :
    priorFields arith event.payload.currency history.priorPayments = .ok context.prior := by
  obtain ⟨average, averaged, rest⟩ := Except.bind_ok built
  obtain ⟨_, -, rest⟩ := Except.bind_ok rest
  obtain ⟨_, -, rest⟩ := Except.bind_ok rest
  obtain ⟨_, -, rest⟩ := Except.bind_ok rest
  obtain ⟨spend, spent, rest⟩ := Except.bind_ok rest
  cases rest
  simp only [priorFields, averaged, spent]
  rfl

theorem contextOf_amounts :
    context.refundableAmount = history.refundable ∧
      context.refundAmount =
        (if event.eventType = .refundRequested then event.payload.amount.map (·.value) else none) ∧
      context.paymentAmountMatchesOrder =
        match history.order, contextAmount event.payload with
        | some order, some amount =>
          decide (order.total = amount ∧ some order.currency = event.payload.currency)
        | _, _ => true := by
  obtain ⟨_, -, rest⟩ := Except.bind_ok built
  obtain ⟨_, -, rest⟩ := Except.bind_ok rest
  obtain ⟨_, -, rest⟩ := Except.bind_ok rest
  obtain ⟨_, -, rest⟩ := Except.bind_ok rest
  obtain ⟨_, -, rest⟩ := Except.bind_ok rest
  cases rest
  exact ⟨rfl, rfl, rfl⟩

end

end

/-! ### Exact arithmetic -/

theorem sumDecimals_exact (amounts : List Rat) :
    sumDecimals .exact amounts = .ok amounts.sum := by
  have from_ : ∀ total : Rat, amounts.foldlM Arithmetic.exact.add total =
      (.ok (total + amounts.sum) : Except PyException Rat) := by
    induction amounts with
    | nil =>
      intro total
      simp only [List.foldlM_nil, List.sum_nil, add_zero]
      rfl
    | cons amount amounts ih =>
      intro total
      simp only [List.foldlM_cons, Arithmetic.exact_add, List.sum_cons, ← add_assoc]
      exact ih (total + amount)
  simpa [sumDecimals] using from_ 0

/-- The windows of the context start within the range of `datetime`. -/
def windowsStart (config : FraudConfig) (eventTime : Instant) : Bool :=
  [days config.historyLookbackDays, seconds config.velocityWindowSeconds,
    seconds config.failedPaymentWindowSeconds, seconds config.countryWindowSeconds].all fun width =>
    (eventTime.subtract width).isOk

/-- In exact arithmetic nothing but a window keeps a context from being built. -/
theorem contextOf_exact {config : FraudConfig} {event : EventEnvelope}
    (windows : windowsStart config event.eventTime = true) (customerId : UUID) (history : History) :
    ∃ context, contextOf .exact config event customerId history = .ok context := by
  have ok : ∀ width, (event.eventTime.subtract width).isOk = true →
      ∃ start, event.eventTime.subtract width = .ok start := by
    intro width holds
    cases shifted : event.eventTime.subtract width with
    | error e => simp [shifted, Except.isOk, Except.toBool] at holds
    | ok start => exact ⟨start, rfl⟩
  simp only [windowsStart, List.all_cons, List.all_nil, Bool.and_true, Bool.and_eq_true] at windows
  obtain ⟨-, velocity, failure, country⟩ := windows
  obtain ⟨velocityStart, velocity⟩ := ok _ velocity
  obtain ⟨failureStart, failure⟩ := ok _ failure
  obtain ⟨countryStart, country⟩ := ok _ country
  have average (amounts : List Rat) :
      ∃ mean, historicalAverage .exact amounts = (.ok mean : Except PyException (Option Rat)) := by
    unfold historicalAverage
    split
    · exact ⟨none, rfl⟩
    · rw [sumDecimals_exact]
      exact ⟨_, rfl⟩
  obtain ⟨mean, averaged⟩ := average ((((history.priorPayments.filter (·.status = .completed)).filter
    fun r => event.payload.currency = some r.currency).map (·.amount)))
  simp only [contextOf, averaged, velocity, failure, country, sumDecimals_exact]
  exact ⟨_, rfl⟩

/-! ### The transaction -/

/-- The transaction of an event up to its fraud part: the ledger row and the handler. -/
def accept (uow : UnitOfWork) (call : PersistCall) : Sql RowCounts := do
  insertIdentity uow.rt call.event call.message call.processorInstanceId uow.persistRawJson
  applyHandler uow.rt uow.arith call.event

/-- On the committed database `db` the handler accepts the event with the writes `ws`, and
the context is built on what the transaction then sees. -/
structure Evaluates (uow : UnitOfWork) (db : Db) (call : PersistCall) (ws : List Write)
    (context : FraudContext) : Prop where
  eligible : fraudEligible call.event.eventType = true
  accepted : ∃ counts, alone (D := database uow.arith) (accept uow call) db [] = .ok (counts, ws)
  built : alone (D := database uow.arith) (build uow.arith uow.fraudConfig call.event) db ws =
    .ok (context, ws)

/-- A transaction that runs alone to its end evaluates the context of its event. -/
theorem transaction_evaluates {uow : UnitOfWork} (enabled : uow.fraudConfig.engineEnabled = true)
    {db : Db} {call : PersistCall} (eligible : fraudEligible call.event.eventType = true)
    {r : PersistenceResult} {ws' : List Write}
    (ran : alone (D := database uow.arith) (uow.transaction call) db [] = .ok (r, ws')) :
    ∃ ws context evaluation, Evaluates uow db call ws context ∧
      evaluate uow.rt uow.fraudConfig uow.rules context = .ok evaluation ∧
      r.fraudScore = some evaluation.totalScore ∧ r.fraudDecision = some evaluation.decision := by
  obtain ⟨_, ws₁, identity, rest⟩ := alone_bind.mp ran
  obtain ⟨counts, ws₂, handled, rest⟩ := alone_bind.mp rest
  simp only [enabled, eligible, and_self, if_true] at rest
  obtain ⟨context, ws₃, built, scored⟩ := alone_bind.mp rest
  obtain ⟨-, same⟩ := build_alone.mp built
  subst same
  obtain ⟨evaluation, ws₄, computed, persisted⟩ := alone_bind.mp scored
  obtain ⟨evaluated, same⟩ := compute_alone.mp computed
  obtain ⟨rows, ws₅, -, last⟩ := alone_bind.mp persisted
  cases last
  exact ⟨ws₃, context, evaluation, ⟨eligible, ⟨counts, alone_bind.mpr ⟨_, ws₁, identity, handled⟩⟩,
    built⟩, evaluated, rfl, rfl⟩

/-- In exact arithmetic a context is built when the customer is known and the windows start. -/
theorem build_exact {uow : UnitOfWork} (exact_ : uow.arith = .exact) {db : Db} {ws : List Write}
    {event : EventEnvelope} (windows : windowsStart uow.fraudConfig event.eventTime = true)
    (known : (event.payload.customerId.bind
      ((database uow.arith).view db ws).customers.get?).isSome = true) :
    ∃ context, alone (D := database uow.arith) (build uow.arith uow.fraudConfig event) db ws =
      .ok (context, ws) := by
  obtain ⟨rt, arith, config, rules, raw⟩ := uow
  simp only at exact_
  subst exact_
  obtain ⟨customer, known⟩ := Option.isSome_iff_exists.mp known
  obtain ⟨customerId, named, found⟩ := Option.bind_eq_some_iff.mp known
  have lookback : ∃ start, event.eventTime.subtract (days config.historyLookbackDays) =
      .ok start := by
    simp only [windowsStart, List.all_cons, Bool.and_eq_true] at windows
    cases shifted : event.eventTime.subtract (days config.historyLookbackDays) with
    | error e => simp [shifted, Except.isOk, Except.toBool] at windows
    | ok start => exact ⟨start, rfl⟩
  obtain ⟨lookback, shifted⟩ := lookback
  obtain ⟨context, computed⟩ := contextOf_exact windows customerId
    (historyOf config ((database .exact).view db ws) event customerId customer lookback)
  exact ⟨context, build_alone.mpr
    ⟨⟨customerId, customer, lookback, named, found, shifted, computed⟩, rfl⟩⟩

/-- The event is accepted on this database, its customer is known and the windows of its
context start. -/
def evaluable (uow : UnitOfWork) (db : Db) (call : PersistCall) : Bool :=
  match alone (D := database uow.arith) (accept uow call) db [] with
  | .ok (_, ws) =>
    fraudEligible call.event.eventType && windowsStart uow.fraudConfig call.event.eventTime &&
      (call.event.payload.customerId.bind ((database uow.arith).view db ws).customers.get?).isSome
  | .error _ => false

/-- In exact arithmetic such an event is evaluated. -/
theorem evaluates_of {uow : UnitOfWork} (exact_ : uow.arith = .exact) {db : Db} {call : PersistCall}
    (able : evaluable uow db call = true) : ∃ ws context, Evaluates uow db call ws context := by
  unfold evaluable at able
  split at able
  · rename_i counts ws accepted
    simp only [Bool.and_eq_true] at able
    obtain ⟨⟨eligible, windows⟩, known⟩ := able
    obtain ⟨context, built⟩ := build_exact exact_ windows known
    exact ⟨ws, context, eligible, ⟨counts, accepted⟩, built⟩
  · cases able

/-! ### What a handler has written -/

section

variable {arith : Arithmetic} {α : Type} {db : Db} {ws ws' : List Write}

/-- A body leaves the tables it does not write. -/
theorem alone_restrict {T : List Table} {p : Sql α} (writes : Writes T p) {keep : Table → Bool}
    (elsewhere : ∀ t ∈ T, keep t = false) {a : α}
    (ran : alone (D := database arith) p db ws = .ok (a, ws')) :
    ((database arith).view db ws').restrict keep = ((database arith).view db ws).restrict keep := by
  obtain ⟨more, rfl, from_⟩ := alone_writes (D := database arith) writes ran
  have quiet : more.filter (touches keep) = [] := by
    refine List.filter_eq_nil_iff.mpr fun w mem => ?_
    obtain ⟨s, seen, r, ws', targets, exec, written⟩ := from_ w mem
    obtain ⟨-, rfl, -⟩ := exec_ok exec
    simp [touches, elsewhere w.table (targets _ (writes_target written))]
  rw [view_append, restrict_view_filter, quiet]
  rfl

/-- Everything but the ledger. -/
def businessTables (t : Table) : Bool := t ≠ .processedEvents

/-- The handler of an accepted event runs on the same business tables. -/
theorem accept_handler {uow : UnitOfWork} {call : PersistCall} {counts : RowCounts}
    (ran : alone (D := database uow.arith) (accept uow call) db [] = .ok (counts, ws)) :
    ∃ db' ws', db'.restrict businessTables = db.restrict businessTables ∧
      alone (D := database uow.arith) (applyHandler uow.rt uow.arith call.event) db' [] =
        .ok (counts, ws') ∧
      (database uow.arith).view db ws = (database uow.arith).view db' ws' := by
  obtain ⟨_, ws₁, identity, rest⟩ := alone_bind.mp ran
  obtain ⟨more, handled, rfl⟩ := alone_view.mp rest
  exact ⟨_, more, alone_restrict (insertIdentity_writes _ _ _ _ _) (by decide) identity, handled,
    view_append _ _ _ _⟩

/-- The handler of an evaluated event, and what its context was computed from. -/
theorem Evaluates.handled {uow : UnitOfWork} {call : PersistCall} {context : FraudContext}
    (evaluated : Evaluates uow db call ws context) :
    ∃ db' ws' counts, db'.restrict businessTables = db.restrict businessTables ∧
      alone (D := database uow.arith) (applyHandler uow.rt uow.arith call.event) db' [] =
        .ok (counts, ws') ∧
      (database uow.arith).view db ws = (database uow.arith).view db' ws' ∧
      ∃ customerId customer lookback, ContextFrom uow.arith uow.fraudConfig call.event
        ((database uow.arith).view db ws) context customerId customer lookback := by
  obtain ⟨counts, accepted⟩ := evaluated.accepted
  obtain ⟨db', ws', same, handled, seen⟩ := accept_handler accepted
  obtain ⟨from_, -⟩ := build_alone.mp evaluated.built
  exact ⟨db', ws', counts, same, handled, seen, from_⟩

end

end CommercePlatform.Fraud
