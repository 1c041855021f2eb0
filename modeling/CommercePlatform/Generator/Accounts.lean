import Mathlib.Algebra.BigOperators.Group.List.Basic
import CommercePlatform.Generator.CausalValidity

/-!
The pool is an account of the journeys.

`_finish` adds a journey to the counters of its customer and to the identifiers it has had so
far. Over a run they are the customer's emitted events, counted and listed (`Recounts`).
-/

namespace CommercePlatform.Generator

open Contract Stateful

/-! ### The account of a customer -/

/-- The sessions that are started. -/
def sessionsOf (events : List EventEnvelope) : List UUID :=
  events.filterMap fun event =>
    match event.payload with
    | .sessionStarted p => some p.sessionId
    | _ => none

/-- The products that are looked at. -/
def viewsOf (events : List EventEnvelope) : List UUID :=
  events.filterMap fun event =>
    match event.payload with
    | .productViewed p => some p.productId
    | _ => none

/-- The payments that are attempted. -/
def paymentsOf (events : List EventEnvelope) : List UUID :=
  events.filterMap fun event =>
    match event.payload with
    | .paymentCompleted p => some p.paymentId
    | .paymentFailed p => some p.paymentId
    | _ => none

/-- The amounts that are paid. -/
def spendsOf (events : List EventEnvelope) : List Rat :=
  events.filterMap fun event =>
    match event.payload with
    | .paymentCompleted p => some p.amount.value
    | _ => none

/-- The counter of the pool for a type of event. -/
def counterOf : EventType → Option (CustomerState → Nat)
  | .sessionStarted => some (·.totalJourneys)
  | .productViewed => some (·.totalProductViews)
  | .addedToCart => some (·.totalCartAdditions)
  | .checkoutStarted => some (·.totalCheckouts)
  | .paymentCompleted => some (·.successfulPayments)
  | .paymentFailed => some (·.failedPayments)
  | .refundRequested => some (·.refunds)
  | .userRegistered | .orderCreated | .fraudAlertCreated => none

def lastTen (viewed : List UUID) : List UUID := viewed.drop (viewed.length - 10)

/-- The state of a customer is the account of its events. -/
structure Recounts (events : List EventEnvelope) (state : CustomerState) : Prop where
  counts : ∀ type counter, counterOf type = some counter →
    counter state = events.countP (·.eventType = type)
  sessions : state.previousSessionIds = sessionsOf events
  orders : state.previousOrderIds = ordersOf events
  payments : state.previousPaymentIds = paymentsOf events
  spend : state.accumulatedSpend = (spendsOf events).sum
  viewed : state.lastViewedProducts = lastTen (viewsOf events)
  /-- Normal history is that of somebody who has paid. -/
  history : state.priorNormalHistory = true → 0 < state.successfulPayments

section

variable {events past : List EventEnvelope} {state customer : CustomerState}

/-- Persona, devices and the abandoned cart are no part of the account. -/
theorem Recounts.dressed (h : Recounts events state) (persona : CustomerPersona)
    (devices : List UUID) (addresses : List IpAddress) (cart : Option AbandonedCart) :
    Recounts events { state with
      persona
      knownDeviceIds := devices
      knownIpAddresses := addresses
      abandonedCart := cart } := by
  refine ⟨?_, h.sessions, h.orders, h.payments, h.spend, h.viewed, h.history⟩
  intro type counter counted
  have same := h.counts type counter counted
  cases type <;> cases counted <;> exact same

/-! ### A journey on the account -/

theorem lastTen_lastTen (viewed : List UUID) (productId : UUID) :
    lastTen (lastTen viewed ++ [productId]) = lastTen (viewed ++ [productId]) := by
  have whole : lastTen viewed ++ [productId] =
      (viewed ++ [productId]).drop (viewed.length - 10) :=
    (List.drop_append_of_le_length (Nat.sub_le _ _)).symm
  rw [whole]
  unfold lastTen
  rw [List.drop_drop, List.length_drop, List.length_append, List.length_singleton]
  congr 1
  omega

theorem foldl_lastTen (viewed products : List UUID) :
    products.foldl (fun viewed productId => lastTen (viewed ++ [productId])) (lastTen viewed) =
      lastTen (viewed ++ products) := by
  induction products generalizing viewed with
  | nil => rw [List.foldl_nil, List.append_nil]
  | cons product products ih =>
    rw [List.foldl_cons, lastTen_lastTen, ih, List.append_assoc, List.singleton_append]

/-- What `_finish` takes from the events. -/
theorem foldl_record (events : List EventEnvelope) (state : CustomerState) :
    events.foldl CustomerState.record state = { state with
      previousPaymentIds := state.previousPaymentIds ++ paymentsOf events
      accumulatedSpend := state.accumulatedSpend + (spendsOf events).sum
      lastViewedProducts := (viewsOf events).foldl
        (fun viewed productId => lastTen (viewed ++ [productId])) state.lastViewedProducts } := by
  induction events generalizing state with
  | nil => simp [paymentsOf, spendsOf, viewsOf]
  | cons event events ih =>
    rw [List.foldl_cons, ih]
    cases here : event.payload <;>
      simp [CustomerState.record, here, paymentsOf, spendsOf, viewsOf, lastTen, add_assoc]

/-- A journey with one session, and an order if `_finish` is told of one. -/
theorem Recounts.finished (h : Recounts past customer) {sessionId : UUID} {orderId : Option UUID}
    (one : events.countP (·.eventType = .sessionStarted) = 1)
    (session : sessionsOf events = [sessionId]) (order : ordersOf events = orderId.toList)
    (last : Instant) :
    Recounts (past ++ events) (customer.finished events sessionId orderId last) := by
  have before := h.counts
  simp only [CustomerState.finished, foldl_record]
  constructor
  · intro type counter counted
    have same := before type counter counted
    rw [List.countP_append]
    cases type <;> cases counted <;> simp only at same ⊢ <;> simp only [same, one]
  · exact (congrArg₂ (· ++ ·) h.sessions session.symm).trans (List.filterMap_append ..).symm
  · exact (congrArg₂ (· ++ ·) h.orders order.symm).trans (List.filterMap_append ..).symm
  · exact (congrArg (· ++ _) h.payments).trans (List.filterMap_append ..).symm
  · refine (congrArg (· + _) h.spend).trans ?_
    rw [spendsOf, spendsOf, spendsOf, List.filterMap_append, List.sum_append]
  · refine (congrArg (List.foldl _ · _) h.viewed).trans ((foldl_lastTen _ _).trans ?_)
    rw [viewsOf, viewsOf, viewsOf, List.filterMap_append]
  · intro history
    rcases (Bool.or_eq_true _ _).mp history with now | already
    · exact (of_decide_eq_true now).2
    · exact Nat.add_pos_left (h.history already) _

end

/-! ### Who visits, and what it orders -/

section

variable {rt : Runtime} {source : Source} {config : GeneratorConfig} {w w' : World}

/-- Nothing is known of a customer that has been created. -/
theorem newCustomer_blank {persona : CustomerPersona} {selection : Selection}
    (ran : newCustomer source config persona w = .ok (selection, w')) :
    Recounts [] selection.customer := by
  obtain ⟨now, u, read, rest⟩ := bind_ok.mp ran
  obtain ⟨customer, v, created, returned⟩ := bind_ok.mp rest
  obtain ⟨rfl, rfl⟩ := pure_ok.mp returned
  obtain ⟨world, u', read', rest'⟩ := bind_ok.mp created
  split at rest'
  · exact (raiseError_ok rest').elim
  · obtain ⟨customerId, u₁, first, rest'⟩ := bind_ok.mp rest'
    obtain ⟨deviceId, u₂, second, rest'⟩ := bind_ok.mp rest'
    obtain ⟨address, u₃, third, returned'⟩ := bind_ok.mp rest'
    obtain ⟨rfl, rfl⟩ := pure_ok.mp returned'
    refine ⟨?_, rfl, rfl, rfl, rfl, rfl, nofun⟩
    intro type counter counted
    cases type <;> cases counted <;> rfl

theorem selectByPersona_blank {persona : CustomerPersona} {selection : Selection}
    (ran : selectByPersona source config persona w = .ok (selection, w'))
    (flag : selection.returning = false) : Recounts [] selection.customer := by
  obtain ⟨found, u, looked, rest⟩ := bind_ok.mp ran
  cases found with
  | none => exact newCustomer_blank rest
  | some customer =>
    change (if _ then _ else _ : Gen Selection) u = _ at rest
    split at rest
    · obtain ⟨create, v, preferred, rest⟩ := bind_ok.mp rest
      split at rest
      · exact newCustomer_blank rest
      · obtain ⟨rfl, rfl⟩ := pure_ok.mp rest
        cases flag
    · exact newCustomer_blank rest

theorem selectCustomer_blank {persona : CustomerPersona} {selection : Selection}
    (ran : selectCustomer source config persona w = .ok (selection, w'))
    (flag : selection.returning = false) : Recounts [] selection.customer := by
  unfold selectCustomer at ran
  split at ran
  · obtain ⟨found, u, looked, rest⟩ := bind_ok.mp ran
    cases found with
    | none => exact selectByPersona_blank rest flag
    | some customer =>
      obtain ⟨rfl, rfl⟩ := pure_ok.mp rest
      cases flag
  · exact selectByPersona_blank ran flag

/-- A session changes the devices of a customer alone. -/
theorem identityForSession_customer {customer : CustomerState} {profile : PersonaProfile}
    {identity : Identity}
    (ran : identityForSession source customer profile w = .ok (identity, w')) :
    ∃ devices addresses, identity.customer =
      { customer with knownDeviceIds := devices, knownIpAddresses := addresses } := by
  obtain ⟨first, u, device, rest⟩ := bind_ok.mp ran
  have same : ∃ devices addresses, first.customer =
      { customer with knownDeviceIds := devices, knownIpAddresses := addresses } := by
    obtain ⟨changed, v, drawn, rest⟩ := bind_ok.mp device
    split at rest
    · obtain ⟨deviceId, v₁, new, rest⟩ := bind_ok.mp rest
      obtain ⟨address, v₂, read, returned⟩ := bind_ok.mp rest
      obtain ⟨rfl, rfl⟩ := pure_ok.mp returned
      exact ⟨_, _, rfl⟩
    · obtain ⟨deviceId, v₁, read, rest⟩ := bind_ok.mp rest
      obtain ⟨address, v₂, read', returned⟩ := bind_ok.mp rest
      obtain ⟨rfl, rfl⟩ := pure_ok.mp returned
      exact ⟨_, _, rfl⟩
  obtain ⟨abroad, v, drawn, rest⟩ := bind_ok.mp rest
  split at rest
  · obtain ⟨country, v₁, chosen, returned⟩ := bind_ok.mp rest
    obtain ⟨rfl, rfl⟩ := pure_ok.mp returned
    exact same
  · obtain ⟨rfl, rfl⟩ := pure_ok.mp rest
    exact same

/-- The account of a visiting customer, and the session of the visit. -/
structure Entered (w : World) (visit : Visit) : Prop where
  returns : visit.returning = true → ∃ state ∈ w.customers.values,
    state.customerId = visit.customer.customerId ∧
      ∀ events, Recounts events state → Recounts events visit.customer
  creates : visit.returning = false → Recounts [] visit.customer
  session : visit.sessionId ∈ sessionsOf visit.events
  orders : ordersOf visit.events = []

theorem browse_entered {visit : Visit} (ran : browse rt source config w = .ok (visit, w')) :
    Entered w visit := by
  obtain ⟨registration', session', views, p', shape, payload', -, viewed, registers⟩ :=
    (browse_opened ran).shape
  have none_ : ordersOf visit.events = [] := by
    refine List.filterMap_eq_nil_iff.mpr fun event mem => ?_
    rw [shape] at mem
    rcases List.mem_append.mp mem with early | late
    · rcases registers with ⟨-, rfl⟩ | ⟨-, other, q, rfl, registered⟩
      · cases early
      · rw [List.mem_singleton.mp early, registered]
    · rcases List.mem_cons.mp late with rfl | late
      · rw [payload']
      · obtain ⟨q, view⟩ := viewed event late
        rw [view]
  obtain ⟨_, w₀, unset, ran⟩ := bind_ok.mp ran
  obtain ⟨persona, w₁, chosen, ran⟩ := bind_ok.mp ran
  obtain ⟨selection, w₂, selected, ran⟩ := bind_ok.mp ran
  obtain ⟨_, w₃, started, ran⟩ := bind_ok.mp ran
  obtain ⟨correlationId, w₄, correlated, ran⟩ := bind_ok.mp ran
  obtain ⟨registration, w₅, registered, ran⟩ := bind_ok.mp ran
  obtain ⟨identity, w₆, identified, ran⟩ := bind_ok.mp ran
  obtain ⟨sessionId, w₇, drawn, ran⟩ := bind_ok.mp ran
  obtain ⟨session, w₈, opened, ran⟩ := bind_ok.mp ran
  obtain ⟨products, w₉, viewed', ran⟩ := bind_ok.mp ran
  obtain ⟨views', w₁₀, shown, ran⟩ := bind_ok.mp ran
  obtain ⟨adding, w₁₁, asked, ran⟩ := bind_ok.mp ran
  obtain ⟨adds, w₁₂, decided, returned⟩ := bind_ok.mp ran
  obtain ⟨rfl, rfl⟩ := pure_ok.mp returned
  have customers : w₁.customers = w.customers := by
    rw [(isSilent_choosePersona _ _ _ chosen).1, modify_ok.mp unset]
  obtain ⟨devices, addresses, dressed⟩ := identityForSession_customer identified
  obtain ⟨timestamp, v, ticked, rest⟩ := bind_ok.mp opened
  obtain ⟨type, v', typed, made⟩ := bind_ok.mp rest
  obtain ⟨-, payload, -⟩ := envelope_draws made
  have account : ∀ events, Recounts events selection.customer →
      Recounts events identity.customer := by
    intro events h
    rw [dressed]
    exact h.dressed _ _ _ _
  refine ⟨fun flag => ?_, fun flag => account _ (selectCustomer_blank selected flag), ?_, none_⟩
  · rcases (selectCustomer_selects selected).state with ⟨flag', -⟩ | ⟨-, original, member, same⟩
    · cases flag'.symm.trans flag
    · refine ⟨original, customers ▸ member, by rw [dressed, same], fun events h => account _ ?_⟩
      rw [same]
      exact h.dressed _ _ _ _
  · refine List.mem_filterMap.mpr ⟨session, by simp, ?_⟩
    rw [payload]

/-- An order is among the events if and only if `_finish` is told of it. -/
theorem conclude_orders {visit : Visit} {c : Conclusion} (none_ : ordersOf visit.events = [])
    (ran : conclude source config visit w = .ok (c, w')) :
    ordersOf c.events = c.orderId.toList := by
  unfold conclude at ran
  split at ran
  · obtain ⟨basket, v', basketed, ran⟩ := bind_ok.mp ran
    obtain ⟨buys, v'', decided, ran⟩ := bind_ok.mp ran
    obtain ⟨p, payload, -⟩ := fillBasket_carts basketed
    split at ran
    · obtain ⟨checkout, v₁, checked, ran⟩ := bind_ok.mp ran
      obtain ⟨orderId, v₂, ordering, ran⟩ := bind_ok.mp ran
      obtain ⟨order, v₃, ordered, ran⟩ := bind_ok.mp ran
      obtain ⟨paid, v₄, charged, ran⟩ := bind_ok.mp ran
      obtain ⟨refund, v₅, refunded, returned⟩ := bind_ok.mp ran
      obtain ⟨rfl, rfl⟩ := pure_ok.mp returned
      obtain ⟨timestamp, u₁, ticked, made⟩ := bind_ok.mp checked
      obtain ⟨-, checkoutPayload, -⟩ := envelope_draws made
      obtain ⟨timestamp', u₂, ticked', made'⟩ := bind_ok.mp ordered
      obtain ⟨-, orderPayload, -⟩ := envelope_draws made'
      have charges : ordersOf paid.events = [] := by
        refine List.filterMap_eq_nil_iff.mpr fun event mem => ?_
        have payment := ((payments_within charged).1 event mem).2
        cases here : event.payload <;> simp [isPayment, here] at payment ⊢
      have refunds : ordersOf refund = [] := by
        refine List.filterMap_eq_nil_iff.mpr fun event mem => ?_
        obtain ⟨q, requested⟩ := refundFor_payloads refunded event mem
        rw [requested]
      unfold ordersOf at none_ charges refunds ⊢
      simp [none_, charges, refunds, payload, checkoutPayload, orderPayload,
        Generator.orderPayload]
    · obtain ⟨rfl, rfl⟩ := pure_ok.mp ran
      unfold ordersOf at none_ ⊢
      simp [none_, payload]
  · obtain ⟨rfl, rfl⟩ := pure_ok.mp ran
    exact none_

end

/-! ### Over a run -/

theorem length_sessionsOf (events : List EventEnvelope) :
    (sessionsOf events).length = events.countP (·.eventType = .sessionStarted) := by
  rw [sessionsOf, List.length_filterMap_eq_countP]
  refine List.countP_congr fun event _ => ?_
  cases here : event.payload <;> simp [EventEnvelope.eventType, Payload.eventType, here]

/-- Every state of the pool is the account of its customer. -/
def PoolRecounts (w : World) (events : List EventEnvelope) : Prop :=
  ∀ c state, w.customers.get? c = some state → Recounts (eventsOf c events) state

section

variable {rt : Runtime} {source : Source} {config : GeneratorConfig} {met : World → Prop}
  {w w' : World} {result : JourneyResult} {past : List EventEnvelope}

theorem Leaves.customerId {visit : Visit} {events : List EventEnvelope} {customer : CustomerState}
    (leaves : Leaves visit events customer) :
    customer.customerId = visit.customer.customerId := by
  cases leaves <;> rfl

theorem Leaves.account {visit : Visit} {events past : List EventEnvelope}
    {customer : CustomerState} (leaves : Leaves visit events customer)
    (h : Recounts past visit.customer) : Recounts past customer := by
  cases leaves with
  | kept => exact h
  | left => exact h.dressed _ _ _ _

/-- The account of the visiting customer, before the journey. -/
theorem PoolRecounts.visits {visit : Visit} (h : PoolRecounts w past) (alive : Alive source w past)
    (distinct : Distinct source.uuids w'.drawnUuids)
    (continues : Continues rt source config w w' result) (entered : Entered w visit)
    (same : result.customerId = visit.customer.customerId)
    (returning : result.returningCustomer = visit.returning) :
    Recounts (eventsOf result.customerId past) visit.customer := by
  cases flag : visit.returning with
  | true =>
    obtain ⟨state, member, sameId, account⟩ := entered.returns flag
    obtain ⟨key, found⟩ := Dict.mem_values.mp member
    obtain rfl : key = result.customerId :=
      (alive.keys key state found).1.symm.trans (sameId.trans same.symm)
    exact account _ (h _ state found)
  | false =>
    obtain ⟨-, none_⟩ := alive.newcomer distinct continues (returning.trans flag)
    rw [none_]
    exact entered.creates flag

/-- A journey is put on the account of its customer, and on no other. -/
theorem PoolRecounts.journey (h : PoolRecounts w past) (some_ : 1 ≤ config.maxPaymentAttempts)
    (alive : Alive source w past) (distinct : Distinct source.uuids w'.drawnUuids)
    (ran : build rt source config w = .ok (result, w')) :
    PoolRecounts w' (past ++ result.events) := by
  have continues := build_spec some_ ran
  rw [build_eq] at ran
  obtain ⟨visit, u, browsed, ran⟩ := bind_ok.mp ran
  obtain ⟨c, v, concluded, finished⟩ := bind_ok.mp ran
  obtain ⟨events, tail, leaves, shape⟩ := conclude_tail some_ (browse_spec browsed) concluded
  have valid := Parts.valid ⟨browsed, tail, leaves, _, _, shape ▸ finished⟩ continues
  have entered := browse_entered browsed
  have order := conclude_orders entered.orders concluded
  obtain ⟨last, latest, sameEvents, sameId, returning, pool, -⟩ := finish_commits finished
  rw [← sameId, tail.customers, (older_browse.returns _ _ _ browsed).1] at pool
  have session : sessionsOf result.events = [visit.sessionId] := by
    obtain ⟨sessionId, one⟩ :=
      List.length_eq_one_iff.mp ((length_sessionsOf _).trans valid.oneSession)
    have mem : visit.sessionId ∈ sessionsOf result.events := by
      rw [sameEvents, shape, sessionsOf, List.filterMap_append]
      exact List.mem_append_left _ entered.session
    rw [one] at mem ⊢
    rw [List.mem_singleton.mp mem]
  have visits := leaves.account
    (h.visits alive distinct continues entered (sameId.trans leaves.customerId) returning)
  intro id state found
  rw [pool, Dict.get?_set] at found
  rw [continues.eventsOf]
  split at found
  · rename_i same
    obtain rfl := Option.some.inj found
    subst same
    rw [if_pos rfl]
    rw [sameEvents] at session ⊢
    exact visits.finished (sameEvents ▸ valid.oneSession) session order last.eventTime
  · rename_i other
    rw [if_neg other]
    exact h id state found

theorem Built.poolRecounts (some_ : 1 ≤ config.maxPaymentAttempts) {journeys : List JourneyResult}
    (built : Built rt source config met w journeys)
    (distinct : Distinct source.uuids w.drawnUuids) :
    PoolRecounts w (emitted journeys) := by
  induction built with
  | start =>
    intro c state found
    cases found
  | journey before here ran ih =>
    have distinct' := distinct.mono (build_spec some_ ran).drawn
    rw [emitted_append, emitted_singleton]
    exact (ih distinct').journey some_ (before.sound some_ distinct').alive distinct ran
  | failure before ran ih =>
    have older := build_raises ran
    intro c state found
    rw [older.1] at found
    exact ih (distinct.mono older.2) c state found

/-- Events that each belong to one of the customers, counted customer by customer. -/
theorem sum_countP_eventsOf {customers : List UUID} (nodup : customers.Nodup)
    (p : EventEnvelope → Bool) {events : List EventEnvelope}
    (owned : ∀ event ∈ events, ∃ c ∈ customers, event.payload.customerId = some c) :
    (customers.map fun c => (eventsOf c events).countP p).sum = events.countP p := by
  induction events with
  | nil => simp [eventsOf]
  | cons event events ih =>
    obtain ⟨owner, mem, of_⟩ := owned event List.mem_cons_self
    have rest := ih fun other mem => owned other (List.mem_cons_of_mem _ mem)
    -- The event is counted for its owner alone.
    have here : ∀ c, (eventsOf c (event :: events)).countP p =
        (eventsOf c events).countP p + if c = owner then (if p event then 1 else 0) else 0 := by
      intro c
      by_cases same : c = owner
      · subst same
        simp [eventsOf, of_, List.countP_cons]
      · simp [eventsOf, of_, same, Ne.symm same]
    rw [List.map_congr_left fun c _ => here c, List.sum_map_add, rest, List.countP_cons,
      List.sum_map_eq_nsmul_single owner _ fun c other _ => if_neg other,
      List.count_eq_one_of_mem nodup mem, one_nsmul, if_pos rfl]

/-- A counter, summed over the pool, counts the events of its type. -/
theorem PoolRecounts.total {events : List EventEnvelope} (h : PoolRecounts w events)
    (alive : Alive source w events) {type : EventType} {counter : CustomerState → Nat}
    (counted : counterOf type = some counter) :
    (w.customers.values.map counter).sum = events.countP (·.eventType = type) := by
  have owned : ∀ event ∈ events, ∃ c ∈ w.customers.keys, event.payload.customerId = some c := by
    intro event mem
    obtain ⟨c, state, of_, found⟩ := alive.owned event mem
    exact ⟨c, List.mem_map_of_mem (Dict.mem_entries.mpr found), of_⟩
  rw [← sum_countP_eventsOf w.customers.nodupKeys _ owned, Dict.values, List.map_map, List.map_map]
  refine congrArg List.sum (List.map_congr_left fun entry mem => ?_)
  exact (h _ _ (Dict.mem_entries.mp mem)).counts type counter counted

/-- Over every run of calls of `build`, the pool is an account of the journeys: the state of each
of its customers counts and lists that customer's emitted events, whoever is not in the pool
has none, and a counter, summed over the pool, is the number of the emitted events of its type. -/
theorem pool_recounts (rt : Runtime) (source : Source) (config : GeneratorConfig)
    (accepted : config.Accepted) {w : World} {journeys : List JourneyResult}
    (built : Built rt source config (fun _ => True) w journeys)
    (distinct : Distinct source.uuids w.drawnUuids) :
    (∀ c, match w.customers.get? c with
      | some state => state.customerId = c ∧ Recounts (eventsOf c (emitted journeys)) state
      | none => eventsOf c (emitted journeys) = []) ∧
    ∀ type counter, counterOf type = some counter →
      (w.customers.values.map counter).sum =
        (emitted journeys).countP (·.eventType = type) := by
  have some_ := accepted.maxPaymentAttempts.1
  have alive := (built.sound some_ distinct).alive
  have recounts := built.poolRecounts some_ distinct
  refine ⟨fun c => ?_, fun type counter counted => recounts.total alive counted⟩
  cases found : w.customers.get? c with
  | none => exact alive.stranger found
  | some state => exact ⟨(alive.keys c state found).1, recounts c state found⟩

end

/-! A customer who buys, and returns to buy again. -/

def journeyTwice (source : Source) (config : GeneratorConfig) :
    Gen (JourneyResult × JourneyResult) := do
  let first ← build eagerRuntime source config
  let second ← build eagerRuntime source config
  return (first, second)

theorem journeyTwice_built (source : Source) (config : GeneratorConfig)
    (p : List JourneyResult → Bool)
    (facts : (journeyTwice source config {}).toOption.map (fun r =>
      decide (r.2.drawnUuids ≤ 64) && p [r.1.1, r.1.2]) = some true) :
    ∃ w first second, Built eagerRuntime source config (fun _ => True) w [first, second] ∧
      w.drawnUuids ≤ 64 ∧ p [first, second] = true := by
  obtain ⟨⟨⟨first, second⟩, w⟩, ran, holds⟩ := Option.map_eq_some_iff.mp facts
  obtain ⟨few, holds⟩ := (Bool.and_eq_true _ _).mp holds
  have ran : journeyTwice source config {} = .ok ((first, second), w) := by
    cases both : journeyTwice source config {} with
    | error raised =>
      rw [both] at ran
      cases ran
    | ok pair =>
      rw [both] at ran
      exact congrArg Except.ok (Option.some.inj ran)
  obtain ⟨_, u, ran₁, rest⟩ := bind_ok.mp ran
  obtain ⟨_, v, ran₂, returned⟩ := bind_ok.mp rest
  obtain ⟨same, rfl⟩ := pure_ok.mp returned
  cases same
  exact ⟨w, first, second, (Built.start.journey trivial ran₁).journey trivial ran₂,
    of_decide_eq_true few, holds⟩

theorem pool_recounts_twice :
    ∃ w first second,
      Built eagerRuntime eagerSource eagerConfig (fun _ => True) w [first, second] ∧
      (∀ c, match w.customers.get? c with
        | some state =>
          state.customerId = c ∧ Recounts (eventsOf c (emitted [first, second])) state
        | none => eventsOf c (emitted [first, second]) = []) ∧
      (w.customers.values.map (·.totalJourneys)).sum = 2 := by
  obtain ⟨w, first, second, built, few, sessions⟩ :=
    journeyTwice_built eagerSource eagerConfig
      (fun journeys => decide ((emitted journeys).countP (·.eventType = .sessionStarted) = 2))
      (by decide +kernel)
  obtain ⟨each, totals⟩ := pool_recounts eagerRuntime eagerSource eagerConfig (by decide +kernel)
    built (eagerSource_distinct.mono few)
  exact ⟨w, first, second, built, each,
    (totals .sessionStarted _ rfl).trans (of_decide_eq_true sessions)⟩

end CommercePlatform.Generator
