import CommercePlatform.Generator.Histories
import CommercePlatform.Generator.Populations

/-!
Generated journeys are causally valid.

`CausallyValid` is what the documentation promises of the journeys of a builder, whatever it
has drawn and however its clock moves. What a journey depends on is remembered in the pool:
the last activity and the abandoned cart of a customer are those of its emitted events
(`Remembered`).
-/

namespace CommercePlatform.Generator

open Contract Stateful

/-! ### What is promised -/

/-- The journeys, each with those before it. -/
def Each (P : List JourneyResult → JourneyResult → Prop) (journeys : List JourneyResult) : Prop :=
  ∀ past journey future, journeys = past ++ journey :: future → P past journey

/-- The payment attempts for an order. -/
def attemptsOf (orderId : UUID) (events : List EventEnvelope) : List EventEnvelope :=
  events.filter fun event => isPayment event && decide (event.payload.orderId = some orderId)

/-- Something has been put into the cart. -/
def Carted (events : List EventEnvelope) (cartId : UUID) : Prop :=
  ∃ p, Happened events (.addedToCart p) ∧ p.cartId = cartId

/-- Every identifier that the journey refers to is introduced earlier, by the journey or by the
history of its customer; its cart is new, or one of that history. -/
structure RefersBack (past : List EventEnvelope) (journey : JourneyResult) : Prop where
  identifiers : ∀ before event after, journey.events = before ++ event :: after →
    ∀ id ∈ refers event.payload, Introduced (eventsOf journey.customerId past ++ before) id
  carts : ∀ before event after p, journey.events = before ++ event :: after →
    event.payload = .addedToCart p →
      Carted (eventsOf journey.customerId past) p.cartId ∨ ¬ Carted (past ++ before) p.cartId

/-- The events of one journey, against one another. -/
structure JourneyValid (maximumAttempts : Nat) (journey : JourneyResult) : Prop where
  belongs : ∀ event ∈ journey.events, event.payload.customerId = some journey.customerId
  oneSession : journey.events.countP (·.eventType = .sessionStarted) = 1
  checkouts : ∀ event ∈ journey.events, ∀ p, event.payload = .checkoutStarted p →
    p.totalAmount.value = p.subtotal.value - p.discountAmount.value ∧ 0 ≤ p.totalAmount.value
  orders : ∀ before event after p, journey.events = before ++ event :: after →
    event.payload = .orderCreated p → ∃ q, Happened before (.checkoutStarted q) ∧
      p.cartId = q.cartId ∧ p.subtotal = q.subtotal ∧ p.discountAmount = q.discountAmount ∧
      p.totalAmount = q.totalAmount
  payments : ∀ before event after, journey.events = before ++ event :: after →
    isPayment event = true → ∃ q, Happened before (.orderCreated q) ∧
      event.payload.orderId = some q.orderId ∧ event.payload.amount = some q.totalAmount
  attempts : (journey.events.filter isPayment).length ≤ maximumAttempts
  lastAttempt : ∀ before event after, journey.events = before ++ event :: after →
    event.eventType = .paymentCompleted → after.filter isPayment = []
  refunds : ∀ before event after p, journey.events = before ++ event :: after →
    event.payload = .refundRequested p → ∃ q, Happened before (.paymentCompleted q) ∧
      q.paymentId = p.paymentId ∧ q.orderId = p.orderId ∧ p.amount.value ≤ q.amount.value

structure CausallyValid (config : GeneratorConfig) (journeys : List JourneyResult) : Prop where
  /-- A customer is registered once, before everything else. -/
  registeredFirst : ∀ c, eventsOf c (emitted journeys) ≠ [] →
    ∃ first rest p, eventsOf c (emitted journeys) = first :: rest ∧
      first.payload = .userRegistered p ∧ ∀ event ∈ rest, event.eventType ≠ .userRegistered
  inOrder : ∀ c, (eventsOf c (emitted journeys)).Pairwise fun a b => a.eventTime ≤ b.eventTime
  refersBack : Each (fun past journey => RefersBack (emitted past) journey) journeys
  /-- The identifiers of events, sessions, orders, payments and refunds are all new. -/
  fresh : (allOwnIds (emitted journeys)).Nodup
  valid : ∀ journey ∈ journeys, JourneyValid config.maxPaymentAttempts journey
  attempts : ∀ orderId, (attemptsOf orderId (emitted journeys)).length ≤ config.maxPaymentAttempts
  lastAttempt : ∀ orderId before event after,
    attemptsOf orderId (emitted journeys) = before ++ event :: after →
      event.eventType = .paymentCompleted → after = []

/-! ### One journey -/

section

variable {events : List EventEnvelope} {stage last : Stage}

theorem Within.payload {deviceId : UUID} {event : EventEnvelope} (within : Within deviceId event) :
    event.eventType ≠ .sessionStarted ∧
      (isPayment event = true → event.payload.deviceId = some deviceId) := by
  unfold Within at within
  unfold isPayment EventEnvelope.eventType
  revert within
  cases event.payload <;> intro within
  case userRegistered | sessionStarted => exact within.elim
  case paymentCompleted | paymentFailed =>
    exact ⟨nofun, fun _ => congrArg some within⟩
  all_goals exact ⟨nofun, nofun⟩

/-- After the payment of an order there are no attempts, in the same session. -/
theorem Lives.settled {deviceId : UUID} {order : OrderCreatedPayload}
    {payment : PaymentCompletedPayload} (lives : Lives stage events last)
    (paid : stage = .paid order payment ∨ stage = .refunded)
    (within : ∀ event ∈ events, Within deviceId event) : events.filter isPayment = [] := by
  induction lives with
  | nil stage => rfl
  | cons first rest ih =>
    rename_i stage next last event events
    have here := within event List.mem_cons_self
    have later_ : ∀ event ∈ events, Within deviceId event :=
      fun other mem => within other (List.mem_cons_of_mem _ mem)
    have payment_ : isPayment event = false ∧ next = .refunded := by
      unfold Within at here
      unfold isPayment
      revert first here
      generalize event.payload = payload
      intro first here
      cases first with
      | visit p known => exact here.elim
      | refund p refunds => exact ⟨rfl, rfl⟩
      | register | view | add | checkout | order | fail | pay =>
        rcases paid with impossible | impossible <;> cases impossible
    rw [List.filter_cons, if_neg (by simp [payment_.1])]
    exact ih (.inr payment_.2) later_

/-- What the life of a journey tells of its events. -/
theorem Lives.events_valid {deviceId : UUID} {before after : List EventEnvelope}
    {event : EventEnvelope} (start : stage = .unregistered ∨ stage = .registered)
    (lives : Lives stage (before ++ event :: after) last)
    (within : event.eventType = .paymentCompleted → ∀ other ∈ after, Within deviceId other) :
    (∀ p, event.payload = .orderCreated p → ∃ q, Happened before (.checkoutStarted q) ∧
      p.cartId = q.cartId ∧ p.subtotal = q.subtotal ∧ p.discountAmount = q.discountAmount ∧
      p.totalAmount = q.totalAmount) ∧
    (isPayment event = true → ∃ q, Happened before (.orderCreated q) ∧
      event.payload.orderId = some q.orderId ∧ event.payload.amount = some q.totalAmount) ∧
    (event.eventType = .paymentCompleted → after.filter isPayment = []) ∧
    (∀ p, event.payload = .refundRequested p → ∃ q, Happened before (.paymentCompleted q) ∧
      q.paymentId = p.paymentId ∧ q.orderId = p.orderId ∧ p.amount.value ≤ q.amount.value) := by
  obtain ⟨middle, next, early, follows, late⟩ := lives.split
  have grounded : Grounded before middle := by
    have ground : Grounded [] stage := by
      rcases start with rfl | rfl <;> trivial
    simpa using early.grounded ground
  unfold isPayment EventEnvelope.eventType
  unfold EventEnvelope.eventType at within
  revert follows within
  generalize event.payload = payload
  intro within follows
  cases follows with
  | order p orders =>
    refine ⟨?_, nofun, nofun, fun _ => nofun⟩
    intro q same
    cases same
    exact ⟨_, grounded.2.2, orders.cartId, orders.subtotal, orders.discount, orders.total⟩
  | fail p orderId amount currency =>
    refine ⟨fun _ => nofun, fun _ => ?_, nofun, fun _ => nofun⟩
    exact ⟨_, grounded, congrArg some orderId, congrArg some amount⟩
  | pay p orderId amount currency =>
    refine ⟨fun _ => nofun, fun _ => ?_, fun _ => ?_, fun _ => nofun⟩
    · exact ⟨_, grounded, congrArg some orderId, congrArg some amount⟩
    · exact late.settled (.inl rfl) (within rfl)
  | refund p refunds =>
    refine ⟨fun _ => nofun, nofun, nofun, ?_⟩
    intro q same
    cases same
    obtain ⟨-, paid, orderId, -⟩ := grounded
    exact ⟨_, paid, refunds.paymentId.symm, orderId.trans refunds.orderId.symm, refunds.covered⟩
  | register | visit | view | add | checkout =>
    exact ⟨fun _ => nofun, nofun, nofun, fun _ => nofun⟩

end

/-! ### One call of `build` -/

section

variable {rt : Runtime} {source : Source} {config : GeneratorConfig} {w w' u v : World}
  {result : JourneyResult} {visit : Visit} {customer : CustomerState} {events : List EventEnvelope}

theorem Continues.life (continues : Continues rt source config w w' result) :
    ∃ start last, (start = .unregistered ∨ start = .registered) ∧ Lives start result.events last := by
  cases flag : result.returningCustomer with
  | true =>
    obtain ⟨last, lives⟩ := (continues.returns flag).2 .registered Stage.noConfusion
    exact ⟨_, last, .inr rfl, lives⟩
  | false =>
    obtain ⟨-, -, last, lives⟩ := continues.creates flag
    exact ⟨_, last, .inl rfl, lives⟩

theorem Parts.valid (parts : Parts rt source config w w' result visit u v customer events)
    (continues : Continues rt source config w w' result) :
    JourneyValid config.maxPaymentAttempts result := by
  obtain ⟨registration, session, rest, p, shape⟩ := parts.shape
  obtain ⟨start, last, known, lives⟩ := continues.life
  have later : ∀ {before event after}, result.events = before ++ event :: after →
      event.eventType ≠ .userRegistered → event.eventType ≠ .sessionStarted →
      ∀ other ∈ after, Within p.deviceId other := fun split registers starts other mem =>
    shape.within other ((shape.later split registers starts).2.2 other mem)
  have facts : ∀ before event after, result.events = before ++ event :: after → _ :=
    fun before event after split => @Lives.events_valid _ _ p.deviceId _ _ _ known
      (split ▸ lives) fun type => later split (by simp [type]) (by simp [type])
  constructor
  · exact continues.belongs
  · have none_ : registration.countP (·.eventType = .sessionStarted) = 0 := by
      rw [List.countP_eq_zero]
      intro event mem
      obtain ⟨q, payload⟩ := shape.registers event mem
      simp [EventEnvelope.eventType, payload, Payload.eventType]
    have none_' : rest.countP (·.eventType = .sessionStarted) = 0 := by
      rw [List.countP_eq_zero]
      intro event mem
      simpa using (shape.within event mem).payload.1
    have one : session.eventType = .sessionStarted := by
      rw [EventEnvelope.eventType, shape.payload]
      rfl
    rw [shape.events_eq, List.countP_append, List.countP_cons, none_, none_']
    simp [one]
  · intro event mem q payload
    obtain ⟨before, after, split⟩ := List.append_of_mem mem
    have type : event.eventType = .checkoutStarted := by
      rw [EventEnvelope.eventType, payload]
      rfl
    obtain ⟨-, inside, -⟩ := shape.later split (by simp [type]) (by simp [type])
    have within := shape.within event inside
    rw [Within, payload] at within
    exact within
  · intro before event after q split payload
    exact (facts before event after split).1 q payload
  · intro before event after split payment
    exact (facts before event after split).2.1 payment
  · have none_ : registration.filter isPayment = [] := by
      rw [List.filter_eq_nil_iff]
      intro event mem
      obtain ⟨q, payload⟩ := shape.registers event mem
      simp [isPayment, payload]
    have no_payment : isPayment session = false := by simp [isPayment, shape.payload]
    rw [shape.events_eq, List.filter_append, none_, List.nil_append, List.filter_cons,
      if_neg (by simp [no_payment])]
    exact shape.attempts
  · intro before event after split completed
    exact (facts before event after split).2.2.1 completed
  · intro before event after q split payload
    exact (facts before event after split).2.2.2 q payload

/-! ### What the pool remembers -/

/-- The state of the customer `c`, as its events have left it. -/
structure Remembers (events : List EventEnvelope) (c : UUID) (state : CustomerState) : Prop where
  devices : state.knownDeviceIds ≠ [] ∧ state.knownIpAddresses ≠ []
  active : ∃ last, state.lastActivityTimestamp = some last ∧
    ∀ event ∈ eventsOf c events, event.eventTime ≤ last
  cart : ∀ cart, state.abandonedCart = some cart → Carted (eventsOf c events) cart.cartId

structure Remembered (source : Source) (config : GeneratorConfig) (w : World)
    (events : List EventEnvelope) : Prop where
  size : w.customers.entries.length ≤ config.customerPoolSize
  states : ∀ c state, w.customers.get? c = some state → Remembers events c state
  sorted : ∀ c, (eventsOf c events).Pairwise fun a b => a.eventTime ≤ b.eventTime
  carts : ∀ event ∈ events, ∀ p, event.payload = .addedToCart p →
    ∃ k < w.drawnUuids, source.uuids k = p.cartId

theorem remembered_start : Remembered source config {} [] where
  size := Nat.zero_le _
  states c state found := by cases found
  sorted c := List.Pairwise.nil
  carts event mem := by cases mem

theorem Remembered.wait {events : List EventEnvelope} (h : Remembered source config w events)
    (older : Older w w') : Remembered source config w' events := by
  obtain ⟨size, states, sorted, carts⟩ := h
  rw [← older.1] at size states
  refine ⟨size, states, sorted, ?_⟩
  intro event mem p payload
  obtain ⟨k, below, from_⟩ := carts event mem p payload
  exact ⟨k, below.trans_le older.2, from_⟩

/-- The last of a list that is in order is the greatest. -/
theorem le_getLast {events : List EventEnvelope} {last : EventEnvelope}
    (sorted : events.Pairwise fun a b => a.eventTime ≤ b.eventTime)
    (found : events.getLast? = some last) : ∀ event ∈ events, event.eventTime ≤ last.eventTime := by
  obtain ⟨init, rfl⟩ := List.getLast?_eq_some_iff.mp found
  intro event mem
  rcases List.mem_append.mp mem with early | late
  · exact (List.pairwise_append.mp sorted).2.2 event early last (List.mem_singleton_self _)
  · rw [List.mem_singleton.mp late]

/-- The events of a journey are its customer's. -/
theorem Continues.eventsOf (continues : Continues rt source config w w' result)
    (past : List EventEnvelope) (c : UUID) :
    eventsOf c (past ++ result.events) =
      if c = result.customerId then Generator.eventsOf c past ++ result.events
      else Generator.eventsOf c past := by
  rw [eventsOf_append]
  split
  · rename_i same
    congr 1
    refine List.filter_eq_self.mpr fun event mem => decide_eq_true ?_
    rw [continues.belongs event mem, same]
  · rename_i other
    have none_ : Generator.eventsOf c result.events = [] := by
      refine List.filter_eq_nil_iff.mpr fun event mem same => ?_
      rw [continues.belongs event mem] at same
      exact other (Option.some.inj (of_decide_eq_true same)).symm
    rw [none_, List.append_nil]

/-- Somebody who is new has neither a state nor events. -/
theorem Alive.newcomer {past : List EventEnvelope} (alive : Alive source w past)
    (distinct : Distinct source.uuids w'.drawnUuids) (continues : Continues rt source config w w' result)
    (flag : result.returningCustomer = false) :
    w.customers.get? result.customerId = none ∧ eventsOf result.customerId past = [] := by
  have absent : w.customers.get? result.customerId = none := by
    cases found : w.customers.get? result.customerId with
    | none => rfl
    | some known =>
      obtain ⟨-, k, below, from_⟩ := alive.keys _ known found
      exact absurd (distinct _ _ (below.trans continues.advances) continues.advances
        (from_.trans (continues.creates flag).1)) below.ne
  exact ⟨absent, alive.stranger absent⟩

/-- What the visiting customer was before, and when its journey starts. -/
theorem Remembered.visits {past : List EventEnvelope} (h : Remembered source config w past)
    (alive : Alive source w past) (distinct : Distinct source.uuids w'.drawnUuids)
    (continues : Continues rt source config w w' result)
    (parts : Parts rt source config w w' result visit u v customer events) :
    (∃ x, Ticks x v result.events ∧
      ∀ event ∈ eventsOf result.customerId past, event.eventTime ≤ x.cursor) ∧
    ∀ cart, visit.customer.abandonedCart = some cart →
      Carted (eventsOf result.customerId past) cart.cartId := by
  have opened := browse_opened parts.browsed
  obtain ⟨orderId, attempts, finished⟩ := parts.finished
  obtain ⟨last, -, -, sameId, returning, -⟩ := finish_commits finished
  have sameId : result.customerId = visit.customer.customerId := by
    rw [sameId]
    cases parts.leaves <;> rfl
  obtain ⟨x, ticks, recalls⟩ := opened.started
  have whole : Ticks x v result.events := by
    rw [parts.events_eq]
    exact ticks.trans parts.tail.ticks
  cases flag : visit.returning with
  | true =>
    obtain ⟨state, member, same, cart, due⟩ := recalls flag
    obtain ⟨key, found⟩ := Dict.mem_values.mp member
    obtain rfl : key = result.customerId :=
      (alive.keys key state found).1.symm.trans (same.trans sameId.symm)
    have remembers := h.states _ state found
    obtain ⟨latest, active, before⟩ := remembers.active
    refine ⟨⟨x, whole, fun event mem => (before event mem).trans (due latest active)⟩, ?_⟩
    intro abandoned left
    exact remembers.cart abandoned (cart.trans left)
  | false =>
    obtain ⟨-, none_⟩ := alive.newcomer distinct continues (returning.trans flag)
    rw [none_]
    refine ⟨⟨x, whole, by simp⟩, ?_⟩
    intro abandoned left
    rw [opened.fresh flag] at left
    cases left

/-- What a journey leaves in the pool. -/
theorem Remembered.journey {past : List EventEnvelope} (h : Remembered source config w past)
    (alive : Alive source w past) (distinct : Distinct source.uuids w'.drawnUuids)
    (continues : Continues rt source config w w' result)
    (parts : Parts rt source config w w' result visit u v customer events) :
    Remembered source config w' (past ++ result.events) := by
  obtain ⟨⟨x, ticks, before⟩, left⟩ := h.visits alive distinct continues parts
  have opened := browse_opened parts.browsed
  obtain ⟨orderId, attempts, finished⟩ := parts.finished
  obtain ⟨last, latest, sameEvents, sameId, returning, pool, room⟩ := finish_commits finished
  rw [← sameId] at pool room
  have customers : v.customers = w.customers := by
    rw [parts.tail.customers]
    exact (older_browse.returns _ _ _ parts.browsed).1
  rw [customers] at pool room
  have sorted : (eventsOf result.customerId past ++ result.events).Pairwise
      fun a b => a.eventTime ≤ b.eventTime := by
    refine List.pairwise_append.mpr ⟨h.sorted _, ticks.sorted, ?_⟩
    intro a early b late
    exact (before a early).trans (ticks.within b late).1
  have devices : customer.knownDeviceIds ≠ [] ∧ customer.knownIpAddresses ≠ [] := by
    cases parts.leaves <;> exact opened.devices
  constructor
  · rw [pool]
    cases found : w.customers.get? result.customerId with
    | none =>
      rw [Dict.entries_set_new found, List.length_append, List.length_singleton]
      exact room found
    | some state =>
      rw [Dict.entries_set_old found, List.length_map]
      exact h.size
  · intro c state found
    rw [pool, Dict.get?_set] at found
    split at found
    · rename_i same
      obtain rfl := Option.some.inj found
      subst same
      constructor
      · simp only [CustomerState.finished, (record_keeps _ _).1, (record_keeps _ _).2.1]
        exact devices
      · refine ⟨last.eventTime, rfl, ?_⟩
        rw [continues.eventsOf, if_pos rfl]
        refine le_getLast sorted ?_
        rw [List.getLast?_append, sameEvents, latest]
        rfl
      · intro cart abandoned
        rw [continues.eventsOf, if_pos rfl]
        have kept := finished_abandonedCart abandoned
        cases parts.leaves with
        | kept =>
          obtain ⟨p, happened, same⟩ := left cart kept
          exact ⟨p, happened.mono (List.subset_append_left _ _), same⟩
        | left cart' event p mem payload cartId =>
          cases kept
          refine ⟨p, ⟨event, ?_, payload⟩, cartId.symm⟩
          rw [parts.events_eq]
          simp [mem]
    · rename_i other
      have remembers := h.states c state found
      have same : eventsOf c (past ++ result.events) = eventsOf c past := by
        rw [continues.eventsOf, if_neg other]
      exact ⟨remembers.devices, same ▸ remembers.active, same ▸ remembers.cart⟩
  · intro c
    rw [continues.eventsOf]
    split
    · rename_i same
      subst same
      exact sorted
    · exact h.sorted c
  · intro event mem p payload
    rcases List.mem_append.mp mem with early | late
    · obtain ⟨k, below, from_⟩ := h.carts event early p payload
      exact ⟨k, below.trans_le continues.drawn, from_⟩
    · obtain ⟨before, after, split⟩ := List.append_of_mem late
      rcases (parts.cart split payload).2 with ⟨cart, abandoned, same⟩ | drawn
      · obtain ⟨q, ⟨other, mem, payload'⟩, same'⟩ := left cart abandoned
        obtain ⟨k, below, from_⟩ := h.carts other (List.mem_of_mem_filter mem) q payload'
        exact ⟨k, below.trans_le continues.drawn, by rw [from_, same', same]⟩
      · obtain ⟨k, -, below, from_⟩ := mem_segment.mp drawn
        exact ⟨k, (finish_spec finished).2.2.2.1 ▸ below, from_⟩

/-- A journey refers back. -/
theorem Remembered.refersBack {past : List EventEnvelope} (h : Remembered source config w past)
    (alive : Alive source w past) (distinct : Distinct source.uuids w'.drawnUuids)
    (continues : Continues rt source config w w' result)
    (parts : Parts rt source config w w' result visit u v customer events) :
    RefersBack past result := by
  constructor
  · intro before event after split id mem
    obtain ⟨state, -, pool⟩ := continues.pool
    have found : w'.customers.get? result.customerId = some state := by
      rw [pool, Dict.get?_set_self]
    obtain ⟨stage, -, lives⟩ := (alive.journey distinct continues).lives _ state found
    rw [continues.eventsOf, if_pos rfl, split, ← List.append_assoc] at lives
    obtain ⟨middle, next, early, follows, -⟩ := lives.split
    have grounded : Grounded (eventsOf result.customerId past ++ before) middle := by
      have ground : Grounded [] Stage.unregistered := trivial
      simpa using early.grounded ground
    have own : ∀ other ∈ eventsOf result.customerId past ++ before,
        other.payload.customerId = some result.customerId := by
      intro other mem
      rcases List.mem_append.mp mem with old | new
      · exact of_decide_eq_true (List.mem_filter.mp old).2
      · exact continues.belongs other (by simp [split, new])
    have registered : middle ≠ .unregistered →
        Introduced (eventsOf result.customerId past ++ before) result.customerId := by
      intro known
      obtain ⟨first, rest, p, same, payload, -⟩ := early.registration known
      have member : first ∈ eventsOf result.customerId past ++ before := by
        rw [same]
        exact List.mem_cons_self
      have customer := own first member
      rw [payload] at customer
      refine ⟨first, member, ?_⟩
      rw [payload, ← Option.some.inj customer]
      exact List.mem_singleton_self _
    obtain ⟨registration, session, rest, p, shape⟩ := parts.shape
    -- The device of a payment is that of the session, which has started before.
    have device : ∀ d, event.eventType ≠ .userRegistered → event.eventType ≠ .sessionStarted →
        (Within p.deviceId event → p.deviceId = d) →
        Introduced (eventsOf result.customerId past ++ before) d := by
      intro d registers starts same
      obtain ⟨session_, inside, -⟩ := shape.later split registers starts
      refine ⟨session, List.mem_append_right _ session_, ?_⟩
      rw [shape.payload, ← same (shape.within event inside)]
      simp [introduces]
    have belongs := continues.belongs event (by simp [split])
    rcases grounded.refers follows belongs registered id mem with
      ⟨q, payload, same⟩ | ⟨q, payload, same⟩ | introduced
    · refine device id ?_ ?_ ?_
      · simp [EventEnvelope.eventType, payload, Payload.eventType]
      · simp [EventEnvelope.eventType, payload, Payload.eventType]
      · intro within
        rw [Within, payload] at within
        exact within.symm.trans same
    · refine device id ?_ ?_ ?_
      · simp [EventEnvelope.eventType, payload, Payload.eventType]
      · simp [EventEnvelope.eventType, payload, Payload.eventType]
      · intro within
        rw [Within, payload] at within
        exact within.symm.trans same
    · exact introduced
  · intro before event after p split payload
    obtain ⟨rfl, cart⟩ := parts.cart split payload
    rcases cart with ⟨cart, abandoned, same⟩ | drawn
    · rw [← same]
      exact .inl ((h.visits alive distinct continues parts).2 cart abandoned)
    · right
      rintro ⟨q, ⟨other, mem, payload'⟩, same⟩
      rcases List.mem_append.mp mem with old | new
      · obtain ⟨k, below, from_⟩ := h.carts other old q payload'
        obtain ⟨k', above, below', from_'⟩ := mem_segment.mp drawn
        have older := (older_browse.returns _ _ _ parts.browsed).2
        obtain ⟨orderId, attempts, finished⟩ := parts.finished
        have drawn' : k' < w'.drawnUuids := (finish_spec finished).2.2.2.1 ▸ below'
        have equal : k = k' := distinct k k' (below.trans continues.advances) drawn'
          (by rw [from_, from_', same])
        omega
      · exact (browse_opened parts.browsed).no_cart other new q payload'

end

/-! ### Orders over the journeys -/

section

variable {journeys : List JourneyResult} {maximum : Nat} {orderId : UUID}

/-- The orders that are created. -/
def ordersOf (events : List EventEnvelope) : List UUID :=
  events.filterMap fun event =>
    match event.payload with
    | .orderCreated p => some p.orderId
    | _ => none

theorem ordersOf_sublist (events : List EventEnvelope) :
    (ordersOf events).Sublist (allOwnIds events) := by
  induction events with
  | nil => exact List.Sublist.refl _
  | cons event events ih =>
    cases here : event.payload with
    | orderCreated p =>
      have own : ownIds event = [p.orderId, event.eventId] := by
        simp [ownIds, here, newIds, creates]
      have orders : ordersOf (event :: events) = p.orderId :: ordersOf events := by
        simp [ordersOf, here]
      rw [orders, allOwnIds_cons, own]
      exact ((ih.cons event.eventId)).cons_cons p.orderId
    | _ =>
      have orders : ordersOf (event :: events) = ordersOf events := by simp [ordersOf, here]
      rw [orders, allOwnIds_cons]
      exact ih.trans (List.sublist_append_right _ _)

/-- The attempts for an order are in the journey that has created it. -/
theorem JourneyValid.ordered {journey : JourneyResult} (valid : JourneyValid maximum journey)
    (some_ : attemptsOf orderId journey.events ≠ []) : orderId ∈ ordersOf journey.events := by
  obtain ⟨event, mem⟩ := List.exists_mem_of_ne_nil _ some_
  obtain ⟨mem, attempt⟩ := List.mem_filter.mp mem
  obtain ⟨payment, same⟩ := (Bool.and_eq_true _ _).mp attempt
  obtain ⟨before, after, split⟩ := List.append_of_mem mem
  obtain ⟨q, ⟨other, early, payload⟩, order, -⟩ := valid.payments before event after split payment
  have orderId_ : q.orderId = orderId := Option.some.inj (order.symm.trans (of_decide_eq_true same))
  refine List.mem_filterMap.mpr ⟨other, ?_, ?_⟩
  · rw [split]
    exact List.mem_append_left _ early
  · rw [payload]
    exact congrArg some orderId_

theorem attemptsOf_emitted (valid : ∀ journey ∈ journeys, JourneyValid maximum journey)
    (fresh : (ordersOf (emitted journeys)).Nodup) :
    attemptsOf orderId (emitted journeys) = [] ∨
      ∃ journey ∈ journeys, attemptsOf orderId (emitted journeys) = attemptsOf orderId journey.events := by
  induction journeys with
  | nil => exact .inl rfl
  | cons journey journeys ih =>
    have split : emitted (journey :: journeys) = journey.events ++ emitted journeys := rfl
    have attempts : attemptsOf orderId (emitted (journey :: journeys)) =
        attemptsOf orderId journey.events ++ attemptsOf orderId (emitted journeys) := by
      rw [split, attemptsOf, List.filter_append]
      rfl
    have orders : ordersOf (emitted (journey :: journeys)) =
        ordersOf journey.events ++ ordersOf (emitted journeys) := by
      rw [split, ordersOf, List.filterMap_append]
      rfl
    rw [orders] at fresh
    obtain ⟨-, fresh', apart⟩ := List.nodup_append.mp fresh
    have rest := ih (fun other mem => valid other (List.mem_cons_of_mem _ mem)) fresh'
    by_cases none_ : attemptsOf orderId journey.events = []
    · rw [attempts, none_, List.nil_append]
      exact rest.imp_right fun ⟨other, mem, same⟩ => ⟨other, List.mem_cons_of_mem _ mem, same⟩
    · have here := (valid journey List.mem_cons_self).ordered none_
      rw [attempts]
      rcases rest with nothing | ⟨other, mem, same⟩
      · exact .inr ⟨journey, List.mem_cons_self, by rw [nothing, List.append_nil]⟩
      · by_cases nothing : attemptsOf orderId other.events = []
        · exact .inr ⟨journey, List.mem_cons_self, by rw [same, nothing, List.append_nil]⟩
        · have there := (valid other (List.mem_cons_of_mem _ mem)).ordered nothing
          have inside : orderId ∈ ordersOf (emitted journeys) := by
            obtain ⟨event, listed, order⟩ := List.mem_filterMap.mp there
            exact List.mem_filterMap.mpr ⟨event, List.mem_flatMap.mpr ⟨other, mem, listed⟩, order⟩
          exact absurd rfl (apart orderId here orderId inside)

theorem attempts_few (valid : ∀ journey ∈ journeys, JourneyValid maximum journey)
    (fresh : (ordersOf (emitted journeys)).Nodup) :
    (attemptsOf orderId (emitted journeys)).length ≤ maximum := by
  rcases @attemptsOf_emitted _ _ orderId valid fresh with none_ | ⟨journey, mem, same⟩
  · rw [none_]
    exact Nat.zero_le _
  · rw [same]
    have payments : attemptsOf orderId journey.events =
        (journey.events.filter isPayment).filter fun event =>
          decide (event.payload.orderId = some orderId) := by
      rw [List.filter_filter, attemptsOf]
      refine List.filter_congr fun event _ => Bool.and_comm _ _
    rw [payments]
    exact (List.length_filter_le _ _).trans (valid journey mem).attempts

theorem attempts_last (valid : ∀ journey ∈ journeys, JourneyValid maximum journey)
    (fresh : (ordersOf (emitted journeys)).Nodup) {before after : List EventEnvelope}
    {event : EventEnvelope}
    (split : attemptsOf orderId (emitted journeys) = before ++ event :: after)
    (completed : event.eventType = .paymentCompleted) : after = [] := by
  rcases @attemptsOf_emitted _ _ orderId valid fresh with none_ | ⟨journey, mem, same⟩
  · rw [none_] at split
    simp at split
  · rw [same] at split
    obtain ⟨first, second, events, -, tail⟩ := List.filter_eq_append_iff.mp split
    obtain ⟨between, rest, same', -, -, last⟩ := List.filter_eq_cons_iff.mp tail
    rw [same', ← List.append_assoc] at events
    have none_ := (valid journey mem).lastAttempt _ event rest events completed
    rw [← last]
    rw [List.filter_eq_nil_iff] at none_ ⊢
    intro other late payment
    exact none_ other late ((Bool.and_eq_true _ _).mp payment).1

end

/-! ### Runs -/

section

variable {rt : Runtime} {source : Source} {config : GeneratorConfig} {met : World → Prop}
  {w : World} {journeys : List JourneyResult}

theorem each_append {P : List JourneyResult → JourneyResult → Prop} {result : JourneyResult}
    (each : Each P journeys) (last : P journeys result) : Each P (journeys ++ [result]) := by
  intro past journey future split
  rcases List.eq_nil_or_concat future with rfl | ⟨init, final, rfl⟩
  · obtain ⟨rfl, same⟩ := List.append_inj' split rfl
    obtain rfl := List.singleton_inj.mp same
    exact last
  · rw [List.concat_eq_append, ← List.cons_append, ← List.append_assoc] at split
    exact each past journey init (List.append_inj' split rfl).1

/-- What holds of every run of a builder. -/
structure Sound (source : Source) (config : GeneratorConfig) (w : World)
    (journeys : List JourneyResult) : Prop where
  alive : Alive source w (emitted journeys)
  remembered : Remembered source config w (emitted journeys)
  refersBack : Each (fun past journey => RefersBack (emitted past) journey) journeys
  valid : ∀ journey ∈ journeys, JourneyValid config.maxPaymentAttempts journey

theorem Built.sound (some_ : 1 ≤ config.maxPaymentAttempts)
    (built : Built rt source config met w journeys) (distinct : Distinct source.uuids w.drawnUuids) :
    Sound source config w journeys := by
  induction built with
  | start =>
    refine ⟨alive_start, remembered_start, ?_, by simp⟩
    intro past journey future split
    simp at split
  | journey before here ran ih =>
    have continues := build_spec some_ ran
    obtain ⟨alive, remembered, refersBack, valid⟩ := ih (distinct.mono continues.drawn)
    obtain ⟨visit, u, v, customer, events, parts⟩ := build_parts some_ ran
    refine ⟨?_, ?_, each_append refersBack (remembered.refersBack alive distinct continues parts), ?_⟩
    · rw [emitted_append, emitted_singleton]
      exact alive.journey distinct continues
    · rw [emitted_append, emitted_singleton]
      exact remembered.journey alive distinct continues parts
    · intro journey mem
      rcases List.mem_append.mp mem with early | late
      · exact valid journey early
      · rw [List.mem_singleton.mp late]
        exact parts.valid continues
  | failure before ran ih =>
    have older := build_raises ran
    have ih := ih (distinct.mono older.2)
    exact ⟨ih.alive.wait older, ih.remembered.wait older, ih.refersBack, ih.valid⟩

/-- Every customer with events is registered by the first of them, and only there. -/
theorem Alive.registered {events : List EventEnvelope} (alive : Alive source w events) (c : UUID)
    (some_ : eventsOf c events ≠ []) :
    ∃ first rest p, eventsOf c events = first :: rest ∧ first.payload = .userRegistered p ∧
      ∀ event ∈ rest, event.eventType ≠ .userRegistered := by
  have present : ∃ state, w.customers.get? c = some state := by
    cases found : w.customers.get? c with
    | none => exact absurd (alive.stranger found) some_
    | some state => exact ⟨state, rfl⟩
  obtain ⟨state, found⟩ := present
  obtain ⟨stage, known, lives⟩ := alive.lives c state found
  obtain ⟨first, rest, p, same, payload, later_⟩ := lives.registration known
  exact ⟨first, rest, p, same, payload, later_.once Stage.noConfusion⟩

/-- Over every run of calls of `build`, the journeys are causally valid, the pool is within its
size, and a call that raises leaves the customers as they are. -/
theorem journeys_causally_valid (rt : Runtime) (source : Source) (config : GeneratorConfig)
    (accepted : config.Accepted) {w : World} {journeys : List JourneyResult}
    (built : Built rt source config (fun _ => True) w journeys)
    (distinct : Distinct source.uuids w.drawnUuids) :
    CausallyValid config journeys ∧ w.customers.entries.length ≤ config.customerPoolSize ∧
      ∀ raised, build rt source config w = .error raised → raised.world.customers = w.customers := by
  have some_ := accepted.maxPaymentAttempts.1
  have sound := built.sound some_ distinct
  have fresh : (allOwnIds (emitted journeys)).Nodup :=
    (built.ownIds some_).nodup (segment_nodup distinct)
  have orders := (ordersOf_sublist (emitted journeys)).nodup fresh
  refine ⟨?_, sound.remembered.size, fun raised ran => (build_raises ran).1⟩
  constructor
  · exact sound.alive.registered
  · exact sound.remembered.sorted
  · exact sound.refersBack
  · exact fresh
  · exact sound.valid
  · exact fun orderId => attempts_few sound.valid orders
  · exact fun orderId before event after split => attempts_last sound.valid orders split

end

/-! A customer who buys, and returns to buy again. -/

/-- Everything that can happen does, at a clock that stands still. -/
def eagerSource : Source where
  random _ := 0
  pick _ := 0
  uuids := .ofNat
  clock _ := 1735732800000000

def eagerRuntime : Runtime where
  canonicalJson event := event.eventId.str
  sha256Hex text := text
  uuid5 namespace_ _ := namespace_

def eagerConfig : GeneratorConfig := { newCustomerProbability := 0 }

/-- The first two journeys. -/
def twoJourneys : Gen (JourneyResult × JourneyResult) := do
  let first ← build eagerRuntime eagerSource eagerConfig
  let second ← build eagerRuntime eagerSource eagerConfig
  return (first, second)

theorem ofNat_inj_small {n m : Nat} (small : n < 4096) (small' : m < 4096)
    (same : UUID.ofNat n = UUID.ofNat m) : n = m := by
  have digits : ∀ k, ((UUID.ofNat k).hex.drop 29).map Fin.val =
      [k / 16 ^ 2 % 16, k / 16 ^ 1 % 16, k / 16 ^ 0 % 16] := fun _ => rfl
  have both := digits n
  rw [same, digits m] at both
  simp only [List.cons.injEq, and_true] at both
  omega

theorem eagerSource_distinct : Distinct eagerSource.uuids 64 := by
  intro i j below below' same
  exact ofNat_inj_small (by omega) (by omega) same

theorem journeys_causally_valid_twice :
    ∃ w first second,
      Built eagerRuntime eagerSource eagerConfig (fun _ => True) w [first, second] ∧
      second.returningCustomer = true ∧ CausallyValid eagerConfig [first, second] := by
  have facts : (twoJourneys {}).toOption.map (fun r =>
      decide (r.2.drawnUuids ≤ 64) && r.1.2.returningCustomer) = some true := by decide +kernel
  obtain ⟨⟨⟨first, second⟩, w⟩, ran, holds⟩ := Option.map_eq_some_iff.mp facts
  obtain ⟨few, returns⟩ := (Bool.and_eq_true _ _).mp holds
  have ran : twoJourneys {} = .ok ((first, second), w) := by
    cases both : twoJourneys {} with
    | error raised =>
      rw [both] at ran
      cases ran
    | ok pair =>
      rw [both] at ran
      exact congrArg Except.ok (Option.some.inj ran)
  obtain ⟨_, u, ran₁, rest⟩ := bind_ok.mp ran
  obtain ⟨_, v, ran₂, returned⟩ := bind_ok.mp rest
  obtain ⟨same, rfl⟩ := pure_ok.mp returned
  cases same
  have built : Built eagerRuntime eagerSource eagerConfig (fun _ => True) w [first, second] :=
    (Built.start.journey trivial ran₁).journey trivial ran₂
  refine ⟨w, first, second, built, returns, ?_⟩
  exact (journeys_causally_valid eagerRuntime eagerSource eagerConfig (by decide +kernel) built
    (eagerSource_distinct.mono (of_decide_eq_true few))).1

end CommercePlatform.Generator
