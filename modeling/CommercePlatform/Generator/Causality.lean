import CommercePlatform.Generator.Visits

/-!
Every journey continues the life of its customer, or begins a new one.

The stages from the cart to the refund follow those of `Visits`; `build_spec` puts them
together. A journey draws every identifier that is new with its events, unless it puts its
product into an abandoned cart.
-/

namespace CommercePlatform.Generator

open Contract Stateful

section

variable {rt : Runtime} {source : Source} {config : GeneratorConfig} {w w' : World}

/-! ### The cart -/

theorem firstBest_mem {beats : Product → Product → Bool} {products : List Product}
    {product : Product} (found : firstBest beats products = some product) : product ∈ products := by
  have chosen : ∀ (rest : List Product) (start : Product),
      rest.foldl (fun best other => if beats other best then other else best) start ∈
        start :: rest := by
    intro rest
    induction rest with
    | nil => simp
    | cons other rest ih =>
      intro start
      rw [List.foldl_cons]
      rcases List.mem_cons.mp (ih (if beats other start then other else start)) with same | late
      · rw [same]
        split <;> simp
      · exact List.mem_cons_of_mem _ (List.mem_cons_of_mem _ late)
  cases products with
  | nil => cases found
  | cons first rest =>
    obtain rfl := Option.some.inj found
    exact chosen rest first

theorem bestProduct_spec {beats : Product → Product → Bool} {products : List Product}
    {product : Product} (ran : bestProduct beats products w = .ok (product, w')) :
    Silent w w' ∧ product ∈ products := by
  unfold bestProduct at ran
  cases found : firstBest beats products with
  | none =>
    rw [found] at ran
    exact (raiseError_ok ran).elim
  | some other =>
    rw [found] at ran
    obtain ⟨rfl, rfl⟩ := pure_ok.mp ran
    exact ⟨Silent.refl _, firstBest_mem found⟩

theorem cartProduct_spec {visit : Visit} {product : Product}
    (ran : cartProduct source visit w = .ok (product, w')) :
    Silent w w' ∧ product ∈ visit.products := by
  unfold cartProduct at ran
  split at ran
  · exact bestProduct_spec ran
  · split at ran
    · exact bestProduct_spec ran
    · exact ⟨isSilent_choice _ _ _ _ ran, choice_mem ran⟩

theorem quantity_spec {product : Product} {n : Nat}
    (ran : quantity source product w = .ok (n, w')) : Silent w w' ∧ 1 ≤ n ∧ n ≤ 3 := by
  refine ⟨isSilent_randint _ _ _ _ _ ran, ?_⟩
  unfold quantity randint at ran
  split at ran
  · exact (raiseError_ok ran).elim
  · obtain ⟨i, u, -, returned⟩ := bind_ok.mp ran
    obtain ⟨rfl, -⟩ := pure_ok.mp returned
    have below : source.pick i % (min product.availableQuantity 3 - 1 + 1) <
      min product.availableQuantity 3 - 1 + 1 := Nat.mod_lt _ (Nat.succ_pos _)
    omega

theorem discountRate_small (persona : CustomerPersona) :
    (∃ r ≤ 20, (strategyFor persona).profile.discountRate = .cents r) ∨
      (strategyFor persona).profile.discountRate = .ofNat 0 := by
  cases persona with
  | normal => exact .inl ⟨5, by decide, rfl⟩
  | indecisive => exact .inl ⟨8, by decide, rfl⟩
  | discountHunter => exact .inl ⟨20, by decide, rfl⟩
  | suspicious => exact .inl ⟨5, by decide, rfl⟩
  | bot => exact .inr rfl
  | accountTakeover => exact .inr rfl

/-- A discount leaves most of the amount. -/
theorem discountFor_spec {visit : Visit} {s : Nat} {discount : Decimal}
    (profile : visit.profile = (strategyFor visit.customer.persona).profile)
    (ran : discountFor source visit (.cents s) w = .ok (discount, w')) :
    Silent w w' ∧ ∃ k, discount = .cents k ∧ k ≤ s / 5 + 1 := by
  obtain ⟨granted, u, drawn, returned⟩ := bind_ok.mp ran
  obtain ⟨rfl, rfl⟩ := pure_ok.mp returned
  refine ⟨isSilent_chance _ _ _ _ drawn, ?_⟩
  split
  · rw [profile]
    rcases discountRate_small visit.customer.persona with ⟨r, small, rate⟩ | rate
    · rw [rate, Decimal.quantizeCents_mul_cents]
      refine ⟨_, rfl, ?_⟩
      have rounded := Decimal.halfEven_le (s * r) 100
      have part : s * r ≤ s * 20 := Nat.mul_le_mul_left s small
      omega
    · rw [rate, Decimal.quantizeCents_mul_ofNat]
      exact ⟨_, rfl, by omega⟩
  · exact ⟨0, rfl, by omega⟩

/-- What `fillBasket` leaves behind. -/
structure Filled (source : Source) (w w' : World) (visit : Visit) (basket : Basket)
    (cart : AddedToCartPayload) : Prop where
  draws : Draws source w w'
    (if visit.reuses then [basket.event.eventId] else newIds basket.event) 0
  payload : basket.event.payload = .addedToCart cart
  customerId : cart.customerId = visit.customer.customerId
  sessionId : cart.sessionId = visit.sessionId
  cartId : basket.cartId = cart.cartId
  quantity : basket.quantity = cart.quantity
  currency : cart.currency = visit.customer.preferredCurrency
  subtotal : basket.subtotal = cart.unitPrice.mul (.ofNat cart.quantity)
  follows : Follows (.browsing visit.sessionId) (.addedToCart cart) (.carted cart)
  amounts : ∃ s k, basket.subtotal = .cents s ∧ basket.discount = .cents k ∧ k + 2 ≤ s ∧ s < 10 ^ 9

theorem cartFor_draws {visit : Visit} {id : UUID} (adds : visit.adds = true)
    (ran : cartFor source visit w = .ok (id, w')) :
    Draws source w w' (if visit.reuses then [] else [id]) 0 := by
  unfold cartFor at ran
  cases abandoned : visit.customer.abandonedCart with
  | none =>
    rw [abandoned] at ran
    simpa [Visit.reuses, abandoned] using newUuid_draws ran
  | some cart =>
    rw [abandoned] at ran
    change (if _ then _ else _ : Gen UUID) w = _ at ran
    split at ran
    · rename_i reuse
      obtain ⟨rfl, rfl⟩ := pure_ok.mp ran
      simpa [Visit.reuses, abandoned, reuse, adds] using (Silent.refl _).draws
    · rename_i reuse
      simpa [Visit.reuses, abandoned, reuse] using newUuid_draws ran

theorem fillBasket_spec {visit : Visit} {basket : Basket}
    (profile : visit.profile = (strategyFor visit.customer.persona).profile)
    (listed : ∀ product ∈ visit.products, product ∈ productCatalogue) (adds : visit.adds = true)
    (ran : fillBasket source visit w = .ok (basket, w')) :
    ∃ cart, Filled source w w' visit basket cart := by
  obtain ⟨product, w₁, chosen, ran⟩ := bind_ok.mp ran
  obtain ⟨n, w₂, counted, ran⟩ := bind_ok.mp ran
  obtain ⟨cartId, w₃, assigned, ran⟩ := bind_ok.mp ran
  obtain ⟨timestamp, w₄, ticked, ran⟩ := bind_ok.mp ran
  obtain ⟨event, w₅, made, ran⟩ := bind_ok.mp ran
  obtain ⟨discount, w₆, granted, returned⟩ := bind_ok.mp ran
  obtain ⟨rfl, rfl⟩ := pure_ok.mp returned
  obtain ⟨choosing, member⟩ := cartProduct_spec chosen
  obtain ⟨counting, some_, few⟩ := quantity_spec counted
  obtain ⟨⟨price, priced, low, high⟩, -⟩ := catalogue_priced (listed product member)
  have total : product.price.mul (.ofNat n) = .cents (price * n) := by rw [priced]; rfl
  have least : 10 ≤ price * n := low.trans (Nat.le_mul_of_pos_right price some_)
  have most : price * n ≤ 129990 * 3 := Nat.mul_le_mul high few
  rw [total] at granted
  obtain ⟨granting, k, rfl, small⟩ := discountFor_spec profile granted
  obtain ⟨draws, payload, -⟩ := envelope_draws made
  have drawn := ((choosing.trans counting).then (cartFor_draws adds assigned)).trans
    (((isSilent_nextTimestamp _ _ _ _ ticked).then draws).quiet granting)
  refine ⟨_, ?_, payload, rfl, rfl, rfl, rfl, rfl, rfl, ?_, ?_⟩
  · rw [newIds, payload]
    split at drawn
    · rename_i reuse
      simpa [reuse] using drawn
    · rename_i reuse
      simpa [reuse, creates] using drawn
  · refine .add _ rfl ⟨price, ?_, priced⟩ ⟨price * n, ?_, total⟩ some_ (few.trans ?_)
    · omega
    · omega
    · decide
  · exact ⟨price * n, k, total, rfl, by omega, by omega⟩

/-! ### The purchase -/

theorem Basket.total_spec {basket : Basket} {s k : Nat} (subtotal : basket.subtotal = .cents s)
    (discount : basket.discount = .cents k) (le : k + 2 ≤ s) : basket.total = .cents (s - k) := by
  rw [Basket.total, subtotal, discount, Decimal.cents_sub (by omega)]

theorem positive_cents {n : Nat} (positive : 0 < n) : 0 < (Decimal.cents n).value := by
  rw [Decimal.cents_value]
  exact div_pos (Nat.cast_pos.mpr positive) (by norm_num)

theorem startCheckout_emits {visit : Visit} {basket : Basket} {cart : AddedToCartPayload}
    {event : EventEnvelope} {w₀ u : World} (filled : Filled source w₀ u visit basket cart)
    (ran : startCheckout source visit basket w = .ok (event, w')) :
    Emits source visit.customer.customerId w w' (.carted cart) [event]
      (.checkedOut (checkoutPayload visit basket)) := by
  obtain ⟨timestamp, v, ticked, made⟩ := bind_ok.mp ran
  obtain ⟨s, k, subtotal, discount, le, small⟩ := filled.amounts
  refine .after (isSilent_nextTimestamp _ _ _ _ ticked) (envelope_emits made rfl (.checkout _ ?_) rfl)
  constructor
  · exact filled.sessionId.symm
  · exact filled.cartId
  · exact filled.quantity
  · exact filled.currency.symm
  · exact filled.subtotal
  · exact ⟨k, by omega, discount⟩
  · exact ⟨s - k, by omega, Basket.total_spec subtotal discount le⟩

theorem createOrder_emits {visit : Visit} {basket : Basket} {orderId : UUID} {event : EventEnvelope}
    {w₀ : World} (positive : 0 < basket.total.value)
    (drawn : newUuid source w₀ = .ok (orderId, w))
    (ran : createOrder source visit basket orderId w = .ok (event, w')) :
    ∃ timestamp, Emits source visit.customer.customerId w₀ w'
      (.checkedOut (checkoutPayload visit basket)) [event]
      (.ordered (orderPayload visit basket orderId timestamp)) := by
  obtain ⟨timestamp, v, ticked, made⟩ := bind_ok.mp ran
  obtain ⟨draws, payload, -⟩ := envelope_draws made
  refine ⟨timestamp, .created (newUuid_draws drawn)
    ((isSilent_nextTimestamp _ _ _ _ ticked).then draws) ?_ ?_ ?_⟩
  · rw [payload]
    rfl
  · rw [payload]
    exact .order _ ⟨rfl, rfl, rfl, rfl, rfl, rfl, rfl, positive⟩
  · rw [payload]
    rfl

/-- The stage of an order after payments, the last of them perhaps successful. -/
inductive Settled (order : OrderCreatedPayload) : Option UUID → Stage → Prop where
  | open_ : Settled order none (.ordered order)
  | paid (p : PaymentCompletedPayload) (amount : p.amount = order.totalAmount)
      (currency : p.currency = order.currency) : Settled order (some p.paymentId) (.paid order p)

theorem payments_emits {visit : Visit} {order : OrderCreatedPayload} {n : Nat} {paid : Payments}
    (currency : visit.customer.preferredCurrency = order.currency)
    (ran : payments source config visit order.orderId order.totalAmount n w = .ok (paid, w')) :
    ∃ stage, Emits source visit.customer.customerId w w' (.ordered order) paid.events stage ∧
      Settled order paid.successful stage ∧ paid.events.length ≤ n := by
  induction n generalizing w paid with
  | zero =>
    obtain ⟨rfl, rfl⟩ := pure_ok.mp ran
    exact ⟨_, .silent (Silent.refl _), .open_, le_rfl⟩
  | succ n ih =>
    obtain ⟨paymentId, w₁, drawn, ran⟩ := bind_ok.mp ran
    obtain ⟨timestamp, w₂, ticked, ran⟩ := bind_ok.mp ran
    obtain ⟨paying, w₃, asked, ran⟩ := bind_ok.mp ran
    obtain ⟨success, w₄, decided, ran⟩ := bind_ok.mp ran
    have before : Silent w₁ w₄ := (isSilent_nextTimestamp _ _ _ _ ticked).trans
      ((isSilent_probability _ _ _ _ _ asked).trans (isSilent_chance _ _ _ _ decided))
    split at ran
    · obtain ⟨method, w₅, chosen, ran⟩ := bind_ok.mp ran
      obtain ⟨event, w₆, made, returned⟩ := bind_ok.mp ran
      obtain ⟨rfl, rfl⟩ := pure_ok.mp returned
      obtain ⟨draws, payload, -⟩ := envelope_draws made
      have quiet := before.trans (isSilent_choice _ _ _ _ chosen)
      refine ⟨.paid order (completedPayload visit order.orderId paymentId order.totalAmount method
        timestamp), .created (newUuid_draws drawn) (quiet.then draws) ?_ ?_ ?_,
        .paid (completedPayload ..) rfl currency, by simp⟩
      · rw [payload]
        rfl
      · rw [payload]
        exact .pay _ rfl rfl currency
      · rw [payload]
        rfl
    · obtain ⟨method, w₅, chosen, ran⟩ := bind_ok.mp ran
      obtain ⟨reason, w₆, chosen', ran⟩ := bind_ok.mp ran
      obtain ⟨event, w₇, made, ran⟩ := bind_ok.mp ran
      obtain ⟨again, w₈, retried, ran⟩ := bind_ok.mp ran
      obtain ⟨draws, payload, -⟩ := envelope_draws made
      have quiet := (before.trans (isSilent_choice _ _ _ _ chosen)).trans
        (isSilent_choice _ _ _ _ chosen')
      have failed : Emits source visit.customer.customerId w w₈ (.ordered order) [event]
          (.ordered order) := by
        refine .created (newUuid_draws drawn)
          ((quiet.then draws).quiet (isSilent_chance _ _ _ _ retried)) ?_ ?_ ?_
        · rw [payload]
          rfl
        · rw [payload]
          exact .fail _ rfl rfl currency
        · rw [payload]
          rfl
      split at ran
      · obtain ⟨rest, w₉, more, returned⟩ := bind_ok.mp ran
        obtain ⟨rfl, rfl⟩ := pure_ok.mp returned
        obtain ⟨stage, emits, settled, length⟩ := ih more
        exact ⟨stage, failed.trans emits, settled, by simpa using length⟩
      · obtain ⟨rfl, rfl⟩ := pure_ok.mp ran
        exact ⟨_, failed, .open_, by simp⟩

theorem refundFor_emits {visit : Visit} {order : OrderCreatedPayload} {successful : Option UUID}
    {stage : Stage} {events : List EventEnvelope} {n : Nat}
    (total : order.totalAmount = .cents n) (enough : 2 ≤ n) (small : n < 10 ^ 9)
    (currency : visit.customer.preferredCurrency = order.currency)
    (settled : Settled order successful stage)
    (ran : refundFor source config visit order.orderId order.totalAmount successful w =
      .ok (events, w')) :
    (∃ stage', Emits source visit.customer.customerId w w' stage events stage') ∧
      events.length ≤ 1 := by
  cases settled with
  | open_ =>
    obtain ⟨rfl, rfl⟩ := pure_ok.mp ran
    exact ⟨⟨_, .silent (Silent.refl _)⟩, by simp⟩
  | paid p amount currency' =>
    obtain ⟨refunding, w₁, asked, ran⟩ := bind_ok.mp ran
    obtain ⟨refunded, w₂, decided, ran⟩ := bind_ok.mp ran
    have before := (isSilent_probability _ _ _ _ _ asked).trans (isSilent_chance _ _ _ _ decided)
    split at ran
    · obtain ⟨event, w₃, requested, returned⟩ := bind_ok.mp ran
      obtain ⟨rfl, rfl⟩ := pure_ok.mp returned
      obtain ⟨timestamp, w₄, ticked, ran⟩ := bind_ok.mp requested
      obtain ⟨refundId, w₅, drawn, made⟩ := bind_ok.mp ran
      obtain ⟨draws, payload, -⟩ := envelope_draws made
      have quiet := before.trans (isSilent_nextTimestamp _ _ _ _ ticked)
      have low := Decimal.div_le_halfEven (n * 5) 10
      have high := Decimal.halfEven_le (n * 5) 10
      have half : order.totalAmount.half.quantizeCents =
          .cents (Decimal.halfEven (n * 5) 10) := by rw [total, Decimal.quantizeCents_half]
      refine ⟨⟨.refunded, .after quiet (.created (newUuid_draws drawn) draws ?_ ?_ ?_)⟩, by simp⟩
      · rw [payload]
        rfl
      · rw [payload]
        refine .refund _ ⟨rfl, rfl, currency.trans currency'.symm, ⟨_, ?_, half⟩, ?_, ?_⟩
        · omega
        · show 0 < order.totalAmount.half.quantizeCents.value
          rw [half]
          exact positive_cents (by omega)
        · show order.totalAmount.half.quantizeCents.value ≤ p.amount.value
          rw [half, amount, total, Decimal.cents_value, Decimal.cents_value]
          gcongr
          omega
      · rw [payload]
        rfl
    · obtain ⟨rfl, rfl⟩ := pure_ok.mp ran
      exact ⟨⟨_, .silent before⟩, by simp⟩

/-! ### The end of a journey -/

theorem finished_customerId (customer : CustomerState) (events : List EventEnvelope)
    (sessionId : UUID) (orderId : Option UUID) (last : Instant) :
    (customer.finished events sessionId orderId last).customerId = customer.customerId := by
  have recorded : ∀ (events : List EventEnvelope) (state : CustomerState),
      (events.foldl CustomerState.record state).customerId = state.customerId := by
    intro events
    induction events with
    | nil => exact fun _ => rfl
    | cons event events ih =>
      intro state
      rw [List.foldl_cons, ih, CustomerState.record]
      split <;> rfl
  exact recorded events _

theorem finish_spec {visit : Visit} {customer : CustomerState} {events : List EventEnvelope}
    {orderId : Option UUID} {attempts : Nat} {result : JourneyResult}
    (ran : finish config visit customer events orderId attempts w = .ok (result, w')) :
    result.events = events ∧ result.customerId = customer.customerId ∧
      result.returningCustomer = visit.returning ∧ w'.drawnUuids = w.drawnUuids ∧
      ∃ state : CustomerState, state.customerId = customer.customerId ∧
        w'.customers = w.customers.set customer.customerId state := by
  obtain ⟨last, u, read, ran⟩ := bind_ok.mp ran
  have silent := isSilent_lastOf _ _ _ _ read
  obtain ⟨_, v, committed, returned⟩ := bind_ok.mp ran
  obtain ⟨rfl, rfl⟩ := pure_ok.mp returned
  obtain ⟨world, u', read', rest⟩ := bind_ok.mp committed
  obtain ⟨rfl, rfl⟩ := get_ok.mp read'
  split at rest
  · exact (raiseError_ok rest).elim
  · split at rest
    · exact (raiseError_ok rest).elim
    · obtain rfl := modify_ok.mp rest
      have same := finished_customerId customer events visit.sessionId orderId last.eventTime
      refine ⟨rfl, same, rfl, silent.2, _, same, ?_⟩
      rw [same, silent.1]

theorem eventIds_sublist (events : List EventEnvelope) :
    (events.map (·.eventId)).Sublist (allNewIds events) := by
  induction events with
  | nil => exact List.Sublist.refl _
  | cons event events ih =>
    rw [List.map_cons, allNewIds_cons, newIds, List.append_assoc, List.singleton_append]
    exact (ih.cons_cons event.eventId).trans (List.sublist_append_right _ _)

/-- The next journey does not put its product into a cart that an earlier one has abandoned. -/
def LeavesCarts (rt : Runtime) (source : Source) (config : GeneratorConfig) (w : World) : Prop :=
  ∀ visit u, browse rt source config w = .ok (visit, u) → visit.reuses = false

/-- What a call of `build` does to the pool and to the life of its customer. -/
structure Continues (rt : Runtime) (source : Source) (config : GeneratorConfig) (w w' : World)
    (result : JourneyResult) : Prop where
  drawn : w.drawnUuids ≤ w'.drawnUuids
  few : w'.drawnUuids ≤ w.drawnUuids + 5 * result.events.length
  short : result.events.length ≤ 22 + (4 + config.maxPaymentAttempts)
  nonempty : result.events ≠ []
  eventIds : (result.events.map (·.eventId)).Sublist
    (segment source.uuids w.drawnUuids w'.drawnUuids)
  ownIds : (allOwnIds result.events).Sublist (segment source.uuids w.drawnUuids w'.drawnUuids)
  newIds : LeavesCarts rt source config w →
    (allNewIds result.events).Sublist (segment source.uuids w.drawnUuids w'.drawnUuids)
  belongs : ∀ event ∈ result.events, event.payload.customerId = some result.customerId
  pool : ∃ state : CustomerState, state.customerId = result.customerId ∧
    w'.customers = w.customers.set result.customerId state
  returns : result.returningCustomer = true →
    (∃ state ∈ w.customers.values, state.customerId = result.customerId) ∧
    ∀ stage, stage ≠ .unregistered → ∃ stage', Lives stage result.events stage'
  creates : result.returningCustomer = false →
    result.customerId = source.uuids w.drawnUuids ∧
    (result.events.head?.map (·.eventId)) = some (source.uuids (w.drawnUuids + 3)) ∧
    ∃ stage', Lives .unregistered result.events stage'

/-- How a journey goes on after `browse`: the events, and the identifiers drawn for them. -/
structure GoesOn (source : Source) (w w' : World) (visit : Visit) (events : List EventEnvelope)
    (ids : List UUID) : Prop where
  draws : Draws source w w' ids 0
  eventIds : (events.map (·.eventId)).Sublist ids
  few : ids.length ≤ 2 * events.length
  ownIds : (allOwnIds events).Sublist ids
  newIds : visit.reuses = false → ids = allNewIds events
  lives : ∃ stage, Lives (.browsing visit.sessionId) events stage
  belongs : ∀ event ∈ events, event.payload.customerId = some visit.customer.customerId

theorem Browsed.continues {u v : World} {visit : Visit} {customer : CustomerState}
    {events : List EventEnvelope} {ids : List UUID} {orderId : Option UUID} {attempts : Nat}
    {result : JourneyResult} (browsed : browse rt source config w = .ok (visit, u))
    (goesOn : GoesOn source u v visit events ids)
    (short : events.length ≤ 4 + config.maxPaymentAttempts)
    (same : customer.customerId = visit.customer.customerId)
    (ran : finish config visit customer (visit.events ++ events) orderId attempts v =
      .ok (result, w')) : Continues rt source config w w' result := by
  obtain ⟨sameEvents, customerId, returning, drawn, state, sameState, pool⟩ := finish_spec ran
  rw [same] at customerId sameState pool
  have start := browse_spec browsed
  have draws := start.draws.trans goesOn.draws
  obtain ⟨stage, lives⟩ := goesOn.lives
  have nonempty := List.length_pos_of_ne_nil start.nonempty
  refine ⟨?_, ?_, ?_, ?_, ?_, ?_, ?_, ?_, ?_, ?_, ?_⟩
  · rw [drawn]
    exact draws.drawn
  · have own := length_allNewIds visit.events
    have rest := goesOn.few
    have few := draws.few
    rw [drawn, sameEvents]
    simp only [List.length_append] at few ⊢
    omega
  · have own := start.short
    rw [sameEvents, List.length_append]
    omega
  · rw [sameEvents]
    simp [start.nonempty]
  · rw [sameEvents, drawn, List.map_append]
    exact ((eventIds_sublist _).append goesOn.eventIds).trans draws.sublist
  · rw [sameEvents, drawn, allOwnIds_append]
    exact ((allOwnIds_sublist _).append goesOn.ownIds).trans draws.sublist
  · intro leaves
    rw [sameEvents, drawn, allNewIds_append, ← goesOn.newIds (leaves visit u browsed)]
    exact draws.sublist
  · intro event mem
    rw [sameEvents] at mem
    rw [customerId]
    rcases List.mem_append.mp mem with early | late
    · exact start.belongs event early
    · exact goesOn.belongs event late
  · refine ⟨state, sameState.trans customerId.symm, ?_⟩
    rw [pool, draws.customers, customerId]
  · intro flag
    obtain ⟨⟨known, member, sameKnown⟩, follow⟩ := start.returns (returning ▸ flag)
    refine ⟨⟨known, member, sameKnown.trans customerId.symm⟩, ?_⟩
    intro before registered
    rw [sameEvents]
    exact ⟨stage, (follow before registered).append lives⟩
  · intro flag
    obtain ⟨first, head, follow⟩ := start.creates (returning ▸ flag)
    refine ⟨customerId.trans first, ?_, ?_⟩
    · rw [sameEvents, List.head?_append_of_ne_nil _ start.nonempty]
      exact head
    · rw [sameEvents]
      exact ⟨stage, follow.append lives⟩

theorem Filled.goesOn {visit : Visit} {basket : Basket} {cart : AddedToCartPayload}
    {events : List EventEnvelope} {stage : Stage} {w₀ : World}
    (filled : Filled source w₀ w visit basket cart)
    (emits : Emits source visit.customer.customerId w w' (.carted cart) events stage) :
    ∃ ids, GoesOn source w₀ w' visit (basket.event :: events) ids := by
  have own : newIds basket.event = [cart.cartId, basket.event.eventId] := by
    rw [newIds, filled.payload]
    rfl
  have own' : ownIds basket.event = [basket.event.eventId] := by
    rw [ownIds, filled.payload]
  have length := length_allNewIds events
  refine ⟨_, filled.draws.trans emits.draws, ?_, ?_, ?_, ?_, ⟨stage, ?_⟩, ?_⟩
  · rw [List.map_cons, ← List.singleton_append]
    refine List.Sublist.append ?_ (eventIds_sublist events)
    split
    · exact List.Sublist.refl _
    · simp [own]
  · simp only [List.length_append, List.length_cons]
    split
    · rw [List.length_singleton]
      omega
    · rw [own, List.length_cons, List.length_singleton]
      omega
  · rw [allOwnIds_cons, own']
    refine List.Sublist.append ?_ (allOwnIds_sublist events)
    split
    · exact List.Sublist.refl _
    · simp [own]
  · intro keeps
    simp [keeps]
  · refine .cons ?_ emits.lives
    rw [filled.payload]
    exact filled.follows
  · intro event mem
    rcases List.mem_cons.mp mem with rfl | late
    · rw [filled.payload, ← filled.customerId]
      rfl
    · exact emits.belongs event late

theorem purchase_spec {visit : Visit} {basket : Basket} {cart : AddedToCartPayload}
    {w₀ u : World} {result : JourneyResult} (browsed : browse rt source config w₀ = .ok (visit, u))
    (filled : Filled source u w visit basket cart) (some_ : 1 ≤ config.maxPaymentAttempts)
    (ran : purchase source config visit basket w = .ok (result, w')) :
    Continues rt source config w₀ w' result := by
  obtain ⟨checkout, w₁, checked, ran⟩ := bind_ok.mp ran
  obtain ⟨orderId, w₂, drawn, ran⟩ := bind_ok.mp ran
  obtain ⟨order, w₃, ordered, ran⟩ := bind_ok.mp ran
  obtain ⟨paid, w₄, charged, ran⟩ := bind_ok.mp ran
  obtain ⟨refund, w₅, refunded, ran⟩ := bind_ok.mp ran
  obtain ⟨s, k, subtotal, discount, le, small⟩ := filled.amounts
  have total := Basket.total_spec subtotal discount le
  have positive : 0 < basket.total.value := by
    rw [total]
    exact positive_cents (by omega)
  have checking := startCheckout_emits filled checked
  obtain ⟨timestamp, ordering⟩ := createOrder_emits positive drawn ordered
  have charging : payments source config visit (orderPayload visit basket orderId timestamp).orderId
      (orderPayload visit basket orderId timestamp).totalAmount _ _ = _ := charged
  obtain ⟨stage, paying, settled, attempts⟩ := payments_emits rfl charging
  have asking : refundFor source config visit (orderPayload visit basket orderId timestamp).orderId
      (orderPayload visit basket orderId timestamp).totalAmount _ _ = _ := refunded
  obtain ⟨⟨stage', refunding⟩, one⟩ :=
    refundFor_emits total (by omega) (by omega) rfl settled asking
  have most : maximumAttempts config visit.profile ≤ config.maxPaymentAttempts := by
    unfold maximumAttempts
    split <;> omega
  obtain ⟨ids, goesOn⟩ := filled.goesOn ((checking.trans ordering).trans (paying.trans refunding))
  refine Browsed.continues browsed goesOn ?_ rfl ran
  simp only [List.length_cons, List.length_append, List.length_nil]
  omega

/-- Every call of `build` continues the life of a customer of the pool, or begins a new one. -/
theorem build_spec {result : JourneyResult} (some_ : 1 ≤ config.maxPaymentAttempts)
    (ran : build rt source config w = .ok (result, w')) :
    Continues rt source config w w' result := by
  obtain ⟨visit, u, browsed, ran⟩ := bind_ok.mp ran
  have start := browse_spec browsed
  split at ran
  · rename_i adds
    obtain ⟨basket, v, basketed, ran⟩ := bind_ok.mp ran
    obtain ⟨cart, filled⟩ := fillBasket_spec start.profile start.products adds basketed
    obtain ⟨buys, v', decided, ran⟩ := bind_ok.mp ran
    have deciding : Silent v v' := by
      obtain ⟨usual, v₁, asked, chanced⟩ := bind_ok.mp decided
      exact (isSilent_probability _ _ _ _ _ asked).trans (isSilent_chance _ _ _ _ chanced)
    have filled : Filled source u v' visit basket cart :=
      { filled with draws := filled.draws.quiet deciding }
    split at ran
    · exact purchase_spec browsed filled some_ ran
    · obtain ⟨ids, goesOn⟩ := filled.goesOn (.silent (Silent.refl v'))
      refine Browsed.continues browsed goesOn ?_ ?_ ran
      · rw [List.length_singleton]
        omega
      · rfl
  · have goesOn : GoesOn source u u visit [] [] := by
      refine ⟨(Silent.refl u).draws, ?_, ?_, ?_, ?_, ⟨_, .nil _⟩, ?_⟩
      · exact List.Sublist.refl _
      · simp
      · exact List.Sublist.refl _
      · exact fun _ => rfl
      · simp
    rw [← List.append_nil visit.events] at ran
    exact Browsed.continues browsed goesOn (Nat.zero_le _) rfl ran

end

end CommercePlatform.Generator
