import CommercePlatform.Generator.Clock

/-!
The shape of a journey.

A journey is a registration, unless its customer returns, the start of its one session, and
events `Within` that session. `build_parts` takes a run of `build` apart: what `browse` has
left (`Opened`), what follows it (`Tail`) and the customer that is committed.
-/

namespace CommercePlatform.Generator

open Contract Stateful

/-! ### Events within a session -/

/-- The session is under way; its payments are made from its device, and the total of its
checkout is what the discount leaves. -/
def Within (deviceId : UUID) (event : EventEnvelope) : Prop :=
  match event.payload with
  | .userRegistered _ | .sessionStarted _ => False
  | .checkoutStarted p =>
    p.totalAmount.value = p.subtotal.value - p.discountAmount.value ∧ 0 ≤ p.totalAmount.value
  | .paymentCompleted p => p.deviceId = deviceId
  | .paymentFailed p => p.deviceId = deviceId
  | _ => True

/-- The event is a payment attempt. -/
def isPayment (event : EventEnvelope) : Bool :=
  match event.payload with
  | .paymentCompleted _ | .paymentFailed _ => true
  | _ => false

/-- A registration, if there is one, a session, and events within it. -/
structure Shape (maximum : Nat) (events registration : List EventEnvelope) (session : EventEnvelope)
    (p : SessionStartedPayload) (rest : List EventEnvelope) : Prop where
  events_eq : events = registration ++ session :: rest
  payload : session.payload = .sessionStarted p
  registers : ∀ event ∈ registration, ∃ q, event.payload = .userRegistered q
  within : ∀ event ∈ rest, Within p.deviceId event
  attempts : (rest.filter isPayment).length ≤ maximum

/-- What stands behind an event of the session: its start before it, the rest after it. -/
theorem Shape.later {maximum : Nat} {events registration rest before after : List EventEnvelope}
    {session event : EventEnvelope} {p : SessionStartedPayload}
    (shape : Shape maximum events registration session p rest)
    (split : events = before ++ event :: after) (registers : event.eventType ≠ .userRegistered)
    (starts : event.eventType ≠ .sessionStarted) :
    session ∈ before ∧ event ∈ rest ∧ ∀ other ∈ after, other ∈ rest := by
  have session_ : event ≠ session := by
    intro same
    apply starts
    rw [same, EventEnvelope.eventType, shape.payload]
    rfl
  rcases List.append_eq_append_iff.mp (shape.events_eq.symm.trans split) with
    ⟨middle, rfl, tail⟩ | ⟨middle, same, tail⟩
  · cases middle with
    | nil => exact absurd (List.cons.inj tail).1.symm session_
    | cons head middle =>
      obtain ⟨rfl, rfl⟩ := List.cons.inj tail
      exact ⟨by simp, by simp, fun other mem => by simp [mem]⟩
  · exfalso
    cases middle with
    | nil => exact session_ (List.cons.inj tail).1
    | cons head middle =>
      obtain ⟨rfl, -⟩ := List.cons.inj tail
      obtain ⟨q, payload⟩ := shape.registers event (by simp [same])
      apply registers
      rw [EventEnvelope.eventType, payload]
      rfl

section

variable {rt : Runtime} {source : Source} {config : GeneratorConfig} {w w' : World}

theorem showProducts_payloads {customer : CustomerState} {profile : PersonaProfile}
    {correlationId sessionId : UUID} {products : List Product} {events : List EventEnvelope}
    (ran : showProducts source customer profile correlationId sessionId products w =
      .ok (events, w')) : ∀ event ∈ events, ∃ p, event.payload = .productViewed p := by
  induction products generalizing w events with
  | nil =>
    obtain ⟨rfl, rfl⟩ := pure_ok.mp ran
    simp
  | cons product products ih =>
    obtain ⟨timestamp, u, ticked, ran⟩ := bind_ok.mp ran
    obtain ⟨event, v, made, ran⟩ := bind_ok.mp ran
    obtain ⟨more, v', shown, returned⟩ := bind_ok.mp ran
    obtain ⟨rfl, rfl⟩ := pure_ok.mp returned
    obtain ⟨-, payload, -⟩ := envelope_draws made
    intro other mem
    rcases List.mem_cons.mp mem with rfl | late
    · exact ⟨_, payload⟩
    · exact ih shown other late

theorem payments_within {visit : Visit} {orderId : UUID} {total : Decimal} {n : Nat}
    {paid : Payments} (ran : payments source config visit orderId total n w = .ok (paid, w')) :
    (∀ event ∈ paid.events, Within visit.deviceId event ∧ isPayment event = true) ∧
      paid.events.length ≤ n := by
  induction n generalizing w paid with
  | zero =>
    obtain ⟨rfl, rfl⟩ := pure_ok.mp ran
    exact ⟨by simp, le_rfl⟩
  | succ n ih =>
    obtain ⟨paymentId, w₁, drawn, ran⟩ := bind_ok.mp ran
    obtain ⟨timestamp, w₂, ticked, ran⟩ := bind_ok.mp ran
    obtain ⟨paying, w₃, asked, ran⟩ := bind_ok.mp ran
    obtain ⟨success, w₄, decided, ran⟩ := bind_ok.mp ran
    split at ran
    · obtain ⟨method, w₅, chosen, ran⟩ := bind_ok.mp ran
      obtain ⟨event, w₆, made, returned⟩ := bind_ok.mp ran
      obtain ⟨rfl, rfl⟩ := pure_ok.mp returned
      obtain ⟨-, payload, -⟩ := envelope_draws made
      refine ⟨?_, by simp⟩
      intro other mem
      rw [List.mem_singleton.mp mem, Within, isPayment, payload]
      exact ⟨rfl, rfl⟩
    · obtain ⟨method, w₅, chosen, ran⟩ := bind_ok.mp ran
      obtain ⟨reason, w₆, chosen', ran⟩ := bind_ok.mp ran
      obtain ⟨event, w₇, made, ran⟩ := bind_ok.mp ran
      obtain ⟨again, w₈, retried, ran⟩ := bind_ok.mp ran
      obtain ⟨-, payload, -⟩ := envelope_draws made
      have failed : Within visit.deviceId event ∧ isPayment event = true := by
        rw [Within, isPayment, payload]
        exact ⟨rfl, rfl⟩
      split at ran
      · obtain ⟨rest, w₉, more, returned⟩ := bind_ok.mp ran
        obtain ⟨rfl, rfl⟩ := pure_ok.mp returned
        obtain ⟨within, length⟩ := ih more
        refine ⟨?_, by simpa using length⟩
        intro other mem
        rcases List.mem_cons.mp mem with rfl | late
        · exact failed
        · exact within other late
      · obtain ⟨rfl, rfl⟩ := pure_ok.mp ran
        exact ⟨by simpa using failed, by simp⟩

theorem refundFor_payloads {visit : Visit} {orderId : UUID} {total : Decimal}
    {successful : Option UUID} {events : List EventEnvelope}
    (ran : refundFor source config visit orderId total successful w = .ok (events, w')) :
    ∀ event ∈ events, ∃ p, event.payload = .refundRequested p := by
  cases successful with
  | none =>
    obtain ⟨rfl, rfl⟩ := pure_ok.mp ran
    simp
  | some paymentId =>
    obtain ⟨refunding, w₁, asked, ran⟩ := bind_ok.mp ran
    obtain ⟨refunded, w₂, decided, ran⟩ := bind_ok.mp ran
    split at ran
    · obtain ⟨event, w₃, requested, returned⟩ := bind_ok.mp ran
      obtain ⟨rfl, rfl⟩ := pure_ok.mp returned
      obtain ⟨timestamp, w₄, ticked, ran⟩ := bind_ok.mp requested
      obtain ⟨refundId, w₅, drawn, made⟩ := bind_ok.mp ran
      obtain ⟨-, payload, -⟩ := envelope_draws made
      intro other mem
      rw [List.mem_singleton.mp mem]
      exact ⟨_, payload⟩
    · obtain ⟨rfl, rfl⟩ := pure_ok.mp ran
      simp

/-! ### Up to the decision to add to the cart -/

/-- What `browse` leaves behind, besides what `Browsed` says. -/
structure Opened (w w' : World) (visit : Visit) : Prop where
  /-- The clock starts at or after the last activity of a returning customer. -/
  started : ∃ u, Ticks u w' visit.events ∧
    (visit.returning = true → ∃ state ∈ w.customers.values,
      state.customerId = visit.customer.customerId ∧
      state.abandonedCart = visit.customer.abandonedCart ∧
      ∀ last, state.lastActivityTimestamp = some last → last ≤ u.cursor)
  fresh : visit.returning = false → visit.customer.abandonedCart = none
  devices : visit.customer.knownDeviceIds ≠ [] ∧ visit.customer.knownIpAddresses ≠ []
  shape : ∃ registration session views p, visit.events = registration ++ session :: views ∧
    session.payload = .sessionStarted p ∧ p.deviceId = visit.deviceId ∧
    (∀ event ∈ views, ∃ q, event.payload = .productViewed q) ∧
    ((visit.returning = true ∧ registration = []) ∨ (visit.returning = false ∧
      ∃ event q, registration = [event] ∧ event.payload = .userRegistered q))

theorem lastOf_ok {α : Type} {xs : List α} {a : α} (ran : lastOf xs w = .ok (a, w')) :
    xs.getLast? = some a ∧ w' = w := by
  unfold lastOf at ran
  cases found : xs.getLast? with
  | none =>
    rw [found] at ran
    exact (raiseError_ok ran).elim
  | some b =>
    rw [found] at ran
    obtain ⟨rfl, rfl⟩ := pure_ok.mp ran
    exact ⟨rfl, rfl⟩

/-- The identity of a session: the devices are known, and there is one. -/
theorem identityForSession_devices {customer : CustomerState} {profile : PersonaProfile}
    {identity : Identity} (ran : identityForSession source customer profile w = .ok (identity, w')) :
    identity.customer.abandonedCart = customer.abandonedCart ∧
      identity.customer.knownDeviceIds ≠ [] ∧ identity.customer.knownIpAddresses ≠ [] := by
  obtain ⟨first, u, device, ran⟩ := bind_ok.mp ran
  have same : first.customer.abandonedCart = customer.abandonedCart ∧
      first.customer.knownDeviceIds ≠ [] ∧ first.customer.knownIpAddresses ≠ [] := by
    obtain ⟨changed, v, drawn, rest⟩ := bind_ok.mp device
    split at rest
    · obtain ⟨deviceId, v₁, new, rest⟩ := bind_ok.mp rest
      obtain ⟨address, v₂, read, returned⟩ := bind_ok.mp rest
      obtain ⟨rfl, rfl⟩ := pure_ok.mp returned
      exact ⟨rfl, by simp, by simp⟩
    · obtain ⟨deviceId, v₁, read, rest⟩ := bind_ok.mp rest
      obtain ⟨address, v₂, read', returned⟩ := bind_ok.mp rest
      obtain ⟨rfl, rfl⟩ := pure_ok.mp returned
      refine ⟨rfl, ?_, ?_⟩
      · intro none_
        rw [none_] at read
        exact absurd (lastOf_ok read).1 (by simp)
      · intro none_
        rw [none_] at read'
        exact absurd (lastOf_ok read').1 (by simp)
  obtain ⟨abroad, v, drawn, rest⟩ := bind_ok.mp ran
  split at rest
  · obtain ⟨country, v₁, chosen, returned⟩ := bind_ok.mp rest
    obtain ⟨rfl, rfl⟩ := pure_ok.mp returned
    exact same
  · obtain ⟨rfl, rfl⟩ := pure_ok.mp rest
    exact same

theorem startLogicalTime_ok {customer : CustomerState} {profile : PersonaProfile}
    {returning : Bool} {u : PUnit} (nonneg : 0 ≤ profile.returnDelay)
    (ran : startLogicalTime source customer profile returning w = .ok (u, w')) :
    returning = true → ∀ last, customer.lastActivityTimestamp = some last → last ≤ w'.cursor := by
  intro returns last active
  obtain ⟨now, w₁, read, ran⟩ := bind_ok.mp ran
  rw [active] at ran
  change (if _ then _ else _ : Gen Unit) w₁ = _ at ran
  rw [if_pos returns] at ran
  obtain ⟨due, w₂, moved, set⟩ := bind_ok.mp ran
  obtain rfl := modify_ok.mp set
  unfold later at moved
  split at moved
  · obtain ⟨rfl, -⟩ := pure_ok.mp moved
    exact (Int.le_add_of_nonneg_right nonneg).trans (le_max_right _ _)
  · exact (raiseError_ok moved).elim

/-- A customer that has been created: nothing is known of it but where it lives. -/
structure Fresh (customer : CustomerState) : Prop where
  home : customer.homeCountry = "TR"
  devices : customer.knownDeviceIds ≠ [] ∧ customer.knownIpAddresses ≠ []
  active : customer.lastActivityTimestamp = none
  cart : customer.abandonedCart = none

/-- A customer is created while the pool has room, and else its state is that of the pool: of
its persona, or, for a takeover, of somebody with normal history. -/
inductive Selects (config : GeneratorConfig) (w : World) (persona : CustomerPersona)
    (selection : Selection) : Prop where
  | creates (flag : selection.returning = false) (fresh : Fresh selection.customer)
      (room : w.customers.entries.length < config.customerPoolSize)
  | recalls (flag : selection.returning = true) (member : selection.customer ∈ w.customers.values)
      (stateful : config.statefulMode = true) (same : selection.customer.persona = persona)
  | takesOver (flag : selection.returning = true) (takeover : persona = .accountTakeover)
      (original : CustomerState) (member : original ∈ w.customers.values)
      (history : original.priorNormalHistory = true)
      (same : selection.customer = { original with persona := .accountTakeover })

theorem Selects.before {u : World} {persona : CustomerPersona} {selection : Selection}
    (silent : Silent w u) (selects : Selects config u persona selection) :
    Selects config w persona selection := by
  have customers := silent.1
  cases selects with
  | creates flag fresh room => exact .creates flag fresh (customers ▸ room)
  | recalls flag member stateful same => exact .recalls flag (customers ▸ member) stateful same
  | takesOver flag takeover original member history same =>
    exact .takesOver flag takeover original (customers ▸ member) history same

theorem Selects.state {persona : CustomerPersona} {selection : Selection}
    (selects : Selects config w persona selection) :
    selection.returning = false ∧ Fresh selection.customer ∨
      selection.returning = true ∧ Recalled w selection.customer := by
  cases selects with
  | creates flag fresh room => exact .inl ⟨flag, fresh⟩
  | recalls flag member stateful same => exact .inr ⟨flag, _, member, rfl⟩
  | takesOver flag takeover original member history same =>
    exact .inr ⟨flag, original, member, by rw [same]⟩

theorem candidate_meets {p : CustomerState → Bool} {customer : CustomerState}
    (ran : candidate source p w = .ok (some customer, w')) :
    customer ∈ w.customers.values ∧ p customer = true := by
  obtain ⟨world, u, read, rest⟩ := bind_ok.mp ran
  obtain ⟨rfl, rfl⟩ := get_ok.mp read
  split at rest
  · cases (pure_ok.mp rest).1
  · obtain ⟨other, v, chosen, returned⟩ := bind_ok.mp rest
    cases (pure_ok.mp returned).1
    exact List.mem_filter.mp (choice_mem chosen)

theorem newCustomer_selects {persona : CustomerPersona} {selection : Selection}
    (ran : newCustomer source config persona w = .ok (selection, w')) :
    Selects config w persona selection := by
  obtain ⟨now, u, read, rest⟩ := bind_ok.mp ran
  obtain ⟨customer, v, created, returned⟩ := bind_ok.mp rest
  obtain ⟨rfl, rfl⟩ := pure_ok.mp returned
  refine Selects.before (isSilent_awareNow _ _ _ read) ?_
  obtain ⟨world, u', read', rest'⟩ := bind_ok.mp created
  obtain ⟨rfl, rfl⟩ := get_ok.mp read'
  split at rest'
  · exact (raiseError_ok rest').elim
  · rename_i room
    obtain ⟨customerId, u₁, first, rest'⟩ := bind_ok.mp rest'
    obtain ⟨deviceId, u₂, second, rest'⟩ := bind_ok.mp rest'
    obtain ⟨address, u₃, third, returned'⟩ := bind_ok.mp rest'
    obtain ⟨rfl, rfl⟩ := pure_ok.mp returned'
    exact .creates rfl ⟨rfl, ⟨by simp, by simp⟩, rfl, rfl⟩ (Nat.lt_of_not_le room)

theorem selectByPersona_selects {persona : CustomerPersona} {selection : Selection}
    (ran : selectByPersona source config persona w = .ok (selection, w')) :
    Selects config w persona selection := by
  obtain ⟨found, u, looked, rest⟩ := bind_ok.mp ran
  have silent := (candidate_spec looked).1
  cases found with
  | none => exact .before silent (newCustomer_selects rest)
  | some customer =>
    obtain ⟨member, same⟩ := candidate_meets looked
    change (if _ then _ else _ : Gen Selection) u = _ at rest
    split at rest
    · rename_i stateful
      obtain ⟨create, v, preferred, rest⟩ := bind_ok.mp rest
      have quiet := silent.trans (silentFrame.preferNew.returns _ _ _ preferred)
      split at rest
      · exact .before quiet (newCustomer_selects rest)
      · obtain ⟨rfl, rfl⟩ := pure_ok.mp rest
        exact .recalls rfl member stateful (of_decide_eq_true same)
    · exact .before silent (newCustomer_selects rest)

theorem selectCustomer_selects {persona : CustomerPersona} {selection : Selection}
    (ran : selectCustomer source config persona w = .ok (selection, w')) :
    Selects config w persona selection := by
  unfold selectCustomer at ran
  split at ran
  · rename_i takeover
    obtain ⟨found, u, looked, rest⟩ := bind_ok.mp ran
    obtain ⟨original, v, searched, returned⟩ := bind_ok.mp looked
    obtain ⟨rfl, rfl⟩ := pure_ok.mp returned
    cases original with
    | none => exact .before (candidate_spec searched).1 (selectByPersona_selects rest)
    | some original =>
      obtain ⟨member, history⟩ := candidate_meets searched
      obtain ⟨rfl, rfl⟩ := pure_ok.mp rest
      exact .takesOver rfl takeover original member history rfl
  · exact selectByPersona_selects ran

theorem browse_opened {visit : Visit} (ran : browse rt source config w = .ok (visit, w')) :
    Opened w w' visit := by
  obtain ⟨_, w₀, unset, ran⟩ := bind_ok.mp ran
  obtain ⟨persona, w₁, chosen, ran⟩ := bind_ok.mp ran
  obtain ⟨selection, w₂, selected, ran⟩ := bind_ok.mp ran
  obtain ⟨_, w₃, started, ran⟩ := bind_ok.mp ran
  obtain ⟨correlationId, w₄, correlated, ran⟩ := bind_ok.mp ran
  obtain ⟨registration, w₅, registered, ran⟩ := bind_ok.mp ran
  obtain ⟨identity, w₆, identified, ran⟩ := bind_ok.mp ran
  obtain ⟨sessionId, w₇, drawn, ran⟩ := bind_ok.mp ran
  obtain ⟨session, w₈, opened, ran⟩ := bind_ok.mp ran
  obtain ⟨products, w₉, viewed, ran⟩ := bind_ok.mp ran
  obtain ⟨views, w₁₀, shown, ran⟩ := bind_ok.mp ran
  obtain ⟨adding, w₁₁, asked, ran⟩ := bind_ok.mp ran
  obtain ⟨adds, w₁₂, decided, returned⟩ := bind_ok.mp ran
  obtain ⟨rfl, rfl⟩ := pure_ok.mp returned
  have nonneg := actionDelay_nonneg selection.customer.persona
  have customers : w₁.customers = w.customers := by
    rw [(isSilent_choosePersona _ _ _ chosen).1, modify_ok.mp unset]
  obtain ⟨cart, device, address⟩ := identityForSession_devices identified
  obtain ⟨-, sameId, -⟩ := identityForSession_spec identified
  have ticks : Ticks w₃ w' (registration ++ session :: views) := by
    have before := (register_ticks registered).after (still_of stillFrame.newUuid correlated)
    have between := (still_of (stillFrame.identityForSession _ _) identified).trans
      (still_of stillFrame.newUuid drawn)
    have showing := (showProducts_ticks nonneg shown).after
      (still_of (stillFrame.viewProducts _ _) viewed)
    have ending := (still_of (stillFrame.probability _ _) asked).trans
      (still_of (stillFrame.chance _) decided)
    exact before.trans (((startSession_ticks nonneg opened).after between).trans
      (showing.before ending))
  have state := (selectCustomer_selects selected).state
  obtain ⟨timestamp, v, ticked, rest⟩ := bind_ok.mp opened
  obtain ⟨type, v', typed, made⟩ := bind_ok.mp rest
  obtain ⟨-, payload, -⟩ := envelope_draws made
  refine ⟨⟨w₃, ticks, fun returns => ?_⟩, fun fresh => ?_, ⟨device, address⟩, ?_⟩
  · rcases state with ⟨flag, -⟩ | ⟨-, original, member, same⟩
    · cases flag.symm.trans returns
    · refine ⟨original, customers ▸ member, ?_, ?_, ?_⟩
      · exact Eq.trans (by rw [same]) sameId.symm
      · exact Eq.trans (by rw [same]) cart.symm
      · intro last active
        refine startLogicalTime_ok (returnDelay_nonneg _) started returns last ?_
        rw [same]
        exact active
  · rcases state with ⟨-, new⟩ | ⟨flag, -⟩
    · exact cart.trans new.cart
    · cases flag.symm.trans fresh
  · refine ⟨registration, session, views, _, rfl, payload, rfl, showProducts_payloads shown, ?_⟩
    rcases register_spec registered with ⟨flag, none_, -⟩ | ⟨flag, event, q, one, registers, -⟩
    · exact .inl ⟨flag, none_⟩
    · exact .inr ⟨flag, event, q, one, registers⟩

/-! ### From there to the end -/

/-- What follows `browse`. -/
structure Tail (source : Source) (maximum : Nat) (u v : World) (visit : Visit)
    (events : List EventEnvelope) : Prop where
  ticks : Ticks u v events
  customers : v.customers = u.customers
  within : ∀ event ∈ events, Within visit.deviceId event
  attempts : (events.filter isPayment).length ≤ maximum
  carts : ∀ before event after p, events = before ++ event :: after →
    event.payload = .addedToCart p → before = [] ∧ ((∃ cart, visit.customer.abandonedCart = some cart ∧ cart.cartId = p.cartId) ∨
      p.cartId ∈ segment source.uuids u.drawnUuids v.drawnUuids)

/-- The customer that is committed: as it visited, or with the cart that it has left. -/
inductive Leaves (visit : Visit) (events : List EventEnvelope) : CustomerState → Prop where
  | kept : Leaves visit events visit.customer
  | left (cart : AbandonedCart) (event : EventEnvelope) (p : AddedToCartPayload)
      (mem : event ∈ events) (payload : event.payload = .addedToCart p)
      (cartId : cart.cartId = p.cartId) :
      Leaves visit events { visit.customer with abandonedCart := some cart }

theorem cartFor_ok {visit : Visit} {id : UUID} (ran : cartFor source visit w = .ok (id, w')) :
    (∃ cart, visit.customer.abandonedCart = some cart ∧ cart.cartId = id) ∨
      id ∈ segment source.uuids w.drawnUuids w'.drawnUuids := by
  have drawn : ∀ {id : UUID}, newUuid source w = .ok (id, w') →
      id ∈ segment source.uuids w.drawnUuids w'.drawnUuids :=
    fun ran => (newUuid_draws ran).sublist.subset (List.mem_singleton_self _)
  unfold cartFor at ran
  cases abandoned : visit.customer.abandonedCart with
  | none =>
    rw [abandoned] at ran
    exact .inr (drawn ran)
  | some cart =>
    rw [abandoned] at ran
    change (if _ then _ else _ : Gen UUID) w = _ at ran
    split at ran
    · obtain ⟨rfl, rfl⟩ := pure_ok.mp ran
      exact .inl ⟨cart, rfl, rfl⟩
    · exact .inr (drawn ran)

theorem mem_segment_mono {id : UUID} {low low' high high' : Nat}
    (mem : id ∈ segment source.uuids low high) (below : low' ≤ low) (above : high ≤ high') :
    id ∈ segment source.uuids low' high' := by
  obtain ⟨k, first, last, same⟩ := mem_segment.mp mem
  exact mem_segment.mpr ⟨k, below.trans first, last.trans_le above, same⟩

/-- No code draws UUIDs back. -/
def Older (w w' : World) : Prop := w'.customers = w.customers ∧ w.drawnUuids ≤ w'.drawnUuids

theorem olderFrame : PoolFrame Older where
  refl _ := ⟨rfl, le_rfl⟩
  trans _ _ _ first second := ⟨second.1.trans first.1, first.2.trans second.2⟩
  draws _ _ := ⟨rfl, le_rfl⟩
  readings _ _ := ⟨rfl, le_rfl⟩
  uuids _ := ⟨rfl, Nat.le_succ _⟩
  cursor _ _ := ⟨rfl, le_rfl⟩

theorem older_browse : Respects Older (browse rt source config) :=
  olderFrame.browse fun _ _ => ⟨rfl, le_rfl⟩

/-- The event that fills the basket, and the cart it is for. -/
theorem fillBasket_carts {visit : Visit} {basket : Basket}
    (ran : fillBasket source visit w = .ok (basket, w')) :
    ∃ p, basket.event.payload = .addedToCart p ∧ p.cartId = basket.cartId ∧
      ((∃ cart, visit.customer.abandonedCart = some cart ∧ cart.cartId = p.cartId) ∨
        p.cartId ∈ segment source.uuids w.drawnUuids w'.drawnUuids) := by
  obtain ⟨product, w₁, chosen, ran⟩ := bind_ok.mp ran
  obtain ⟨n, w₂, counted, ran⟩ := bind_ok.mp ran
  obtain ⟨cartId, w₃, assigned, ran⟩ := bind_ok.mp ran
  obtain ⟨timestamp, w₄, ticked, ran⟩ := bind_ok.mp ran
  obtain ⟨event, w₅, made, ran⟩ := bind_ok.mp ran
  obtain ⟨discount, w₆, granted, returned⟩ := bind_ok.mp ran
  obtain ⟨rfl, rfl⟩ := pure_ok.mp returned
  obtain ⟨-, payload, -⟩ := envelope_draws made
  have before : Older w w₂ := olderFrame.trans _ _ _
    ((olderFrame.cartProduct _).returns _ _ _ chosen) ((olderFrame.randint _ _).returns _ _ _ counted)
  have after : Older w₃ w' := olderFrame.trans _ _ _
    ((olderFrame.nextTimestamp _).returns _ _ _ ticked) (olderFrame.trans _ _ _
      ((olderFrame.envelope _ _ _).returns _ _ _ made)
      ((olderFrame.discountFor _ _).returns _ _ _ granted))
  refine ⟨_, payload, rfl, ?_⟩
  exact (cartFor_ok assigned).imp_right fun mem => mem_segment_mono mem before.2 after.2

theorem Tail.nil {maximum : Nat} {visit : Visit} : Tail source maximum w w visit [] where
  ticks := .still (Still.refl w)
  customers := rfl
  within := by simp
  attempts := by simp
  carts := by simp

/-- The cart alone. -/
theorem Tail.cart {maximum : Nat} {visit : Visit} {basket : Basket} {u v : World}
    (nonneg : 0 ≤ visit.profile.actionDelay) (filled : fillBasket source visit u = .ok (basket, v))
    (quiet : Still v w) (drawn : v.drawnUuids ≤ w.drawnUuids) :
    Tail source maximum u w visit [basket.event] := by
  obtain ⟨p, payload, -, cart⟩ := fillBasket_carts filled
  refine ⟨(fillBasket_ticks nonneg filled).before quiet, ?_, ?_, ?_, ?_⟩
  · rw [quiet.1, ((olderFrame.fillBasket _).returns _ _ _ filled).1]
  · intro event mem
    rw [List.mem_singleton.mp mem, Within, payload]
    trivial
  · simp [isPayment, payload]
  · intro before event after q split same
    obtain ⟨rfl, rfl⟩ : before = [] ∧ event = basket.event := by
      cases before with
      | nil => exact ⟨rfl, (List.cons.inj split).1.symm⟩
      | cons head before => simp at split
    rw [payload] at same
    cases same
    exact ⟨rfl, cart.imp_right fun mem => mem_segment_mono mem le_rfl drawn⟩

/-- The purchase after it. -/
theorem Tail.purchase {maximum : Nat} {visit : Visit} {basket : Basket} {orderId : UUID}
    {checkout order : EventEnvelope} {paid : Payments} {refund : List EventEnvelope}
    {p : AddedToCartPayload} {u v v₁ v₂ v₃ v₄ v₅ : World} {s k : Nat} (nonneg : 0 ≤ visit.profile.actionDelay)
    (cart : Tail source 0 u v visit [basket.event]) (payload : basket.event.payload = .addedToCart p)
    (amounts : basket.subtotal = .cents s ∧ basket.discount = .cents k ∧ k + 2 ≤ s)
    (checked : startCheckout source visit basket v = .ok (checkout, v₁))
    (drawn : newUuid source v₁ = .ok (orderId, v₂))
    (ordered : createOrder source visit basket orderId v₂ = .ok (order, v₃))
    (charged : payments source config visit orderId basket.total maximum v₃ = .ok (paid, v₄))
    (refunded : refundFor source config visit orderId basket.total paid.successful v₄ =
      .ok (refund, v₅)) :
    Tail source maximum u v₅ visit
      (basket.event :: checkout :: order :: (paid.events ++ refund)) := by
  obtain ⟨timestamp, x, ticked, made⟩ := bind_ok.mp checked
  obtain ⟨-, checkoutPayload_, -⟩ := envelope_draws made
  obtain ⟨timestamp', x', ticked', made'⟩ := bind_ok.mp ordered
  obtain ⟨-, orderPayload_, -⟩ := envelope_draws made'
  obtain ⟨paying, most⟩ := payments_within charged
  have refunding := refundFor_payloads refunded
  have older : Older v v₅ := olderFrame.trans _ _ _
    ((olderFrame.startCheckout _ _).returns _ _ _ checked) (olderFrame.trans _ _ _
      (olderFrame.newUuid.returns _ _ _ drawn) (olderFrame.trans _ _ _
        ((olderFrame.createOrder _ _ _).returns _ _ _ ordered) (olderFrame.trans _ _ _
          ((olderFrame.payments _ _ _ _).returns _ _ _ charged)
          ((olderFrame.refundFor _ _ _ _).returns _ _ _ refunded))))
  obtain ⟨subtotal, discount, le⟩ := amounts
  refine ⟨?_, ?_, ?_, ?_, ?_⟩
  · have ordering := (createOrder_ticks nonneg ordered).after (still_of stillFrame.newUuid drawn)
    exact cart.ticks.trans ((startCheckout_ticks nonneg checked).trans (ordering.trans
      ((payments_ticks nonneg charged).trans (refundFor_ticks nonneg refunded))))
  · rw [older.1, cart.customers]
  · intro event mem
    simp only [List.mem_cons, List.mem_append] at mem
    rcases mem with rfl | rfl | rfl | early | late
    · exact cart.within _ List.mem_cons_self
    · rw [Within, checkoutPayload_]
      show basket.total.value = basket.subtotal.value - basket.discount.value ∧ 0 ≤ basket.total.value
      rw [Basket.total_spec subtotal discount le, subtotal, discount]
      simp only [Decimal.cents_value]
      constructor
      · rw [Nat.cast_sub (by omega)]
        ring
      · exact div_nonneg (Nat.cast_nonneg _) (by norm_num)
    · rw [Within, orderPayload_]
      trivial
    · exact (paying _ early).1
    · obtain ⟨p, payload⟩ := refunding _ late
      rw [Within, payload]
      trivial
  · have none_ : refund.filter isPayment = [] := by
      rw [List.filter_eq_nil_iff]
      intro event mem
      obtain ⟨q, payload⟩ := refunding _ mem
      simp [isPayment, payload]
    have first : isPayment basket.event = false := by simp [isPayment, payload]
    have second : isPayment checkout = false := by simp [isPayment, checkoutPayload_]
    have third : isPayment order = false := by simp [isPayment, orderPayload_]
    simp only [List.filter_cons, first, second, third, List.filter_append, none_, List.append_nil,
      Bool.false_eq_true, if_false]
    exact (List.length_filter_le _ _).trans most
  · intro before event after q split same
    cases before with
    | nil =>
      obtain ⟨rfl, -⟩ := List.cons.inj split
      refine ⟨rfl, ((cart.carts [] _ [] q rfl same).2).imp_right ?_⟩
      exact fun mem => mem_segment_mono mem le_rfl older.2
    | cons head before =>
      exfalso
      have mem : event ∈ checkout :: order :: (paid.events ++ refund) := by
        rw [(List.cons.inj split).2]
        simp
      simp only [List.mem_cons, List.mem_append] at mem
      rcases mem with rfl | rfl | early | late
      · rw [checkoutPayload_] at same
        cases same
      · rw [orderPayload_] at same
        cases same
      · have attempt := (paying _ early).2
        rw [isPayment, same] at attempt
        cases attempt
      · obtain ⟨p, payload⟩ := refunding _ late
        rw [payload] at same
        cases same

/-- What `build` hands to `_finish`. -/
structure Conclusion where
  customer : CustomerState
  events : List EventEnvelope
  orderId : Option UUID := none
  attempts : Nat := 0

/-- `build`, between `browse` and `_finish`. -/
def conclude (source : Source) (config : GeneratorConfig) (visit : Visit) : Gen Conclusion :=
  if visit.adds then do
    let basket ← fillBasket source visit
    let buys ← checksOut source config visit basket
    if buys then do
      let checkout ← startCheckout source visit basket
      let orderId ← newUuid source
      let order ← createOrder source visit basket orderId
      let paid ←
        payments source config visit orderId basket.total (maximumAttempts config visit.profile)
      let refund ← refundFor source config visit orderId basket.total paid.successful
      return {
        customer := visit.customer
        events := visit.events ++ basket.event :: checkout :: order :: (paid.events ++ refund)
        orderId := some orderId
        attempts := paid.attempts }
    else
      return {
        customer := { visit.customer with
          abandonedCart := some { cartId := basket.cartId, productId := basket.product.productId } }
        events := visit.events ++ [basket.event] }
  else return { customer := visit.customer, events := visit.events }

theorem build_eq (rt : Runtime) (source : Source) (config : GeneratorConfig) :
    build rt source config = (do
      let visit ← browse rt source config
      let c ← conclude source config visit
      finish config visit c.customer c.events c.orderId c.attempts) := by
  unfold build
  congr 1
  funext visit
  unfold conclude shop purchase
  split
  · simp only [bind_assoc]
    congr 1
    funext basket
    congr 1
    funext buys
    split
    · simp only [bind_assoc, pure_bind]
    · rw [pure_bind]
  · rw [pure_bind]

theorem maximumAttempts_le (profile : PersonaProfile) (some_ : 1 ≤ config.maxPaymentAttempts) :
    maximumAttempts config profile ≤ config.maxPaymentAttempts := by
  unfold maximumAttempts
  split <;> omega

theorem Tail.mono {maximum maximum' : Nat} {u v : World} {visit : Visit}
    {events : List EventEnvelope} (tail : Tail source maximum u v visit events)
    (le : maximum ≤ maximum') : Tail source maximum' u v visit events :=
  { tail with attempts := tail.attempts.trans le }

theorem conclude_tail {visit : Visit} {u v : World} {c : Conclusion}
    (some_ : 1 ≤ config.maxPaymentAttempts) (start : Browsed source w u visit)
    (ran : conclude source config visit u = .ok (c, v)) :
    ∃ events, Tail source config.maxPaymentAttempts u v visit events ∧
      Leaves visit events c.customer ∧ c.events = visit.events ++ events := by
  have nonneg : 0 ≤ visit.profile.actionDelay := by
    rw [start.profile]
    exact actionDelay_nonneg _
  unfold conclude at ran
  split at ran
  · rename_i adds
    obtain ⟨basket, v', basketed, ran⟩ := bind_ok.mp ran
    obtain ⟨buys, v'', decided, ran⟩ := bind_ok.mp ran
    obtain ⟨cart, filled⟩ := fillBasket_spec start.profile start.products adds basketed
    obtain ⟨p, payload, cartId, -⟩ := fillBasket_carts basketed
    have quiet := still_of (stillFrame.checksOut _ _) decided
    have drawn := ((olderFrame.checksOut _ _).returns _ _ _ decided).2
    split at ran
    · obtain ⟨checkout, v₁, checked, ran⟩ := bind_ok.mp ran
      obtain ⟨orderId, v₂, ordering, ran⟩ := bind_ok.mp ran
      obtain ⟨order, v₃, ordered, ran⟩ := bind_ok.mp ran
      obtain ⟨paid, v₄, charged, ran⟩ := bind_ok.mp ran
      obtain ⟨refund, v₅, refunded, returned⟩ := bind_ok.mp ran
      obtain ⟨rfl, rfl⟩ := pure_ok.mp returned
      obtain ⟨s, k, subtotal, discount, le, -⟩ := filled.amounts
      have tail := Tail.purchase nonneg (Tail.cart nonneg basketed quiet drawn) payload
        ⟨subtotal, discount, le⟩ checked ordering ordered charged refunded
      exact ⟨_, tail.mono (maximumAttempts_le _ some_), .kept, rfl⟩
    · obtain ⟨rfl, rfl⟩ := pure_ok.mp ran
      exact ⟨_, Tail.cart nonneg basketed quiet drawn,
        .left _ basket.event p (List.mem_singleton_self _) payload cartId.symm, rfl⟩
  · obtain ⟨rfl, rfl⟩ := pure_ok.mp ran
    exact ⟨[], .nil, .kept, (List.append_nil _).symm⟩

/-- A run of `build`, taken apart: `browse` to the world `u`, the tail to `v`, and the end. -/
structure Parts (rt : Runtime) (source : Source) (config : GeneratorConfig) (w w' : World)
    (result : JourneyResult) (visit : Visit) (u v : World) (customer : CustomerState)
    (events : List EventEnvelope) : Prop where
  browsed : browse rt source config w = .ok (visit, u)
  tail : Tail source config.maxPaymentAttempts u v visit events
  leaves : Leaves visit events customer
  finished : ∃ orderId attempts,
    finish config visit customer (visit.events ++ events) orderId attempts v = .ok (result, w')

theorem build_parts {result : JourneyResult} (some_ : 1 ≤ config.maxPaymentAttempts)
    (ran : build rt source config w = .ok (result, w')) :
    ∃ visit u v customer events, Parts rt source config w w' result visit u v customer events := by
  rw [build_eq] at ran
  obtain ⟨visit, u, browsed, ran⟩ := bind_ok.mp ran
  obtain ⟨c, v, concluded, finished⟩ := bind_ok.mp ran
  obtain ⟨events, tail, leaves, same⟩ := conclude_tail some_ (browse_spec browsed) concluded
  rw [same] at finished
  exact ⟨visit, u, v, _, events, browsed, tail, leaves, _, _, finished⟩

/-! ### The commit -/

/-- What is stored: the customer at the last event, if the pool has a place for it and no
later activity. -/
theorem finish_commits {visit : Visit} {customer : CustomerState} {events : List EventEnvelope}
    {orderId : Option UUID} {attempts : Nat} {result : JourneyResult}
    (ran : finish config visit customer events orderId attempts w = .ok (result, w')) :
    ∃ last, events.getLast? = some last ∧ result.events = events ∧
      result.customerId = customer.customerId ∧ result.returningCustomer = visit.returning ∧
      w'.customers = w.customers.set customer.customerId
        (customer.finished events visit.sessionId orderId last.eventTime) ∧
      (w.customers.get? customer.customerId = none →
        w.customers.entries.length < config.customerPoolSize) := by
  obtain ⟨last, u, read, after⟩ := bind_ok.mp ran
  obtain ⟨found, rfl⟩ := lastOf_ok read
  obtain ⟨_, v, committed, returned⟩ := bind_ok.mp after
  obtain ⟨rfl, rfl⟩ := pure_ok.mp returned
  obtain ⟨world, u', read', rest⟩ := bind_ok.mp committed
  obtain ⟨rfl, rfl⟩ := get_ok.mp read'
  have same := finished_customerId customer events visit.sessionId orderId last.eventTime
  split at rest
  · exact (raiseError_ok rest).elim
  · rename_i room
    split at rest
    · exact (raiseError_ok rest).elim
    · obtain rfl := modify_ok.mp rest
      refine ⟨last, found, rfl, same, rfl, by rw [same], fun absent => ?_⟩
      rw [same, absent] at room
      simpa using room

theorem record_keeps (state : CustomerState) (events : List EventEnvelope) :
    (events.foldl CustomerState.record state).knownDeviceIds = state.knownDeviceIds ∧
      (events.foldl CustomerState.record state).knownIpAddresses = state.knownIpAddresses ∧
      (events.foldl CustomerState.record state).homeCountry = state.homeCountry := by
  induction events generalizing state with
  | nil => exact ⟨rfl, rfl, rfl⟩
  | cons event events ih =>
    obtain ⟨devices, addresses, home⟩ := ih (state.record event)
    rw [List.foldl_cons, devices, addresses, home, CustomerState.record]
    split <;> exact ⟨rfl, rfl, rfl⟩

/-- A cart is abandoned by the customer as it ends its journey only if it was before, or by
this journey. -/
theorem finished_abandonedCart {customer : CustomerState} {events : List EventEnvelope}
    {sessionId : UUID} {orderId : Option UUID} {last : Instant} {cart : AbandonedCart}
    (abandoned : (customer.finished events sessionId orderId last).abandonedCart = some cart) :
    customer.abandonedCart = some cart := by
  unfold CustomerState.finished at abandoned
  simp only at abandoned
  split at abandoned
  · cases abandoned
  · exact abandoned

/-! ### The parts put together -/

section

variable {result : JourneyResult} {visit : Visit} {u v : World} {customer : CustomerState}
  {events : List EventEnvelope}

theorem Parts.events_eq (parts : Parts rt source config w w' result visit u v customer events) :
    result.events = visit.events ++ events := by
  obtain ⟨orderId, attempts, finished⟩ := parts.finished
  obtain ⟨last, -, same, -⟩ := finish_commits finished
  exact same

theorem Parts.shape (parts : Parts rt source config w w' result visit u v customer events) :
    ∃ registration session rest p,
      Shape config.maxPaymentAttempts result.events registration session p rest := by
  obtain ⟨registration, session, views, p, same, payload, device, viewed, registers⟩ :=
    (browse_opened parts.browsed).shape
  refine ⟨registration, session, views ++ events, p, ?_, payload, ?_, ?_, ?_⟩
  · rw [parts.events_eq, same, List.append_assoc, List.cons_append]
  · rcases registers with ⟨-, rfl⟩ | ⟨-, event, q, rfl, registered⟩
    · simp
    · intro other mem
      rw [List.mem_singleton.mp mem]
      exact ⟨q, registered⟩
  · intro event mem
    rcases List.mem_append.mp mem with early | late
    · obtain ⟨q, view⟩ := viewed event early
      rw [Within, view]
      trivial
    · rw [device]
      exact parts.tail.within event late
  · have none_ : views.filter isPayment = [] := by
      rw [List.filter_eq_nil_iff]
      intro event mem
      obtain ⟨q, view⟩ := viewed event mem
      simp [isPayment, view]
    rw [List.filter_append, none_, List.nil_append]
    exact parts.tail.attempts

/-- Nothing is put into a cart before the tail. -/
theorem Opened.no_cart (opened : Opened w u visit) :
    ∀ event ∈ visit.events, ∀ p, event.payload ≠ .addedToCart p := by
  obtain ⟨registration, session, views, p, same, payload, -, viewed, registers⟩ := opened.shape
  intro event mem q impossible
  rw [same] at mem
  rcases List.mem_append.mp mem with early | late
  · rcases registers with ⟨-, rfl⟩ | ⟨-, other, p', rfl, registered⟩
    · cases early
    · rw [List.mem_singleton.mp early, registered] at impossible
      cases impossible
  · rcases List.mem_cons.mp late with rfl | view
    · rw [payload] at impossible
      cases impossible
    · obtain ⟨p', view⟩ := viewed event view
      rw [view] at impossible
      cases impossible

/-- The event that puts something into a cart is the first of the tail. -/
theorem Parts.cart (parts : Parts rt source config w w' result visit u v customer events)
    {before after : List EventEnvelope} {event : EventEnvelope} {p : AddedToCartPayload}
    (split : result.events = before ++ event :: after) (payload : event.payload = .addedToCart p) :
    before = visit.events ∧
      ((∃ cart, visit.customer.abandonedCart = some cart ∧ cart.cartId = p.cartId) ∨
        p.cartId ∈ segment source.uuids u.drawnUuids v.drawnUuids) := by
  have opened := browse_opened parts.browsed
  rcases List.append_eq_append_iff.mp (parts.events_eq.symm.trans split) with
    ⟨middle, rfl, tail⟩ | ⟨middle, same, tail⟩
  · obtain ⟨rfl, cart⟩ := parts.tail.carts middle event after p tail payload
    exact ⟨List.append_nil _, cart⟩
  · cases middle with
    | nil =>
      obtain ⟨-, cart⟩ := parts.tail.carts [] event after p tail.symm payload
      exact ⟨by rw [same, List.append_nil], cart⟩
    | cons head middle =>
      obtain ⟨rfl, -⟩ := List.cons.inj tail
      exact absurd payload (opened.no_cart event (by simp [same]) p)

end

end

end CommercePlatform.Generator
