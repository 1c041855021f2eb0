import CommercePlatform.Generator.Completion

/-!
A builder that overrides the branch controls and names no persona.

It never looks at the weights: `choosePersona` returns the normal persona, whatever the RNG and
the customers are (`choosePersona_overridden`). Where nothing is put into a cart its customers
stay without payments, so nobody gets the history that a takeover needs (`Built.idle`); where
everything is bought the first journey of a lucky builder brings that history about
(`buying_history`).
-/

namespace CommercePlatform.Generator

open Contract Stateful

section

variable {rt : Runtime} {source : Source} {config : GeneratorConfig} {w w' : World}

/-! ### The persona -/

/-- No persona is named, and a branch control is not at its default. -/
def Overrides (config : GeneratorConfig) : Prop := config.persona = none ∧ overridden config = true

theorem choosePersona_overridden (overrides : Overrides config) (w : World) :
    choosePersona source config w = .ok (.normal, w) := by
  unfold choosePersona
  rw [overrides.1]
  simp only [overrides.2, if_true]
  rfl

/-! ### Customers without payments -/

/-- The flag of a seeded takeover stays as it is. -/
def SameFlag (w w' : World) : Prop := w'.seedingTakeover = w.seedingTakeover

theorem flagFrame : PoolFrame SameFlag where
  refl _ := rfl
  trans _ _ _ first second := Eq.trans second first
  draws _ _ := rfl
  readings _ _ := rfl
  uuids _ := rfl
  cursor _ _ := rfl

/-- A normal customer that has not paid. -/
structure Idle (state : CustomerState) : Prop where
  persona : state.persona = .normal
  payments : state.successfulPayments = 0
  history : state.priorNormalHistory = false

theorem newCustomer_idle {selection : Selection}
    (ran : newCustomer source config .normal w = .ok (selection, w')) :
    Idle selection.customer := by
  obtain ⟨now, u, read, rest⟩ := bind_ok.mp ran
  obtain ⟨customer, v, created, returned⟩ := bind_ok.mp rest
  obtain ⟨rfl, rfl⟩ := pure_ok.mp returned
  obtain ⟨world, u', read', rest'⟩ := bind_ok.mp created
  split at rest'
  · exact (raiseError_ok rest').elim
  · obtain ⟨customerId, u₁, first, rest'⟩ := bind_ok.mp rest'
    obtain ⟨deviceId, u₂, second, rest'⟩ := bind_ok.mp rest'
    obtain ⟨address, u₃, third, returned'⟩ := bind_ok.mp rest'
    obtain ⟨rfl, rfl⟩ := pure_ok.mp returned'
    exact ⟨rfl, rfl, rfl⟩

theorem selectCustomer_idle {selection : Selection}
    (pool : ∀ state ∈ w.customers.values, Idle state)
    (ran : selectCustomer source config .normal w = .ok (selection, w')) :
    Idle selection.customer := by
  have selected : selectByPersona source config .normal w = .ok (selection, w') := ran
  obtain ⟨found, u, looked, rest⟩ := bind_ok.mp selected
  cases found with
  | none => exact newCustomer_idle rest
  | some customer =>
    have member := (candidate_meets looked).1
    change (if _ then _ else _ : Gen Selection) u = _ at rest
    split at rest
    · obtain ⟨create, v, preferred, rest⟩ := bind_ok.mp rest
      split at rest
      · exact newCustomer_idle rest
      · obtain ⟨rfl, rfl⟩ := pure_ok.mp rest
        exact pool _ member
    · exact newCustomer_idle rest

theorem identityForSession_idle {customer : CustomerState} {profile : PersonaProfile}
    {identity : Identity} (idle : Idle customer)
    (ran : identityForSession source customer profile w = .ok (identity, w')) :
    Idle identity.customer := by
  obtain ⟨first, u, device, rest⟩ := bind_ok.mp ran
  have same : Idle first.customer := by
    obtain ⟨changed, v, drawn, rest⟩ := bind_ok.mp device
    split at rest
    · obtain ⟨deviceId, v₁, new, rest⟩ := bind_ok.mp rest
      obtain ⟨address, v₂, read, returned⟩ := bind_ok.mp rest
      obtain ⟨rfl, rfl⟩ := pure_ok.mp returned
      exact ⟨idle.persona, idle.payments, idle.history⟩
    · obtain ⟨deviceId, v₁, read, rest⟩ := bind_ok.mp rest
      obtain ⟨address, v₂, read', returned⟩ := bind_ok.mp rest
      obtain ⟨rfl, rfl⟩ := pure_ok.mp returned
      exact idle
  obtain ⟨abroad, v, drawn, rest⟩ := bind_ok.mp rest
  split at rest
  · obtain ⟨country, v₁, chosen, returned⟩ := bind_ok.mp rest
    obtain ⟨rfl, rfl⟩ := pure_ok.mp returned
    exact same
  · obtain ⟨rfl, rfl⟩ := pure_ok.mp rest
    exact same

/-- Nothing is put into a cart, and the customer stays without payments. -/
theorem browse_idle {visit : Visit} (overrides : Overrides config)
    (never : config.addToCartProbability = 0) (random : ∀ i, 0 ≤ source.random i)
    (pool : ∀ state ∈ w.customers.values, Idle state)
    (ran : browse rt source config w = .ok (visit, w')) :
    visit.adds = false ∧ Idle visit.customer := by
  rw [browse_eq] at ran
  obtain ⟨_, w₀, unset, ran⟩ := bind_ok.mp ran
  obtain ⟨persona, w₁, chosen, ran⟩ := bind_ok.mp ran
  obtain ⟨selection, w₂, selected, ran⟩ := bind_ok.mp ran
  obtain ⟨_, w₃, started, ran⟩ := bind_ok.mp ran
  obtain ⟨correlationId, w₄, correlated, ran⟩ := bind_ok.mp ran
  obtain ⟨registration, w₅, registered, ran⟩ := bind_ok.mp ran
  obtain ⟨identity, w₆, identified, ran⟩ := bind_ok.mp ran
  obtain ⟨sessionId, w₇, drawn, ran⟩ := bind_ok.mp ran
  obtain ⟨session, w₈, opened, ran⟩ := bind_ok.mp ran
  obtain ⟨products, w₉, viewed, ran⟩ := bind_ok.mp ran
  obtain ⟨views, w₁₀, shown, ran⟩ := bind_ok.mp ran
  obtain ⟨adding, w₁₁, asked, ran⟩ := bind_ok.mp ran
  obtain ⟨adds, w₁₂, decided, returned⟩ := bind_ok.mp ran
  obtain ⟨rfl, rfl⟩ := pure_ok.mp returned
  obtain rfl := modify_ok.mp unset
  rw [choosePersona_overridden overrides] at chosen
  cases chosen
  have idle : Idle selection.customer :=
    selectCustomer_idle (w := { w with seedingTakeover := false }) pool selected
  refine ⟨?_, identityForSession_idle idle identified⟩
  have flag : w₁₀.seedingTakeover = false := by
    calc w₁₀.seedingTakeover
      _ = w₉.seedingTakeover := (flagFrame.showProducts ..).returns _ _ _ shown
      _ = w₈.seedingTakeover := (flagFrame.viewProducts _ _).returns _ _ _ viewed
      _ = w₇.seedingTakeover := (flagFrame.startSession ..).returns _ _ _ opened
      _ = w₆.seedingTakeover := flagFrame.newUuid.returns _ _ _ drawn
      _ = w₅.seedingTakeover := (flagFrame.identityForSession _ _).returns _ _ _ identified
      _ = w₄.seedingTakeover := (flagFrame.register _ _).returns _ _ _ registered
      _ = w₃.seedingTakeover := flagFrame.newUuid.returns _ _ _ correlated
      _ = w₂.seedingTakeover :=
        (flagFrame.toClockFrame.startLogicalTime _ _ _).returns _ _ _ started
      _ = false := (flagFrame.selectCustomer _).returns _ _ _ selected
  obtain ⟨world, v, read, returned⟩ := bind_ok.mp asked
  obtain ⟨rfl, rfl⟩ := get_ok.mp read
  obtain ⟨rfl, rfl⟩ := pure_ok.mp returned
  obtain ⟨i, v, drew, returned⟩ := bind_ok.mp decided
  obtain ⟨rfl, rfl⟩ := pure_ok.mp returned
  rw [flag, idle.persona]
  simp only [Bool.false_eq_true, if_false]
  rw [if_pos (show (strategyFor .normal).profile.persona = .normal from rfl), never]
  exact decide_eq_false (not_lt.mpr (random i))

theorem record_idle {customer : CustomerState} (idle : Idle customer)
    (events : List EventEnvelope) : Idle (events.foldl CustomerState.record customer) := by
  induction events generalizing customer with
  | nil => exact idle
  | cons event events ih =>
    refine ih ?_
    obtain ⟨persona, payments, history⟩ := idle
    unfold CustomerState.record
    split <;> exact ⟨persona, payments, history⟩

/-- A journey without a payment leaves its customer without payments. -/
theorem finished_idle {customer : CustomerState} {events : List EventEnvelope} {sessionId : UUID}
    {orderId : Option UUID} {last : Instant} (idle : Idle customer)
    (unpaid : ∀ event ∈ events, event.eventType ≠ .paymentCompleted) :
    Idle (customer.finished events sessionId orderId last) := by
  have none_ : (events.countP fun event => decide (event.eventType = .paymentCompleted)) = 0 := by
    rw [List.countP_eq_zero]
    intro event mem
    simpa using unpaid event mem
  have recorded := @record_idle { customer with
    totalJourneys := customer.totalJourneys + 1
    totalProductViews := customer.totalProductViews +
      events.countP fun event => decide (event.eventType = .productViewed)
    totalCartAdditions := customer.totalCartAdditions +
      events.countP fun event => decide (event.eventType = .addedToCart)
    totalCheckouts := customer.totalCheckouts +
      events.countP fun event => decide (event.eventType = .checkoutStarted)
    successfulPayments := customer.successfulPayments +
      events.countP fun event => decide (event.eventType = .paymentCompleted)
    failedPayments := customer.failedPayments +
      events.countP fun event => decide (event.eventType = .paymentFailed)
    refunds := customer.refunds +
      events.countP fun event => decide (event.eventType = .refundRequested)
    previousSessionIds := customer.previousSessionIds ++ [sessionId]
    previousOrderIds := customer.previousOrderIds ++ orderId.toList }
    ⟨idle.persona, by rw [idle.payments, none_], idle.history⟩ events
  refine ⟨recorded.persona, recorded.payments, ?_⟩
  simp only [CustomerState.finished, none_, idle.payments, idle.history]
  simp

theorem build_idle {result : JourneyResult} (overrides : Overrides config)
    (never : config.addToCartProbability = 0) (random : ∀ i, 0 ≤ source.random i)
    (pool : ∀ state ∈ w.customers.values, Idle state)
    (ran : build rt source config w = .ok (result, w')) :
    ∀ state ∈ w'.customers.values, Idle state := by
  rw [build_eq] at ran
  obtain ⟨visit, u, browsed, ran⟩ := bind_ok.mp ran
  obtain ⟨c, v, concluded, finished⟩ := bind_ok.mp ran
  obtain ⟨empty, idle⟩ := browse_idle overrides never random pool browsed
  rw [conclude, empty] at concluded
  obtain ⟨rfl, rfl⟩ := pure_ok.mp concluded
  obtain ⟨registration, session, views, p, events, starts, -, shown, registers⟩ :=
    (browse_opened browsed).shape
  have unpaid : ∀ event ∈ visit.events, event.eventType ≠ .paymentCompleted := by
    intro event mem paid
    rw [events] at mem
    rw [EventEnvelope.eventType] at paid
    rcases List.mem_append.mp mem with early | late
    · rcases registers with ⟨-, rfl⟩ | ⟨-, other, q, rfl, payload⟩
      · cases early
      · rw [List.mem_singleton.mp early, payload] at paid
        cases paid
    · rcases List.mem_cons.mp late with rfl | view
      · rw [starts] at paid
        cases paid
      · obtain ⟨q, payload⟩ := shown event view
        rw [payload] at paid
        cases paid
  obtain ⟨last, -, -, -, -, committed, -⟩ := finish_commits finished
  intro state member
  obtain ⟨key, known⟩ := Dict.mem_values.mp member
  rw [committed, Dict.get?_set, (older_browse.returns _ _ _ browsed).1] at known
  split at known
  · obtain rfl := Option.some.inj known
    exact finished_idle idle unpaid
  · exact pool state (Dict.mem_values.mpr ⟨key, known⟩)

/-- Where nothing is put into a cart, nobody ever has normal history. -/
theorem Built.idle {met : World → Prop} {journeys : List JourneyResult}
    (overrides : Overrides config) (never : config.addToCartProbability = 0) (random : ∀ i, 0 ≤ source.random i)
    (built : Built rt source config met w journeys) : ∀ state ∈ w.customers.values, Idle state := by
  induction built with
  | start =>
    intro state member
    cases member
  | journey before _ ran ih => exact build_idle overrides never random ih ran
  | failure before ran ih =>
    rw [(build_raises ran).1]
    exact ih

/-! ### Customers that buy -/

/-- The settings of a builder that always buys; the weights and the anomalies, which `build`
does not look at, are those of `other`. -/
def buyingConfig (other : GeneratorConfig) : GeneratorConfig where
  personaWeights := other.personaWeights
  addToCartProbability := 1
  checkoutProbability := 1
  refundProbability := 0
  anomaliesEnabled := other.anomaliesEnabled
  duplicateEventProbability := other.duplicateEventProbability
  malformedJsonProbability := other.malformedJsonProbability
  missingFieldProbability := other.missingFieldProbability
  unknownEventTypeProbability := other.unknownEventTypeProbability
  payloadMismatchProbability := other.payloadMismatchProbability

theorem buyingConfig_overrides : Overrides (buyingConfig config) := by
  refine ⟨rfl, ?_⟩
  simp [overridden, buyingConfig]
  norm_num

theorem payments_buying (visit : Visit) (orderId : UUID) (total : Decimal) (n : Nat) :
    payments source (buyingConfig config) visit orderId total n =
      payments source (buyingConfig {}) visit orderId total n := by
  induction n with
  | zero => rfl
  | succ n ih =>
    unfold payments
    rw [ih]
    rfl

theorem conclude_buying (visit : Visit) :
    conclude source (buyingConfig config) visit =
      conclude source (buyingConfig {}) visit := by
  unfold conclude
  simp only [payments_buying]
  rfl

theorem build_buying (rt : Runtime) (source : Source) :
    build rt source (buyingConfig config) =
      build rt source (buyingConfig {}) := by
  have chosen : choosePersona source (buyingConfig config) =
      choosePersona source (buyingConfig {}) := by
    funext w
    rw [choosePersona_overridden buyingConfig_overrides,
      choosePersona_overridden buyingConfig_overrides]
  rw [build_eq, build_eq, browse_eq, browse_eq, chosen]
  simp only [conclude_buying]
  rfl

/-- The first journey of a lucky builder ends with a payment. -/
theorem buying_history (config : GeneratorConfig) :
    ∃ result w', build hashRuntime eagerSource (buyingConfig config) {} = .ok (result, w') ∧
      History w'.customers := by
  rw [build_buying]
  have facts : (build hashRuntime eagerSource (buyingConfig {}) {}).toOption.map
      (fun r => decide (History r.2.customers)) = some true := by
    decide +kernel
  obtain ⟨⟨result, w'⟩, found, history⟩ := Option.map_eq_some_iff.mp facts
  refine ⟨result, w', ?_, of_decide_eq_true history⟩
  cases here : build hashRuntime eagerSource (buyingConfig {}) {} with
  | error raised =>
    rw [here] at found
    cases found
  | ok pair =>
    rw [here] at found
    exact congrArg Except.ok (Option.some.inj found)

end

end CommercePlatform.Generator
