import CommercePlatform.Generator.Journeys

/-!
The customers of a builder after any number of journeys.

`Built` is a run of calls of `build`; a call that raises leaves its draws behind and nothing
else (`build_raises`). Every customer lives as `Lifecycle` says (`Built.alive`), and while no
journey touches an abandoned cart all identifiers of the run are different.
-/

namespace CommercePlatform.Generator

open Contract Stateful

/-- The events of a customer. -/
def eventsOf (c : UUID) (events : List EventEnvelope) : List EventEnvelope :=
  events.filter fun event => event.payload.customerId = some c

theorem eventsOf_append (c : UUID) (events events' : List EventEnvelope) :
    eventsOf c (events ++ events') = eventsOf c events ++ eventsOf c events' :=
  List.filter_append ..

section

variable {rt : Runtime} {source : Source} {config : GeneratorConfig} {met : World → Prop}

/-- The events of some journeys, one journey after the other. -/
def emitted (journeys : List JourneyResult) : List EventEnvelope := journeys.flatMap (·.events)

theorem emitted_append (journeys journeys' : List JourneyResult) :
    emitted (journeys ++ journeys') = emitted journeys ++ emitted journeys' :=
  List.flatMap_append

@[simp] theorem emitted_singleton (result : JourneyResult) : emitted [result] = result.events :=
  List.flatMap_singleton ..

/-- Calls of `build`: the builder after them, and the journeys. The condition `met` holds of
the builder before every call that returns. -/
inductive Built (rt : Runtime) (source : Source) (config : GeneratorConfig) (met : World → Prop) :
    World → List JourneyResult → Prop where
  | start : Built rt source config met {} []
  | journey {w w' : World} {journeys : List JourneyResult} {result : JourneyResult}
      (before : Built rt source config met w journeys) (here : met w)
      (ran : build rt source config w = .ok (result, w')) :
      Built rt source config met w' (journeys ++ [result])
  | failure {w : World} {journeys : List JourneyResult} {raised : Raised}
      (before : Built rt source config met w journeys)
      (ran : build rt source config w = .error raised) :
      Built rt source config met raised.world journeys

/-- What the pool and the emitted events tell of each other. -/
structure Alive (source : Source) (w : World) (events : List EventEnvelope) : Prop where
  keys : ∀ c state, w.customers.get? c = some state →
    state.customerId = c ∧ ∃ k < w.drawnUuids, source.uuids k = c
  owned : ∀ event ∈ events, ∃ c state,
    event.payload.customerId = some c ∧ w.customers.get? c = some state
  lives : ∀ c state, w.customers.get? c = some state →
    ∃ stage, stage ≠ .unregistered ∧ Lives .unregistered (eventsOf c events) stage

theorem alive_start : Alive source {} [] where
  keys c state found := by cases found
  owned event mem := by cases mem
  lives c state found := by cases found

theorem Alive.wait {w w' : World} {events : List EventEnvelope} (h : Alive source w events)
    (older : Older w w') : Alive source w' events := by
  obtain ⟨keys, owned, lives⟩ := h
  rw [← older.1] at keys owned lives
  refine ⟨?_, owned, lives⟩
  intro c state found
  obtain ⟨same, k, below, from_⟩ := keys c state found
  exact ⟨same, k, below.trans_le older.2, from_⟩

/-- Somebody who is not in the pool has no events. -/
theorem Alive.stranger {w : World} {events : List EventEnvelope} (h : Alive source w events)
    {c : UUID} (absent : w.customers.get? c = none) : eventsOf c events = [] := by
  rw [eventsOf, List.filter_eq_nil_iff]
  intro event mem same
  obtain ⟨owner, state, of_, found⟩ := h.owned event mem
  have owner_ : owner = c := Option.some.inj (of_.symm.trans (of_decide_eq_true same))
  rw [owner_, absent] at found
  cases found

/-- A journey draws identifiers. -/
theorem Continues.advances {w w' : World} {result : JourneyResult}
    (continues : Continues rt source config w w' result) : w.drawnUuids < w'.drawnUuids := by
  have some_ := continues.eventIds.length_le
  have nonempty := List.length_pos_of_ne_nil continues.nonempty
  simp only [segment, List.length_map, List.length_range'] at some_
  omega

theorem Alive.journey {w w' : World} {events : List EventEnvelope} {result : JourneyResult}
    (distinct : Distinct source.uuids w'.drawnUuids) (h : Alive source w events)
    (continues : Continues rt source config w w' result) :
    Alive source w' (events ++ result.events) := by
  obtain ⟨state, sameState, pool⟩ := continues.pool
  have own : eventsOf result.customerId result.events = result.events :=
    List.filter_eq_self.mpr fun event mem => decide_eq_true (continues.belongs event mem)
  have others : ∀ c, c ≠ result.customerId → eventsOf c result.events = [] := by
    intro c other
    refine List.filter_eq_nil_iff.mpr ?_
    intro event mem same
    rw [continues.belongs event mem] at same
    exact other (Option.some.inj (of_decide_eq_true same)).symm
  -- A new customer is nobody of the pool: its identifier has not been drawn before.
  have lives : ∃ stage, stage ≠ .unregistered ∧
      Lives .unregistered (eventsOf result.customerId events ++ result.events) stage := by
    cases flag : result.returningCustomer with
    | true =>
      obtain ⟨⟨known, member, sameKnown⟩, follow⟩ := continues.returns flag
      obtain ⟨key, found⟩ := Dict.mem_values.mp member
      obtain rfl : key = result.customerId := (h.keys key known found).1.symm.trans sameKnown
      obtain ⟨stage, registered, before⟩ := h.lives _ known found
      obtain ⟨stage', after⟩ := follow stage registered
      exact ⟨stage', after.registered (.inl registered), before.append after⟩
    | false =>
      obtain ⟨first, -, stage, follow⟩ := continues.creates flag
      have absent : w.customers.get? result.customerId = none := by
        cases found : w.customers.get? result.customerId with
        | none => rfl
        | some known =>
          obtain ⟨-, k, below, from_⟩ := h.keys _ known found
          exact absurd (distinct _ _ (below.trans continues.advances) continues.advances
            (from_.trans first)) below.ne
      rw [h.stranger absent, List.nil_append]
      exact ⟨stage, follow.registered (.inr continues.nonempty), follow⟩
  have customerDrawn : ∃ k < w'.drawnUuids, source.uuids k = result.customerId := by
    cases flag : result.returningCustomer with
    | true =>
      obtain ⟨⟨known, member, sameKnown⟩, -⟩ := continues.returns flag
      obtain ⟨key, found⟩ := Dict.mem_values.mp member
      obtain ⟨sameKey, k, below, from_⟩ := h.keys key known found
      exact ⟨k, below.trans_le continues.drawn, from_.trans (sameKey.symm.trans sameKnown)⟩
    | false =>
      obtain ⟨first, -, -⟩ := continues.creates flag
      exact ⟨w.drawnUuids, continues.advances, first.symm⟩
  constructor
  · intro c row found
    rw [pool, Dict.get?_set] at found
    split at found
    · rename_i same
      cases found
      subst same
      exact ⟨sameState, customerDrawn⟩
    · obtain ⟨same, k, below, from_⟩ := h.keys c row found
      exact ⟨same, k, below.trans_le continues.drawn, from_⟩
  · intro event mem
    rcases List.mem_append.mp mem with early | late
    · obtain ⟨c, row, of_, found⟩ := h.owned event early
      by_cases same : c = result.customerId
      · exact ⟨c, state, of_, by rw [pool, same, Dict.get?_set_self]⟩
      · exact ⟨c, row, of_, by rw [pool, Dict.get?_set_ne _ _ same, found]⟩
    · exact ⟨result.customerId, state, continues.belongs event late,
        by rw [pool, Dict.get?_set_self]⟩
  · intro c row found
    rw [eventsOf_append]
    rw [pool, Dict.get?_set] at found
    split at found
    · rename_i same
      subst same
      rw [own]
      exact lives
    · rename_i other
      rw [others c other, List.append_nil]
      exact h.lives c row found

/-- A call that raises commits nothing. -/
theorem build_raises {w : World} {raised : Raised}
    (ran : build rt source config w = .error raised) : Older w raised.world := by
  have committing : ∀ customer u raised,
      commitCustomer config.customerPoolSize customer u = .error raised → raised.world = u := by
    intro customer u raised ran
    rcases bind_error.mp ran with impossible | ⟨world, v, read, rest⟩
    · cases impossible
    · obtain ⟨rfl, rfl⟩ := get_ok.mp read
      split at rest
      · cases rest
        rfl
      · split at rest
        · cases rest
          rfl
        · cases rest
  have finishing : ∀ visit customer events orderId attempts u raised,
      finish config visit customer events orderId attempts u = .error raised →
      Older u raised.world := by
    intro visit customer events orderId attempts u raised ran
    rcases bind_error.mp ran with early | ⟨last, v, read, rest⟩
    · exact (olderFrame.lastOf _).raises _ _ early
    · obtain ⟨-, rfl⟩ := lastOf_ok read
      rcases bind_error.mp rest with refused | ⟨_, v', -, impossible⟩
      · rw [committing _ _ _ refused]
        exact olderFrame.refl _
      · cases impossible
  have purchasing : ∀ visit basket u raised,
      purchase source config visit basket u = .error raised → Older u raised.world := by
    intro visit basket u raised ran
    rcases bind_error.mp ran with early | ⟨checkout, w₁, checked, ran⟩
    · exact (olderFrame.startCheckout _ _).raises _ _ early
    refine olderFrame.trans _ _ _ ((olderFrame.startCheckout _ _).returns _ _ _ checked) ?_
    rcases bind_error.mp ran with early | ⟨orderId, w₂, drawn, ran⟩
    · exact olderFrame.newUuid.raises _ _ early
    refine olderFrame.trans _ _ _ (olderFrame.newUuid.returns _ _ _ drawn) ?_
    rcases bind_error.mp ran with early | ⟨order, w₃, ordered, ran⟩
    · exact (olderFrame.createOrder _ _ _).raises _ _ early
    refine olderFrame.trans _ _ _ ((olderFrame.createOrder _ _ _).returns _ _ _ ordered) ?_
    rcases bind_error.mp ran with early | ⟨paid, w₄, charged, ran⟩
    · exact (olderFrame.payments _ _ _ _).raises _ _ early
    refine olderFrame.trans _ _ _ ((olderFrame.payments _ _ _ _).returns _ _ _ charged) ?_
    rcases bind_error.mp ran with early | ⟨refund, w₅, refunded, ran⟩
    · exact (olderFrame.refundFor _ _ _ _).raises _ _ early
    refine olderFrame.trans _ _ _ ((olderFrame.refundFor _ _ _ _).returns _ _ _ refunded) ?_
    exact finishing _ _ _ _ _ _ _ ran
  rcases bind_error.mp ran with early | ⟨visit, u, browsed, ran⟩
  · exact older_browse.raises _ _ early
  refine olderFrame.trans _ _ _ (older_browse.returns _ _ _ browsed) ?_
  split at ran
  · rcases bind_error.mp ran with early | ⟨basket, v, basketed, ran⟩
    · exact (olderFrame.fillBasket _).raises _ _ early
    refine olderFrame.trans _ _ _ ((olderFrame.fillBasket _).returns _ _ _ basketed) ?_
    rcases bind_error.mp ran with early | ⟨buys, v', decided, ran⟩
    · exact (olderFrame.checksOut _ _).raises _ _ early
    refine olderFrame.trans _ _ _ ((olderFrame.checksOut _ _).returns _ _ _ decided) ?_
    split at ran
    · exact purchasing _ _ _ _ ran
    · exact finishing _ _ _ _ _ _ _ ran
  · exact finishing _ _ _ _ _ _ _ ran

/-- Over every run of calls. -/
theorem Built.alive {w : World} {journeys : List JourneyResult}
    (some_ : 1 ≤ config.maxPaymentAttempts)
    (built : Built rt source config met w journeys) (distinct : Distinct source.uuids w.drawnUuids) :
    Alive source w (emitted journeys) := by
  induction built with
  | start => exact alive_start
  | journey _ _ ran ih =>
    rw [emitted_append, emitted_singleton]
    have continues := build_spec some_ ran
    exact (ih (distinct.mono continues.drawn)).journey distinct continues
  | failure _ ran ih =>
    have older := build_raises ran
    exact (ih (distinct.mono older.2)).wait older

/-- The identifiers that are new with the journeys, from any of them, are drawn for them. -/
theorem Built.ids {w : World} {journeys : List JourneyResult} {ids : List EventEnvelope → List UUID}
    (none_ : ids [] = []) (append : ∀ events events', ids (events ++ events') = ids events ++ ids events')
    (drawn : ∀ w w' result, met w → build rt source config w = .ok (result, w') →
      w.drawnUuids ≤ w'.drawnUuids ∧
        (ids result.events).Sublist (segment source.uuids w.drawnUuids w'.drawnUuids))
    (built : Built rt source config met w journeys) :
    (ids (emitted journeys)).Sublist (segment source.uuids 0 w.drawnUuids) := by
  induction built with
  | start =>
    rw [show emitted [] = [] from rfl, none_]
    exact List.nil_sublist _
  | journey _ here ran ih =>
    obtain ⟨le, sublist⟩ := drawn _ _ _ here ran
    rw [emitted_append, emitted_singleton, append, ← segment_append (Nat.zero_le _) le]
    exact ih.append sublist
  | failure _ ran ih =>
    rw [← segment_append (Nat.zero_le _) (build_raises ran).2]
    exact ih.trans (List.sublist_append_left _ _)

/-- While no journey touches an abandoned cart, all identifiers are different. -/
theorem Built.newIds {w : World} {journeys : List JourneyResult}
    (some_ : 1 ≤ config.maxPaymentAttempts)
    (built : Built rt source config (LeavesCarts rt source config) w journeys) :
    (allNewIds (emitted journeys)).Sublist (segment source.uuids 0 w.drawnUuids) :=
  built.ids rfl allNewIds_append fun _ _ _ leaves ran =>
    ⟨(build_spec some_ ran).drawn, (build_spec some_ ran).newIds leaves⟩

theorem Built.ownIds {w : World} {journeys : List JourneyResult}
    (some_ : 1 ≤ config.maxPaymentAttempts) (built : Built rt source config met w journeys) :
    (allOwnIds (emitted journeys)).Sublist (segment source.uuids 0 w.drawnUuids) :=
  built.ids rfl allOwnIds_append fun _ _ _ _ ran =>
    ⟨(build_spec some_ ran).drawn, (build_spec some_ ran).ownIds⟩

end

/-! ### Merges -/

/-- An order of the events that keeps the order of each customer's own. -/
structure Merges (events merged : List EventEnvelope) : Prop where
  perm : merged.Perm events
  order : ∀ c, eventsOf c merged = eventsOf c events

/-- What is left of a run whose events arrive in any such order. -/
structure Lived (events : List EventEnvelope) (stages : UUID → Stage) : Prop where
  owned : ∀ event ∈ events, ∃ c, event.payload.customerId = some c
  lives : ∀ c, ∃ stage, Lives (stages c) (eventsOf c events) stage

theorem Alive.merges {source : Source} {w : World} {events merged : List EventEnvelope}
    (h : Alive source w events) (merges : Merges events merged) :
    Lived merged fun _ => .unregistered := by
  constructor
  · intro event mem
    obtain ⟨c, -, of_, -⟩ := h.owned event (merges.perm.mem_iff.mp mem)
    exact ⟨c, of_⟩
  · intro c
    rw [merges.order c]
    cases found : w.customers.get? c with
    | none =>
      rw [h.stranger found]
      exact ⟨_, .nil _⟩
    | some state =>
      obtain ⟨stage, -, lives⟩ := h.lives c state found
      exact ⟨stage, lives⟩

/-- Identifiers that are different are so in every order. -/
theorem Merges.nodup {events merged : List EventEnvelope} (merges : Merges events merged)
    (nodup : (allNewIds events).Nodup) : (allNewIds merged).Nodup := by
  have perm : (allNewIds merged).Perm (allNewIds events) := merges.perm.flatMap_right newIds
  exact perm.nodup_iff.mpr nodup

end CommercePlatform.Generator
