import CommercePlatform.Demo.Generation
import CommercePlatform.Fraud.Evaluation
import CommercePlatform.Generator.Causality

/-!
Event ids of different runs.

All identifiers of a run come from the UUID factory of its seed, and the first event of a
run always carries the fourth of them. So runs whose factories share no identifier never
meet, and two runs with one seed always do, although their timestamps differ.
-/

namespace CommercePlatform.Demo

open Contract Fraud Generator Persistence Schema Stateful

/-! ### Prepared messages -/

section

variable {source : Source} {config : GeneratorConfig} {w w' : World}

/-- The message was made from one of the events, and bears its id. -/
structure MadeFrom (events : List EventEnvelope) (message : PublishableMessage) : Prop where
  event : message.event ∈ events
  canonical : ∀ event, message.value = .canonical event → event.eventId = message.eventId

theorem madeFrom_valid {events : List EventEnvelope} {message : PublishableMessage}
    (mem : message ∈ events.map validMessage) : MadeFrom events message := by
  obtain ⟨event, listed, rfl⟩ := List.mem_map.mp mem
  refine ⟨listed, ?_⟩
  intro other same
  cases same
  rfl

theorem mutate_spec {kind : AnomalyType} {message mutated : PublishableMessage}
    {all : List PublishableMessage} {events : List EventEnvelope} (made : MadeFrom events message)
    (ran : mutate config kind message all w = .ok (mutated, w')) :
    Silent w w' ∧ MadeFrom events mutated := by
  have replaced : ∀ value, (∀ event, value = .canonical event → event.eventId = message.eventId) →
      MadeFrom events (message.replace value kind) := fun value same => ⟨made.event, same⟩
  cases kind with
  | lateEvent =>
    obtain ⟨time, u, moved, returned⟩ := bind_ok.mp ran
    obtain ⟨rfl, rfl⟩ := pure_ok.mp returned
    refine ⟨(silentFrame.later _ _).returns _ _ _ moved, replaced _ ?_⟩
    intro event same
    cases same
    rfl
  | duplicate | outOfOrder =>
    obtain ⟨rfl, rfl⟩ := pure_ok.mp ran
    exact ⟨Silent.refl _, replaced _ made.canonical⟩
  | malformedJson | missingField | unknownEventType | payloadMismatch =>
    obtain ⟨rfl, rfl⟩ := pure_ok.mp ran
    refine ⟨Silent.refl _, replaced _ ?_⟩
    intro event same
    cases same

theorem isSilent_drawn (probability : Rat) : IsSilent (drawn source probability) :=
  .ite (.pure Silent.refl _) (isSilent_chance _)

theorem inject_spec {events : List EventEnvelope} {anomalous : List PublishableMessage}
    {kinds : List (AnomalyType × Rat)} {index emitted : Nat}
    (ran : inject source config (events.map validMessage) kinds index emitted w =
      .ok (anomalous, w')) :
    Silent w w' ∧ ∀ message ∈ anomalous, MadeFrom events message := by
  induction kinds generalizing w anomalous index emitted with
  | nil =>
    obtain ⟨rfl, rfl⟩ := pure_ok.mp ran
    exact ⟨Silent.refl _, by simp⟩
  | cons entry rest ih =>
    obtain ⟨kind, probability⟩ := entry
    simp only [inject] at ran
    split at ran
    · obtain ⟨rfl, rfl⟩ := pure_ok.mp ran
      exact ⟨Silent.refl _, by simp⟩
    · obtain ⟨selected, u, decided, ran⟩ := bind_ok.mp ran
      have silent := isSilent_drawn _ _ _ _ decided
      split at ran
      · cases found : (events.map validMessage)[index % (events.map validMessage).length]? with
        | none =>
          rw [found] at ran
          exact (raiseError_ok ran).elim
        | some message =>
          rw [found] at ran
          obtain ⟨mutated, v, changed, ran⟩ := bind_ok.mp ran
          obtain ⟨more, v', injected, returned⟩ := bind_ok.mp ran
          obtain ⟨rfl, rfl⟩ := pure_ok.mp returned
          obtain ⟨quiet, made⟩ :=
            mutate_spec (madeFrom_valid (List.mem_of_getElem? found)) changed
          obtain ⟨quiet', others⟩ := ih injected
          refine ⟨silent.trans (quiet.trans quiet'), ?_⟩
          intro other mem
          rcases List.mem_cons.mp mem with rfl | late
          · exact made
          · exact others other late
      · obtain ⟨quiet, others⟩ := ih ran
        exact ⟨silent.trans quiet, others⟩

/-- Without exchanges the valid messages come first, in the order of the events. -/
theorem prepare_spec {events : List EventEnvelope} {messages : List PublishableMessage}
    (ordered : config.outOfOrderProbability = 0)
    (ran : prepare source config events w = .ok (messages, w')) :
    Silent w w' ∧ ∃ anomalous, messages = events.map validMessage ++ anomalous ∧
      ∀ message ∈ messages, MadeFrom events message := by
  unfold prepare at ran
  split at ran
  · obtain ⟨anomalous, u, injected, ran⟩ := bind_ok.mp ran
    obtain ⟨silent, made⟩ := inject_spec injected
    have all : ∀ message ∈ events.map validMessage ++ anomalous, MadeFrom events message := by
      intro message mem
      rcases List.mem_append.mp mem with valid | late
      · exact madeFrom_valid valid
      · exact made message late
    split at ran
    · obtain ⟨swapped, v, decided, returned⟩ := bind_ok.mp ran
      rw [drawn, if_pos ordered] at decided
      obtain ⟨rfl, rfl⟩ := pure_ok.mp decided
      obtain ⟨rfl, rfl⟩ := pure_ok.mp returned
      exact ⟨silent, anomalous, rfl, all⟩
    · obtain ⟨rfl, rfl⟩ := pure_ok.mp ran
      exact ⟨silent, anomalous, rfl, all⟩
  · obtain ⟨rfl, rfl⟩ := pure_ok.mp ran
    exact ⟨Silent.refl _, [], by simp, fun message => madeFrom_valid⟩

end

/-! ### One run -/

/-- How many identifiers a run can draw. -/
def RunCreate.drawBound (request : RunCreate) : Nat := 5 * request.eventCount + 145

/-- What holds of a run after every step. -/
structure Generation.Drawn (u : Nat → UUID) (request : RunCreate) (g : Generation) : Prop where
  bound : g.world.drawnUuids ≤ 5 * (g.generated + g.pending.length) ∨
    (request.eventCount ≤ g.generated + g.pending.length ∧ g.world.drawnUuids ≤ request.drawBound)
  within : g.generated + g.pending.length ≤ request.eventCount
  start : g.manifest = [] → g.world.customers = ∅ ∧ g.world.drawnUuids = 0
  manifest : ∀ entry ∈ g.manifest, ∃ k < g.world.drawnUuids, entry.1 = u k
  first : g.manifest ≠ [] → u 3 ∈ g.manifest.map Prod.fst
  messages : ∀ message ∈ g.pending ++ g.published,
    message.eventId ∈ g.manifest.map Prod.fst ∧
      ∀ event, message.value = .canonical event → event.eventId = message.eventId

section

variable {rt : Runtime} {source : Source} {request : RunCreate} {g g' : Generation}

/-- What a batch of messages adds. -/
theorem nextMessages_spec {w w' : World} {messages : List PublishableMessage}
    (ran : nextMessages rt source request w = .ok (messages, w')) :
    ∃ result, Continues rt source request.generatorConfig w w' result ∧
      (∃ anomalous, messages = result.events.map validMessage ++ anomalous) ∧
      ∀ message ∈ messages, MadeFrom result.events message := by
  obtain ⟨result, u, built, prepared⟩ := bind_ok.mp ran
  obtain ⟨silent, anomalous, same, made⟩ := prepare_spec rfl prepared
  have continues := build_spec (show 1 ≤ request.generatorConfig.maxPaymentAttempts by
    exact Nat.le_of_ble_eq_true rfl) built
  refine ⟨result, ?_, ⟨anomalous, same⟩, made⟩
  obtain ⟨state, sameId, pool⟩ := continues.pool
  exact { continues with
    drawn := silent.2 ▸ continues.drawn
    few := silent.2 ▸ continues.few
    eventIds := silent.2 ▸ continues.eventIds
    ownIds := silent.2 ▸ continues.ownIds
    newIds := silent.2 ▸ continues.newIds
    pool := ⟨state, sameId, silent.1.trans pool⟩ }

theorem drawn_publish {message : PublishableMessage} {rest : List PublishableMessage}
    (h : g.Drawn source.uuids request) (pending : g.pending = message :: rest) :
    ({ g with
      pending := rest
      published := g.published ++ [message]
      generated := g.generated + 1 } : Generation).Drawn source.uuids request := by
  obtain ⟨bound, within, start, manifest, first, messages⟩ := h
  rw [pending, List.length_cons] at bound within
  refine ⟨?_, ?_, start, manifest, first, ?_⟩
  · show g.world.drawnUuids ≤ 5 * (g.generated + 1 + rest.length) ∨ _
    rcases bound with early | late
    · exact .inl (by omega)
    · exact .inr ⟨by simp only; omega, late.2⟩
  · simp only
    omega
  · intro other mem
    refine messages other ?_
    rw [pending]
    simp only [List.mem_append, List.mem_cons, List.not_mem_nil, or_false] at mem ⊢
    tauto

/-- The first event of a builder that has drawn nothing carries the fourth identifier. -/
theorem continues_head {w w' : World} {config : GeneratorConfig} {result : JourneyResult}
    (continues : Continues rt source config w w' result) (customers : w.customers = ∅)
    (drawn : w.drawnUuids = 0) :
    ∃ event rest, result.events = event :: rest ∧ event.eventId = source.uuids 3 := by
  cases flag : result.returningCustomer with
  | true =>
    obtain ⟨⟨state, member, -⟩, -⟩ := continues.returns flag
    rw [customers] at member
    cases member
  | false =>
    obtain ⟨-, head, -⟩ := continues.creates flag
    rw [drawn] at head
    cases events : result.events with
    | nil => exact absurd events continues.nonempty
    | cons event rest =>
      rw [events, List.head?_cons, Option.map_some] at head
      exact ⟨event, rest, rfl, Option.some.inj head⟩

theorem drawn_build {messages : List PublishableMessage} {world : World}
    (h : g.Drawn source.uuids request) (pending : g.pending = [])
    (more : g.generated < request.eventCount)
    (ran : nextMessages rt source request g.world = .ok (messages, world)) :
    ({ g with
      world
      pending := messages.take (request.eventCount - g.generated)
      manifest := g.manifest ++ (messages.take (request.eventCount - g.generated)).map
        fun m => (m.eventId, m.eventType) } : Generation).Drawn source.uuids request := by
  obtain ⟨result, continues, ⟨anomalous, valid⟩, made⟩ := nextMessages_spec ran
  have length : result.events.length ≤ messages.length := by
    rw [valid, List.length_append, List.length_map]
    omega
  have some_ := List.length_pos_of_ne_nil continues.nonempty
  have short : result.events.length ≤ 29 := continues.short
  have before : g.world.drawnUuids ≤ 5 * g.generated := by
    rcases h.bound with early | late
    · simpa [pending] using early
    · rw [pending, List.length_nil] at late
      omega
  have few := continues.few
  have drawn := continues.drawn
  have taken : ∀ message ∈ messages.take (request.eventCount - g.generated),
      MadeFrom result.events message := fun message mem => made message (List.mem_of_mem_take mem)
  have batch : messages.take (request.eventCount - g.generated) ≠ [] := by
    intro none_
    have size := congrArg List.length none_
    rw [List.length_take, List.length_nil] at size
    omega
  refine ⟨?_, ?_, ?_, ?_, ?_, ?_⟩
  · simp only [List.length_take, RunCreate.drawBound]
    omega
  · simp only [List.length_take]
    omega
  · intro none_
    have empty := (List.append_eq_nil_iff.mp none_).2
    exact absurd (List.map_eq_nil_iff.mp empty) batch
  · intro entry mem
    rcases List.mem_append.mp mem with early | late
    · obtain ⟨k, below, same⟩ := h.manifest entry early
      exact ⟨k, below.trans_le drawn, same⟩
    · obtain ⟨message, listed, rfl⟩ := List.mem_map.mp late
      have id : message.eventId ∈ result.events.map (·.eventId) :=
        List.mem_map_of_mem (taken message listed).event
      obtain ⟨k, -, below, same⟩ := mem_segment.mp (continues.eventIds.subset id)
      exact ⟨k, below, same.symm⟩
  · intro _
    rw [List.map_append, List.mem_append]
    by_cases none_ : g.manifest = []
    · obtain ⟨customers, zero⟩ := h.start none_
      obtain ⟨event, rest, events, id⟩ := continues_head continues customers zero
      obtain ⟨n, size⟩ : ∃ n, request.eventCount - g.generated = n + 1 :=
        ⟨request.eventCount - g.generated - 1, by omega⟩
      rw [valid, events, size]
      exact .inr (by simp [validMessage, PublishableMessage.eventId, id])
    · exact .inl (h.first none_)
  · intro message mem
    rw [List.map_append, List.mem_append]
    rcases List.mem_append.mp mem with new | old
    · refine ⟨.inr ?_, (taken message new).canonical⟩
      rw [List.map_map]
      exact List.mem_map_of_mem new
    · have known := h.messages message (List.mem_append_right _ old)
      exact ⟨.inl known.1, known.2⟩

theorem step_drawn (h : g.Drawn source.uuids request)
    (stepped : g.step rt source request = some g') : g'.Drawn source.uuids request := by
  unfold Generation.step at stepped
  split at stepped
  · rename_i message rest pending
    cases stepped
    exact drawn_publish h pending
  · rename_i pending
    split at stepped
    · rename_i more
      split at stepped
      · cases stepped
      · rename_i messages world ran
        cases stepped
        exact drawn_build h pending more ran
    · cases stepped

theorem after_drawn {n : Nat} (reached : Generation.after rt source request n = some g) :
    g.Drawn source.uuids request := by
  induction n generalizing g with
  | zero =>
    simp only [Generation.after] at reached
    split at reached
    · cases reached
      exact ⟨.inl (Nat.zero_le _), Nat.zero_le _, fun _ => ⟨rfl, rfl⟩, by simp, by simp, by simp⟩
    · cases reached
  | succ n ih =>
    obtain ⟨before, earlier, stepped⟩ := Option.bind_eq_some_iff.mp reached
    exact step_drawn (ih earlier) stepped

theorem Generation.Drawn.few (h : g.Drawn source.uuids request) :
    g.world.drawnUuids ≤ request.drawBound := by
  have within := h.within
  rcases h.bound with early | late
  · rw [RunCreate.drawBound]
    omega
  · exact late.2

end

/-! ### Several runs -/

/-- A run that `create_run` or `retry_run` has started, as far as it has come. -/
structure Run (rt : Runtime) (getrandbits : Int → Nat → Nat) where
  request : RunCreate
  random : Nat → Rat
  pick : Nat → Nat
  clock : Nat → Instant
  steps : Nat
  generation : Generation
  reached : Generation.after rt
    { random, pick, uuids := seededUuids getrandbits request.seed, clock } request steps =
      some generation

section

variable {rt : Runtime} {getrandbits : Int → Nat → Nat}

/-- The ledger has rows of events of the run only. -/
def Run.Wrote (run : Run rt getrandbits) (db : Db) : Prop :=
  ∀ id, (db.processedEvents.get? id).isSome → ∃ m ∈ run.generation.published, m.eventId = id

/-- No event id of the earlier run comes back in the later one with another content, no event
of the later one is refused because of the earlier one, and the manifests are disjoint. -/
structure Separate (earlier later : Run rt getrandbits) : Prop where
  content : ∀ m ∈ earlier.generation.published, ∀ m' ∈ later.generation.published,
    m.eventId = m'.eventId → m.value = m'.value
  accepted : ∀ m ∈ later.generation.published, ∀ event, m.value = .canonical event →
    ∀ arith db, earlier.Wrote db → ∀ message instance_ raw,
      alone (D := database arith) (insertIdentity rt event message instance_ raw) db [] ≠
        .error (.inr (.raised .permanentDatabaseIntegrityError
          "event_id conflicts with different canonical event content"))
  disjoint : ∀ x ∈ earlier.generation.manifest, ∀ y ∈ later.generation.manifest, x.1 ≠ y.1

/-- The factories of the runs hand out no identifier twice between them. -/
def Apart (a b : Run rt getrandbits) : Prop :=
  ∀ i < a.request.drawBound, ∀ k < b.request.drawBound,
    seededUuids getrandbits a.request.seed i ≠ seededUuids getrandbits b.request.seed k

theorem insertIdentity_unknown {event : EventEnvelope} {message : ConsumedMessage} {db : Db}
    {arith : Arithmetic} {instance_ : String} {raw : Bool}
    (unknown : db.processedEvents.get? event.eventId = none) :
    alone (D := database arith) (insertIdentity rt event message instance_ raw) db [] ≠
      .error (.inr (.raised .permanentDatabaseIntegrityError
        "event_id conflicts with different canonical event content")) := by
  have absent : (Stmt.selectEvent event.eventId).answer
      ((database arith).view db []) = none := by
    show (db.processedEvents.get? event.eventId).map _ = none
    rw [unknown]
    rfl
  simp only [insertIdentity]
  rw [alone_query rfl, absent]
  simp only []
  rw [alone_query rfl]
  cases taken : (Stmt.selectEventAt message.topic message.partition message.offset).answer
      ((database arith).view db []) with
  | some other => simp [raise, alone, PyException.raised]
  | none =>
    -- The `INSERT` can only be refused by the server.
    intro refused
    change alone (D := database arith) (.call (Stmt.insertEvent event.eventId
      (ledgerRow rt event message instance_ raw)) fun _ => .pure ()) db [] = _ at refused
    rw [alone] at refused
    split at refused <;> cases refused

theorem Apart.separate {a b : Run rt getrandbits} (apart : Apart a b) : Separate a b := by
  have first := after_drawn a.reached
  have second := after_drawn b.reached
  have disjoint : ∀ x ∈ a.generation.manifest, ∀ y ∈ b.generation.manifest, x.1 ≠ y.1 := by
    intro x left y right same
    obtain ⟨i, below, fromA⟩ := first.manifest x left
    obtain ⟨k, below', fromB⟩ := second.manifest y right
    refine apart i (below.trans_le first.few) k (below'.trans_le second.few) ?_
    exact fromA.symm.trans (same.trans fromB)
  have ids : ∀ m ∈ a.generation.published, ∀ m' ∈ b.generation.published,
      m.eventId ≠ m'.eventId := by
    intro m left m' right same
    obtain ⟨x, listed, sameX⟩ := List.mem_map.mp (first.messages m (List.mem_append_right _ left)).1
    obtain ⟨y, listed', sameY⟩ :=
      List.mem_map.mp (second.messages m' (List.mem_append_right _ right)).1
    exact disjoint x listed y listed' (sameX.trans (same.trans sameY.symm))
  refine ⟨fun m left m' right same => absurd same (ids m left m' right), ?_, disjoint⟩
  intro m' right event canonical arith db wrote message instance_ raw
  refine insertIdentity_unknown ?_
  cases found : db.processedEvents.get? event.eventId with
  | none => rfl
  | some row =>
    obtain ⟨m, left, same⟩ := wrote event.eventId (by rw [found]; rfl)
    have own := (second.messages m' (List.mem_append_right _ right)).2 event canonical
    exact absurd (same.trans own) (ids m left m' right)

/-- Runs with one seed meet as soon as both have emitted something. -/
theorem Separate.seeds {a b : Run rt getrandbits} (separate : Separate a b)
    (emitted : a.generation.manifest ≠ []) (emitted' : b.generation.manifest ≠ []) :
    a.request.seed ≠ b.request.seed := by
  intro same
  obtain ⟨x, listed, sameX⟩ := List.mem_map.mp ((after_drawn a.reached).first emitted)
  obtain ⟨y, listed', sameY⟩ := List.mem_map.mp ((after_drawn b.reached).first emitted')
  refine separate.disjoint x listed y listed' (sameX.trans ?_)
  rw [sameY, same]

end

/-! ### Two runs with the default seed -/

end CommercePlatform.Demo
