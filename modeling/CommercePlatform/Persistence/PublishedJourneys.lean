import CommercePlatform.Generator.Published
import CommercePlatform.Persistence.JourneyAcceptance

/-!
What a run of the generator leaves in the tables.

Without anomalies the Kafka client has accepted the messages of the first events that the
builder has emitted, whatever it did and whenever the run ended. The tables follow the
events of a run that is cut off anywhere as they follow those of whole journeys.
-/

namespace CommercePlatform.Generator

open Contract Stateful

/-! ### The first events -/

section

variable {events merged : List EventEnvelope} {stage last : Stage}

theorem Lives.before {later : List EventEnvelope} (lives : Lives stage (events ++ later) last) :
    ∃ middle, Lives stage events middle := by
  cases later with
  | nil =>
    rw [List.append_nil] at lives
    exact ⟨last, lives⟩
  | cons event after =>
    obtain ⟨middle, -, early, -⟩ := lives.split
    exact ⟨middle, early⟩

/-- A run that is cut off. -/
theorem Lived.cut {stages : UUID → Stage} {all : List EventEnvelope} (lived : Lived all stages)
    (first : events <+: all) : Lived events stages := by
  obtain ⟨later, rfl⟩ := first
  constructor
  · exact fun event mem => lived.owned event (List.mem_append_left _ mem)
  · intro c
    obtain ⟨last, lives⟩ := lived.lives c
    rw [eventsOf_append] at lives
    exact lives.before

theorem Lived.merges {stages : UUID → Stage} (lived : Lived events stages)
    (merges : Merges events merged) : Lived merged stages := by
  constructor
  · exact fun event mem => lived.owned event (merges.perm.mem_iff.mp mem)
  · intro c
    rw [merges.order c]
    exact lived.lives c

theorem eventIds_ownIds (events : List EventEnvelope) :
    (events.map (·.eventId)).Sublist (allOwnIds events) := by
  induction events with
  | nil => exact List.Sublist.refl _
  | cons event events ih =>
    have own := List.singleton_sublist.mpr (Persistence.eventId_ownIds event)
    exact own.append ih

end

/-! ### Generation without anomalies -/

section

variable {setup : Setup} {made : Generated}

theorem prepare_plain {source : Source} {config : GeneratorConfig} {events : List EventEnvelope}
    {messages : List PublishableMessage} {w w' : World} (plain : config.anomaliesEnabled = false)
    (ran : prepare source config events w = .ok (messages, w')) :
    messages = events.map validMessage := by
  unfold prepare at ran
  rw [plain] at ran
  cases ran
  rfl

theorem generated_messages (plain : setup.config.anomaliesEnabled = false) {n : Nat}
    (ran : setup.generated n = some made) :
    made.messages = (emitted (made.batches.map (·.journey))).map validMessage := by
  have each : ∀ batch ∈ made.batches, batch.messages = batch.journey.events.map validMessage := by
    intro batch mem
    obtain ⟨-, _, _, prepared⟩ := generated_makes ran batch mem
    exact prepare_plain plain prepared
  rw [Generated.messages, emitted, List.flatMap_map, List.map_flatMap]
  exact List.flatMap_congr each

/-- The most identifiers that the journeys can draw. -/
def drawBound (config : GeneratorConfig) (journeys : Nat) : Nat :=
  journeys * (5 * (22 + (4 + config.maxPaymentAttempts)))

theorem generated_few (some_ : 1 ≤ setup.config.maxPaymentAttempts) {n : Nat}
    (ran : setup.generated n = some made) : made.world.drawnUuids ≤ drawBound setup.config n := by
  induction n generalizing made with
  | zero =>
    cases ran
    exact Nat.zero_le _
  | succ n ih =>
    obtain ⟨before, early, stepped⟩ := Option.bind_eq_some_iff.mp ran
    have earlier := ih early
    unfold Generated.next at stepped
    split at stepped
    · cases stepped
    · rename_i journey world built
      split at stepped
      · cases stepped
      · cases stepped
        have continues := build_spec some_ built
        have few := continues.few
        have short := continues.short
        unfold drawBound at earlier ⊢
        rw [Nat.add_mul, Nat.one_mul]
        show world.drawnUuids ≤ _
        omega

end

end CommercePlatform.Generator

namespace CommercePlatform.Persistence

open Contract Schema Generator

/-- The events of the messages that the client has accepted. -/
def publishedEvents (run : GenerationRun) : List EventEnvelope :=
  run.producer.client.accepted.map (·.event)

/-- Without anomalies, what the Kafka client has accepted at any moment of a run are the
messages of events whose identifiers are new, in order for every customer. The tables accept
these events in any order that keeps that of each customer's own, if no cart is filled twice;
otherwise the first error is that of a cart that is filled again. -/
theorem published_accepted {setup : Setup} {arith : Arithmetic} (cents : arith.Cents)
    (config : setup.config.Accepted) (plain : setup.config.anomaliesEnabled = false)
    {labels : List GenerationLabel} {run : GenerationRun}
    (ran : setup.machine.run {} labels = some run)
    (distinct : Distinct setup.source.uuids (drawBound setup.config (run.batches.length + 1))) :
    run.producer.client.accepted = (publishedEvents run).map validMessage ∧
      ((publishedEvents run).map (·.eventId)).Nodup ∧
      (∀ c, (eventsOf c (publishedEvents run)).Pairwise fun a b => a.eventTime ≤ b.eventTime) ∧
      ∀ merged, Merges (publishedEvents run) merged →
        ((cartIds (publishedEvents run)).Nodup → ∃ db, absorb setup.rt arith {} merged = .ok db) ∧
        (¬ (cartIds (publishedEvents run)).Nodup → absorb setup.rt arith {} merged =
          .error (.inr (.raised .permanentDatabaseIntegrityError "cart identity conflict"))) := by
  have some_ := config.maxPaymentAttempts.1
  obtain ⟨n, few, made, generated, -, published⟩ := (GenerationRun.Determined.ran ran).published
  have built := generated_built generated
  have drawn : made.world.drawnUuids ≤ drawBound setup.config (run.batches.length + 1) :=
    (generated_few some_ generated).trans (Nat.mul_le_mul_right _ few)
  have apart := distinct.mono drawn
  -- The accepted messages are those of the first emitted events.
  rw [generated_messages plain generated, List.prefix_iff_eq_take, ← List.map_take] at published
  have first := List.take_prefix run.producer.client.accepted.length
    (emitted (made.batches.map (·.journey)))
  revert published first
  generalize (emitted (made.batches.map (·.journey))).take run.producer.client.accepted.length =
    events
  intro published first
  have sent : publishedEvents run = events := by
    rw [publishedEvents, published, List.map_map]
    exact List.map_id events
  rw [sent]
  have lived := ((built.alive some_ apart).merges ⟨.refl _, fun _ => rfl⟩).cut first
  have fresh : (allOwnIds events).Nodup := by
    have all := (built.ownIds some_).nodup (segment_nodup apart)
    obtain ⟨later, same⟩ := first
    rw [← same, allOwnIds_append] at all
    exact all.of_append_left
  refine ⟨published, (eventIds_ownIds events).nodup fresh, ?_, ?_⟩
  · intro c
    have sorted := (built.sound some_ apart).remembered.sorted c
    exact sorted.sublist (first.sublist.filter _)
  · intro merged merges
    have ids : (allOwnIds merged).Perm (allOwnIds events) := merges.perm.flatMap_right ownIds
    have carts : (cartIds merged).Perm (cartIds events) := merges.perm.filterMap _
    rw [← carts.nodup_iff]
    exact consistent_start.run cents (lived.merges merges) (ids.nodup_iff.mpr fresh) List.nodup_nil

/-- Two journeys of the discount hunter. -/
def hunterSetup : Setup where
  rt := eagerRuntime
  source := hesitantSource
  injector := eagerSource
  config := hunterConfig
  journeys := some 2
  context := exactContext

/-- The first journey is published, and so many messages of the second. -/
def hunterLabels (messages : Nat) : List GenerationLabel :=
  [.step, .step] ++ (List.replicate 5 [.produce .accepted, .serve [⟨0, false⟩]]).flatten ++
    [.serve [], .step, .step, .step] ++
    (List.replicate messages [.produce .accepted, .serve [⟨0, false⟩]]).flatten

/-- The tables accept what is published of the second journey until the hunter fills the
cart again. -/
theorem published_accepted_hunter :
    ∃ run run', hunterSetup.machine.run {} (hunterLabels 3) = some run ∧
      hunterSetup.machine.run {} (hunterLabels 8) = some run' ∧
      publishedEvents run <+: publishedEvents run' ∧
      (∃ db, absorb eagerRuntime .exact {} (publishedEvents run) = .ok db) ∧
      absorb eagerRuntime .exact {} (publishedEvents run') =
        .error (.inr (.raised .permanentDatabaseIntegrityError "cart identity conflict")) := by
  have distinct : ∀ k < 4096, Distinct hunterSetup.source.uuids k := fun k few i j below below' =>
    ofNat_inj_small (below.trans few) (below'.trans few)
  have both : (hunterSetup.machine.run {} (hunterLabels 3)).bind (fun run =>
      (hunterSetup.machine.run {} (hunterLabels 8)).map fun run' =>
        (decide (publishedEvents run <+: publishedEvents run'), run.batches.length,
          run'.batches.length, decide (cartIds (publishedEvents run)).Nodup,
          decide (cartIds (publishedEvents run')).Nodup)) =
      some (true, 1, 1, true, false) := by decide +kernel
  obtain ⟨run, ran, rest⟩ := Option.bind_eq_some_iff.mp both
  obtain ⟨run', ran', facts⟩ := Option.map_eq_some_iff.mp rest
  simp only [Prod.mk.injEq, decide_eq_true_eq, decide_eq_false_iff_not] at facts
  obtain ⟨first, one, one', once, twice⟩ := facts
  refine ⟨run, run', ran, ran', first, ?_, ?_⟩
  · obtain ⟨-, -, -, absorbs⟩ := published_accepted Arithmetic.exact_cents (by decide +kernel) rfl
      ran (distinct _ (by rw [one]; decide))
    exact (absorbs _ ⟨.refl _, fun _ => rfl⟩).1 once
  · obtain ⟨-, -, -, absorbs⟩ := published_accepted Arithmetic.exact_cents (by decide +kernel) rfl
      ran' (distinct _ (by rw [one']; decide))
    exact (absorbs _ ⟨.refl _, fun _ => rfl⟩).2 twice

end CommercePlatform.Persistence
