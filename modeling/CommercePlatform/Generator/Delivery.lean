import CommercePlatform.Generator.Completion
import CommercePlatform.Generator.Producer

/-!
What a finished run of the generator has delivered.

A run returns only after a flush that left nothing in the queue and reported no error: every
message of every journey it has recorded is then delivered, each once, and the numbers it
logs are those of the messages it has sent.
-/

namespace CommercePlatform.Generator

open Contract Stateful

/-! ### Injected anomalies -/

section

variable {source : Source} {config : GeneratorConfig} {w w' : World}

/-- The message carries one anomaly, and it is not out of order. -/
def Anomalous (message : PublishableMessage) : Prop :=
  ∃ kind, message.tags = [kind] ∧ kind ≠ .outOfOrder

theorem mutate_tags {kind : AnomalyType} {message mutated : PublishableMessage}
    {all : List PublishableMessage} (plain : message.tags = [])
    (ran : mutate config kind message all w = .ok (mutated, w')) : mutated.tags = [kind] := by
  cases kind with
  | lateEvent =>
    obtain ⟨time, u, -, returned⟩ := bind_ok.mp ran
    obtain ⟨rfl, -⟩ := pure_ok.mp returned
    simp [PublishableMessage.replace, plain]
  | _ =>
    obtain ⟨rfl, -⟩ := pure_ok.mp ran
    simp [PublishableMessage.tag, PublishableMessage.replace, plain]

theorem inject_anomalous {valid : List PublishableMessage} (plain : ∀ m ∈ valid, m.tags = [])
    {cs : List (AnomalyType × Rat)} (kinds : ∀ c ∈ cs, c.1 ≠ .outOfOrder) {index emitted : Nat}
    {more : List PublishableMessage}
    (ran : inject source config valid cs index emitted w = .ok (more, w')) :
    (∀ m ∈ more, Anomalous m) ∧
      emitted + more.length ≤ max emitted config.maxAnomaliesPerJourney := by
  induction cs generalizing index emitted more w w' with
  | nil =>
    obtain ⟨rfl, -⟩ := pure_ok.mp ran
    simp
  | cons c cs ih =>
    have later : ∀ c ∈ cs, c.1 ≠ .outOfOrder := fun c mem => kinds c (List.mem_cons_of_mem _ mem)
    unfold inject at ran
    split at ran
    · obtain ⟨rfl, -⟩ := pure_ok.mp ran
      simp
    · rename_i room
      obtain ⟨selected, u, -, ran⟩ := bind_ok.mp ran
      cases selected with
      | false => exact ih later ran
      | true =>
        cases found : valid[index % valid.length]? with
        | none =>
          simp only [found] at ran
          exact (raiseError_ok ran).elim
        | some message =>
          simp only [found] at ran
          obtain ⟨mutated, v, changed, ran⟩ := bind_ok.mp ran
          obtain ⟨rest, v', injected, returned⟩ := bind_ok.mp ran
          obtain ⟨rfl, -⟩ := pure_ok.mp returned
          obtain ⟨anomalous, few⟩ := ih later injected
          have tags := mutate_tags (plain message (List.mem_of_getElem? found)) changed
          refine ⟨fun m mem => ?_, by simp only [List.length_cons]; omega⟩
          rcases List.mem_cons.mp mem with rfl | old
          · exact ⟨c.1, tags, kinds c List.mem_cons_self⟩
          · exact anomalous m old

/-- The anomalies of a list of messages. -/
def anomaliesOf (messages : List PublishableMessage) : List AnomalyType :=
  messages.filterMap (·.anomalyType)

theorem anomaliesOf_valid (events : List EventEnvelope) :
    anomaliesOf (events.map validMessage) = [] := by
  simp [anomaliesOf, PublishableMessage.anomalyType, validMessage]

theorem anomaliesOf_anomalous {messages : List PublishableMessage}
    (anomalous : ∀ m ∈ messages, Anomalous m) :
    (anomaliesOf messages).length = messages.length ∧
      (anomaliesOf messages).count .outOfOrder = 0 := by
  induction messages with
  | nil => simp [anomaliesOf]
  | cons m ms ih =>
    obtain ⟨length, none_⟩ := ih fun m mem => anomalous m (List.mem_cons_of_mem _ mem)
    obtain ⟨kind, tags, other⟩ := anomalous m List.mem_cons_self
    have split : anomaliesOf (m :: ms) = kind :: anomaliesOf ms := by
      simp [anomaliesOf, PublishableMessage.anomalyType, tags]
    rw [split, List.length_cons, length, List.length_cons, List.count_cons_of_ne other, none_]
    exact ⟨rfl, rfl⟩

/-- The exchange tags two messages that were valid. -/
theorem swapFirst_counts {events : List EventEnvelope} (anomalous : List PublishableMessage)
    (two : 2 ≤ events.length) :
    (swapFirst (events.map validMessage ++ anomalous)).length =
        (events.map validMessage ++ anomalous).length ∧
      anomaliesOf (swapFirst (events.map validMessage ++ anomalous)) =
        .outOfOrder :: .outOfOrder :: anomaliesOf (events.map validMessage ++ anomalous) := by
  obtain ⟨first, rest, rfl⟩ := List.exists_cons_of_length_pos (l := events) (by omega)
  rw [List.length_cons] at two
  obtain ⟨second, rest, rfl⟩ := List.exists_cons_of_length_pos (l := rest) (by omega)
  constructor <;> rfl

/-- How many messages a journey makes: one for each event, and one for each anomaly that is
not an exchange. -/
theorem prepare_counts {events : List EventEnvelope} {messages : List PublishableMessage}
    (two : 2 ≤ events.length) (ran : prepare source config events w = .ok (messages, w')) :
    messages.length + (anomaliesOf messages).count .outOfOrder =
        events.length + (anomaliesOf messages).length ∧
      messages.length ≤ events.length + config.maxAnomaliesPerJourney := by
  unfold prepare at ran
  split at ran
  · obtain ⟨anomalous, u, injected, ran⟩ := bind_ok.mp ran
    have plain : ∀ m ∈ events.map validMessage, m.tags = [] := by
      intro m mem
      obtain ⟨event, -, rfl⟩ := List.mem_map.mp mem
      rfl
    obtain ⟨marked, few⟩ := inject_anomalous plain (by simp [candidates]) injected
    obtain ⟨length, none_⟩ := anomaliesOf_anomalous marked
    have straight : anomaliesOf (events.map validMessage ++ anomalous) = anomaliesOf anomalous := by
      rw [anomaliesOf, List.filterMap_append]
      exact congrArg (· ++ _) (anomaliesOf_valid events)
    have unswapped : (events.map validMessage ++ anomalous).length +
        (anomaliesOf (events.map validMessage ++ anomalous)).count .outOfOrder =
          events.length + (anomaliesOf (events.map validMessage ++ anomalous)).length ∧
        (events.map validMessage ++ anomalous).length ≤
          events.length + config.maxAnomaliesPerJourney := by
      rw [straight, length, none_, List.length_append, List.length_map]
      exact ⟨rfl, by omega⟩
    split at ran
    · obtain ⟨swapped, v, -, returned⟩ := bind_ok.mp ran
      obtain ⟨rfl, -⟩ := pure_ok.mp returned
      cases swapped with
      | false => exact unswapped
      | true =>
        obtain ⟨length', exchanged⟩ := swapFirst_counts anomalous two
        simp only [if_true, length', exchanged, List.count_cons_self, List.length_cons]
        omega
    · obtain ⟨rfl, -⟩ := pure_ok.mp ran
      exact unswapped
  · obtain ⟨rfl, -⟩ := pure_ok.mp ran
    rw [anomaliesOf_valid]
    simp

/-! ### Journeys are not short -/

theorem viewProducts_some {persona : CustomerPersona} {customer : CustomerState}
    {viewed : List Product} (views : 0 < config.maxProductViews)
    (ran : viewProducts source config customer (strategyFor persona).profile w = .ok (viewed, w')) :
    1 ≤ viewed.length := by
  obtain ⟨count, u, drawn, rest⟩ := bind_ok.mp ran
  obtain ⟨-, -, length⟩ := moreProducts_spec rest
  have low := minViews_pos persona
  have high := maxViews_pos persona
  unfold randint at drawn
  split at drawn
  · exact (raiseError_ok drawn).elim
  · obtain ⟨i, v, -, returned⟩ := bind_ok.mp drawn
    obtain ⟨rfl, -⟩ := pure_ok.mp returned
    omega

/-- A journey has a session and a view at least. -/
theorem build_two {rt : Runtime} {journey : JourneyResult} (accepted : config.Accepted)
    (ran : build rt source config w = .ok (journey, w')) : 2 ≤ journey.events.length := by
  obtain ⟨visit, u, v, customer, events, parts⟩ := build_parts accepted.maxPaymentAttempts.1 ran
  rw [parts.events_eq, List.length_append]
  have browsed := parts.browsed
  obtain ⟨_, w₀, -, browsed⟩ := bind_ok.mp browsed
  obtain ⟨persona, w₁, -, browsed⟩ := bind_ok.mp browsed
  obtain ⟨selection, w₂, -, browsed⟩ := bind_ok.mp browsed
  obtain ⟨_, w₃, -, browsed⟩ := bind_ok.mp browsed
  obtain ⟨correlationId, w₄, -, browsed⟩ := bind_ok.mp browsed
  obtain ⟨registration, w₅, -, browsed⟩ := bind_ok.mp browsed
  obtain ⟨identity, w₆, -, browsed⟩ := bind_ok.mp browsed
  obtain ⟨sessionId, w₇, -, browsed⟩ := bind_ok.mp browsed
  obtain ⟨session, w₈, -, browsed⟩ := bind_ok.mp browsed
  obtain ⟨products, w₉, viewed, browsed⟩ := bind_ok.mp browsed
  obtain ⟨views, w₁₀, shown, browsed⟩ := bind_ok.mp browsed
  obtain ⟨adding, w₁₁, -, browsed⟩ := bind_ok.mp browsed
  obtain ⟨adds, w₁₂, -, returned⟩ := bind_ok.mp browsed
  obtain ⟨rfl, rfl⟩ := pure_ok.mp returned
  have some_ := viewProducts_some accepted.maxProductViews.1 viewed
  have listed := (viewProducts_spec (maxViews_le _) viewed).2.1
  have length := (showProducts_emits listed shown).2
  simp only [List.length_append, List.length_cons]
  omega

end

/-! ### What a run keeps -/

/-- The batch is a journey that was built, with the messages prepared from it. -/
structure Setup.Makes (setup : Setup) (batch : Batch) : Prop where
  built : ∃ w w', build setup.rt setup.source setup.config w = .ok (batch.journey, w')
  prepared : ∃ w w',
    prepare setup.injector setup.config batch.journey.events w = .ok (batch.messages, w')

/-- What the client has of the journey that is being published; an exception tells nothing. -/
def RunStage.sent : RunStage → Option (List PublishableMessage)
  | publishing batch position _ | full batch position _ => some (batch.messages.take position)
  | enqueued batch position => some (batch.messages.take (position + 1))
  | polling batch | recording batch => some batch.messages
  | deciding | generating | flushing | returned => some []
  | raised _ => none

/-- The journeys that are being made. -/
def RunStage.current : RunStage → Nat
  | deciding | flushing | returned | raised _ => 0
  | _ => 1

/-- Every accepted message is queued or reported, and counted. -/
structure KafkaEventProducer.Accounted (p : KafkaEventProducer) : Prop where
  accepted : (p.client.queued ++ (p.client.delivered ++ p.client.failed)).Perm p.client.accepted
  published : p.published = p.client.accepted.length
  failures : p.deliveryFailures = p.client.failed.length

section

variable {p p' : KafkaEventProducer}

theorem KafkaEventProducer.Accounted.enqueue (h : p.Accounted) (message : PublishableMessage) :
    (p.enqueue message).Accounted where
  accepted := by
    have moved : (p.client.queued ++ [message] ++ (p.client.delivered ++ p.client.failed)).Perm
        (p.client.queued ++ (p.client.delivered ++ p.client.failed) ++ [message]) := by
      rw [List.append_assoc, List.append_assoc]
      exact (List.perm_append_comm).append_left _
    exact moved.trans (h.accepted.append_right _)
  published := by
    change p.published + 1 = (p.client.accepted ++ [message]).length
    rw [h.published, List.length_append, List.length_singleton]
  failures := h.failures

/-- A callback moves its message from the queue to those delivered or failed. -/
theorem callback_cases {report : Report} (called : p.callback report = some p') :
    ∃ message, (message :: p'.client.queued).Perm p.client.queued ∧
      p'.client.accepted = p.client.accepted ∧ p'.published = p.published ∧
      ((p'.client.delivered = p.client.delivered ++ [message] ∧
          p'.client.failed = p.client.failed ∧ p'.deliveryFailures = p.deliveryFailures) ∨
        (p'.client.delivered = p.client.delivered ∧
          p'.client.failed = p.client.failed ++ [message] ∧
          p'.deliveryFailures = p.deliveryFailures + 1)) := by
  obtain ⟨message, found, rfl⟩ := Option.map_eq_some_iff.mp called
  obtain ⟨inside, rfl⟩ := List.getElem?_eq_some_iff.mp found
  have taken := List.getElem_cons_eraseIdx_perm inside
  refine ⟨p.client.queued[report.index], ?_⟩
  cases report.error with
  | false => exact ⟨taken, rfl, rfl, Or.inl ⟨rfl, rfl, rfl⟩⟩
  | true => exact ⟨taken, rfl, rfl, Or.inr ⟨rfl, rfl, rfl⟩⟩

theorem KafkaEventProducer.Accounted.callback (h : p.Accounted) {report : Report}
    (called : p.callback report = some p') :
    p'.Accounted ∧ p'.client.accepted = p.client.accepted := by
  obtain ⟨message, taken, accepted, published, outcome⟩ := callback_cases called
  refine ⟨⟨?_, ?_, ?_⟩, accepted⟩
  · rw [accepted]
    refine List.Perm.trans ?_ h.accepted
    refine List.Perm.trans ?_ (taken.append_right _)
    rcases outcome with ⟨delivered, failed, -⟩ | ⟨delivered, failed, -⟩
    · have moved : (p'.client.queued ++ p.client.delivered ++ message :: p.client.failed).Perm
          (message :: (p'.client.queued ++ p.client.delivered ++ p.client.failed)) :=
        List.perm_middle
      simpa [delivered, failed] using moved
    · have moved : (p'.client.queued ++ p.client.delivered ++ p.client.failed ++ [message]).Perm
          (message :: (p'.client.queued ++ p.client.delivered ++ p.client.failed)) :=
        List.perm_append_singleton _ _
      simpa [delivered, failed] using moved
  · rw [published, accepted]
    exact h.published
  · rcases outcome with ⟨-, failed, failures⟩ | ⟨-, failed, failures⟩
    · rw [failed, failures]
      exact h.failures
    · rw [failed, failures, h.failures, List.length_append, List.length_singleton]

theorem KafkaEventProducer.Accounted.serve (h : p.Accounted) {reports : List Report}
    (served : p.serve reports = some p') :
    p'.Accounted ∧ p'.client.accepted = p.client.accepted := by
  induction reports generalizing p with
  | nil => cases served; exact ⟨h, rfl⟩
  | cons report reports ih =>
    rw [serve, List.foldlM_cons] at served
    obtain ⟨u, called, rest⟩ := Option.bind_eq_some_iff.mp served
    obtain ⟨accounted, same⟩ := h.callback called
    obtain ⟨accounted', same'⟩ := ih accounted rest
    exact ⟨accounted', same'.trans same⟩

end

/-- What is known at each stage. -/
def GenerationRun.Fits (setup : Setup) (run : GenerationRun) : RunStage → Prop
  | .publishing batch position attempt =>
    setup.Makes batch ∧ position < batch.messages.length ∧ attempt ≤ 5
  | .full batch position attempt =>
    setup.Makes batch ∧ position < batch.messages.length ∧ attempt < 5
  | .enqueued batch position => setup.Makes batch ∧ position < batch.messages.length
  | .polling batch | .recording batch => setup.Makes batch
  | .flushing => run.continues setup = false
  | .returned => run.continues setup = false ∧ run.producer.client.queued = [] ∧
      run.producer.client.failed = []
  | _ => True

structure GenerationRun.Kept (setup : Setup) (run : GenerationRun) : Prop where
  producer : run.producer.Accounted
  sent : ∀ sent, run.stage.sent = some sent →
    run.producer.client.accepted = run.batches.flatMap (·.messages) ++ sent ∧
      run.generated = run.batches.length
  bounded : ∀ target, setup.journeys = some target → run.generated + run.stage.current ≤ target
  summarized : Summarizes run.summary (run.batches.map Batch.recorded)
  made : ∀ batch ∈ run.batches, setup.Makes batch
  fits : run.Fits setup run.stage

namespace GenerationRun

variable {setup : Setup} {run run' : GenerationRun}

theorem Kept.init : Kept setup {} where
  producer := ⟨by simp, rfl, rfl⟩
  sent := by
    intro sent started
    cases started
    exact ⟨rfl, rfl⟩
  bounded _ _ := Nat.zero_le _
  summarized := summarizes_nil
  made := by simp
  fits := trivial

theorem Kept.bounded_of (h : Kept setup run) (stage : RunStage)
    (le : stage.current ≤ run.stage.current) (target : Nat) (finite : setup.journeys = some target) :
    run.generated + stage.current ≤ target :=
  (Nat.add_le_add_left le _).trans (h.bounded target finite)

/-- A run that goes on to another stage with what the client has unchanged. -/
theorem Kept.move (h : Kept setup run) (stage : RunStage) {sent : List PublishableMessage}
    (before : run.stage.sent = some sent) (after : stage.sent = some sent)
    (bounded : ∀ target, setup.journeys = some target → run.generated + stage.current ≤ target)
    (fits : Fits setup { run with stage } stage) : Kept setup { run with stage } where
  producer := h.producer
  sent := by
    intro sent' same
    obtain rfl := Option.some.inj (after.symm.trans same)
    exact h.sent _ before
  bounded := bounded
  summarized := h.summarized
  made := h.made
  fits := fits

/-- An exception leaves the producer, the summary and the batches as they are. -/
theorem Kept.raised (h : Kept setup run) {e : GenerationError} (stage : run'.stage = .raised e)
    (generated : run'.generated ≤ run.generated + run.stage.current)
    (producer : run'.producer = run.producer) (summary : run'.summary = run.summary)
    (batches : run'.batches = run.batches) : Kept setup run' where
  producer := producer ▸ h.producer
  sent := by
    intro sent impossible
    rw [stage] at impossible
    cases impossible
  bounded target finite := by
    rw [stage]
    exact generated.trans (h.bounded target finite)
  summarized := by
    rw [summary, batches]
    exact h.summarized
  made := batches ▸ h.made
  fits := by
    rw [stage]
    trivial

/-- The stage that the loop over the messages comes to. -/
theorem from_sent (batch : Batch) {position : Nat} (inside : position ≤ batch.messages.length) :
    (batch.from position).sent = some (batch.messages.take position) := by
  unfold Batch.from
  split
  · rfl
  · rename_i over_
    rw [List.take_of_length_le (by omega)]
    rfl

theorem from_fits {batch : Batch} (made : setup.Makes batch) (position : Nat) :
    Fits setup run (batch.from position) := by
  unfold Batch.from
  split
  · rename_i inside
    exact ⟨made, inside, by omega⟩
  · exact made

theorem from_current (batch : Batch) (position : Nat) : (batch.from position).current = 1 := by
  unfold Batch.from
  split <;> rfl

theorem Kept.generate (h : Kept setup run) (here : run.stage = .generating) :
    Kept setup (run.generate setup) := by
  have settled := h.sent [] (by rw [here]; rfl)
  unfold GenerationRun.generate
  split
  · exact h.raised rfl (Nat.le_add_right _ _) rfl rfl rfl
  · rename_i journey world built
    split
    · exact h.raised rfl (Nat.le_add_right _ _) rfl rfl rfl
    · rename_i messages injected prepared
      have made : setup.Makes ⟨journey, messages⟩ := ⟨⟨_, _, built⟩, ⟨_, _, prepared⟩⟩
      refine ⟨h.producer, fun sent same => ?_, h.bounded_of (Batch.from ⟨journey, messages⟩ 0) ?_,
        h.summarized, h.made, from_fits made 0⟩
      · rw [from_sent _ (Nat.zero_le _), List.take_zero, Option.some.injEq] at same
        rw [← same]
        exact settled
      · rw [from_current, here]
        exact le_rfl

theorem Kept.record (h : Kept setup run) {batch : Batch} (here : run.stage = .recording batch) :
    Kept setup (run.record setup batch) := by
  obtain ⟨accepted, generated⟩ := h.sent batch.messages (by rw [here]; rfl)
  have made : setup.Makes batch := by
    have fits := h.fits
    rw [here] at fits
    exact fits
  have bounded := h.bounded
  rw [here] at bounded
  unfold GenerationRun.record
  split
  · exact h.raised rfl (by rw [here]; exact le_rfl) rfl rfl rfl
  · rename_i summary recorded
    refine ⟨h.producer, fun sent same => ?_, bounded, ?_, fun other mem => ?_, trivial⟩
    · obtain rfl := Option.some.inj same
      simp [accepted, generated]
    · rw [List.map_append]
      exact h.summarized.record recorded
    · rcases List.mem_append.mp mem with before | now
      · exact h.made other before
      · rw [List.mem_singleton.mp now]
        exact made

theorem Kept.produce (h : Kept setup run) {batch : Batch} {position attempt : Nat}
    (here : run.stage = .publishing batch position attempt) {message : PublishableMessage}
    (found : batch.messages[position]? = some message) (outcome : Produced) :
    Kept setup (run.produce batch position attempt message outcome) := by
  obtain ⟨accepted, generated⟩ := h.sent (batch.messages.take position) (by rw [here]; rfl)
  have fits := h.fits
  rw [here] at fits
  obtain ⟨made, inside, few⟩ := fits
  cases outcome with
  | accepted =>
    refine ⟨h.producer.enqueue message, fun sent same => ?_,
      h.bounded_of (.enqueued batch position) (by rw [here]; exact le_rfl), h.summarized,
      h.made, made, inside⟩
    obtain rfl := Option.some.inj same
    refine ⟨?_, generated⟩
    change run.producer.client.accepted ++ [message] = _
    rw [accepted, List.take_add_one, found, List.append_assoc]
    rfl
  | bufferError =>
    rw [GenerationRun.produce]
    by_cases last : attempt = 5
    · rw [if_pos last]
      exact h.raised rfl (Nat.le_add_right _ _) rfl rfl rfl
    · rw [if_neg last]
      refine h.move (.full batch position attempt) (by rw [here]; rfl) rfl
        (h.bounded_of _ (by rw [here]; exact le_rfl)) ⟨made, inside, ?_⟩
      omega
  | otherError => exact h.raised rfl (Nat.le_add_right _ _) rfl rfl rfl

/-- Callbacks only report. -/
theorem Kept.serve (h : Kept setup run) {reports : List Report} {producer : KafkaEventProducer}
    (served : run.producer.serve reports = some producer) (open_ : run.stage ≠ .returned) :
    Kept setup { run with producer } := by
  obtain ⟨accounted, same⟩ := h.producer.serve served
  refine ⟨accounted, fun sent at_ => ?_, h.bounded, h.summarized, h.made, ?_⟩
  · rw [same]
    exact h.sent sent at_
  · have fits := h.fits
    cases here : run.stage with
    | returned => exact absurd here open_
    | _ =>
      rw [here] at fits
      exact fits

/-- A run returns when the flush has left nothing queued and nothing has failed. -/
theorem flushError_none {p : KafkaEventProducer} (accounted : p.Accounted)
    (none_ : p.flushError = none) : p.client.queued = [] ∧ p.client.failed = [] := by
  unfold KafkaEventProducer.flushError KafkaEventProducer.pollError at none_
  split at none_
  · cases none_
  · rename_i empty
    split at none_
    · cases none_
    · rename_i quiet
      rw [accounted.failures] at quiet
      exact ⟨List.eq_nil_of_length_eq_zero (not_not.mp empty),
        List.eq_nil_of_length_eq_zero (not_not.mp quiet)⟩

theorem Kept.served (h : Kept setup run) (moved : run.served = some run') : Kept setup run' := by
  have fits := h.fits
  unfold GenerationRun.served at moved
  cases here : run.stage with
  | full batch position attempt =>
    simp only [here, Option.some.injEq] at moved
    rw [here] at fits
    subst moved
    exact h.move (.publishing batch position (attempt + 1)) (by rw [here]; rfl) rfl
      (h.bounded_of _ (by rw [here]; exact le_rfl)) ⟨fits.1, fits.2.1, fits.2.2⟩
  | enqueued batch position =>
    simp only [here, Option.some.injEq] at moved
    rw [here] at fits
    subst moved
    exact h.move (batch.from (position + 1)) (by rw [here]; rfl) (from_sent batch fits.2)
      (h.bounded_of _ (by rw [here, from_current]; exact le_rfl)) (from_fits fits.1 _)
  | polling batch =>
    simp only [here] at moved
    rw [here] at fits
    split at moved
    · cases moved
      exact h.raised rfl (Nat.le_add_right _ _) rfl rfl rfl
    · cases moved
      exact h.move (.recording batch) (by rw [here]; rfl) rfl
        (h.bounded_of _ (by rw [here]; exact le_rfl)) fits
  | flushing =>
    simp only [here] at moved
    rw [here] at fits
    split at moved
    · cases moved
      exact h.raised rfl (Nat.le_add_right _ _) rfl rfl rfl
    · rename_i quiet
      cases moved
      exact h.move .returned (by rw [here]; rfl) rfl (h.bounded_of _ (Nat.zero_le _))
        ⟨fits, flushError_none h.producer quiet⟩
  | _ => simp [here] at moved

/-- A request to stop changes nothing else, and a loop that is over stays over. -/
theorem Kept.request (h : Kept setup run) : Kept setup { run with requested := true } := by
  refine ⟨h.producer, h.sent, h.bounded, h.summarized, h.made, ?_⟩
  have fits := h.fits
  cases here : run.stage with
  | flushing => rfl
  | returned =>
    rw [here] at fits
    exact ⟨rfl, fits.2⟩
  | _ =>
    rw [here] at fits
    exact fits

theorem Kept.step {label : GenerationLabel} (h : Kept setup run)
    (stepped : run.step setup label = some run') : Kept setup run' := by
  cases label with
  | step =>
    cases here : run.stage with
    | deciding =>
      simp only [GenerationRun.step, here, Option.some.injEq] at stepped
      subst stepped
      by_cases more : run.continues setup
      · rw [if_pos more]
        refine h.move .generating (by rw [here]; rfl) rfl (fun target finite => ?_) trivial
        simp only [GenerationRun.continues, finite, Option.all_some, Bool.and_eq_true,
          decide_eq_true_eq] at more
        exact more.2
      · rw [if_neg more]
        exact h.move .flushing (by rw [here]; rfl) rfl (h.bounded_of _ (Nat.zero_le _))
          (Bool.eq_false_iff.mpr more)
    | generating =>
      simp only [GenerationRun.step, here, Option.some.injEq] at stepped
      subst stepped
      exact h.generate here
    | recording batch =>
      simp only [GenerationRun.step, here, Option.some.injEq] at stepped
      subst stepped
      exact h.record here
    | _ => simp [GenerationRun.step, here] at stepped
  | produce outcome =>
    cases here : run.stage with
    | publishing batch position attempt =>
      simp only [GenerationRun.step, here, Option.map_eq_some_iff] at stepped
      obtain ⟨message, found, rfl⟩ := stepped
      exact h.produce here found outcome
    | _ => simp [GenerationRun.step, here] at stepped
  | serve reports =>
    obtain ⟨producer, served, moved⟩ := Option.bind_eq_some_iff.mp stepped
    have open_ : run.stage ≠ .returned := by
      intro over_
      simp [GenerationRun.served, over_] at moved
    exact (h.serve served open_).served moved
  | request =>
    cases stepped
    exact h.request

end GenerationRun

/-! ### A run that returned -/

/-- All messages of the recorded journeys are delivered, and the summary counts them. -/
structure GenerationRun.Complete (setup : Setup) (run : GenerationRun) : Prop where
  /-- The loop has ended as it should. -/
  finished : run.requested = true ∨ setup.journeys = some run.generated
  generated : run.generated = run.batches.length
  made : ∀ batch ∈ run.batches, setup.Makes batch
  delivered : run.producer.client.delivered.Perm (run.batches.flatMap (·.messages))
  nothing_else : run.producer.client.queued = [] ∧ run.producer.client.failed = []
  published : run.producer.published = run.producer.client.delivered.length
  summarized : Summarizes run.summary (run.batches.map Batch.recorded)
  /-- An exchange adds no message to those of the events, any other anomaly one. -/
  balanced : run.producer.published + run.summary.anomaliesPerType.count .outOfOrder =
    run.summary.validMessages + run.summary.anomalousMessages

/-- The messages of the batches against their events and anomalies. -/
theorem batches_balanced {setup : Setup} (accepted : setup.config.Accepted) {batches : List Batch}
    (made : ∀ batch ∈ batches, setup.Makes batch) :
    (batches.flatMap (·.messages)).length +
        ((batches.map Batch.recorded).flatMap Prod.snd).count .outOfOrder =
      (eventTypes (batches.map Batch.recorded)).length +
        ((batches.map Batch.recorded).flatMap Prod.snd).length := by
  induction batches with
  | nil => rfl
  | cons batch batches ih =>
    obtain ⟨⟨w, w', built⟩, ⟨v, v', prepared⟩⟩ := made batch List.mem_cons_self
    obtain ⟨counts, -⟩ := prepare_counts (build_two accepted built) prepared
    have rest := ih fun other mem => made other (List.mem_cons_of_mem _ mem)
    have first : batch.anomalyTypes = anomaliesOf batch.messages := rfl
    simp only [eventTypes, List.map_cons, List.flatMap_cons, List.length_append, List.count_append,
      Batch.recorded, List.length_map, first] at rest ⊢
    omega

/-- A run that returns 0 has delivered every message of every journey it has made, once, and
logs their numbers. -/
theorem generation_complete {setup : Setup} (accepted : setup.config.Accepted)
    {labels : List GenerationLabel} {run : GenerationRun}
    (ran : setup.machine.run {} labels = some run) (exits : run.stage.exitCode = some 0) :
    run.Complete setup := by
  have kept : run.Kept setup :=
    setup.machine.invariant (fun _ _ _ h stepped => h.step stepped) .init ran
  have returned : run.stage = .returned := by
    cases here : run.stage <;> rw [here] at exits <;> first
      | rfl
      | cases exits
  obtain ⟨sent, generated⟩ := kept.sent [] (by rw [returned]; rfl)
  rw [List.append_nil] at sent
  have fits := kept.fits
  rw [returned] at fits
  obtain ⟨over_, queued, failed⟩ := fits
  have delivered : run.producer.client.delivered.Perm (run.batches.flatMap (·.messages)) := by
    have all := kept.producer.accepted
    rw [queued, failed, List.nil_append, List.append_nil, sent] at all
    exact all
  have published : run.producer.published = run.producer.client.delivered.length := by
    rw [kept.producer.published, sent, delivered.length_eq]
  refine ⟨?_, generated, kept.made, delivered, ⟨queued, failed⟩, published, kept.summarized, ?_⟩
  · cases finite : setup.journeys with
    | none =>
      rw [GenerationRun.continues, finite] at over_
      simpa using over_
    | some target =>
      have most := kept.bounded target finite
      rw [GenerationRun.continues, finite] at over_
      simp only [Option.all_some, Bool.and_eq_false_iff, Bool.not_eq_eq_eq_not, Bool.not_false,
        decide_eq_false_iff_not, not_lt] at over_
      rcases over_ with requested | least
      · exact Or.inl requested
      · refine Or.inr (congrArg some (le_antisymm least ?_))
        exact (Nat.le_add_right _ _).trans most
  · have balanced := batches_balanced accepted kept.made
    rw [published, delivered.length_eq, RunSummary.validMessages, RunSummary.anomalousMessages,
      kept.summarized.anomalies, kept.summarized.events, kept.summarized.anomalous]
    exact balanced

/-- One journey, with a duplicate and an exchange. -/
def trialSetup : Setup where
  rt := hashRuntime
  source := eagerSource
  injector := eagerSource
  config := {
    anomaliesEnabled := true, duplicateEventProbability := 1, outOfOrderProbability := 1 }
  journeys := some 1
  context := exactContext

/-- The queue is full once, and then takes the nine messages; each is delivered at once. -/
def trialLabels : List GenerationLabel :=
  [.step, .step, .produce .bufferError, .serve []] ++
    (List.replicate 9 [.produce .accepted, .serve [⟨0, false⟩]]).flatten ++
    [.serve [], .step, .step, .serve []]

theorem generation_complete_trial :
    ∃ run, trialSetup.machine.run {} trialLabels = some run ∧ run.producer.published = 9 ∧
      run.Complete trialSetup := by
  have trial : (trialSetup.machine.run {} trialLabels).map (fun run =>
      (run.stage.exitCode, run.producer.published)) = some (some 0, 9) := by decide +kernel
  obtain ⟨run, ran, at_end⟩ := Option.map_eq_some_iff.mp trial
  obtain ⟨exits, published⟩ := Prod.mk.inj at_end
  exact ⟨run, ran, published, generation_complete (by decide +kernel) ran exits⟩

end CommercePlatform.Generator
