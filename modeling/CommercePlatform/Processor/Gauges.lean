import CommercePlatform.Processor.AttemptCount
import CommercePlatform.Processor.Counting

/-!
The gauge of records in flight and the counter of outcomes.

A record goes in flight when `process` is called and comes back where its outcome is counted,
which the branches that give up on a collaborator do not reach. `gauges_balanced_iff` says
that these are the only ones that leave the gauge up.
-/

namespace CommercePlatform.Processor

open Contract Idempotency Persistence

/-- The gauge is back at its value, and the outcome is counted once, with its status. -/
def Balanced (seen : Tallied) (outcome : ProcessingOutcome) : Prop :=
  seen.total .inflight = 0 ∧ ∃ eventType, ∀ eventType' status,
    seen.total (.eventsTerminal eventType' status) =
      if eventType' = eventType ∧ status = outcome.status then 1 else 0

/-- No collaborator has been given up on: the reservation was answered, the last `persist`
returned, and the completion was confirmed. -/
structure Unfailing (seen : Tallied) : Prop where
  reserve : seen.reserveFailed = false
  persist : seen.persistFailed = false
  complete : seen.completeFailed = false

/-! ### Records in flight -/

/-- The counter is one of the two. -/
def Counter.isGauge : Counter → Bool
  | .inflight | .eventsTerminal .. => true
  | _ => false

theorem amount_quiet {counts : List (Counter × Int)}
    (quiet : ∀ entry ∈ counts, entry.1.isGauge = false) {c : Counter} (gauge : c.isGauge = true) :
    amount counts c = 0 := by
  refine amount_absent fun entry mem => ?_
  rintro rfl
  exact Bool.noConfusion (gauge.symm.trans (quiet entry mem))

theorem Counter.detail_quiet {c : Counter} (detail : c.isDetail = true) : c.isGauge = false := by
  cases c <;> first | rfl | cases detail

theorem persistenceCounts_quiet (config : ProcessorConfig) (result : PersistenceResult) :
    ∀ entry ∈ persistenceCounts config result, entry.1.isGauge = false := by
  obtain ⟨details, same, quiet⟩ := persistenceCounts_eq config result
  intro entry mem
  rw [same] at mem
  rcases List.mem_cons.mp mem with rfl | detail
  · show Counter.isGauge (if _ then _ else _) = false
    split <;> rfl
  · exact Counter.detail_quiet (quiet entry detail)

section

variable (processor : MessageProcessor)

/-- The record is in flight and its outcome is not counted. -/
structure InFlight (seen : Tallied) : Prop where
  gauge : seen.total .inflight = if processor.metrics then 1 else 0
  uncounted : ∀ eventType status, seen.total (.eventsTerminal eventType status) = 0

variable {processor} {st st' : Tallied} {event : EventEnvelope} {message : ConsumedMessage}
  {outcome : ProcessingOutcome}

theorem InFlight.add {c : List (Counter × Int)} (inFlight : InFlight processor st)
    (quiet : ∀ entry ∈ c, entry.1.isGauge = false) : InFlight processor (st.add c) := by
  constructor
  · rw [Tallied.add_total, amount_quiet quiet rfl, add_zero, inFlight.gauge]
  · intro eventType status
    rw [Tallied.add_total, amount_quiet quiet rfl, add_zero, inFlight.uncounted]

theorem InFlight.attempted {ok : Bool} (inFlight : InFlight processor st)
    (attempted : Attempted st st' ok) : InFlight processor st' := by
  constructor
  · rw [attempted.others _ (by decide), inFlight.gauge]
  · intro eventType status
    rw [attempted.others _ (by simp [attemptCounters]), inFlight.uncounted]

theorem Unfailing.add {counts : List (Counter × Int)} (unfailing : Unfailing st) :
    Unfailing (st.add counts) :=
  ⟨unfailing.reserve, unfailing.persist, unfailing.complete⟩

theorem InFlight.not_balanced (inFlight : InFlight processor st) : ¬ Balanced st outcome := by
  rintro ⟨gauge, eventType, counted⟩
  have once := counted eventType outcome.status
  rw [inFlight.uncounted, if_pos ⟨rfl, rfl⟩] at once
  cases once

/-! ### The branches of process -/

variable (processor) in
/-- At the end of a call that returns. -/
def Observed (seen : Tallied) (r : Except PyException ProcessingOutcome) : Prop :=
  ∀ outcome, r = .ok outcome →
    (Balanced seen outcome ↔ processor.metrics = true ∧ Unfailing seen)

theorem observed_error {seen : Tallied} (e : PyException) : Observed processor seen (.error e) := by
  intro outcome same
  cases same

/-- A failed collaborator leaves the record in flight. -/
theorem observed_failing (inFlight : InFlight processor st) (failing : ¬ Unfailing st) :
    Observed processor st (.ok outcome) := by
  intro other same
  cases same
  exact iff_of_false inFlight.not_balanced fun holds => failing holds.2

theorem observeTerminal_balances (eventType : Option EventType) (inFlight : InFlight processor st)
    (unfailing : Unfailing st) :
    (processor.observeTerminal eventType outcome).Follows counting (Observed processor) st := by
  unfold MessageProcessor.observeTerminal
  refine Prog.Follows.ite (fun metrics => ⟨trivial, fun _ => ?_⟩) fun plain => ?_
  · intro other same
    cases same
    refine iff_of_true ⟨?_, eventType, fun eventType' status => ?_⟩
      ⟨metrics, unfailing.reserve, unfailing.persist, unfailing.complete⟩
    · show st.total .inflight + amount _ _ = 0
      rw [inFlight.gauge, if_pos metrics]
      rfl
    · show st.total _ + amount _ _ = _
      rw [inFlight.uncounted, zero_add]
      simp [eq_comm]
  · intro other same
    cases same
    exact iff_of_false inFlight.not_balanced fun holds => plain holds.1

/-- A dead letter that is not observed leaves the record in flight. -/
theorem deadLetter_fails {error : ValidationErrorInfo} {attempts : Nat}
    (inFlight : InFlight processor st) (failing : st.persistFailed = true) :
    (processor.deadLetter message error attempts).Follows counting (Observed processor) st := by
  have persist : ∀ {seen : Tallied}, seen.persistFailed = true → ¬ Unfailing seen := by
    intro seen failed unfailing
    exact Bool.noConfusion (failed.symm.trans unfailing.persist)
  refine (deadLetter_counts processor error attempts).mono fun st' r ended => ?_
  cases ended with
  | refused => exact observed_failing (inFlight.add (by decide)) (persist failing)
  | published =>
    have committed : InFlight processor { st with commitFailed := false } := ⟨inFlight.1, inFlight.2⟩
    exact observed_failing ((committed.add (by decide)).add (by decide)) (persist failing)
  | uncommitted e | raised e => exact observed_error e

theorem commit_balances {f : Unit → Proc ProcessingOutcome} (inFlight : InFlight processor st)
    (unfailing : Unfailing st)
    (next : ∀ st', InFlight processor st' → Unfailing st' →
      (f ()).Follows counting (Observed processor) st') :
    (MessageProcessor.commit message >>= f).Follows counting (Observed processor) st := by
  have committed : InFlight processor { st with commitFailed := false } := ⟨inFlight.1, inFlight.2⟩
  exact commit_counts
    (next _ (committed.add (by decide)) ⟨unfailing.reserve, unfailing.persist, unfailing.complete⟩)
    fun e => observed_error e

theorem processCompleted_balances (inFlight : InFlight processor st) (unfailing : Unfailing st) :
    (processor.processCompleted event message).Follows counting (Observed processor) st := by
  refine Prog.Follows.thenWith ((retry_counts processor).mono fun st' r attempted => ?_)
  have inFlight' := inFlight.attempted attempted
  cases r with
  | ok result =>
    have unfailing' : Unfailing st' := ⟨attempted.reserveFailed.trans unfailing.reserve,
      attempted.persistFailed, attempted.completeFailed.trans unfailing.complete⟩
    have quiet : ∀ entry ∈ (if result.1.alreadyPersisted then [] else
        persistenceCounts processor.config result.1), entry.1.isGauge = false := by
      split
      · exact fun entry mem => absurd mem List.not_mem_nil
      · exact persistenceCounts_quiet _ _
    refine tally_counts (commit_balances (inFlight'.add quiet) unfailing'.add
      fun st'' inFlight'' unfailing'' => tally_counts ?_)
    refine observeTerminal_balances _ (inFlight''.add ?_) unfailing''.add
    simp [Counter.isGauge]
  | error e =>
    cases e with
    | processor e =>
      refine Prog.Follows.ite (fun _ => tally_counts ?_) fun _ => Prog.Follows.ite (fun _ =>
        tally_counts ?_) fun _ => observed_error _
      · exact deadLetter_fails (inFlight'.add (by simp [Counter.isGauge])) attempted.persistFailed
      · exact deadLetter_fails (inFlight'.add (by decide)) attempted.persistFailed
    | _ => exact observed_error _

theorem processFailed_balances {token : String} {e : ProcessorError}
    (inFlight : InFlight processor st) (failing : st.persistFailed = true) :
    (processor.processFailed event message token e).Follows counting (Observed processor) st := by
  have released : ∀ {seen : Tallied}, InFlight processor seen → seen.persistFailed = true →
      ∀ info attempts, (MessageProcessor.safeRelease event.eventId token >>= fun _ =>
        processor.deadLetter message info attempts).Follows counting (Observed processor) seen := by
    intro seen inFlight failing info attempts
    refine Prog.Follows.bind ((safeRelease_counts _ _).mono fun st' r ended => ?_)
    cases ended with
    | released => exact deadLetter_fails inFlight failing
    | failed => exact deadLetter_fails (inFlight.add (by decide)) failing
    | raised e => exact observed_error e
  refine Prog.Follows.ite (fun _ => tally_counts (released (inFlight.add ?_) failing _ _)) fun _ =>
    Prog.Follows.ite (fun _ => tally_counts (released (inFlight.add ?_) failing _ _)) fun _ =>
      observed_error _
  · intro entry mem
    simp only [List.mem_append, List.mem_ite_nil_right, List.mem_cons, List.not_mem_nil,
      or_false] at mem
    rcases mem with (rfl | ⟨-, rfl⟩) | ⟨-, rfl | rfl⟩ <;> rfl
  · intro entry mem
    simp only [List.mem_append, List.mem_ite_nil_right, List.mem_cons, List.not_mem_nil,
      or_false] at mem
    rcases mem with (((rfl | rfl) | ⟨-, rfl⟩) | ⟨-, rfl⟩) | ⟨-, rfl⟩ <;> rfl

theorem processHandled_balances {token : String} {result : PersistenceResult} {attempts : Nat}
    (inFlight : InFlight processor st) (unfailing : Unfailing st) :
    (processor.processHandled event message token result attempts).Follows counting
      (Observed processor) st := by
  have counted := inFlight.add (persistenceCounts_quiet processor.config result)
  refine tally_counts ⟨trivial, fun answer => ?_⟩
  cases answer with
  | error e =>
    refine Prog.Follows.ite (fun _ => tally_counts (observed_failing ?_ ?_)) fun _ => observed_error e
    · exact InFlight.add ⟨counted.1, counted.2⟩ (by decide)
    · exact fun holds => Bool.noConfusion holds.complete
  | ok confirmed =>
    cases confirmed with
    | false =>
      refine tally_counts (observed_failing ?_ ?_)
      · exact InFlight.add ⟨counted.1, counted.2⟩ (by decide)
      · exact fun holds => Bool.noConfusion holds.complete
    | true =>
      refine commit_balances ⟨counted.1, counted.2⟩ ⟨unfailing.reserve, unfailing.persist, rfl⟩
        fun st' inFlight' unfailing' => tally_counts ?_
      exact observeTerminal_balances _ (inFlight'.add (by simp [Counter.isGauge])) unfailing'.add

theorem processReserved_balances {token : String} (inFlight : InFlight processor st)
    (unfailing : Unfailing st) :
    (processor.processReserved event message token).Follows counting (Observed processor) st := by
  refine Prog.Follows.thenWith ((retry_counts processor).mono fun st' r attempted => ?_)
  have inFlight' := inFlight.attempted attempted
  cases r with
  | ok result =>
    exact processHandled_balances inFlight' ⟨attempted.reserveFailed.trans unfailing.reserve,
      attempted.persistFailed, attempted.completeFailed.trans unfailing.complete⟩
  | error e =>
    cases e with
    | processor e => exact processFailed_balances inFlight' attempted.persistFailed
    | _ => exact observed_error _

theorem processEvent_balances {token : String} (inFlight : InFlight processor st)
    (unfailing : Unfailing st) :
    (processor.processEvent event message token).Follows counting (Observed processor) st := by
  have valid : InFlight processor (st.add [(.validRecords, 1)]) := inFlight.add (by decide)
  refine tally_counts ⟨trivial, fun answer => ?_⟩
  cases answer with
  | error e =>
    refine Prog.Follows.ite (fun _ => tally_counts (observed_failing ?_ ?_)) fun _ => observed_error e
    · exact InFlight.add ⟨valid.1, valid.2⟩ (by decide)
    · exact fun holds => Bool.noConfusion holds.reserve
  | ok reservation =>
    have inFlight' : InFlight processor { st.add [(.validRecords, 1)] with reserveFailed := false } :=
      ⟨valid.1, valid.2⟩
    have unfailing' : Unfailing { st.add [(.validRecords, 1)] with reserveFailed := false } :=
      ⟨rfl, unfailing.persist, unfailing.complete⟩
    obtain ⟨state, owner, existing⟩ := reservation
    cases state with
    | completed => exact processCompleted_balances inFlight' unfailing'
    | processing =>
      exact tally_counts (observeTerminal_balances _ (inFlight'.add (by decide)) unfailing'.add)
    | reserved => exact processReserved_balances inFlight' unfailing'

theorem process_balances (token : String) :
    (processor.process message token).Follows counting (Observed processor) {} := by
  have inFlight : InFlight processor (Tallied.add {}
      ((if processor.metrics then [(.inflight, 1)] else []) ++ [(.consumedRecords, 1)])) := by
    constructor
    · cases processor.metrics <;> decide
    · intro eventType status
      cases processor.metrics <;> rfl
  have unfailing : Unfailing {} := ⟨rfl, rfl, rfl⟩
  refine tally_counts ?_
  cases processor.validator.validateMessage message with
  | error e => exact observed_error e
  | ok validation =>
    cases validation with
    | valid event => exact processEvent_balances inFlight unfailing.add
    | invalid error =>
      -- A dead letter for an invalid record is observed, whatever became of it.
      have counted := inFlight.add (c := [(.validationFailures error.category, 1)])
        (by simp [Counter.isGauge])
      refine tally_counts (Prog.Follows.bind ((deadLetter_counts processor error 1).mono ?_))
      intro st' r ended
      cases ended with
      | refused =>
        exact observeTerminal_balances none (counted.add (by decide)) ⟨rfl, rfl, rfl⟩
      | published =>
        have committed := (InFlight.add (c := [(.commitSuccesses, 1)])
          ⟨counted.1, counted.2⟩ (by decide)).add (c := [(.dlqRecords, 1)]) (by decide)
        exact observeTerminal_balances none committed ⟨rfl, rfl, rfl⟩
      | uncommitted e | raised e => exact observed_error e

/-- A call that returns leaves the gauge as it was, and has counted its outcome once, if and
only if there are metrics and none of its collaborators has been given up on. -/
theorem gauges_balanced_iff (message : ConsumedMessage) (token : String)
    (answer : List ((s : Effect) × s.Answer) → (s : Effect) → s.Answer)
    (returned : (processor.process message token).result answer [] = .ok outcome) :
    Balanced (tallied ((processor.process message token).calls answer [])) outcome ↔
      processor.metrics = true ∧
        Unfailing (tallied ((processor.process message token).calls answer [])) :=
  (process_balances token).finishes answer [] outcome returned

end

def measuredProcessor : MessageProcessor := { tinyProcessor with metrics := true }

theorem measured_valid : measuredProcessor.validator.validateMessage (plainMessage 0) =
    .ok (.valid plainEvent) :=
  plainMessage_valid

/-- Everything works, but Redis, which answers the reservation with this. -/
def serving (reservation : Except PyException Reservation)
    (_ : List ((s : Effect) × s.Answer)) : (s : Effect) → s.Answer
  | .tally _ => ()
  | .now => (0 : Int)
  | .reserve .. => reservation
  | .complete .. => .ok true
  | .release .. => .ok true
  | .persist .. => .ok { alreadyPersisted := false }
  | .deliver .. => .confirmed
  | .commitTerminal _ => .ok ()

/-- A record that is processed is counted, and no longer in flight. -/
theorem gauges_balanced_iff_processed :
    Balanced (tallied ((measuredProcessor.process (plainMessage 0) "t").calls
        (serving (.ok ⟨.reserved, some "t", none⟩)) []))
      { status := .processed, eventType := some .userRegistered } := by
  have returned : (measuredProcessor.process (plainMessage 0) "t").result
      (serving (.ok ⟨.reserved, some "t", none⟩)) [] =
        .ok { status := .processed, eventType := some .userRegistered } := by
    rw [process_valid measured_valid]
    rfl
  refine (gauges_balanced_iff (plainMessage 0) "t" _ returned).mpr ⟨rfl, ?_⟩
  rw [process_valid measured_valid]
  exact ⟨rfl, rfl, rfl⟩

/-- A record whose reservation fails stays in flight. -/
theorem not_gauges_balanced :
    ¬ ∀ (processor : MessageProcessor) (message : ConsumedMessage) (token : String)
      (answer : List ((s : Effect) × s.Answer) → (s : Effect) → s.Answer)
      (outcome : ProcessingOutcome), processor.metrics = true →
      (processor.process message token).result answer [] = .ok outcome →
      Balanced (tallied ((processor.process message token).calls answer [])) outcome := by
  intro claim
  have returned : (measuredProcessor.process (plainMessage 0) "t").result
      (serving (.error (.raised .retryableProcessingError "Redis reservation failed"))) [] =
        .ok { status := .unresolved } := by
    rw [process_valid measured_valid]
    rfl
  obtain ⟨gauge, -⟩ := claim measuredProcessor (plainMessage 0) "t" _ _ rfl returned
  rw [process_valid measured_valid] at gauge
  revert gauge
  decide +kernel

end CommercePlatform.Processor
