import CommercePlatform.Processor.Execution

/-!
The attempt count of a dead-letter record.

A monitor keeps the answers of the handler in one call of `process`. A record is published
after failures that were all retried but the last, and its count is the configured maximum
where the last failure is a retryable one, and 1 where it is permanent: the variable that
would hold the number of attempts is only assigned when the handler succeeds.
-/

namespace CommercePlatform.Processor

open Contract Idempotency Persistence

/-- An answer of the handler. -/
abbrev HandlerOutcome := Except PyException PersistenceResult

def isRetryable : HandlerOutcome → Bool
  | .error e => e.isInstance .retryableProcessingError
  | .ok _ => false

def isPermanent : HandlerOutcome → Bool
  | .error e => e.isInstance .permanentProcessingError
  | .ok _ => false

/-- No class is both. -/
theorem not_retryable_of_permanent {outcome : HandlerOutcome} (permanent : isPermanent outcome = true) :
    isRetryable outcome = false := by
  have apart : ∀ c : ErrorClass, c.isInstance .permanentProcessingError = true →
      c.isInstance .retryableProcessingError = false := by
    intro c
    cases c <;> decide
  cases outcome with
  | ok result => rfl
  | error e =>
    cases e with
    | processor error => exact apart error.cls permanent
    | _ => rfl

/-! ### The monitor -/

/-- The handler's answers so far, and whether a record was handed to the producer. -/
structure Invocations where
  answers : List HandlerOutcome := []
  published : Bool := false

/-- Failures that are all retried but the last. -/
structure Exhausts (maximum : Nat) (answers : List HandlerOutcome) (last : PyException) : Prop where
  ends : ∃ earlier, answers = earlier ++ [.error last] ∧ ∀ a ∈ earlier, isRetryable a = true
  within : answers.length ≤ maximum
  all : last.isInstance .retryableProcessingError = true → answers.length = maximum

/-- The count a record is given for such failures. -/
def Counts (maximum : Nat) (answers : List HandlerOutcome) (attempts : Nat) : Prop :=
  ∃ last, Exhausts maximum answers last ∧
    (last.isInstance .permanentProcessingError = true ∧ attempts = 1 ∨
      last.isInstance .retryableProcessingError = true ∧ attempts = maximum)

def attemptMonitor (maximum : Nat) : Monitor Effect Effect.Answer Invocations where
  allows st
    | .persist .. => st.published = false
    | .deliver record _ => st.published = false ∧
        Counts maximum st.answers record.processingAttempts
    | _ => True
  next st s r :=
    match s, r with
    | .persist .., (answer : HandlerOutcome) => { st with answers := st.answers ++ [answer] }
    | .deliver .., _ => { st with published := true }
    | _, _ => st

section

variable {maximum : Nat} {st : Invocations} {α : Type} {event : EventEnvelope}
  {message : ConsumedMessage} {Q : Invocations → Except PyException α → Prop}

theorem tally_counted {counts : List (Counter × Int)} {f : Unit → Proc α}
    (next : (f ()).Follows (attemptMonitor maximum) Q st) :
    (tally counts >>= f).Follows (attemptMonitor maximum) Q st :=
  ⟨trivial, fun _ => next⟩

/-- One attempt adds its answer. -/
theorem handle_counted (open_ : st.published = false) (attempt : Nat) :
    (handle event message attempt).Follows (attemptMonitor maximum)
      (fun st' r => st'.published = false ∧ st'.answers = st.answers ++ [r]) st := by
  refine tally_counted ⟨open_, fun answer => ?_⟩
  cases answer with
  | ok result => exact ⟨open_, rfl⟩
  | error e => exact tally_counted ⟨open_, rfl⟩

/-- The rounds that are left, after as many retried failures. -/
theorem retryFrom_counted (left attempt : Nat) (some_left : left ≠ 0)
    (open_ : st.published = false) (retried : ∀ a ∈ st.answers, isRetryable a = true)
    (total : st.answers.length + left = maximum) :
    (retryFrom (handle event message) onRetry left attempt).Follows (attemptMonitor maximum)
      (fun st' r => st'.published = false ∧ ∀ e, r = .error e → Exhausts maximum st'.answers e) st := by
  induction left generalizing attempt st with
  | zero => exact absurd rfl some_left
  | succ left ih =>
    refine Prog.Follows.thenWith ((handle_counted open_ attempt).mono ?_)
    rintro st' r ⟨open', answers⟩
    cases r with
    | ok result => exact ⟨open', fun e impossible => by cases impossible⟩
    | error e =>
      have length : st'.answers.length = st.answers.length + 1 := by rw [answers]; simp
      refine Prog.Follows.ite (fun again => ?_) fun ends => ⟨open', ?_⟩
      · refine tally_counted (ih (attempt + 1) again.2 open' ?_ (by omega))
        intro a mem
        rw [answers] at mem
        rcases List.mem_append.mp mem with old | new
        · exact retried a old
        · rw [List.mem_singleton.mp new]
          exact again.1
      · intro e' same
        cases same
        refine ⟨⟨st.answers, answers, retried⟩, by omega, fun retryable => ?_⟩
        -- The loop gave up on a retryable failure, so no round was left.
        have none_left : left = 0 := by
          by_contra more
          exact ends ⟨retryable, more⟩
        omega

theorem retry_counted (start : st = {}) (positive : 0 < maximum) :
    (runWithRetry maximum (handle event message) onRetry).Follows (attemptMonitor maximum)
      (fun st' r => st'.published = false ∧ ∀ e, r = .error e → Exhausts maximum st'.answers e) st := by
  subst start
  refine retryFrom_counted maximum 1 positive.ne' rfl ?_ (by simp)
  intro a mem
  cases mem

variable {processor : MessageProcessor}

theorem observeTerminal_counted {eventType : Option EventType} {outcome : ProcessingOutcome} :
    (processor.observeTerminal eventType outcome).Follows (attemptMonitor maximum)
      (fun _ _ => True) st := by
  unfold MessageProcessor.observeTerminal
  split
  · exact ⟨trivial, fun _ => trivial⟩
  · trivial

/-- A commit, and what follows it. -/
theorem commit_counted {f : Unit → Proc α}
    (next : ∀ st, (f ()).Follows (attemptMonitor maximum) (fun _ _ => True) st) :
    (MessageProcessor.commit message >>= f).Follows (attemptMonitor maximum)
      (fun _ _ => True) st := by
  refine ⟨trivial, fun answer => ?_⟩
  cases answer with
  | ok _ => exact ⟨trivial, fun _ => next _⟩
  | error e => exact ⟨trivial, fun _ => trivial⟩

theorem afterPublish_counted {attempts : Nat} {r : Except PyException Unit} :
    (MessageProcessor.afterPublish message attempts r).Follows (attemptMonitor maximum)
      (fun _ _ => True) st := by
  cases r with
  | error e => exact Prog.Follows.ite (fun _ => tally_counted trivial) fun _ => trivial
  | ok _ => exact commit_counted fun st => tally_counted trivial

/-- A record with the count that its failures call for. -/
theorem deadLetter_counted {error : ValidationErrorInfo} {attempts : Nat}
    (open_ : st.published = false) (counts : Counts maximum st.answers attempts) :
    (processor.deadLetter message error attempts).Follows (attemptMonitor maximum)
      (fun _ _ => True) st := by
  refine ⟨trivial, fun failedAt => Prog.Follows.thenWith ?_⟩
  unfold MessageProcessor.publish
  split
  · exact afterPublish_counted
  · refine ⟨⟨open_, counts⟩, fun answer => ?_⟩
    cases answer with
    | confirmed => exact afterPublish_counted
    | unconfirmed => exact afterPublish_counted
    | refused => exact afterPublish_counted
    | raised e => exact afterPublish_counted

theorem safeRelease_counted {eventId : UUID} {token : String} :
    (MessageProcessor.safeRelease eventId token).Follows (attemptMonitor maximum)
      (fun st' _ => st' = st) st := by
  refine ⟨trivial, fun answer => ?_⟩
  cases answer with
  | ok _ => exact rfl
  | error e => exact Prog.Follows.ite (fun _ => ⟨trivial, fun _ => rfl⟩) fun _ => rfl

end

/-! ### The two paths -/

section

variable {processor : MessageProcessor} {event : EventEnvelope} {message : ConsumedMessage}
  {token : String} {st : Invocations}

/-- The monitor for the configured maximum. -/
abbrev attemptsOf (processor : MessageProcessor) : Monitor Effect Effect.Answer Invocations :=
  attemptMonitor processor.config.maxProcessingAttempts

theorem processCompleted_counted (start : st = {}) :
    (processor.processCompleted event message).Follows (attemptsOf processor)
      (fun _ _ => True) st := by
  refine Prog.Follows.thenWith ((retry_counted start processor.config.attempts_pos).mono ?_)
  rintro st r ⟨open_, failed⟩
  cases r with
  | ok result => exact tally_counted (commit_counted fun st => tally_counted observeTerminal_counted)
  | error raised =>
    have exhausted := failed raised rfl
    cases raised with
    | processor error =>
      exact Prog.Follows.ite
        (fun permanent => tally_counted
          (deadLetter_counted open_ ⟨_, exhausted, .inl ⟨permanent, rfl⟩⟩)) fun _ =>
        Prog.Follows.ite
          (fun retryable => tally_counted
            (deadLetter_counted open_ ⟨_, exhausted, .inr ⟨retryable, rfl⟩⟩)) fun _ => trivial
    | _ => trivial

theorem processFailed_counted {error : ProcessorError} (open_ : st.published = false)
    (exhausted : Exhausts processor.config.maxProcessingAttempts st.answers (.processor error)) :
    (processor.processFailed event message token error).Follows (attemptsOf processor)
      (fun _ _ => True) st := by
  have released : ∀ info attempts,
      Counts processor.config.maxProcessingAttempts st.answers attempts →
      (MessageProcessor.safeRelease event.eventId token >>= fun _ =>
        processor.deadLetter message info attempts).Follows (attemptsOf processor)
          (fun _ _ => True) st := by
    intro info attempts counts
    refine Prog.Follows.bind (safeRelease_counted.mono fun st' r same => ?_)
    subst same
    cases r with
    | ok _ => exact deadLetter_counted open_ counts
    | error e => trivial
  exact Prog.Follows.ite
    (fun permanent => tally_counted (released _ _ ⟨_, exhausted, .inl ⟨permanent, rfl⟩⟩)) fun _ =>
    Prog.Follows.ite
      (fun retryable => tally_counted (released _ _ ⟨_, exhausted, .inr ⟨retryable, rfl⟩⟩))
      fun _ => trivial

theorem processHandled_counted {result : PersistenceResult} {attempts : Nat} :
    (processor.processHandled event message token result attempts).Follows (attemptsOf processor)
      (fun _ _ => True) st := by
  refine tally_counted ⟨trivial, fun answer => ?_⟩
  cases answer with
  | error e => exact Prog.Follows.ite (fun _ => tally_counted trivial) fun _ => trivial
  | ok completed =>
    cases completed with
    | false => exact tally_counted trivial
    | true => exact commit_counted fun st => tally_counted observeTerminal_counted

theorem processReserved_counted (start : st = {}) :
    (processor.processReserved event message token).Follows (attemptsOf processor)
      (fun _ _ => True) st := by
  refine Prog.Follows.thenWith ((retry_counted start processor.config.attempts_pos).mono ?_)
  rintro st r ⟨open_, failed⟩
  cases r with
  | ok result => exact processHandled_counted
  | error raised =>
    have exhausted := failed raised rfl
    cases raised with
    | processor error => exact processFailed_counted open_ exhausted
    | _ => trivial

/-- The calls of `process` for a valid event. -/
theorem process_counted
    (valid : processor.validator.validateMessage message = .ok (.valid event)) :
    (processor.process message token).Follows (attemptsOf processor) (fun _ _ => True) {} := by
  refine tally_counted ?_
  rw [valid]
  refine tally_counted ⟨trivial, fun answer => ?_⟩
  cases answer with
  | error e => exact Prog.Follows.ite (fun _ => tally_counted trivial) fun _ => trivial
  | ok reservation =>
    obtain ⟨state, _, _⟩ := reservation
    cases state with
    | completed => exact processCompleted_counted rfl
    | processing => exact tally_counted observeTerminal_counted
    | reserved => exact processReserved_counted rfl

end

/-! ### The calls of one run -/

/-- The handler's answers among the calls. -/
def handlerAnswer : (s : Effect) × s.Answer → Option HandlerOutcome
  | ⟨.persist .., answer⟩ => some answer
  | _ => none

def handlerAnswers (calls : List ((s : Effect) × s.Answer)) : List HandlerOutcome :=
  calls.filterMap handlerAnswer

/-- After a record was published there are no further attempts, and no second record. -/
theorem accepts_published {maximum : Nat} {st : Invocations} {calls : List ((s : Effect) × s.Answer)}
    (accepted : (attemptMonitor maximum).Accepts st calls) (published : st.published = true) :
    handlerAnswers calls = [] ∧ ∀ record value answer, ⟨.deliver record value, answer⟩ ∉ calls := by
  induction calls with
  | nil => exact ⟨rfl, fun _ _ _ => List.not_mem_nil⟩
  | cons call rest ih =>
    obtain ⟨s, answer⟩ := call
    obtain ⟨allowed, later⟩ := accepted
    cases s with
    | persist event message => cases published.symm.trans allowed
    | deliver record value => cases published.symm.trans allowed.1
    | _ =>
      obtain ⟨none_, nothing⟩ := ih later
      refine ⟨none_, fun record value answer mem => ?_⟩
      rcases List.mem_cons.mp mem with same | old
      · cases same
      · exact nothing record value answer old

/-- The count of a record that was published is the one for all answers of the handler. -/
theorem accepts_counts {maximum : Nat} {st : Invocations} {calls : List ((s : Effect) × s.Answer)}
    (accepted : (attemptMonitor maximum).Accepts st calls) {record : DlqEnvelope} {value : List UInt8}
    {answer : Delivery} (dead : ⟨.deliver record value, answer⟩ ∈ calls) :
    Counts maximum (st.answers ++ handlerAnswers calls) record.processingAttempts := by
  induction calls generalizing st with
  | nil => cases dead
  | cons call rest ih =>
    obtain ⟨s, reply⟩ := call
    obtain ⟨allowed, later⟩ := accepted
    rcases List.mem_cons.mp dead with same | dead
    · cases same
      obtain ⟨none_, -⟩ := accepts_published later rfl
      have nothing : handlerAnswers (⟨.deliver record value, answer⟩ :: rest) = [] := none_
      rw [nothing, List.append_nil]
      exact allowed.2
    · have counted := ih later dead
      cases s with
      | persist event message =>
        have more : st.answers ++ handlerAnswers (⟨.persist event message, reply⟩ :: rest) =
            ((attemptMonitor maximum).next st (.persist event message) reply).answers ++
              handlerAnswers rest := List.append_cons ..
        rw [more]
        exact counted
      | _ => exact counted

/-! ### The outcomes of the handler -/

theorem process_valid {processor : MessageProcessor} {message : ConsumedMessage}
    {event : EventEnvelope} {token : String}
    (valid : processor.validator.validateMessage message = .ok (.valid event)) :
    processor.process message token =
      tally ((if processor.metrics then [(.inflight, 1)] else []) ++ [(.consumedRecords, 1)]) >>=
        fun _ => processor.processEvent event message token := by
  rw [MessageProcessor.process, valid]

/-- The surroundings of one call of `process`: the outcome of each invocation of the
handler, and any answers to the other calls. -/
structure Surroundings where
  outcomes : Nat → HandlerOutcome
  others : List ((s : Effect) × s.Answer) → (s : Effect) → s.Answer

def Surroundings.answer (env : Surroundings) (past : List ((s : Effect) × s.Answer)) :
    (s : Effect) → s.Answer
  | .persist .. => env.outcomes (handlerAnswers past).length
  | s => env.others past s

/-- The calls of `process` in these surroundings. -/
def MessageProcessor.callsOf (processor : MessageProcessor) (message : ConsumedMessage)
    (token : String) (env : Surroundings) : List ((s : Effect) × s.Answer) :=
  (processor.process message token).calls env.answer []

/-- The answers of the handler are its outcomes, one after the other. -/
theorem handlerAnswers_calls {α : Type} (p : Proc α) (env : Surroundings)
    (past : List ((s : Effect) × s.Answer)) :
    ∃ n, handlerAnswers (p.calls env.answer past) =
      (List.range' (handlerAnswers past).length n).map env.outcomes := by
  induction p generalizing past with
  | pure a => exact ⟨0, rfl⟩
  | throw e => exact ⟨0, rfl⟩
  | call s k ih =>
    obtain ⟨n, rest⟩ := ih (env.answer past s) (past ++ [⟨s, env.answer past s⟩])
    have grown : handlerAnswers (past ++ [⟨s, env.answer past s⟩]) =
        handlerAnswers past ++ handlerAnswers [⟨s, env.answer past s⟩] := List.filterMap_append
    rw [grown, List.length_append] at rest
    cases s with
    | persist event message =>
      refine ⟨n + 1, ?_⟩
      rw [List.range'_succ, List.map_cons]
      exact congrArg (env.outcomes (handlerAnswers past).length :: ·) rest
    | _ => exact ⟨n, rest⟩

/-- A permanent failure after failures that were retried. -/
def RetriedThenPermanent (outcomes : Nat → HandlerOutcome) (maximum : Nat) : Prop :=
  ∃ k, 0 < k ∧ k < maximum ∧ (∀ i < k, isRetryable (outcomes i) = true) ∧
    isPermanent (outcomes k) = true

theorem counts_iff {outcomes : Nat → HandlerOutcome} {maximum n attempts : Nat}
    (counts : Counts maximum ((List.range' 0 n).map outcomes) attempts) :
    attempts = n ↔ ¬ RetriedThenPermanent outcomes maximum := by
  obtain ⟨last, ⟨⟨earlier, split, retried⟩, within, all⟩, verdict⟩ := counts
  rw [List.length_map, List.length_range'] at within all
  have length : n = earlier.length + 1 := by
    have sizes := congrArg List.length split
    simpa using sizes
  have before : ∀ i < earlier.length, isRetryable (outcomes i) = true := by
    intro i small
    have here := congrArg (·[i]?) split
    rw [List.getElem?_append_left small] at here
    rw [List.getElem?_eq_getElem small, List.getElem?_map, List.getElem?_range' (by omega)] at here
    simp only [Option.map_some, Option.some.injEq] at here
    rw [show outcomes i = earlier[i] by simpa using here]
    exact retried _ (List.getElem_mem small)
  have ends : outcomes earlier.length = .error last := by
    have here := congrArg (·[earlier.length]?) split
    simpa [length] using here
  rcases verdict with ⟨permanent, rfl⟩ | ⟨retryable, rfl⟩
  · have permanent : isPermanent (outcomes earlier.length) = true := by
      rw [ends]
      exact permanent
    constructor
    · rintro one ⟨k, positive, -, first, -⟩
      have none_ : earlier.length = 0 := by omega
      rw [none_] at permanent
      have apart := not_retryable_of_permanent permanent
      rw [first 0 positive] at apart
      cases apart
    · intro never
      by_contra more
      exact never ⟨earlier.length, by omega, by omega, before, permanent⟩
  · have retryable : isRetryable (outcomes earlier.length) = true := by
      rw [ends]
      exact retryable
    refine iff_of_true (all (by rw [ends] at retryable; exact retryable)).symm ?_
    rintro ⟨k, -, small, -, permanent⟩
    have apart := not_retryable_of_permanent permanent
    have retried_k : isRetryable (outcomes k) = true := by
      rcases Nat.lt_or_ge k earlier.length with lt | ge
      · exact before k lt
      · have all := all (by rw [ends] at retryable; exact retryable)
        rw [show k = earlier.length by omega]
        exact retryable
    rw [retried_k] at apart
    cases apart

/-- The count of a dead-letter record for a valid event is the number of invocations of the
handler if and only if no permanent failure follows a retried one. -/
theorem dlq_attempts_truthful (processor : MessageProcessor) (message : ConsumedMessage)
    (token : String) (env : Surroundings) {event : EventEnvelope}
    (valid : processor.validator.validateMessage message = .ok (.valid event))
    {record : DlqEnvelope} {value : List UInt8} {answer : Delivery}
    (dead : ⟨.deliver record value, answer⟩ ∈ processor.callsOf message token env) :
    record.processingAttempts = (handlerAnswers (processor.callsOf message token env)).length ↔
      ¬ RetriedThenPermanent env.outcomes processor.config.maxProcessingAttempts := by
  have counts := accepts_counts ((process_counted valid).accepts env.answer []) dead
  obtain ⟨n, answers⟩ := handlerAnswers_calls (processor.process message token) env []
  have answers : handlerAnswers (processor.callsOf message token env) =
      (List.range' 0 n).map env.outcomes := answers
  rw [List.nil_append] at counts
  rw [answers, List.length_map, List.length_range']
  exact counts_iff (answers ▸ counts)

/-! ### One event, two failures -/

section

/-- A handler with these outcomes; Redis answers with a state, and the rest works. -/
def failing (state : ReservationState) (outcomes : Nat → ErrorClass) : Surroundings where
  outcomes i := .error (.raised (outcomes i) "")
  others _
    | .tally _ => ()
    | .now => (0 : Int)
    | .reserve .. => .ok ⟨state, none, none⟩
    | .complete .. => .ok true
    | .release .. => .ok true
    | .persist .. => .error .assertionError
    | .deliver .. => .confirmed
    | .commitTerminal _ => .ok ()

/-- The counts of the records that were published. -/
def publishedCount : (s : Effect) × s.Answer → Option Nat
  | ⟨.deliver record _, _⟩ => some record.processingAttempts
  | _ => none

/-- A processor that keeps the first byte of a value. -/
def tinyProcessor : MessageProcessor :=
  { plainProcessor with config := { plainProcessor.config with dlqMaxPayloadBytes := 1 } }

/-- The event of `plainMessage`. -/
def plainEvent : EventEnvelope where
  eventId := .ofNat 1
  eventVersion := 1
  eventTime := 0
  producedAt := 0
  source := "s"
  correlationId := .ofNat 3
  payload := .userRegistered ⟨.ofNat 2, "h", "TR", .normal, 0⟩

theorem plainMessage_valid :
    tinyProcessor.validator.validateMessage (plainMessage 0) = .ok (.valid plainEvent) := by
  decide +kernel

/-- The counts of the records that were published, and the number of invocations. -/
def counted (calls : List ((s : Effect) × s.Answer)) : List Nat × Nat :=
  (calls.filterMap publishedCount, (handlerAnswers calls).length)

theorem mem_of_counted {calls : List ((s : Effect) × s.Answer)} {attempts invocations : Nat}
    (found : counted calls = ([attempts], invocations)) :
    (∃ record value answer, ⟨.deliver record value, answer⟩ ∈ calls ∧
      record.processingAttempts = attempts) ∧ (handlerAnswers calls).length = invocations := by
  obtain ⟨published, length⟩ := Prod.mk.inj found
  have mem : attempts ∈ calls.filterMap publishedCount := by
    rw [published]
    exact List.mem_singleton_self _
  obtain ⟨⟨s, answer⟩, called, count⟩ := List.mem_filterMap.mp mem
  refine ⟨?_, length⟩
  cases s with
  | deliver record value => exact ⟨record, value, answer, called, Option.some.inj count⟩
  | _ => cases count

/-- A failure that is permanent at once is counted as one attempt. -/
theorem dlq_attempts_truthful_first :
    ∃ record value answer, ⟨.deliver record value, answer⟩ ∈ tinyProcessor.callsOf (plainMessage 0)
        "t" (failing .reserved fun _ => .permanentDatabaseIntegrityError) ∧
      record.processingAttempts = (handlerAnswers (tinyProcessor.callsOf (plainMessage 0) "t"
        (failing .reserved fun _ => .permanentDatabaseIntegrityError))).length := by
  have found : counted (tinyProcessor.callsOf (plainMessage 0) "t"
      (failing .reserved fun _ => .permanentDatabaseIntegrityError)) = ([1], 1) := by
    rw [MessageProcessor.callsOf, process_valid plainMessage_valid]
    decide +kernel
  obtain ⟨⟨record, value, answer, dead, -⟩, -⟩ := mem_of_counted found
  refine ⟨record, value, answer, dead,
    (dlq_attempts_truthful tinyProcessor (plainMessage 0) "t" _ plainMessage_valid dead).mpr ?_⟩
  rintro ⟨k, positive, -, retried, -⟩
  cases retried 0 positive

/-- A retryable failure, then a permanent one. -/
def lostThenRefused : Nat → ErrorClass
  | 0 => .retryableDatabaseError
  | _ => .permanentDatabaseIntegrityError

/-- The handler ran twice, and the record says once. -/
theorem not_dlq_attempts_truthful :
    ∃ record value answer, ⟨.deliver record value, answer⟩ ∈ tinyProcessor.callsOf (plainMessage 0)
        "t" (failing .reserved lostThenRefused) ∧
      tinyProcessor.validator.validateMessage (plainMessage 0) = .ok (.valid plainEvent) ∧
      record.processingAttempts = 1 ∧
      (handlerAnswers (tinyProcessor.callsOf (plainMessage 0) "t"
        (failing .reserved lostThenRefused))).length = 2 := by
  have found : counted (tinyProcessor.callsOf (plainMessage 0) "t"
      (failing .reserved lostThenRefused)) = ([1], 2) := by
    rw [MessageProcessor.callsOf, process_valid plainMessage_valid]
    decide +kernel
  obtain ⟨⟨record, value, answer, dead, count⟩, invocations⟩ := mem_of_counted found
  exact ⟨record, value, answer, dead, plainMessage_valid, count, invocations⟩

end

end CommercePlatform.Processor
