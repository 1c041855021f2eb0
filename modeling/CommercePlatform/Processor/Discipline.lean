import CommercePlatform.Processor.MessageProcessor

/-!
What `process` does before it commits or dead-letters.

A monitor follows one call of `process`: whether the record is durable by now, because
`persist` has returned or a dead-letter record was confirmed, and what the last `persist`
answered. It allows a commit only of a durable record, and a dead-letter record for a
processing failure only right after a failed `persist` of the event. `process_follows`
shows that `process` never does anything else.
-/

namespace CommercePlatform.Processor

open Contract Persistence

/-! ### Retries -/

/-- The rule for `run_with_retry`: `P` is what every attempt establishes. -/
theorem retryFrom_follows {α σ : Type} {M : Monitor Effect Effect.Answer σ}
    {operation : Nat → Proc α} {onRetry : Nat → PyException → Proc Unit} {I : σ → Prop}
    {P : σ → Except PyException α → Prop}
    (once : ∀ attempt st, I st → (operation attempt).Follows M P st)
    (again : ∀ attempt st e, P st (.error e) →
      (onRetry attempt e).Follows M (fun st r => r.isOk = true ∧ I st) st)
    (left attempt : Nat) (st : σ) (some_left : left ≠ 0) (holds : I st) :
    (retryFrom operation onRetry left attempt).Follows M (fun st r => P st (r.map Prod.fst)) st := by
  induction left generalizing attempt st with
  | zero => exact absurd rfl some_left
  | succ left ih =>
    refine Prog.Follows.thenWith ((once attempt st holds).mono fun st r settled => ?_)
    cases r with
    | ok a => exact settled
    | error e =>
      simp only
      split
      · rename_i more
        refine Prog.Follows.bind ((again attempt st e settled).mono fun st r kept => ?_)
        cases r with
        | ok _ => exact ih (attempt + 1) st more.2 kept.2
        | error _ => cases kept.1
      · exact settled

/-! ### The monitor -/

/-- How far a call of `process` has come. -/
structure Progress where
  durable : Bool := false
  lastReturned : Option Bool := none

/-- The event of the record, when it is valid. -/
def MessageProcessor.eventOf (processor : MessageProcessor) (message : ConsumedMessage) :
    Option EventEnvelope :=
  match processor.validator.validateMessage message with
  | .ok (.valid event) => some event
  | _ => none

/-- The dead-letter record is for this message. -/
def DlqEnvelope.isFor (record : DlqEnvelope) (message : ConsumedMessage) : Prop :=
  record.sourceTopic = message.topic ∧ record.sourcePartition = message.partition ∧
    record.sourceOffset = message.offset

def discipline (event : Option EventEnvelope) (message : ConsumedMessage) :
    Monitor Effect Effect.Answer Progress where
  allows st
    | .persist event' _ => event = some event'
    | .deliver record _ => record.isFor message ∧
        (record.errorCategory.isProcessingFailure = true → st.lastReturned = some false)
    | .commitTerminal message' => message' = message ∧ st.durable = true
    | _ => True
  next st s r :=
    match s, r with
    | .persist .., (answer : Except PyException PersistenceResult) =>
      ⟨st.durable || answer.isOk, some answer.isOk⟩
    | .deliver .., (answer : Delivery) => ⟨st.durable || decide (answer = .confirmed), st.lastReturned⟩
    | _, _ => st

section

variable {event : Option EventEnvelope} {message : ConsumedMessage} {st : Progress} {α : Type}
  {Q : Progress → Except PyException α → Prop}

theorem tally_follows {counts : List (Counter × Int)} {f : Unit → Proc α}
    (next : (f ()).Follows (discipline event message) Q st) :
    (tally counts >>= f).Follows (discipline event message) Q st :=
  ⟨trivial, fun _ => next⟩

/-- At the end, a terminal outcome is one of a durable record. -/
def Settled (st : Progress) (r : Except PyException ProcessingOutcome) : Prop :=
  ∀ outcome, r = .ok outcome → outcome.terminal = true → st.durable = true

theorem handle_follows {e : EventEnvelope} (known : event = some e) (attempt : Nat) :
    (handle e message attempt).Follows (discipline event message)
      (fun st r => st.lastReturned = some r.isOk ∧ (r.isOk = true → st.durable = true)) st := by
  refine tally_follows ⟨known, fun answer => ?_⟩
  cases answer with
  | ok result => exact ⟨rfl, fun _ => Bool.or_true _⟩
  | error e => exact tally_follows ⟨rfl, fun ok => Bool.noConfusion ok⟩

/-- After all attempts the last answer is the result. -/
theorem retry_follows {e : EventEnvelope} (known : event = some e) {attempts : Nat}
    (positive : 0 < attempts) :
    (runWithRetry attempts (handle e message) onRetry).Follows (discipline event message)
      (fun st r => st.lastReturned = some r.isOk ∧ (r.isOk = true → st.durable = true)) st := by
  have again : ∀ attempt st e, (onRetry attempt e).Follows (discipline event message)
      (fun _ r => r.isOk = true ∧ True) st := fun _ _ _ => ⟨trivial, fun _ => ⟨rfl, trivial⟩⟩
  have run := retryFrom_follows (fun attempt _ _ => handle_follows known attempt)
    (fun attempt st e _ => again attempt st e) attempts 1 st positive.ne' trivial
  refine run.mono fun st r settled => ?_
  cases r with
  | ok a => exact settled
  | error e => exact settled

/-- A commit of a durable record, and what follows it. -/
theorem commit_follows {f : Unit → Proc α} (durable : st.durable = true)
    (next : ∀ st, st.durable = true → (f ()).Follows (discipline event message) Q st)
    (raised : ∀ st e, Q st (.error e)) :
    (MessageProcessor.commit message >>= f).Follows (discipline event message) Q st := by
  refine ⟨⟨rfl, durable⟩, fun answer => ?_⟩
  cases answer with
  | ok _ => exact ⟨trivial, fun _ => next _ durable⟩
  | error e => exact ⟨trivial, fun _ => raised _ e⟩

variable {processor : MessageProcessor}

theorem observeTerminal_follows {eventType : Option EventType} {outcome : ProcessingOutcome}
    (durable : outcome.terminal = true → st.durable = true) :
    (processor.observeTerminal eventType outcome).Follows (discipline event message) Settled st := by
  have settled : Settled st (.ok outcome) := by
    intro outcome' same
    cases same
    exact durable
  unfold MessageProcessor.observeTerminal
  split
  · exact ⟨trivial, fun _ => settled⟩
  · exact settled

theorem settled_error {st : Progress} (e : PyException) : Settled st (.error e) :=
  fun _ impossible => by cases impossible

theorem afterPublish_follows {attempts : Nat} {r : Except PyException Unit}
    (published : r.isOk = true → st.durable = true) :
    (MessageProcessor.afterPublish message attempts r).Follows (discipline event message)
      Settled st := by
  cases r with
  | error e =>
    refine Prog.Follows.ite (fun _ => tally_follows ?_) fun _ => settled_error e
    intro outcome same terminal
    cases same
    cases terminal
  | ok _ =>
    exact commit_follows (published rfl) (fun st durable => tally_follows fun _ _ _ => durable)
      fun _ => settled_error

theorem deadLetter_follows {error : ValidationErrorInfo} {attempts : Nat}
    (failed : error.category.isProcessingFailure = true → st.lastReturned = some false) :
    (processor.deadLetter message error attempts).Follows (discipline event message)
      Settled st := by
  refine ⟨trivial, fun failedAt => Prog.Follows.thenWith ?_⟩
  unfold MessageProcessor.publish
  split
  · exact afterPublish_follows Bool.noConfusion
  · refine ⟨⟨⟨rfl, rfl, rfl⟩, failed⟩, fun answer => ?_⟩
    cases answer with
    | confirmed => exact afterPublish_follows fun _ => Bool.or_true _
    | unconfirmed => exact afterPublish_follows Bool.noConfusion
    | refused => exact afterPublish_follows Bool.noConfusion
    | raised e => exact afterPublish_follows Bool.noConfusion

theorem safeRelease_follows {eventId : UUID} {token : String} :
    (MessageProcessor.safeRelease eventId token).Follows (discipline event message)
      (fun st' _ => st' = st) st := by
  refine ⟨trivial, fun answer => ?_⟩
  cases answer with
  | ok _ => exact rfl
  | error e => exact Prog.Follows.ite (fun _ => ⟨trivial, fun _ => rfl⟩) fun _ => rfl

/-! ### The branches of process -/

theorem processCompleted_follows {e : EventEnvelope} (known : event = some e) :
    (processor.processCompleted e message).Follows (discipline event message) Settled st := by
  refine Prog.Follows.thenWith ((retry_follows known processor.config.attempts_pos).mono ?_)
  rintro st r ⟨last, durable⟩
  cases r with
  | ok result =>
    exact tally_follows (commit_follows (durable rfl) (fun st durable =>
      tally_follows (observeTerminal_follows fun _ => durable)) fun _ => settled_error)
  | error raised =>
    cases raised with
    | processor error =>
      exact Prog.Follows.ite (fun _ => tally_follows (deadLetter_follows fun _ => last)) fun _ =>
        Prog.Follows.ite (fun _ => tally_follows (deadLetter_follows fun _ => last)) fun _ =>
          settled_error _
    | _ => exact settled_error _

theorem processFailed_follows {e : EventEnvelope} {token : String} {error : ProcessorError}
    (last : st.lastReturned = some false) :
    (processor.processFailed e message token error).Follows (discipline event message)
      Settled st := by
  have released : ∀ info attempts,
      (MessageProcessor.safeRelease e.eventId token >>= fun _ =>
        processor.deadLetter message info attempts).Follows (discipline event message) Settled st := by
    intro info attempts
    refine Prog.Follows.bind (safeRelease_follows.mono fun st' r same => ?_)
    cases r with
    | ok _ => exact deadLetter_follows fun _ => same ▸ last
    | error e => exact settled_error e
  exact Prog.Follows.ite (fun _ => tally_follows (released _ _)) fun _ =>
    Prog.Follows.ite (fun _ => tally_follows (released _ _)) fun _ => settled_error _

theorem processHandled_follows {e : EventEnvelope} {token : String} {result : PersistenceResult}
    {attempts : Nat} (durable : st.durable = true) :
    (processor.processHandled e message token result attempts).Follows (discipline event message)
      Settled st := by
  refine tally_follows ⟨trivial, fun answer => ?_⟩
  cases answer with
  | error e =>
    exact Prog.Follows.ite (fun _ => tally_follows fun _ _ _ => durable) fun _ => settled_error e
  | ok completed =>
    cases completed with
    | false => exact tally_follows fun _ _ _ => durable
    | true =>
      exact commit_follows durable (fun st durable =>
        tally_follows (observeTerminal_follows fun _ => durable)) fun _ => settled_error

theorem processReserved_follows {e : EventEnvelope} (known : event = some e) {token : String} :
    (processor.processReserved e message token).Follows (discipline event message) Settled st := by
  refine Prog.Follows.thenWith ((retry_follows known processor.config.attempts_pos).mono ?_)
  rintro st r ⟨last, durable⟩
  cases r with
  | ok result => exact processHandled_follows (durable rfl)
  | error raised =>
    cases raised with
    | processor error => exact processFailed_follows last
    | _ => exact settled_error _

theorem processEvent_follows {e : EventEnvelope} (known : event = some e) {token : String} :
    (processor.processEvent e message token).Follows (discipline event message) Settled st := by
  refine tally_follows ⟨trivial, fun answer => ?_⟩
  have unresolved : ∀ st : Progress, Settled st (.ok { status := .unresolved }) := by
    intro st outcome same terminal
    cases same
    cases terminal
  cases answer with
  | error e =>
    exact Prog.Follows.ite (fun _ => tally_follows (unresolved _)) fun _ => settled_error e
  | ok reservation =>
    obtain ⟨state, _, _⟩ := reservation
    cases state with
    | completed => exact processCompleted_follows known
    | processing => exact tally_follows (observeTerminal_follows fun terminal => by cases terminal)
    | reserved => exact processReserved_follows known

end

/-- `process` keeps the discipline. -/
theorem process_follows (processor : MessageProcessor) (message : ConsumedMessage) (token : String) :
    (processor.process message token).Follows
      (discipline (processor.eventOf message) message) Settled {} := by
  refine tally_follows ?_
  unfold MessageProcessor.eventOf
  cases validated : processor.validator.validateMessage message with
  | error e => exact settled_error e
  | ok result =>
    cases result with
    | valid event => exact processEvent_follows rfl
    | invalid error =>
      refine tally_follows (Prog.Follows.bind ((deadLetter_follows ?_).mono fun st r settled => ?_))
      · intro failure
        have rejected := (Validator.validateMessage_cases validated).resolve_left (by simp)
        simp [ValidationResult.isRejection, failure] at rejected
      · cases r with
        | ok outcome => exact observeTerminal_follows (settled outcome rfl)
        | error e => exact settled_error e

end CommercePlatform.Processor
