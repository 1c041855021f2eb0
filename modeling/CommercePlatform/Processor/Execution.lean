import CommercePlatform.Persistence.Service
import CommercePlatform.Processor.Discipline

/-!
A call of `process` in progress.

A `Job` is the rest of the program. A `Reply` answers the call it waits at, except
`persist`: that one is a call of the persistence service, with a transaction of its own
that runs statement by statement, and the job goes on when it has ended.
-/

namespace CommercePlatform.Processor

open Contract Idempotency Persistence

/-- Answers of the environment. -/
inductive Reply where
  | tallied
  | clock (now : Instant)
  | reserved (answer : Except PyException Reservation)
  | completed (answer : Except PyException Bool)
  | released (answer : Except PyException Bool)
  | delivered (answer : Delivery)
  | committed (answer : Except PyException Unit)

/-- `process` in progress: what is left of it, the `persist` call it waits for, and
whether the last one returned. -/
structure Job where
  message : ConsumedMessage
  body : Proc ProcessingOutcome
  call : Option Nat := none
  lastReturned : Option Bool := none

namespace Job

variable (job : Job)

/-- The environment answers the call the job waits at. -/
def reply (answer : Reply) : Option Job :=
  match job.body, answer with
  | .call (.tally _) k, .tallied => some { job with body := k () }
  | .call .now k, .clock now => some { job with body := k now }
  | .call (.reserve ..) k, .reserved answer => some { job with body := k answer }
  | .call (.complete ..) k, .completed answer => some { job with body := k answer }
  | .call (.release ..) k, .released answer => some { job with body := k answer }
  | .call (.deliver ..) k, .delivered answer => some { job with body := k answer }
  | .call (.commitTerminal _) k, .committed answer => some { job with body := k answer }
  | _, _ => none

/-- The dead-letter record whose delivery this answer confirms. -/
def confirms (answer : Reply) : Option DlqEnvelope :=
  match job.body, answer with
  | .call (.deliver record _) _, .delivered .confirmed => some record
  | _, _ => none

/-- The job calls `persist`: the call it makes, at the transaction time `now`. -/
def persistCall (processorInstanceId : String) (now : Instant) : Option PersistCall :=
  match job.body, job.call with
  | .call (.persist event message) _, none => some ⟨event, message, processorInstanceId, now⟩
  | _, _ => none

/-- `persist` has ended for the job. -/
def resume (answer : Except PyException PersistenceResult) : Option Job :=
  match job.body with
  | .call (.persist _ _) k =>
    some { job with body := k answer, call := none, lastReturned := some answer.isOk }
  | _ => none

/-- The result of a finished job. -/
def result : Option (Except PyException ProcessingOutcome) :=
  match job.body with
  | .pure outcome => some (.ok outcome)
  | .throw e => some (.error e)
  | .call .. => none

/-! ### Jobs under the discipline -/

/-- The job keeps the discipline for its event and message. -/
def Disciplined (event : Option EventEnvelope) (job : Job) (st : Progress) : Prop :=
  job.body.Follows (discipline event job.message) Settled st

variable {event : Option EventEnvelope} {job job' : Job} {st : Progress}

theorem Disciplined.reply {answer : Reply} (h : Disciplined event job st)
    (replied : job.reply answer = some job') :
    ∃ st', Disciplined event job' st' ∧ job'.message = job.message ∧ job'.call = job.call ∧
      job'.lastReturned = job.lastReturned ∧ st'.lastReturned = st.lastReturned ∧
      (st'.durable = true → st.durable = true ∨
        ∃ record, job.confirms answer = some record ∧ record.isFor job.message) := by
  unfold Disciplined at h
  unfold Job.reply at replied
  split at replied
  all_goals try (rename_i body; rw [body] at h; cases replied)
  · exact ⟨st, h.2 _, rfl, rfl, rfl, rfl, Or.inl⟩
  · exact ⟨st, h.2 _, rfl, rfl, rfl, rfl, Or.inl⟩
  · exact ⟨st, h.2 _, rfl, rfl, rfl, rfl, Or.inl⟩
  · exact ⟨st, h.2 _, rfl, rfl, rfl, rfl, Or.inl⟩
  · exact ⟨st, h.2 _, rfl, rfl, rfl, rfl, Or.inl⟩
  · rename_i record _ _ delivery
    refine ⟨_, h.2 delivery, rfl, rfl, rfl, rfl, fun durable => ?_⟩
    rcases Bool.or_eq_true_iff.mp durable with before | confirmed
    · exact Or.inl before
    · obtain rfl := of_decide_eq_true confirmed
      exact Or.inr ⟨record, by simp only [confirms, body], h.1.1⟩
  · exact ⟨st, h.2 _, rfl, rfl, rfl, rfl, Or.inl⟩
  · cases replied

/-- What `persist` is called for. -/
theorem Disciplined.persistCall {processorInstanceId : String} {now : Instant} {call : PersistCall}
    (h : Disciplined event job st) (calls : job.persistCall processorInstanceId now = some call) :
    event = some call.event ∧ job.call = none := by
  unfold Disciplined at h
  unfold Job.persistCall at calls
  split at calls
  · rename_i body idle
    rw [body] at h
    cases calls
    exact ⟨h.1, idle⟩
  · cases calls

theorem Disciplined.resume {answer : Except PyException PersistenceResult}
    (h : Disciplined event job st) (resumed : job.resume answer = some job') :
    ∃ st', Disciplined event job' st' ∧ job'.message = job.message ∧ job'.call = none ∧
      job'.lastReturned = some answer.isOk ∧ st'.lastReturned = some answer.isOk ∧
      (st'.durable = true → st.durable = true ∨ answer.isOk = true) := by
  unfold Disciplined at h
  unfold Job.resume at resumed
  split at resumed
  · rename_i body
    rw [body] at h
    cases resumed
    exact ⟨_, h.2 answer, rfl, rfl, rfl, rfl, Bool.or_eq_true_iff.mp⟩
  · cases resumed

end Job

/-! ### A process and a record -/

section

/-- pydantic on documents of strings and integers, with one instant. -/
def plainPydantic : Pydantic where
  fromJson bytes := (Json.loads 1000 bytes).toOption
  dumps
    | .obj members =>
      (renderObject (members.map fun m => (String.ofList (m.1.map Char.ofNat),
        match m.2 with
        | .str text => renderString text
        | _ => Text.ofString "null"))).map UInt8.ofNat
    | _ => []
  uuid
    | .str text => uuidOfText text
    | _ => none
  awareDatetime
    | .str text => if text = Text.ofString "1970-01-01T00:00:00Z" then some ⟨0, 0⟩ else none
    | _ => none
  decimal _ := none
  ipAddress _ := none

def plainValidator : Validator where
  py := plainPydantic
  context := Arithmetic.exact.toDecimalContext
  recursionLimit := 1000
  headerOrder := requiredEventHeaders
  headerOrder_perm := .refl _

def plainProcessor : MessageProcessor where
  validator := plainValidator
  rt := plainUow.rt
  config := {}
  instanceId := "p"
  renderInstant _ := "1970-01-01T00:00:00Z"
  metrics := false

def asciiBytes (s : String) : List UInt8 := (Text.ofString s).map UInt8.ofNat

/-- The body of the registration of customer 2. -/
def plainBody : List UInt8 :=
  let member (name value : String) : String × Text := (name, renderString (Text.ofString value))
  let payload := renderObject
    [member "customer_id" (UUID.ofNat 2).str, member "email_hash" "h", member "country_code" "TR",
      member "persona" "normal", member "registered_at" "1970-01-01T00:00:00Z"]
  (renderObject
    [member "event_id" (UUID.ofNat 1).str, member "event_type" "user_registered",
      ("event_version", Text.ofString "1"), member "event_time" "1970-01-01T00:00:00Z",
      member "produced_at" "1970-01-01T00:00:00Z", member "source" "s",
      member "correlation_id" (UUID.ofNat 3).str, ("payload", payload)]).map UInt8.ofNat

def plainHeaders : KafkaHeaders :=
  [("content_type", "application/json"), ("correlation_id", (UUID.ofNat 3).str),
    ("event_id", (UUID.ofNat 1).str), ("event_type", "user_registered"), ("event_version", "1"),
    ("source", "s")].map fun h => (h.1, some (asciiBytes h.2))

/-- A record of that registration at an offset. -/
def plainMessage (offset : Int) : ConsumedMessage :=
  ⟨"t", 0, offset, none, some (asciiBytes (UUID.ofNat 2).str), some plainBody, plainHeaders⟩

end

end CommercePlatform.Processor
