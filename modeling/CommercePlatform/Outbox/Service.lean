import Mathlib.Logic.Function.Basic
import CommercePlatform.Lib.Machine
import CommercePlatform.Outbox.Repository

/-!
The outbox publishers (`fraud_outbox_publisher/service.py` and `publisher.py`).

Any number of publishers share the table. Each is in one phase of
`OutboxService.run`: between batches, about to publish a record, about to mark a
delivered record, or in the `except` clause of a record. Every label is one
database transaction or one Kafka call, with what the environment decides about
it: the clocks, the rows locked elsewhere, the delivery report, whether the
database answers.

`delivered` is not part of the program: it collects the records whose delivery
Kafka confirmed. `tokens` collects the claim tokens drawn so far; `uuid4` draws a
new one each time.
-/

namespace CommercePlatform.Outbox

/-- Where a publisher stands in `run`, with the records of its batch still to do. -/
inductive Phase where
  | idle
  | publishing (record : OutboxRecord) (rest : List OutboxRecord)
  | marking (record : OutboxRecord) (rest : List OutboxRecord)
  | failing (record : OutboxRecord) (rest : List OutboxRecord) (error : String)

/-- The records a publisher still works on. -/
def Phase.held : Phase → List OutboxRecord
  | idle => []
  | publishing record rest | marking record rest | failing record rest _ => record :: rest

/-- The `for record in records` loop reaches its next record. -/
def Phase.next : List OutboxRecord → Phase
  | [] => idle
  | record :: rest => publishing record rest

@[simp] theorem Phase.held_next (records : List OutboxRecord) : (Phase.next records).held = records := by
  cases records <;> rfl

/-- What the Kafka client does in one call of `publish`: `produce` raises, or `flush`
returns with some messages outstanding and the delivery report of the record,
`none` when its callback has not run. -/
inductive Kafka where
  | produceRaised (error : String)
  | flushed (remaining : Nat) (report : Option (Option String))

/-- `flush` returning 0 means that the callback has run. -/
def Kafka.sound : Kafka → Bool
  | .produceRaised _ => true
  | .flushed remaining report => remaining ≠ 0 || report.isSome

/-- The delivery was confirmed: the callback ran without an error. -/
def Kafka.confirmed : Kafka → Bool
  | .produceRaised _ => false
  | .flushed _ report => report = some none

/-- The check `publish` makes before it produces. `parseEventId` gives the `event_id`
that `parse_event` reads from the stored bytes, or the text of the error it raises. -/
def checkIdentity (parseEventId : List UInt8 → Except String UUID) (record : OutboxRecord) :
    Except String Unit :=
  match parseEventId record.payloadBytes with
  | .error error => .error error
  | .ok eventId =>
    if eventId ≠ record.eventId then .error "stored outbox event identity mismatch" else .ok ()

/-- `produce`, `flush` and the check of the delivery report. -/
def deliver : Kafka → Except String Unit
  | .produceRaised error => .error error
  | .flushed remaining report =>
    if remaining ≠ 0 ∨ report.join.isSome then .error "fraud alert Kafka delivery failed"
    else .ok ()

/-- `AlertPublisher.publish`. -/
def publish (parseEventId : List UInt8 → Except String UUID) (record : OutboxRecord)
    (kafka : Kafka) : Except String Unit := do
  checkIdentity parseEventId record
  deliver kafka

/-- The record reached Kafka and its delivery was confirmed. -/
def confirms (parseEventId : List UInt8 → Except String UUID) (record : OutboxRecord)
    (kafka : Kafka) : Bool :=
  (checkIdentity parseEventId record).isOk && kafka.confirmed

/-- A transaction commits and says so, commits without its acknowledgement arriving,
or does not commit. -/
inductive Database where
  | committed
  | ackLost (error : String)
  | refused (error : String)

structure State (π : Type) where
  table : Table := ∅
  phase : π → Phase := fun _ => .idle
  tokens : List UUID := []
  delivered : List OutboxRecord := []

inductive Act (π : Type) where
  /-- The event processor commits a new outbox row. -/
  | insert (outboxId : UUID) (row : Row)
  | claim (p : π) (token : UUID) (now : Instant) (locked : List UUID) (database : Database)
  | publish (p : π) (kafka : Kafka)
  | published (p : π) (now : Instant) (database : Database)
  | failed (p : π) (clock now : Instant) (database : Database)
  /-- The process dies and is started again. -/
  | crash (p : π)

section

variable {π : Type} [DecidableEq π] (config : Config)
  (parseEventId : List UInt8 → Except String UUID)

/-- The row as `FraudRepository.persist` inserts it. -/
def Row.fresh (row : Row) : Bool :=
  row.status = .pending ∧ row.attempts = 0 ∧ row.claimedAt = none ∧ row.claimToken = none ∧
    row.publishedAt = none ∧ row.lastError = none

def step (s : State π) : Act π → Option (State π)
  | .insert outboxId row =>
    if (s.table.get? outboxId).isNone && row.fresh then
      some { s with table := s.table.set outboxId row }
    else none
  | .claim p token now locked database =>
    match s.phase p with
    | .idle =>
      if token ∈ s.tokens then none
      else
        let s := { s with tokens := token :: s.tokens }
        let (table, records) := claim config token now locked s.table
        match database with
        | .committed =>
          some { s with table, phase := Function.update s.phase p (.next records) }
        -- The exception leaves `run`: the publisher stops without the records.
        | .ackLost _ => some { s with table }
        | .refused _ => some s
    | _ => none
  | .publish p kafka =>
    match s.phase p with
    | .publishing record rest =>
      if kafka.sound then
        let delivered :=
          if confirms parseEventId record kafka then record :: s.delivered else s.delivered
        match publish parseEventId record kafka with
        | .ok () => some { s with delivered, phase := Function.update s.phase p (.marking record rest) }
        | .error error =>
          some { s with delivered, phase := Function.update s.phase p (.failing record rest error) }
      else none
    | _ => none
  | .published p now database =>
    match s.phase p with
    | .marking record rest =>
      let (table, result) := published record now s.table
      let raised (table : Table) (error : String) : State π :=
        { s with table, phase := Function.update s.phase p (.failing record rest error) }
      match database, result with
      | .refused error, _ => some (raised s.table error)
      | _, .error error => some (raised s.table error)
      | .ackLost error, .ok () => some (raised table error)
      | .committed, .ok () => some { s with table, phase := Function.update s.phase p (.next rest) }
    | _ => none
  | .failed p clock now database =>
    match s.phase p with
    | .failing record rest error =>
      let table := failed config record error clock now s.table
      match database with
      | .committed => some { s with table, phase := Function.update s.phase p (.next rest) }
      -- As in `claim`, an exception here leaves `run`.
      | .ackLost _ => some { s with table, phase := Function.update s.phase p .idle }
      | .refused _ => some { s with phase := Function.update s.phase p .idle }
    | _ => none
  | .crash p => some { s with phase := Function.update s.phase p .idle }

def machine : Machine (State π) (Act π) := ⟨step config parseEventId⟩

end

end CommercePlatform.Outbox
