import CommercePlatform.Contract.Edits
import CommercePlatform.Generator.Anomalies
import CommercePlatform.Processor.RoundTrip

/-!
The records of prepared messages (`messages.py`, `anomalies.py`), and what a validator says
of them.

`MessageValue.bytes` renders what the value of a message stands for: a mutation reads the
canonical JSON of an event, changes one key and renders it again. A record that is no event
of the contract is rejected in the category of its mutation (`rejects_truncated` and the
like), and the error names the mutation by the tag in the headers.
-/

namespace CommercePlatform.Generator

open Contract Processor

/-! ### Records -/

def AnomalyType.value : AnomalyType → String
  | duplicate => "duplicate"
  | malformedJson => "malformed_json"
  | missingField => "missing_field"
  | unknownEventType => "unknown_event_type"
  | lateEvent => "late_event"
  | outOfOrder => "out_of_order"
  | payloadMismatch => "payload_mismatch"

/-- `json.loads` of the canonical JSON, which is an object. -/
def decoded (recursionLimit : Nat) (event : EventEnvelope) :
    Except PyException (List (Text × Json)) := do
  let bytes ← event.canonicalBytes
  match ← Json.loads recursionLimit bytes with
  | .obj members => return members
  | _ => .error .assertionError

/-- The value that `valid_message` and `_mutate` give a message. -/
def MessageValue.bytes (recursionLimit : Nat) : MessageValue → Except PyException (List UInt8)
  | canonical event => event.canonicalBytes
  | truncated event => do
    let bytes ← event.canonicalBytes
    return bytes.dropLast
  | withoutEventId event => do
    let members ← decoded recursionLimit event
    Json.rendered (.obj (Json.pop "event_id" members))
  | unknownType event => do
    let members ← decoded recursionLimit event
    Json.rendered (.obj (Json.assign "event_type" (strJson "synthetic_unknown_event") members))
  | payloadOf event none => do
    let members ← decoded recursionLimit event
    Json.rendered (.obj (Json.assign "payload" (.obj []) members))
  | payloadOf event (some other) => do
    let members ← decoded recursionLimit event
    let replacement ← decoded recursionLimit other
    match Json.lookup replacement "payload" with
    | some payload => Json.rendered (.obj (Json.assign "payload" payload members))
    | none => .error .assertionError

namespace PublishableMessage

variable (message : PublishableMessage)

def headers : KafkaHeaders :=
  message.event.kafkaHeaders ++
    message.tags.map fun kind => ("synthetic_anomaly", some kind.value.toUTF8.toList)

/-- The record of the message at a place in its topic. -/
def record (topic : String) (partition offset : Int) (timestamp : Option Instant)
    (bytes : List UInt8) : ConsumedMessage :=
  { topic, partition, offset, timestamp
    key := some message.event.messageKey
    value := some bytes
    headers := message.headers }

end PublishableMessage

/-! ### Metadata -/

section

variable {v : Validator} {message : PublishableMessage} {topic : String} {partition offset : Int}
  {timestamp : Option Instant} {bytes : List UInt8}

theorem headerText_record {header : String × String}
    (mem : header ∈ message.event.messageHeaders) :
    headerText (message.record topic partition offset timestamp bytes) header.1 =
      some (Text.ofString header.2) := by
  have plain : headerText ⟨topic, partition, offset, timestamp, some message.event.messageKey,
      some bytes, message.event.kafkaHeaders⟩ header.1 = some (Text.ofString header.2) :=
    headerText_kafkaHeaders rfl mem
  have required := Validator.messageHeaders_required message.event mem
  rw [← plain]
  refine headerText_perm ?_ required
  -- The tags are no required headers.
  have tags : (message.tags.map fun kind => ("synthetic_anomaly",
      some kind.value.toUTF8.toList)).filter (fun h => h.1 ∈ requiredEventHeaders) = [] := by
    refine List.filter_eq_nil_iff.mpr fun h held => ?_
    obtain ⟨kind, -, rfl⟩ := List.mem_map.mp held
    exact (by decide : ¬ decide ("synthetic_anomaly" ∈ requiredEventHeaders) = true)
  simp only [requiredOf, PublishableMessage.record, PublishableMessage.headers, List.filter_append]
  rw [tags, List.append_nil]

theorem metadata_record :
    ∃ headers, v.metadata (message.record topic partition offset timestamp bytes) =
      .ok headers := by
  refine Validator.metadata_total (fun name mem => ?_) ?_
  · have named : name ∈ message.event.messageHeaders.map Prod.fst := by
      revert mem name
      exact (by decide : ∀ name ∈ requiredEventHeaders, name ∈ ["event_id", "event_type",
        "event_version", "correlation_id", "source", "content_type"])
    obtain ⟨header, held, rfl⟩ := List.mem_map.mp named
    rw [headerText_record held]
    rfl
  · have sent : ("content_type", "application/json") ∈ message.event.messageHeaders := by
      simp [EventEnvelope.messageHeaders]
    exact headerText_record sent

theorem anomalyOf_record {kind : AnomalyType} (tags : message.tags = [kind]) :
    anomalyOf (message.record topic partition offset timestamp bytes) =
      some (Text.ofString kind.value) := by
  have values : headerValues (message.record topic partition offset timestamp bytes)
      "synthetic_anomaly" = [some kind.value.toUTF8.toList] := by
    simp [headerValues, PublishableMessage.record, PublishableMessage.headers, tags,
      EventEnvelope.kafkaHeaders, EventEnvelope.messageHeaders]
  simp only [anomalyOf, values, List.head?_cons, bind, Option.bind_some, toUTF8_toList]
  rw [decodeUtf8_encode false (Text.ofString_scalar kind.value)]
  rfl

/-! ### Rejections -/

/-- The result is an error of the category, which names the anomaly. -/
def RejectedAs (category : ValidationCategory) (kind : AnomalyType) (result : ValidationResult) :
    Prop :=
  ∃ error, result = .invalid error ∧ error.category = category ∧
    error.anomalyType = some (Text.ofString kind.value)

theorem rejectedAs_rejection (category : ValidationCategory) (text : String) (hints : Hints)
    (kind : AnomalyType) :
    RejectedAs category kind (rejection category text hints (some (Text.ofString kind.value))) :=
  ⟨_, rfl, rfl, rfl⟩

/-- Behind the metadata, what becomes of a record is decided by its body. -/
theorem validateMessage_record {Q : ValidationResult → Prop}
    (body : ∀ headers, ∃ result,
      v.validateBody (message.record topic partition offset timestamp bytes) bytes headers =
        .ok result ∧ Q result) :
    ∃ result, v.validateMessage (message.record topic partition offset timestamp bytes) =
      .ok result ∧ Q result := by
  obtain ⟨headers, passed⟩ := @metadata_record v message topic partition offset timestamp bytes
  obtain ⟨result, decided, holds⟩ := body headers
  refine ⟨result, ?_, holds⟩
  unfold Validator.validateMessage
  simp only [PublishableMessage.record] at passed decided ⊢
  simp only [passed]
  exact decided

variable {event : EventEnvelope} {kind : AnomalyType}

/-- What is no JSON is rejected as such. -/
theorem rejects_truncated (tags : message.tags = [kind])
    (failed : v.loads bytes = .error .jsonDecodeError) :
    ∃ result, v.validateMessage (message.record topic partition offset timestamp bytes) =
      .ok result ∧ RejectedAs .malformedJson kind result := by
  refine validateMessage_record fun headers => ?_
  have hinted : v.bodyHints bytes = .ok {} := by
    simp only [Validator.bodyHints, failed]
    rfl
  refine ⟨_, ?_, rejectedAs_rejection .malformedJson "malformed event JSON" {} kind⟩
  simp only [Validator.validateBody, hinted, failed, bind, Except.bind, anomalyOf_record tags]
  rfl

/-- An object of an unknown type is rejected before it is parsed. -/
theorem rejects_unknownType (tags : message.tags = [kind]) {members : List (Text × Json)}
    (read : v.loads bytes = .ok (.obj members)) (unknown : Validator.knownType members = false) :
    ∃ result, v.validateMessage (message.record topic partition offset timestamp bytes) =
      .ok result ∧ RejectedAs .unknownEventType kind result := by
  refine validateMessage_record fun headers => ?_
  obtain ⟨hints, hinted⟩ : ∃ hints, v.bodyHints bytes = .ok hints := by
    simp only [Validator.bodyHints, read]
    exact ⟨_, rfl⟩
  refine ⟨_, ?_, rejectedAs_rejection .unknownEventType "unknown event type" hints kind⟩
  simp only [Validator.validateBody, hinted, read, bind, Except.bind, anomalyOf_record tags,
    Validator.precheck, unknown]
  rfl

/-- A document of a known type that `parse_event` refuses. -/
theorem rejects_refused (tags : message.tags = [kind]) {edited : List (Text × Json)}
    (refused : Refused v.toParser event edited bytes) (current : event.eventVersion = 1) :
    ∃ result, v.validateMessage (message.record topic partition offset timestamp bytes) =
      .ok result ∧ RejectedAs .contractValidationFailed kind result := by
  refine validateMessage_record fun headers => ?_
  obtain ⟨hints, hinted⟩ : ∃ hints, v.bodyHints bytes = .ok hints := by
    simp only [Validator.bodyHints, refused.decoded]
    exact ⟨_, rfl⟩
  have known : Validator.knownType (Json.sorted edited) = true := by
    have listed := List.mem_of_find?_eq_some (find_eventType event.eventType)
    simp only [Validator.knownType, refused.eventType, strJson, List.any_eq_true]
    exact ⟨_, listed, decide_eq_true rfl⟩
  have unchecked : ∀ anomaly,
      Validator.precheck (.obj (Json.sorted edited)) hints anomaly = none := by
    intro anomaly
    simp [Validator.precheck, known, refused.eventVersion, current, Validator.currentEventVersion]
  refine ⟨_, ?_, rejectedAs_rejection .contractValidationFailed "event contract validation failed"
    hints kind⟩
  simp only [Validator.validateBody, hinted, refused.decoded, bind, Except.bind, unchecked,
    refused.parses, anomalyOf_record tags]
  rfl

end

end CommercePlatform.Generator
