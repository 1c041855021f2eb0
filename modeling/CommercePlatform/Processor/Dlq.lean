import CommercePlatform.Processor.Validation

/-!
Dead-letter records (`dlq.py`): the envelope built for a message and an error, its
canonical bytes, and the key and headers it is published with.
-/

namespace CommercePlatform.Processor

open Contract

/-! ### Base64 -/

def base64Alphabet : List Char :=
  "ABCDEFGHIJKLMNOPQRSTUVWXYZabcdefghijklmnopqrstuvwxyz0123456789+/".toList

def base64Digit (n : Nat) : Char := base64Alphabet.getD (n % 64) 'A'

/-- `base64.b64encode(bytes).decode()`. -/
def b64encode : List UInt8 → List Char
  | [] => []
  | [a] =>
    let n := a.toNat * 65536
    [base64Digit (n / 262144), base64Digit (n / 4096), '=', '=']
  | [a, b] =>
    let n := a.toNat * 65536 + b.toNat * 256
    [base64Digit (n / 262144), base64Digit (n / 4096), base64Digit (n / 64), '=']
  | a :: b :: c :: rest =>
    let n := a.toNat * 65536 + b.toNat * 256 + c.toNat
    base64Digit (n / 262144) :: base64Digit (n / 4096) :: base64Digit (n / 64) :: base64Digit n ::
      b64encode rest

/-! ### The envelope -/

structure DlqEnvelope where
  dlqSchemaVersion : Nat
  dlqRecordId : UUID
  failedAt : Instant
  sourceTopic : String
  sourcePartition : Int
  sourceOffset : Int
  sourceTimestamp : Option Instant
  sourceKeyBase64 : Option String
  sourceHeaders : List (String × Text)
  originalValueBase64 : Option String
  originalValueTruncated : Bool
  errorCategory : ValidationCategory
  errorMessage : String
  errorType : String
  processingAttempts : Nat
  consumerGroup : String
  processorInstanceId : String
  originalEventId : Option UUID
  originalEventType : Option Text
  originalCorrelationId : Option UUID
  anomalyType : Option Text
  deriving DecidableEq

/-- `DLQ_NAMESPACE`: bb8709f1-40b8-4a8f-93ca-96775f4c7d7a. -/
def dlqNamespace : UUID :=
  ⟨[11, 11, 8, 7, 0, 9, 15, 1, 4, 0, 11, 8, 4, 10, 8, 15, 9, 3, 12, 10, 9, 6, 7, 7, 5, 15, 4, 12, 7,
    13, 7, 10], rfl⟩

/-- `SAFE_HEADER_NAMES`, sorted. -/
def safeHeaderNames : List String :=
  ["content_type", "correlation_id", "event_id", "event_type", "event_version", "source",
    "synthetic_anomaly"]

/-- The settings of `ProcessorConfig` that processing reads. -/
structure ProcessorConfig where
  consumerGroup : String := "commerce-event-processor-v1"
  maxProcessingAttempts : Nat := 3
  attempts_pos : 0 < maxProcessingAttempts := by decide
  dlqMaxPayloadBytes : Nat := 65536
  dbLogSlowQueryMs : Nat := 250

section

variable (rt : Runtime) (config : ProcessorConfig) (processorInstanceId : String)

def deterministicDlqId (message : ConsumedMessage) (category : ValidationCategory) : UUID :=
  rt.uuid5 dlqNamespace (message.topic ++ ":" ++ toString message.partition ++ ":" ++
    toString message.offset ++ ":" ++ category.value)

/-- The text kept of a header: its first value. -/
def sanitizedHeader (message : ConsumedMessage) (name : String) : Option (String × Text) := do
  let raw ← (headerValues message name).findSome? id
  match decodeUtf8 false raw with
  | .ok text => return (name, text.take 256)
  | .error _ => return (name, Text.ofString "<invalid-utf8>")

/-- `build_dlq_envelope`. -/
def buildDlqEnvelope (message : ConsumedMessage) (error : ValidationErrorInfo) (attempts : Nat)
    (failedAt : Instant) : DlqEnvelope :=
  let included := message.value.map (·.take config.dlqMaxPayloadBytes)
  { dlqSchemaVersion := 1
    dlqRecordId := deterministicDlqId rt message error.category
    failedAt
    sourceTopic := message.topic
    sourcePartition := message.partition
    sourceOffset := message.offset
    sourceTimestamp := message.timestamp
    sourceKeyBase64 := message.key.map fun key => String.ofList (b64encode key)
    sourceHeaders := safeHeaderNames.filterMap (sanitizedHeader message)
    originalValueBase64 := included.map fun bytes => String.ofList (b64encode bytes)
    originalValueTruncated :=
      match message.value with
      | some value => decide ((included.getD []).length < value.length)
      | none => false
    errorCategory := error.category
    errorMessage := clip error.message
    errorType := error.errorType
    processingAttempts := attempts
    consumerGroup := config.consumerGroup
    processorInstanceId
    originalEventId := error.eventId
    originalEventType := error.eventType
    originalCorrelationId := error.correlationId
    anomalyType := error.anomalyType }

end

/-! ### Canonical bytes -/

/-- One character of a JSON string, with `ensure_ascii=False`. -/
def renderChar (c : Nat) : Text :=
  if c = 0x22 then Text.ofString "\\\""
  else if c = 0x5C then Text.ofString "\\\\"
  else if c = 0x08 then Text.ofString "\\b"
  else if c = 0x0C then Text.ofString "\\f"
  else if c = 0x0A then Text.ofString "\\n"
  else if c = 0x0D then Text.ofString "\\r"
  else if c = 0x09 then Text.ofString "\\t"
  else if c < 0x20 then
    Text.ofString (String.ofList ['\\', 'u', '0', '0', Nat.digitChar (c / 16), Nat.digitChar (c % 16)])
  else [c]

def renderString (t : Text) : Text := 0x22 :: t.flatMap renderChar ++ [0x22]

/-- A JSON object of rendered members. -/
def renderObject (members : List (String × Text)) : Text :=
  0x7B :: ((members.map fun m => renderString (Text.ofString m.1) ++ 0x3A :: m.2).intersperse
    [0x2C]).flatten ++ [0x7D]

def renderOptional {α : Type} (render : α → Text) : Option α → Text
  | some a => render a
  | none => Text.ofString "null"

namespace DlqEnvelope

variable (record : DlqEnvelope)

/-- The members in the order of their names; `instant` renders a datetime. -/
def members (instant : Instant → String) : List (String × Text) :=
  let str (s : String) : Text := renderString (Text.ofString s)
  let int (n : Int) : Text := Text.ofString (toString n)
  let uuid (u : UUID) : Text := str u.str
  [("anomaly_type", renderOptional renderString record.anomalyType),
    ("consumer_group", str record.consumerGroup),
    ("dlq_record_id", uuid record.dlqRecordId),
    ("dlq_schema_version", int record.dlqSchemaVersion),
    ("error_category", str record.errorCategory.value),
    ("error_message", str record.errorMessage),
    ("error_type", str record.errorType),
    ("failed_at", str (instant record.failedAt)),
    ("original_correlation_id", renderOptional uuid record.originalCorrelationId),
    ("original_event_id", renderOptional uuid record.originalEventId),
    ("original_event_type", renderOptional renderString record.originalEventType),
    ("original_value_base64", renderOptional str record.originalValueBase64),
    ("original_value_truncated",
      Text.ofString (if record.originalValueTruncated then "true" else "false")),
    ("processing_attempts", int record.processingAttempts),
    ("processor_instance_id", str record.processorInstanceId),
    ("source_headers",
      renderObject (record.sourceHeaders.map fun h => (h.1, renderString h.2))),
    ("source_key_base64", renderOptional str record.sourceKeyBase64),
    ("source_offset", int record.sourceOffset),
    ("source_partition", int record.sourcePartition),
    ("source_timestamp", renderOptional (fun t => str (instant t)) record.sourceTimestamp),
    ("source_topic", str record.sourceTopic)]

/-- `canonical_bytes`. -/
def canonicalBytes (instant : Instant → String) : Except PyException (List UInt8) :=
  (renderObject (record.members instant)).encode

/-- `kafka_key`. -/
def kafkaKey : List UInt8 :=
  match record.originalEventId with
  | some eventId => eventId.str.toUTF8.toList
  | none =>
    (record.sourceTopic ++ ":" ++ toString record.sourcePartition ++ ":" ++
      toString record.sourceOffset).toUTF8.toList

/-- `kafka_headers`. -/
def kafkaHeaders : List (String × String) :=
  [("dlq_record_id", record.dlqRecordId.str), ("error_category", record.errorCategory.value),
    ("source_topic", record.sourceTopic), ("source_partition", toString record.sourcePartition),
    ("source_offset", toString record.sourceOffset), ("content_type", "application/json"),
    ("dlq_schema_version", toString record.dlqSchemaVersion)] ++
    match record.originalEventId with
    | some eventId => [("original_event_id", eventId.str)]
    | none => []

end DlqEnvelope

/-! ### Which records have bytes -/

theorem encodable_renderChar {c : Nat} (scalar : Text.isSurrogate c = false) :
    (renderChar c).encodable = true := by
  unfold renderChar
  repeat' split
  all_goals first
    | exact Text.ofString_encodable _
    | simp [Text.encodable, scalar]

theorem encodable_renderString {t : Text} (encodable : t.encodable = true) :
    (renderString t).encodable = true := by
  have body : Text.encodable (t.flatMap renderChar) = true := by
    rw [Text.encodable, List.all_flatMap]
    refine List.all_eq_true.mpr fun c mem => encodable_renderChar ?_
    simpa using List.all_eq_true.mp encodable c mem
  rw [renderString, List.cons_append, ← List.singleton_append, Text.encodable_append,
    Text.encodable_append, body]
  rfl

theorem encodable_intersperse {parts : List Text} (encodable : ∀ p ∈ parts, p.encodable = true) :
    Text.encodable (parts.intersperse [0x2C]).flatten = true := by
  induction parts with
  | nil => rfl
  | cons p rest ih =>
    have later := ih fun p mem => encodable p (List.mem_cons_of_mem _ mem)
    have here := encodable p List.mem_cons_self
    cases rest with
    | nil => simpa using here
    | cons q rest =>
      rw [List.intersperse_cons_cons, List.flatten_cons, List.flatten_cons, Text.encodable_append,
        Text.encodable_append, here, later]
      rfl

theorem encodable_renderObject {members : List (String × Text)}
    (encodable : ∀ m ∈ members, m.2.encodable = true) :
    (renderObject members).encodable = true := by
  have body : Text.encodable ((members.map fun m =>
      renderString (Text.ofString m.1) ++ 0x3A :: m.2).intersperse [0x2C]).flatten = true := by
    refine encodable_intersperse fun p mem => ?_
    obtain ⟨m, held, rfl⟩ := List.mem_map.mp mem
    rw [← List.singleton_append, Text.encodable_append, Text.encodable_append,
      encodable_renderString (Text.ofString_encodable _), encodable m held]
    rfl
  rw [renderObject, List.cons_append, ← List.singleton_append, Text.encodable_append,
    Text.encodable_append, body]
  rfl

theorem encodable_renderOptional {α : Type} {render : α → Text} {o : Option α}
    (encodable : ∀ a ∈ o, (render a).encodable = true) :
    (renderOptional render o).encodable = true := by
  cases o with
  | none => rfl
  | some a => exact encodable a rfl

/-- A record has bytes when the texts that it copies can be encoded. -/
theorem canonicalBytes_ok {record : DlqEnvelope} {instant : Instant → String}
    (hint : ∀ t ∈ record.originalEventType, t.encodable = true)
    (tag : ∀ t ∈ record.anomalyType, t.encodable = true)
    (headers : ∀ h ∈ record.sourceHeaders, h.2.encodable = true) :
    ∃ value, record.canonicalBytes instant = .ok value := by
  have text : ∀ s, (renderString (Text.ofString s)).encodable = true :=
    fun s => encodable_renderString (Text.ofString_encodable s)
  have inner : (renderObject (record.sourceHeaders.map fun h => (h.1, renderString h.2))).encodable =
      true := by
    refine encodable_renderObject fun m mem => ?_
    obtain ⟨h, held, rfl⟩ := List.mem_map.mp mem
    exact encodable_renderString (headers h held)
  have all : (renderObject (record.members instant)).encodable = true := by
    refine encodable_renderObject fun m mem => ?_
    simp only [DlqEnvelope.members, List.mem_cons, List.not_mem_nil, or_false] at mem
    rcases mem with rfl | rfl | rfl | rfl | rfl | rfl | rfl | rfl | rfl | rfl | rfl | rfl | rfl |
      rfl | rfl | rfl | rfl | rfl | rfl | rfl | rfl
    all_goals first
      | exact text _
      | exact Text.ofString_encodable _
      | exact inner
      | exact encodable_renderOptional fun _ _ => text _
      | exact encodable_renderOptional fun t mem => encodable_renderString (hint t mem)
      | exact encodable_renderOptional fun t mem => encodable_renderString (tag t mem)
  exact ⟨_, if_pos all⟩

end CommercePlatform.Processor
