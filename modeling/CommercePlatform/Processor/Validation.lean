import CommercePlatform.Contract.Parsing

/-!
Message validation (`validation.py`): Kafka metadata first, then the body, then the
agreement of the two. The result is an event or an error for the dead-letter record;
an exception that no `except` clause names leaves `validateMessage`.
-/

namespace CommercePlatform.Processor

open Contract

inductive ValidationCategory where
  | missingValue
  | missingKey
  | malformedJson
  | unknownEventType
  | contractValidationFailed
  | missingHeader
  | duplicateHeader
  | invalidHeaderEncoding
  | invalidContentType
  | headerBodyMismatch
  | keyBodyMismatch
  | unsupportedEventVersion
  | permanentProcessingError
  | retryExhausted
  | missingBusinessDependency
  | databaseIntegrityError
  deriving DecidableEq, Repr

def ValidationCategory.value : ValidationCategory → String
  | missingValue => "missing_value"
  | missingKey => "missing_key"
  | malformedJson => "malformed_json"
  | unknownEventType => "unknown_event_type"
  | contractValidationFailed => "contract_validation_failed"
  | missingHeader => "missing_header"
  | duplicateHeader => "duplicate_header"
  | invalidHeaderEncoding => "invalid_header_encoding"
  | invalidContentType => "invalid_content_type"
  | headerBodyMismatch => "header_body_mismatch"
  | keyBodyMismatch => "key_body_mismatch"
  | unsupportedEventVersion => "unsupported_event_version"
  | permanentProcessingError => "permanent_processing_error"
  | retryExhausted => "retry_exhausted"
  | missingBusinessDependency => "missing_business_dependency"
  | databaseIntegrityError => "database_integrity_error"

/-- The categories of the records published for a failed handler. -/
def ValidationCategory.isProcessingFailure : ValidationCategory → Bool
  | permanentProcessingError | retryExhausted | missingBusinessDependency
  | databaseIntegrityError => true
  | _ => false

/-- `ValidationErrorInfo`. The event type is a hint taken from the raw body. -/
structure ValidationErrorInfo where
  category : ValidationCategory
  message : String
  errorType : String
  eventId : Option UUID := none
  eventType : Option Text := none
  correlationId : Option UUID := none
  anomalyType : Option Text := none
  deriving DecidableEq

inductive ValidationResult where
  | valid (event : EventEnvelope)
  | invalid (error : ValidationErrorInfo)
  deriving DecidableEq

/-- The message was rejected, which is no failure of processing. -/
def ValidationResult.isRejection : ValidationResult → Bool
  | valid _ => false
  | invalid error => !error.category.isProcessingFailure

/-- `message[:512]`. -/
def clip (message : String) : String := String.ofList (message.toList.take 512)

/-- What is known of the body when a check fails. -/
structure Hints where
  eventId : Option UUID := none
  eventType : Option Text := none
  correlationId : Option UUID := none
  deriving DecidableEq

def Hints.of (event : EventEnvelope) : Hints where
  eventId := some event.eventId
  eventType := some (Text.ofString event.eventType.value)
  correlationId := some event.correlationId

/-- `_error`. -/
def rejection (category : ValidationCategory) (message : String) (hints : Hints)
    (anomaly : Option Text) : ValidationResult :=
  .invalid
    { category, message := clip message, errorType := "PermanentMessageError"
      eventId := hints.eventId, eventType := hints.eventType, correlationId := hints.correlationId
      anomalyType := anomaly }

/-! ### Headers -/

/-- `REQUIRED_EVENT_HEADERS`, sorted. -/
def requiredEventHeaders : List String :=
  ["content_type", "correlation_id", "event_id", "event_type", "event_version", "source"]

/-- `grouped[name]`. -/
def headerValues (message : ConsumedMessage) (name : String) : List (Option (List UInt8)) :=
  (message.headers.filter (·.1 = name)).map (·.2)

/-- The `synthetic_anomaly` tag. -/
def anomalyOf (message : ConsumedMessage) : Option Text := do
  let raw ← (← (headerValues message "synthetic_anomaly").head?)
  (decodeUtf8 false raw).toOption

/-- The decoded value of a header that is there once, or why there is none. -/
def decodeHeader (message : ConsumedMessage) (name : String) : Except String Text :=
  match headerValues message name with
  | some raw :: _ =>
    match decodeUtf8 false raw with
    | .ok text => .ok text
    | .error _ => .error ("header " ++ name ++ " is not UTF-8")
  | _ => .error ("header " ++ name ++ " has no value")

/-! ### Hints -/

/-- `text.replace(pattern, "")`. -/
def remove (pattern : Text) (t : Text) : Text :=
  if h : pattern ≠ [] ∧ pattern <+: t then remove pattern (t.drop pattern.length)
  else
    match t with
    | [] => []
    | c :: rest => c :: remove pattern rest
termination_by t.length
decreasing_by
  · have := List.length_pos_iff.mpr h.1
    have := h.2.length_le
    simp only [List.length_drop]
    omega
  · simp

/-- `UUID(text)`: braces, hyphens and a URN prefix are optional. -/
def uuidOfText (t : Text) : Option UUID :=
  let brace (c : Nat) : Bool := c = 0x7B ∨ c = 0x7D
  let bare := remove (Text.ofString "uuid:") (remove (Text.ofString "urn:") t)
  let stripped := ((bare.dropWhile brace).reverse.dropWhile brace).reverse
  match (stripped.filter (· ≠ 0x2D)).mapM Json.hexValue with
  | some digits =>
    if h : digits.length = 32 then some ⟨digits.map (Fin.ofNat 16), by simpa using h⟩ else none
  | none => none

theorem remove_absent {c : Nat} {pattern t : Text} (absent : c ∉ t) : remove (c :: pattern) t = t := by
  induction t with
  | nil =>
    rw [remove]
    simp
  | cons a rest ih =>
    rw [List.mem_cons, not_or] at absent
    rw [remove, dif_neg (by simp [absent.1])]
    simp only
    rw [ih absent.2]

theorem hexValue_hexDigit (d : Fin 16) : Json.hexValue (UUID.hexDigit d).toNat = some d.val := by
  revert d
  decide

/-- The characters of a UUID. -/
theorem mem_uuid_str {u : UUID} {c : Nat} (mem : c ∈ Text.ofString u.str) :
    c = 0x2D ∨ ∃ d, c = (UUID.hexDigit d).toNat := by
  obtain ⟨char, held, rfl⟩ := List.mem_map.mp mem
  rw [UUID.str, String.toList_ofList] at held
  by_cases dash : char = '-'
  · exact Or.inl (dash ▸ rfl)
  · have kept : char ∈ u.chars.filter (· ≠ '-') := List.mem_filter.mpr ⟨held, decide_eq_true dash⟩
    rw [UUID.filter_dash_chars] at kept
    obtain ⟨d, -, rfl⟩ := List.mem_map.mp kept
    exact Or.inr ⟨d, rfl⟩

theorem hexDigit_lower (d : Fin 16) : (UUID.hexDigit d).toNat < 0x67 := by
  revert d
  decide

theorem mapM_hexValue (digits : List (Fin 16)) :
    (digits.map fun d => (UUID.hexDigit d).toNat).mapM Json.hexValue = some (digits.map Fin.val) := by
  induction digits with
  | nil => rfl
  | cons d digits ih => simp [ih, hexValue_hexDigit]

/-- `UUID(str(u)) == u`. -/
theorem uuidOfText_str (u : UUID) : uuidOfText (Text.ofString u.str) = some u := by
  have small : ∀ c ∈ Text.ofString u.str, c < 0x67 := by
    intro c mem
    rcases mem_uuid_str mem with rfl | ⟨d, rfl⟩
    · decide
    · exact hexDigit_lower d
  have bare : ∀ pattern, remove (0x75 :: pattern) (Text.ofString u.str) = Text.ofString u.str :=
    fun pattern => remove_absent fun mem => absurd (small _ mem) (by decide)
  have unbraced : ∀ t : Text, (∀ c ∈ t, c < 0x67) →
      t.dropWhile (fun c => decide (c = 0x7B ∨ c = 0x7D)) = t := by
    intro t all
    cases t with
    | nil => rfl
    | cons c t =>
      have here := all c List.mem_cons_self
      simp only [List.dropWhile_cons, decide_eq_true_eq]
      rw [if_neg (by omega)]
  have digits : (Text.ofString u.str).filter (· ≠ 0x2D) =
      u.hex.map fun d => (UUID.hexDigit d).toNat := by
    have chars : (Text.ofString u.str).filter (· ≠ 0x2D) =
        (u.chars.filter (· ≠ '-')).map Char.toNat := by
      rw [Text.ofString, UUID.str, String.toList_ofList, List.filter_map]
      congr 1
      refine List.filter_congr fun c _ => ?_
      simp only [Function.comp_apply, decide_not, Bool.not_inj_iff]
      exact decide_eq_decide.mpr ⟨fun same => Char.toNat_inj.mp same, fun same => same ▸ rfl⟩
    rw [chars, UUID.filter_dash_chars, List.map_map]
    rfl
  unfold uuidOfText
  rw [show Text.ofString "urn:" = [0x75, 0x72, 0x6E, 0x3A] from rfl,
    show Text.ofString "uuid:" = [0x75, 0x75, 0x69, 0x64, 0x3A] from rfl, bare, bare]
  simp only
  rw [unbraced _ small, unbraced _ (fun c mem => small c (List.mem_reverse.mp mem)),
    List.reverse_reverse, digits, mapM_hexValue]
  simp only [List.length_map, u.length_eq, List.map_map]
  cases u with
  | mk hex length_eq =>
    simp [Function.comp_def]

/-- `_safe_uuid`. The text of a value that is neither a string nor an integer is never a
UUID. -/
def safeUuid : Option Json → Option UUID
  | some (.str text) => uuidOfText text
  | some (.int n) => uuidOfText (Text.ofString (toString n))
  | _ => none

/-- The validator of a process: the libraries it runs on, and the order in which its
interpreter iterates over the required headers. -/
structure Validator extends Parser where
  headerOrder : List String
  headerOrder_perm : headerOrder.Perm requiredEventHeaders

namespace Validator

variable (v : Validator)

/-- `_body_hints`. -/
def bodyHints (value : List UInt8) : Except PyException Hints :=
  match v.loads value with
  | .error e => if e = .jsonDecodeError ∨ e = .unicodeDecodeError then .ok {} else .error e
  | .ok (.obj members) =>
    .ok
      { eventId := safeUuid (Json.lookup members "event_id")
        eventType :=
          match Json.lookup members "event_type" with
          | some (.str text) => some text
          | _ => none
        correlationId := safeUuid (Json.lookup members "correlation_id") }
  | .ok _ => .ok {}

/-! ### validate_message -/

/-- `CURRENT_EVENT_VERSION`. -/
def currentEventVersion : Nat := 1

/-- The checks on metadata: the decoded headers, or the error. -/
def metadata (message : ConsumedMessage) : Except ValidationResult (List (String × Text)) :=
  let anomaly := anomalyOf message
  match requiredEventHeaders.filter fun name => (headerValues message name).isEmpty with
  | name :: _ =>
    .error (rejection .missingHeader ("missing required header: " ++ name) {} anomaly)
  | [] =>
    match requiredEventHeaders.filter fun name => (headerValues message name).length ≠ 1 with
    | name :: _ =>
      .error (rejection .duplicateHeader ("duplicate required header: " ++ name) {} anomaly)
    | [] =>
      match v.headerOrder.mapM fun name => (decodeHeader message name).map (name, ·) with
      | .error why => .error (rejection .invalidHeaderEncoding why {} anomaly)
      | .ok headers =>
        if headers.lookup "content_type" = some (Text.ofString "application/json") then .ok headers
        else
          .error (rejection .invalidContentType "content_type must be application/json" {} anomaly)

/-- The body names an event type of the contract. -/
def knownType (members : List (Text × Json)) : Bool :=
  match Json.lookup members "event_type" with
  | some (.str text) => eventTypes.any fun entry => Text.ofString entry.1 = text
  | _ => false

/-- The checks on the raw body that come before `parse_event`. -/
def precheck (decoded : Json) (hints : Hints) (anomaly : Option Text) : Option ValidationResult :=
  match decoded with
  | .obj members =>
    if !knownType members then some (rejection .unknownEventType "unknown event type" hints anomaly)
    else
      match Json.lookup members "event_version" with
      | some (.int version) =>
        if (currentEventVersion : Int) < version then
          some (rejection .unsupportedEventVersion
            ("event version " ++ toString version ++ " is unsupported") hints anomaly)
        else none
      | _ => none
  | _ => none

/-- The agreement of the event with headers and key. -/
def agree (message : ConsumedMessage) (headers : List (String × Text)) (event : EventEnvelope)
    (anomaly : Option Text) : ValidationResult :=
  let hints := Hints.of event
  let expected : List (String × String) :=
    [("event_id", event.eventId.str), ("event_type", event.eventType.value),
      ("event_version", toString event.eventVersion), ("correlation_id", event.correlationId.str),
      ("source", event.source)]
  if event.eventVersion ≠ currentEventVersion then
    rejection .unsupportedEventVersion
      ("event version " ++ toString event.eventVersion ++ " is unsupported") hints anomaly
  else
    match expected.find? fun entry => headers.lookup entry.1 ≠ some (Text.ofString entry.2) with
    | some (name, _) =>
      rejection .headerBodyMismatch (name ++ " header does not match body") hints anomaly
    | none =>
      if message.key ≠ some event.messageKey then
        rejection .keyBodyMismatch "Kafka key does not match body ordering key" hints anomaly
      else .valid event

/-- The part of `validate_message` that reads the body. -/
def validateBody (message : ConsumedMessage) (value : List UInt8) (headers : List (String × Text)) :
    Except PyException ValidationResult := do
  let anomaly := anomalyOf message
  let hints ← v.bodyHints value
  match v.loads value with
  | .error e =>
    if e = .jsonDecodeError ∨ e = .unicodeDecodeError then
      return rejection .malformedJson "malformed event JSON" hints anomaly
    else .error e
  | .ok decoded =>
    match precheck decoded hints anomaly with
    | some result => return result
    | none =>
      match v.parseEvent value with
      | .error e =>
        if e.isValueError then
          return rejection .contractValidationFailed "event contract validation failed" hints anomaly
        else .error e
      | .ok event => return agree message headers event anomaly

/-- `validate_message`. -/
def validateMessage (message : ConsumedMessage) : Except PyException ValidationResult :=
  match message.value, message.key with
  | none, _ => .ok (rejection .missingValue "Kafka value is required" {} none)
  | some _, none => .ok (rejection .missingKey "Kafka key is required" {} none)
  | some value, some _ =>
    match v.metadata message with
    | .error result => .ok result
    | .ok headers => v.validateBody message value headers

/-! ### What validation returns -/

variable {v} {message : ConsumedMessage} {result : ValidationResult}

theorem metadata_rejects (failed : v.metadata message = .error result) :
    result.isRejection = true := by
  unfold metadata at failed
  repeat' split at failed
  all_goals first
    | (cases failed; rfl)
    | cases failed

theorem precheck_rejects {decoded : Json} {hints : Hints} {anomaly : Option Text}
    (failed : precheck decoded hints anomaly = some result) : result.isRejection = true := by
  unfold precheck at failed
  repeat' split at failed
  all_goals first
    | (cases failed; rfl)
    | cases failed

theorem agree_cases (message : ConsumedMessage) (headers : List (String × Text))
    (event : EventEnvelope) (anomaly : Option Text) :
    agree message headers event anomaly = .valid event ∨
      (agree message headers event anomaly).isRejection = true := by
  unfold agree
  simp only
  repeat' split
  all_goals first
    | exact Or.inr rfl
    | exact Or.inl rfl

/-- A validated message is one whose value parses, or it is rejected. -/
theorem validateMessage_cases (validated : v.validateMessage message = .ok result) :
    (∃ value event, message.value = some value ∧ v.parseEvent value = .ok event ∧
      result = .valid event) ∨ result.isRejection = true := by
  unfold validateMessage at validated
  split at validated
  · cases validated; exact Or.inr rfl
  · cases validated; exact Or.inr rfl
  · rename_i value _ here _
    split at validated
    · rename_i failed
      cases validated
      exact Or.inr (metadata_rejects failed)
    · rename_i headers _
      simp only [validateBody, bind, Except.bind] at validated
      split at validated
      · cases validated
      · split at validated
        · split at validated
          · cases validated; exact Or.inr rfl
          · cases validated
        · split at validated
          · rename_i failed
            cases validated
            exact Or.inr (precheck_rejects failed)
          · split at validated
            · split at validated
              · cases validated; exact Or.inr rfl
              · cases validated
            · rename_i event parsed
              cases validated
              exact (agree_cases message headers event _).imp_left fun valid =>
                ⟨value, event, here, parsed, valid⟩

end Validator

end CommercePlatform.Processor
