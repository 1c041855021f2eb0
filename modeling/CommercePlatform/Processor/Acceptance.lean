import CommercePlatform.Processor.Execution

/-!
What `validate_message` accepts.

`Accepts` is the contract of a record in one piece: a value that parses to an event of
the current version, the key of that event, and each required header once, with the
value `event_message_headers` gives it. `validateMessage_iff` shows that the checks of
`validate_message` together are this predicate, on every message whose value raises
only what the checks expect.
-/

namespace CommercePlatform.Processor

open Contract

/-- The value of a header that occurs once and is UTF-8. -/
def headerText (message : ConsumedMessage) (name : String) : Option Text :=
  match headerValues message name with
  | [some raw] => (decodeUtf8 false raw).toOption
  | _ => none

/-- The record is the event, by the contract. -/
structure Accepts (parser : Parser) (message : ConsumedMessage) (event : EventEnvelope) : Prop where
  value : ∃ value, message.value = some value ∧ parser.parseEvent value = .ok event
  key : message.key = some event.messageKey
  version : event.eventVersion = 1
  headers : ∀ header ∈ event.messageHeaders,
    headerText message header.1 = some (Text.ofString header.2)

/-- The value raises only what `validate_message` expects. -/
structure Expected (parser : Parser) (message : ConsumedMessage) : Prop where
  decodes : ∀ value e, message.value = some value → parser.loads value = .error e →
    e = .jsonDecodeError ∨ e = .unicodeDecodeError
  parses : ∀ value e, message.value = some value → parser.parseEvent value = .error e →
    e.isValueError = true

/-- pydantic reads the document that `json.loads` reads. -/
def Parser.SameDocument (parser : Parser) : Prop :=
  ∀ bytes j j', parser.py.fromJson bytes = some j → parser.loads bytes = .ok j' → j = j'

namespace Validator

variable {v : Validator} {message : ConsumedMessage}

/-! ### Metadata -/

theorem headerText_eq {name : String} {text : Text} :
    headerText message name = some text ↔ (headerValues message name).length = 1 ∧
      decodeHeader message name = .ok text := by
  unfold headerText decodeHeader
  rcases headerValues message name with _ | ⟨raw, rest⟩
  · simp
  · rcases rest with _ | ⟨second, rest⟩
    · cases raw with
      | none => simp
      | some raw => cases decoded : decodeUtf8 false raw <;> simp [Except.toOption, decoded]
    · simp

theorem decodeAll_ok {names : List String} {headers : List (String × Text)}
    (decoded : names.mapM (fun name => (decodeHeader message name).map (name, ·)) = .ok headers) :
    ∀ name ∈ names, ∃ text, decodeHeader message name = .ok text ∧
      headers.lookup name = some text := by
  induction names generalizing headers with
  | nil => simp
  | cons first names ih =>
    rw [List.mapM_cons] at decoded
    cases head : decodeHeader message first with
    | error e =>
      rw [head] at decoded
      cases decoded
    | ok text =>
      cases rest : names.mapM (fun name => (decodeHeader message name).map (name, ·)) with
      | error e =>
        rw [head, rest] at decoded
        cases decoded
      | ok others =>
        rw [head, rest] at decoded
        cases decoded
        intro name mem
        by_cases same : name = first
        · subst same
          exact ⟨text, head, by simp⟩
        · obtain ⟨text', ok, found⟩ := ih rest name ((List.mem_cons.mp mem).resolve_left same)
          exact ⟨text', ok, by rw [List.lookup_cons, beq_false_of_ne same, found]⟩

theorem decodeAll_total {names : List String}
    (every : ∀ name ∈ names, ∃ text, decodeHeader message name = .ok text) :
    ∃ headers, names.mapM (fun name => (decodeHeader message name).map (name, ·)) = .ok headers := by
  induction names with
  | nil => exact ⟨[], rfl⟩
  | cons first names ih =>
    obtain ⟨text, head⟩ := every first (by simp)
    obtain ⟨headers, rest⟩ := ih fun name mem => every name (by simp [mem])
    rw [List.mapM_cons, head, rest]
    exact ⟨_, rfl⟩

/-- The metadata checks pass: every required header has a text, and `content_type` has
its own. -/
theorem metadata_ok {headers : List (String × Text)} (passed : v.metadata message = .ok headers) :
    (∀ name ∈ requiredEventHeaders, ∃ text, headerText message name = some text ∧
      headers.lookup name = some text) ∧
    headers.lookup "content_type" = some (Text.ofString "application/json") := by
  unfold metadata at passed
  simp only at passed
  split at passed
  · cases passed
  · split at passed
    · cases passed
    · rename_i once
      split at passed
      · cases passed
      · rename_i decoded
        split at passed
        · rename_i contentType
          cases passed
          refine ⟨fun name mem => ?_, contentType⟩
          obtain ⟨text, ok, found⟩ := decodeAll_ok decoded name (v.headerOrder_perm.mem_iff.mpr mem)
          have single := List.filter_eq_nil_iff.mp once name mem
          exact ⟨text, headerText_eq.mpr ⟨by simpa using single, ok⟩, found⟩
        · cases passed

theorem metadata_total (texts : ∀ name ∈ requiredEventHeaders, (headerText message name).isSome)
    (contentType : headerText message "content_type" = some (Text.ofString "application/json")) :
    ∃ headers, v.metadata message = .ok headers := by
  have each : ∀ name ∈ requiredEventHeaders, (headerValues message name).length = 1 ∧
      ∃ text, decodeHeader message name = .ok text := by
    intro name mem
    obtain ⟨text, found⟩ := Option.isSome_iff_exists.mp (texts name mem)
    exact ⟨(headerText_eq.mp found).1, text, (headerText_eq.mp found).2⟩
  have present : (requiredEventHeaders.filter fun name => (headerValues message name).isEmpty) = [] := by
    refine List.filter_eq_nil_iff.mpr fun name mem empty => ?_
    have := (each name mem).1
    rw [List.isEmpty_iff.mp empty] at this
    cases this
  have once : (requiredEventHeaders.filter fun name => (headerValues message name).length ≠ 1) = [] :=
    List.filter_eq_nil_iff.mpr fun name mem => by simp [(each name mem).1]
  obtain ⟨headers, decoded⟩ := decodeAll_total fun name mem =>
    (each name (v.headerOrder_perm.mem_iff.mp mem)).2
  have found : headers.lookup "content_type" = some (Text.ofString "application/json") := by
    obtain ⟨text, ok, found⟩ := decodeAll_ok decoded "content_type"
      (v.headerOrder_perm.mem_iff.mpr (by decide))
    rw [(headerText_eq.mp contentType).2] at ok
    cases ok
    exact found
  refine ⟨headers, ?_⟩
  unfold metadata
  simp only [present, once, decoded, found, if_true]

/-! ### The body -/

/-- A parsed event has the version of the raw body. -/
theorem parseEvent_version {value : List UInt8} {event : EventEnvelope}
    (same : Parser.SameDocument v.toParser) (parsed : v.parseEvent value = .ok event) :
    ∃ members, v.loads value = .ok (.obj members) ∧ knownType members = true ∧
      Json.lookup members "event_version" = some (.int event.eventVersion) := by
  unfold Parser.parseEvent at parsed
  split at parsed
  · cases parsed
  · rename_i members decoded
    split at parsed
    · rename_i text named
      split at parsed
      · rename_i found
        refine ⟨members, decoded, ?_, ?_⟩
        · have known := List.find?_some found
          have mem := List.mem_of_find?_eq_some found
          simp only [knownType, named, List.any_eq_true]
          exact ⟨_, mem, known⟩
        · obtain ⟨members', payloadMembers, input, h⟩ := Parser.parseTyped_ok.mp parsed
          cases same value _ _ h.document decoded
          rw [h.assembled]
          exact envelopeInput_version h.envelope
      · cases parsed
    · cases parsed
  · cases parsed

/-! ### Acceptance -/

theorem bodyHints_total (expected : Expected v.toParser message) {value : List UInt8}
    (here : message.value = some value) : ∃ hints, v.bodyHints value = .ok hints := by
  unfold bodyHints
  split
  · rename_i e failed
    rw [if_pos (expected.decodes value e here failed)]
    exact ⟨_, rfl⟩
  · exact ⟨_, rfl⟩
  · exact ⟨_, rfl⟩

/-- On an expected value, `validate_message` returns. -/
theorem validateMessage_total (expected : Expected v.toParser message) :
    ∃ result, v.validateMessage message = .ok result := by
  unfold validateMessage
  split
  · exact ⟨_, rfl⟩
  · exact ⟨_, rfl⟩
  · rename_i value _ here _
    split
    · exact ⟨_, rfl⟩
    · obtain ⟨hints, hinted⟩ := bodyHints_total expected here
      simp only [validateBody, hinted, bind, Except.bind]
      split
      · rename_i e failed
        rw [if_pos (expected.decodes value e here failed)]
        exact ⟨_, rfl⟩
      · split
        · exact ⟨_, rfl⟩
        · split
          · rename_i e failed
            rw [if_pos (expected.parses value e here failed)]
            exact ⟨_, rfl⟩
          · exact ⟨_, rfl⟩

theorem messageHeaders_split (event : EventEnvelope) :
    event.messageHeaders = event.messageHeaders.dropLast ++ [("content_type", "application/json")] :=
  rfl

theorem messageHeaders_required (event : EventEnvelope) {header : String × String}
    (mem : header ∈ event.messageHeaders) : header.1 ∈ requiredEventHeaders := by
  have names : event.messageHeaders.map Prod.fst =
      ["event_id", "event_type", "event_version", "correlation_id", "source", "content_type"] := rfl
  have all : ∀ name ∈ ["event_id", "event_type", "event_version", "correlation_id", "source",
      "content_type"], name ∈ requiredEventHeaders := by decide
  exact all _ (names ▸ List.mem_map_of_mem mem)

/-- The event agrees with headers and key. -/
theorem agree_valid {headers : List (String × Text)} {event event' : EventEnvelope}
    {anomaly : Option Text} :
    agree message headers event anomaly = .valid event' ↔
      event = event' ∧ event.eventVersion = 1 ∧ message.key = some event.messageKey ∧
        ∀ header ∈ event.messageHeaders.dropLast,
          headers.lookup header.1 = some (Text.ofString header.2) := by
  have checked : (event.messageHeaders.dropLast.find? fun entry =>
        headers.lookup entry.1 ≠ some (Text.ofString entry.2)) = none ↔
      ∀ header ∈ event.messageHeaders.dropLast,
        headers.lookup header.1 = some (Text.ofString header.2) := by
    simp [List.find?_eq_none]
  rw [← checked]
  unfold agree
  simp only
  constructor
  · intro valid
    split at valid
    · cases valid
    · rename_i current
      split at valid
      · cases valid
      · rename_i agreed
        split at valid
        · cases valid
        · rename_i keyed
          cases valid
          exact ⟨rfl, not_not.mp current, not_not.mp keyed, agreed⟩
  · rintro ⟨rfl, current, keyed, agreed⟩
    split
    · rename_i stale
      exact absurd current stale
    · split
      · rename_i differs
        cases differs.symm.trans agreed
      · split
        · rename_i unkeyed
          exact absurd keyed unkeyed
        · rfl

/-- A record that is the event is accepted, once its type and version are seen in the raw
body. -/
theorem validateMessage_of {event : EventEnvelope} (h : Accepts v.toParser message event)
    {value : List UInt8} (here : message.value = some value) {members : List (Text × Json)}
    (decoded : v.loads value = .ok (.obj members)) (known : knownType members = true)
    (version : Json.lookup members "event_version" = some (.int event.eventVersion)) :
    v.validateMessage message = .ok (.valid event) := by
  obtain ⟨value', here', parsed⟩ := h.value
  cases here.symm.trans here'
  have texts : ∀ name ∈ requiredEventHeaders, (headerText message name).isSome := by
    intro name mem
    have named : name ∈ event.messageHeaders.map Prod.fst := by
      revert mem name
      exact (by decide : ∀ name ∈ requiredEventHeaders, name ∈ ["event_id", "event_type",
        "event_version", "correlation_id", "source", "content_type"])
    obtain ⟨header, held, rfl⟩ := List.mem_map.mp named
    simp [h.headers header held]
  obtain ⟨headers, passed⟩ := metadata_total (v := v) texts
    (h.headers ("content_type", "application/json") (by simp [EventEnvelope.messageHeaders]))
  obtain ⟨hints, hinted⟩ : ∃ hints, v.bodyHints value = .ok hints := by
    simp only [bodyHints, decoded]
    exact ⟨_, rfl⟩
  have unchecked : precheck (.obj members) hints (anomalyOf message) = none := by
    simp [precheck, known, version, h.version, currentEventVersion]
  have agreed : agree message headers event (anomalyOf message) = .valid event := by
    refine agree_valid.mpr ⟨rfl, h.version, h.key, fun header body => ?_⟩
    have mem := List.mem_of_mem_dropLast body
    obtain ⟨text, found, looked⟩ := (metadata_ok passed).1 header.1 (messageHeaders_required _ mem)
    rw [looked, ← found, h.headers header mem]
  unfold validateMessage
  rw [here, h.key]
  simp only [passed, validateBody, hinted, decoded, unchecked, parsed, agreed, bind, Except.bind]
  rfl

/-- `validate_message` accepts the contract, and nothing else. -/
theorem validateMessage_iff (same : Parser.SameDocument v.toParser)
    (expected : Expected v.toParser message) {event : EventEnvelope} :
    v.validateMessage message = .ok (.valid event) ↔ Accepts v.toParser message event := by
  constructor
  · intro validated
    unfold validateMessage at validated
    split at validated
    · cases validated
    · cases validated
    · rename_i value _ here _
      split at validated
      · rename_i rejected
        cases validated
        cases metadata_rejects rejected
      · rename_i headers passed
        obtain ⟨texts, contentType⟩ := metadata_ok passed
        obtain ⟨hints, hinted⟩ := bodyHints_total expected here
        simp only [validateBody, hinted, bind, Except.bind] at validated
        split at validated
        · split at validated <;> cases validated
        · split at validated
          · rename_i rejected
            cases validated
            cases precheck_rejects rejected
          · split at validated
            · split at validated <;> cases validated
            · rename_i parsed
              obtain ⟨rfl, version, keyed, agreed⟩ := agree_valid.mp (Except.ok.inj validated)
              refine ⟨⟨value, here, parsed⟩, keyed, version, fun header mem => ?_⟩
              obtain ⟨text, found, looked⟩ := texts header.1 (messageHeaders_required _ mem)
              rw [messageHeaders_split, List.mem_append, List.mem_singleton] at mem
              rcases mem with body | rfl
              · exact found.trans (looked.symm.trans (agreed header body))
              · exact found.trans (looked.symm.trans contentType)
  · intro h
    obtain ⟨value, here, parsed⟩ := h.value
    obtain ⟨members, decoded, known, version⟩ := parseEvent_version same parsed
    exact validateMessage_of h here decoded known version

end Validator

/-! ### Headers in another order -/

/-- The required headers of a message, in their order. -/
def requiredOf (message : ConsumedMessage) : KafkaHeaders :=
  message.headers.filter fun header => header.1 ∈ requiredEventHeaders

section

variable {message message' : ConsumedMessage}

theorem headerValues_required {name : String} (required : name ∈ requiredEventHeaders) :
    headerValues message name = ((requiredOf message).filter (·.1 = name)).map (·.2) := by
  unfold headerValues requiredOf
  rw [List.filter_filter]
  congr 1
  refine List.filter_congr fun header _ => ?_
  by_cases same : header.1 = name <;> simp [same, required]

/-- A header that occurs once is the same in any order. -/
theorem headerText_perm (perm : (requiredOf message').Perm (requiredOf message)) {name : String}
    (required : name ∈ requiredEventHeaders) : headerText message' name = headerText message name := by
  have values : (headerValues message' name).Perm (headerValues message name) := by
    rw [headerValues_required required, headerValues_required required]
    exact (perm.filter _).map _
  unfold headerText
  rcases before : headerValues message name with _ | ⟨raw, _ | ⟨second, rest⟩⟩
  · rw [before] at values
    rw [values.eq_nil]
  · rw [before] at values
    rw [List.perm_singleton.mp values]
  · rw [before] at values
    have length := values.length_eq
    rcases after : headerValues message' name with _ | ⟨raw', _ | ⟨second', rest'⟩⟩
    · simp [after] at length
    · simp [after] at length
    · cases raw <;> cases raw' <;> rfl

theorem Accepts.perm {parser : Parser} {event : EventEnvelope} (h : Accepts parser message event)
    (value : message'.value = message.value) (key : message'.key = message.key)
    (perm : (requiredOf message').Perm (requiredOf message)) : Accepts parser message' event := by
  refine ⟨value ▸ h.value, key ▸ h.key, h.version, fun header mem => ?_⟩
  rw [headerText_perm perm (Validator.messageHeaders_required event mem)]
  exact h.headers header mem

end

/-! ### The contract -/

/-- The two fields of a `ValidationResult`. -/
def ValidationResult.event : ValidationResult → Option EventEnvelope
  | valid event => some event
  | invalid _ => none

def ValidationResult.error : ValidationResult → Option ValidationErrorInfo
  | valid _ => none
  | invalid error => some error

theorem ValidationResult.event_eq_some {result : ValidationResult} {event : EventEnvelope} :
    result.event = some event ↔ result = .valid event := by
  cases result <;> simp [ValidationResult.event]

/-- On every message whose value raises only what is expected, `validate_message` returns;
it accepts exactly the contract, sets either the event or the error, and decides the
same way about any message with the same key, value and required headers, in whatever
order and among whatever other headers. -/
theorem validateMessage_contract (v : Validator) (same : Parser.SameDocument v.toParser)
    (message : ConsumedMessage) (expected : Expected v.toParser message) :
    ∃ result, v.validateMessage message = .ok result ∧
      (∀ event, result.event = some event ↔ Accepts v.toParser message event) ∧
      result.event.isSome = !result.error.isSome ∧
      ∀ message' : ConsumedMessage, message'.value = message.value → message'.key = message.key →
        (requiredOf message').Perm (requiredOf message) →
        ∃ result', v.validateMessage message' = .ok result' ∧ result'.event = result.event := by
  have accepts : ∀ {message result}, Expected v.toParser message →
      v.validateMessage message = .ok result →
      ∀ event, result.event = some event ↔ Accepts v.toParser message event := by
    intro message result expected validated event
    rw [ValidationResult.event_eq_some, ← Validator.validateMessage_iff same expected, validated]
    simp
  obtain ⟨result, validated⟩ := Validator.validateMessage_total expected
  refine ⟨result, validated, accepts expected validated, by cases result <;> rfl, ?_⟩
  intro message' value key perm
  have expected' : Expected v.toParser message' :=
    ⟨fun bytes e here => expected.decodes bytes e (value ▸ here),
      fun bytes e here => expected.parses bytes e (value ▸ here)⟩
  obtain ⟨result', validated'⟩ := Validator.validateMessage_total expected'
  refine ⟨result', validated', Option.ext fun event => ?_⟩
  rw [accepts expected' validated', accepts expected validated]
  exact ⟨fun h => h.perm value.symm key.symm perm.symm, fun h => h.perm value key perm⟩

theorem plainValidator_sameDocument : Parser.SameDocument plainValidator.toParser := by
  intro bytes j j' read decoded
  have loaded : (Json.loads 1000 bytes).toOption = some j := read
  rw [show Json.loads 1000 bytes = .ok j' from decoded] at loaded
  exact (Option.some.inj loaded).symm

/-- The record of a registration, and the same record with its headers reversed. -/
theorem validateMessage_contract_plainMessage :
    ∃ result result', plainValidator.validateMessage (plainMessage 0) = .ok result ∧
      plainValidator.validateMessage { plainMessage 0 with headers := plainHeaders.reverse } =
        .ok result' ∧ result.event.isSome = true ∧ result'.event = result.event := by
  obtain ⟨parsed, decoded, accepted⟩ : (plainValidator.parseEvent plainBody).isOk = true ∧
      (plainValidator.loads plainBody).isOk = true ∧
      ((plainValidator.validateMessage (plainMessage 0)).toOption.bind
        ValidationResult.event).isSome = true := by decide +kernel
  have expected : Expected plainValidator.toParser (plainMessage 0) := by
    refine ⟨fun value e here failed => ?_, fun value e here failed => ?_⟩
    · cases here
      rw [failed] at decoded
      cases decoded
    · cases here
      rw [failed] at parsed
      cases parsed
  obtain ⟨result, validated, -, -, again⟩ :=
    validateMessage_contract plainValidator plainValidator_sameDocument (plainMessage 0) expected
  obtain ⟨result', validated', same⟩ := again
    { plainMessage 0 with headers := plainHeaders.reverse } rfl rfl
    ((List.reverse_perm plainHeaders).filter _)
  rw [validated] at accepted
  exact ⟨result, result', validated, validated', accepted, same⟩

end CommercePlatform.Processor
