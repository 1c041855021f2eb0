import CommercePlatform.Contract.RoundTrip
import CommercePlatform.Processor.Acceptance

/-!
Producer and consumer agree on a record.

The producer sends `canonical_json(event)` with `event_message_key(event)` and
`event_message_headers(event)` (`shared/kafka_metadata.py`). `parse_event` gives the event
back, `validate_message` accepts the record as that event, and two events with one
canonical form, or with one hash of it, are the same.
-/

namespace CommercePlatform.Processor

open Contract

section

variable {v : Validator} {event : EventEnvelope} {text : Text} {bytes : List UInt8}

/-- A header that occurs once, with the UTF-8 of a text. -/
theorem headerText_single {message : ConsumedMessage} {name value : String}
    (values : headerValues message name = [some value.toUTF8.toList]) :
    headerText message name = some (Text.ofString value) := by
  rw [headerText, values]
  simp only [toUTF8_toList, decodeUtf8_encode false (Text.ofString_scalar value)]
  rfl

theorem headerText_kafkaHeaders {message : ConsumedMessage}
    (sent : message.headers = event.kafkaHeaders) {header : String × String}
    (mem : header ∈ event.messageHeaders) :
    headerText message header.1 = some (Text.ofString header.2) := by
  have values : headerValues message header.1 = [some header.2.toUTF8.toList] := by
    rw [headerValues, sent]
    simp only [EventEnvelope.messageHeaders, List.mem_cons, List.not_mem_nil, or_false] at mem
    rcases mem with rfl | rfl | rfl | rfl | rfl | rfl <;>
      simp [EventEnvelope.kafkaHeaders, EventEnvelope.messageHeaders]
  exact headerText_single values

theorem knownType_members (event : EventEnvelope) : Validator.knownType event.members = true := by
  have named : Json.lookup event.members "event_type" = some (strJson event.eventType.value) :=
    lookup_members (by simp [EventEnvelope.fields])
  have listed := List.mem_of_find?_eq_some (find_eventType event.eventType)
  simp only [Validator.knownType, named, strJson, List.any_eq_true]
  exact ⟨_, listed, decide_eq_true rfl⟩

/-- The record of an event is accepted, with any other headers. -/
theorem validateMessage_canonical (conforms : Conforms v.toParser)
    (formed : WellFormed v.context event) (denotes : Denotes v.py event)
    (current : event.eventVersion = 1) (rendered : event.canonicalJson = .ok text)
    (encoded : text.encode = .ok bytes) {message : ConsumedMessage}
    (key : message.key = some event.messageKey) (value : message.value = some bytes)
    (headers : ∀ header ∈ event.messageHeaders,
      headerText message header.1 = some (Text.ofString header.2)) :
    v.validateMessage message = .ok (.valid event) := by
  have decoded := (loads_canonical conforms rendered).1
  rw [← encode_eq encoded] at decoded
  have version : Json.lookup event.members "event_version" = some (.int event.eventVersion) :=
    lookup_members (by simp [EventEnvelope.fields])
  have parsed := (parseEvent_canonical conforms formed denotes rendered encoded).2
  exact Validator.validateMessage_of
    ⟨⟨bytes, value, parsed⟩, key, current, headers⟩ value decoded (knownType_members event) version

/-- Events with one canonical form are the same. -/
theorem canonicalJson_inj (conforms : Conforms v.toParser) {other : EventEnvelope}
    (formed : WellFormed v.context event) (denotes : Denotes v.py event)
    (formed' : WellFormed v.context other) (denotes' : Denotes v.py other)
    (rendered : event.canonicalJson = .ok text) (rendered' : other.canonicalJson = .ok text) :
    other = event := by
  have encoded : text.encode = .ok (text.flatMap Text.encodePoint) :=
    if_pos (Text.encodable_of_scalar (canonicalJson_scalar rendered))
  have parsed := (parseEvent_canonical conforms formed denotes rendered encoded).2
  rw [(parseEvent_canonical conforms formed' denotes' rendered' encoded).2] at parsed
  exact Except.ok.inj parsed

end

/-- Canonical JSON is parsed back to the event, and renders again as it is; the record that
carries it is valid with that event; and no other event has the same canonical form, or
the same hash where SHA-256 is injective on the two. -/
theorem canonical_round_trip (v : Validator) (conforms : Conforms v.toParser) (event : EventEnvelope)
    (formed : WellFormed v.context event) (denotes : Denotes v.py event)
    (current : event.eventVersion = 1) (text : Text) (bytes : List UInt8)
    (rendered : event.canonicalJson = .ok text) (encoded : text.encode = .ok bytes) :
    v.parseEventStr text = .ok event ∧ v.parseEvent bytes = .ok event ∧
    (∀ parsed, v.parseEventStr text = .ok parsed ∨ v.parseEvent bytes = .ok parsed →
      parsed.canonicalJson = .ok text) ∧
    (∀ message : ConsumedMessage, message.key = some event.messageKey →
      message.value = some bytes → message.headers = event.kafkaHeaders →
      v.validateMessage message = .ok (.valid event)) ∧
    ∀ other, WellFormed v.context other → Denotes v.py other →
      (other.canonicalJson = .ok text → other = event) ∧
      ∀ rt : Runtime, rt.Renders event → rt.Renders other →
        (rt.sha256Hex (rt.canonicalJson other) = rt.sha256Hex (rt.canonicalJson event) →
          rt.canonicalJson other = rt.canonicalJson event) →
        rt.canonicalPayloadHash other = rt.canonicalPayloadHash event → other = event := by
  obtain ⟨parsedStr, parsed⟩ := parseEvent_canonical conforms formed denotes rendered encoded
  refine ⟨parsedStr, parsed, ?_, ?_, ?_⟩
  · rintro again (same | same)
    · rw [parsedStr] at same
      exact Except.ok.inj same ▸ rendered
    · rw [parsed] at same
      exact Except.ok.inj same ▸ rendered
  · intro message key value headers
    exact validateMessage_canonical conforms formed denotes current rendered encoded key value
      fun header mem => headerText_kafkaHeaders headers mem
  · intro other formed' denotes'
    refine ⟨canonicalJson_inj conforms formed denotes formed' denotes' rendered, ?_⟩
    intro rt renders renders' injective same
    have form : other.canonicalJson = .ok (Text.ofString (rt.canonicalJson event)) :=
      injective same ▸ renders'
    exact canonicalJson_inj conforms formed denotes formed' denotes' renders form

/-! ### A payment -/

section

/-- 10.50 and 20.00. -/
def sampleAmounts : List Decimal :=
  [{ coefficient := 1050, exponent := -2 }, { coefficient := 2000, exponent := -2 }]

/-- A payment of this amount. -/
def samplePayment (amount : Decimal) : EventEnvelope where
  eventId := UUID.ofNat 1
  eventVersion := 1
  eventTime := 0
  producedAt := 0
  source := "s"
  correlationId := UUID.ofNat 3
  payload := .paymentCompleted
    { paymentId := UUID.ofNat 4, orderId := UUID.ofNat 5, customerId := UUID.ofNat 2, amount
      currency := .try_, paymentMethod := .creditCard, deviceId := UUID.ofNat 6
      ipAddress := { text := "10.0.0.1" }, countryCode := "TR", completedAt := 0 }

/-- pydantic on the documents of these payments. -/
def samplePydantic : Pydantic where
  fromJson bytes := (Json.loads 1000 bytes).toOption
  dumps j := (j.dumps true).flatMap Text.encodePoint
  uuid
    | .str text => uuidOfText text
    | _ => none
  awareDatetime
    | .str text => if text = Text.ofString "1970-01-01T00:00:00Z" then some ⟨0, 0⟩ else none
    | _ => none
  decimal
    | .str text =>
      if text = Text.ofString "10.50" then sampleAmounts[0]?
      else if text = Text.ofString "20.00" then sampleAmounts[1]?
      else none
    | _ => none
  ipAddress
    | .str text => if text = Text.ofString "10.0.0.1" then some { text := "10.0.0.1" } else none
    | _ => none

def sampleValidator : Validator := { plainValidator with py := samplePydantic }

theorem sampleValidator_conforms : Conforms sampleValidator.toParser where
  levels := by decide
  reads ascii members fit := by
    have loaded := Json.loads_dumps ascii (Json.fits_le (show 3 ≤ 1000 by decide) fit)
    exact congrArg Except.toOption loaded
  dumps _ _ := rfl

theorem samplePayment_denotes {amount : Decimal} (listed : amount ∈ sampleAmounts) :
    Denotes samplePydantic (samplePayment amount) where
  uuid := uuidOfText_str
  instants := by
    have text : Text.ofString (serializeUtc 0) = Text.ofString "1970-01-01T00:00:00Z" := by
      decide +kernel
    simp [samplePayment, EventEnvelope.instants, Payload.instants, samplePydantic, utcJson, strJson,
      text]
  decimals := by
    have each : ∀ d ∈ sampleAmounts, samplePydantic.decimal (moneyJson d) = some d := by
      decide +kernel
    simpa [samplePayment, Payload.decimals] using each amount listed
  addresses := by
    simp [samplePayment, Payload.addresses, samplePydantic, strJson]

theorem samplePayment_wellFormed (context : DecimalContext) {amount : Decimal}
    (listed : amount ∈ sampleAmounts) : WellFormed context (samplePayment amount) where
  version := Nat.one_pos
  source := by
    have single : ∀ c, some 's' = some c → isSpace c = false := by
      rintro c ⟨⟩
      decide
    have chars : "s".toList = ['s'] := by decide
    refine ⟨?_, ?_, ?_⟩ <;> rw [show (samplePayment amount).source = "s" from rfl, chars]
    · simp
    · exact single
    · exact single
  fields := by
    have positive : ∀ d ∈ sampleAmounts, 0 < d.value := by decide +kernel
    have country : IsCountryCode "TR" := by
      unfold IsCountryCode
      decide
    exact ⟨positive amount listed, country⟩
  instants := by
    simp [samplePayment, EventEnvelope.instants, Payload.instants, Instant.minimum, Instant.maximum]
  totals := rfl
  consistent := rfl

theorem samplePayment_rendered (amount : Decimal) :
    ∃ text, (samplePayment amount).canonicalJson = .ok text := by
  have short : (samplePayment amount).modelDump.shortInts = true := by
    have version : (Json.dumpNat 1).length ≤ Json.maxStrDigits := by
      simp [Json.dumpNat, Json.maxStrDigits]
    simpa [samplePayment, EventEnvelope.modelDump, EventEnvelope.fields, dictJson, Payload.modelDump,
      Json.shortInts, Json.shortMembers, uuidJson, strJson, utcJson, moneyJson, memberJson] using version
  exact ⟨_, if_pos short⟩

/-- The text of an event, and the SHA-256 of the two payments. -/
def sampleRuntime : Runtime where
  canonicalJson event :=
    match event.canonicalJson with
    | .ok text => String.ofList (text.map Char.ofNat)
    | .error _ => ""
  sha256Hex text :=
    if (samplePayment ⟨false, 1050, -2⟩).canonicalJson = .ok (Text.ofString text) then
      "11c31a12e24ab822de028d68a85fc0fc93421ae6d4a630da5f430b2b32694034"
    else "4c1e8334d51b599a188fbe6a67858c7bcacb9bdf7a2a6066c5fdc1d71d9844e3"
  uuid5 := Persistence.plainUow.rt.uuid5

theorem sampleRuntime_renders_of {event : EventEnvelope} {text : Text}
    (rendered : event.canonicalJson = .ok text) : sampleRuntime.Renders event := by
  simp only [Runtime.Renders, sampleRuntime, rendered, ofString_ofNat (canonicalJson_scalar rendered)]

theorem sampleRuntime_renders (amount : Decimal) : sampleRuntime.Renders (samplePayment amount) := by
  obtain ⟨text, rendered⟩ := samplePayment_rendered amount
  exact sampleRuntime_renders_of rendered

/-- The record of a payment of 10.50, and the hash of one of 20.00. -/
theorem canonical_round_trip_sample :
    ∃ text bytes, (samplePayment ⟨false, 1050, -2⟩).canonicalJson = .ok text ∧
      sampleValidator.parseEventStr text = .ok (samplePayment ⟨false, 1050, -2⟩) ∧
      sampleValidator.validateMessage ⟨"t", 0, 0, none,
          some (samplePayment ⟨false, 1050, -2⟩).messageKey, some bytes,
          (samplePayment ⟨false, 1050, -2⟩).kafkaHeaders⟩ =
        .ok (.valid (samplePayment ⟨false, 1050, -2⟩)) ∧
      sampleRuntime.canonicalPayloadHash (samplePayment ⟨false, 2000, -2⟩) ≠
        sampleRuntime.canonicalPayloadHash (samplePayment ⟨false, 1050, -2⟩) := by
  have first : (⟨false, 1050, -2⟩ : Decimal) ∈ sampleAmounts := by decide
  have second : (⟨false, 2000, -2⟩ : Decimal) ∈ sampleAmounts := by decide
  obtain ⟨text, rendered⟩ := samplePayment_rendered ⟨false, 1050, -2⟩
  have encoded : text.encode = .ok (text.flatMap Text.encodePoint) :=
    if_pos (Text.encodable_of_scalar (canonicalJson_scalar rendered))
  obtain ⟨parsed, -, -, validated, others⟩ := canonical_round_trip sampleValidator
    sampleValidator_conforms (samplePayment ⟨false, 1050, -2⟩)
    (samplePayment_wellFormed _ first) (samplePayment_denotes first) rfl text _ rendered encoded
  refine ⟨text, _, rendered, parsed, validated _ rfl rfl rfl, fun same => ?_⟩
  have digest : sampleRuntime.canonicalPayloadHash (samplePayment ⟨false, 1050, -2⟩) =
      "11c31a12e24ab822de028d68a85fc0fc93421ae6d4a630da5f430b2b32694034" :=
    if_pos (sampleRuntime_renders _)
  have amounts := (others (samplePayment ⟨false, 2000, -2⟩) (samplePayment_wellFormed _ second)
    (samplePayment_denotes second)).2 sampleRuntime (sampleRuntime_renders _)
    (sampleRuntime_renders _) ?_ same
  · exact absurd amounts (by decide)
  · intro _
    have text' : (samplePayment ⟨false, 1050, -2⟩).canonicalJson =
        .ok (Text.ofString (sampleRuntime.canonicalJson (samplePayment ⟨false, 2000, -2⟩))) := by
      by_contra other
      rw [digest] at same
      exact absurd ((if_neg other).symm.trans same) (by decide)
    have both := text'.symm.trans (sampleRuntime_renders ⟨false, 1050, -2⟩)
    exact Text.ofString_injective (Except.ok.inj both)

end

end CommercePlatform.Processor
