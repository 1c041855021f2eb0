import CommercePlatform.Contract.Edits
import CommercePlatform.Processor.AttemptCount
import CommercePlatform.Processor.RoundTrip

/-!
The canonical form of an accepted record.

Two producers may write one event in many ways: the order of members, white space, escapes,
offsets of timestamps and surrounding blanks are theirs. What `validate_message` accepts has a
canonical form all the same, which is accepted as the same event, and which no other accepted
event has: `canonical_payload_hash` is a digest of the event, not of the bytes it came in.
-/

namespace CommercePlatform.Processor

open Contract

variable {v : Validator}

/-- An accepted record holds the event, of the current version. -/
theorem validated_parses {message : ConsumedMessage} {event : EventEnvelope}
    (accepted : v.validateMessage message = .ok (.valid event)) :
    event.eventVersion = 1 ∧ ∃ bytes, v.parseEvent bytes = .ok event := by
  unfold Validator.validateMessage at accepted
  split at accepted
  · cases accepted
  · cases accepted
  · rename_i bytes _ _ _
    split at accepted
    · rename_i rejected
      cases accepted
      cases Validator.metadata_rejects rejected
    · simp only [Validator.validateBody, bind, Except.bind] at accepted
      split at accepted
      · cases accepted
      · split at accepted
        · split at accepted <;> cases accepted
        · split at accepted
          · rename_i rejected
            cases accepted
            cases Validator.precheck_rejects rejected
          · split at accepted
            · split at accepted <;> cases accepted
            · rename_i parsed
              obtain ⟨rfl, version, -, -⟩ := Validator.agree_valid.mp (Except.ok.inj accepted)
              exact ⟨version, bytes, parsed⟩

theorem validated_sound (ints : v.py.ReadsShortInts) {message : ConsumedMessage}
    {event : EventEnvelope} (accepted : v.validateMessage message = .ok (.valid event)) :
    event.eventVersion = 1 ∧ WellFormed v.context event ∧
      ∃ text, event.canonicalJson = .ok text := by
  obtain ⟨version, bytes, parsed⟩ := validated_parses accepted
  exact ⟨version, parseEvent_sound ints parsed⟩

/-- Every accepted record has a canonical form: it parses to the same event, the record that
carries it is accepted as the same event, and an accepted record with another event has
another canonical form. -/
theorem accepted_normal_form (v : Validator) (conforms : Conforms v.toParser)
    (ints : v.py.ReadsShortInts) (message : ConsumedMessage) (event : EventEnvelope)
    (accepted : v.validateMessage message = .ok (.valid event)) (denotes : Denotes v.py event) :
    WellFormed v.context event ∧
    ∃ text bytes, event.canonicalJson = .ok text ∧ text.encode = .ok bytes ∧
      v.parseEvent bytes = .ok event ∧
      (∀ message' : ConsumedMessage, message'.key = some event.messageKey →
        message'.value = some bytes → message'.headers = event.kafkaHeaders →
        v.validateMessage message' = .ok (.valid event)) ∧
      ∀ (other : ConsumedMessage) (event' : EventEnvelope),
        v.validateMessage other = .ok (.valid event') → Denotes v.py event' →
        event'.canonicalJson = .ok text → event' = event := by
  obtain ⟨version, formed, text, rendered⟩ := validated_sound ints accepted
  have encoded : text.encode = .ok (text.flatMap Text.encodePoint) :=
    if_pos (Text.encodable_of_scalar (canonicalJson_scalar rendered))
  refine ⟨formed, text, _, rendered, encoded, ?_, ?_, ?_⟩
  · exact (parseEvent_canonical conforms formed denotes rendered encoded).2
  · intro message' key value headers
    exact validateMessage_canonical conforms formed denotes version rendered encoded key value
      fun header mem => headerText_kafkaHeaders headers mem
  · intro other event' accepted' denotes' rendered'
    obtain ⟨-, formed', -⟩ := validated_sound ints accepted'
    exact canonicalJson_inj conforms formed denotes formed' denotes' rendered rendered'

/-! ### A registration -/

section

/-- pydantic on short documents, without integers that are too long. -/
def shortPydantic : Pydantic :=
  { samplePydantic with fromJson := fun bytes => (samplePydantic.fromJson bytes).filter (·.shortInts) }

def shortValidator : Validator := { plainValidator with py := shortPydantic }

theorem shortValidator_reads : shortValidator.py.ReadsShortInts := by
  intro bytes j read
  exact (Option.filter_eq_some_iff.mp read).2

theorem shortValidator_conforms : Conforms shortValidator.toParser where
  levels := sampleValidator_conforms.levels
  reads ascii members fit :=
    Option.filter_eq_some_iff.mpr
      ⟨sampleValidator_conforms.reads ascii members fit, Json.shortInts_of_fits _ fit⟩
  dumps := sampleValidator_conforms.dumps

theorem plainEvent_denotes : Denotes shortValidator.py plainEvent where
  uuid := uuidOfText_str
  instants := by
    have text : Text.ofString (serializeUtc 0) = Text.ofString "1970-01-01T00:00:00Z" := by
      decide +kernel
    simp [plainEvent, EventEnvelope.instants, Payload.instants, shortValidator, shortPydantic,
      samplePydantic, utcJson, strJson, text]
  decimals := by simp [plainEvent, Payload.decimals]
  addresses := by simp [plainEvent, Payload.addresses]

/-- The registration is accepted in its canonical form as well. -/
theorem accepted_normal_form_plainMessage :
    ∃ text bytes, plainEvent.canonicalJson = .ok text ∧ text.encode = .ok bytes ∧
      shortValidator.validateMessage
        { plainMessage 0 with value := some bytes, headers := plainEvent.kafkaHeaders } =
        .ok (.valid plainEvent) := by
  have accepted : shortValidator.validateMessage (plainMessage 0) = .ok (.valid plainEvent) := by
    decide +kernel
  obtain ⟨-, text, bytes, rendered, encoded, -, again, -⟩ := accepted_normal_form shortValidator
    shortValidator_conforms shortValidator_reads (plainMessage 0) plainEvent accepted
    plainEvent_denotes
  have keyed : (plainMessage 0).key = some plainEvent.messageKey := by decide +kernel
  exact ⟨text, bytes, rendered, encoded, again _ keyed rfl rfl⟩

end

end CommercePlatform.Processor
