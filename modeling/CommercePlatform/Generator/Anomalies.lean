import CommercePlatform.Generator.Journey

/-!
Messages and injected anomalies (`event_generator/messages.py`, `anomalies.py`).

The value of a message is kept as the document it renders, so that nothing here depends on
how JSON is written. The key, the ids and the headers of a message are those of the event
it was made from; a mutation adds a header for its kind.
-/

namespace CommercePlatform.Generator

open Contract

/-! ### messages.py -/

inductive AnomalyType where
  | duplicate
  | malformedJson
  | missingField
  | unknownEventType
  | lateEvent
  | outOfOrder
  | payloadMismatch
  deriving DecidableEq, Repr

/-- What the bytes of a message hold. -/
inductive MessageValue where
  /-- `canonical_json`. -/
  | canonical (event : EventEnvelope)
  /-- The same without its last byte. -/
  | truncated (event : EventEnvelope)
  /-- Without `event_id`. -/
  | withoutEventId (event : EventEnvelope)
  /-- With the type "synthetic_unknown_event". -/
  | unknownType (event : EventEnvelope)
  /-- With the payload of another event, or an empty one. -/
  | payloadOf (event : EventEnvelope) (other : Option EventEnvelope)
  deriving DecidableEq

structure PublishableMessage where
  event : EventEnvelope
  value : MessageValue
  tags : List AnomalyType := []
  deriving DecidableEq

namespace PublishableMessage

variable (message : PublishableMessage)

def eventId : UUID := message.event.eventId

def eventType : EventType := message.event.eventType

def anomalyType : Option AnomalyType := message.tags.getLast?

/-- `_replace`. -/
def replace (value : MessageValue) (kind : AnomalyType) : PublishableMessage :=
  { message with value, tags := message.tags ++ [kind] }

/-- `_tag`. -/
def tag (kind : AnomalyType) : PublishableMessage := message.replace message.value kind

end PublishableMessage

/-! ### anomalies.py -/

def validMessage (event : EventEnvelope) : PublishableMessage :=
  { event, value := .canonical event }

/-- `_mutate`, on a message made by `validMessage`. -/
def mutate (config : GeneratorConfig) (kind : AnomalyType) (message : PublishableMessage)
    (all : List PublishableMessage) : Gen PublishableMessage :=
  let event := message.event
  match kind with
  | .duplicate | .outOfOrder => return message.tag kind
  | .malformedJson => return message.replace (.truncated event) kind
  | .missingField => return message.replace (.withoutEventId event) kind
  | .unknownEventType => return message.replace (.unknownType event) kind
  | .payloadMismatch =>
    let other := all.find? fun m => m.eventType ≠ message.eventType ∧ m.anomalyType.isNone
    return message.replace (.payloadOf event (other.map (·.event))) kind
  | .lateEvent => do
    let time ← later event.eventTime (-seconds (min config.maxLateEventSeconds 240))
    return message.replace (.canonical { event with eventTime := time }) kind

/-- The anomalies and their probabilities, in the order they are tried. -/
def candidates (config : GeneratorConfig) : List (AnomalyType × Rat) :=
  [(.duplicate, config.duplicateEventProbability),
    (.malformedJson, config.malformedJsonProbability),
    (.missingField, config.missingFieldProbability),
    (.unknownEventType, config.unknownEventTypeProbability),
    (.lateEvent, config.lateEventProbability),
    (.payloadMismatch, config.payloadMismatchProbability)]

section

variable (source : Source) (config : GeneratorConfig)

/-- `probability and random() < probability`. -/
def drawn (probability : Rat) : Gen Bool :=
  if probability = 0 then return false else chance source probability

/-- The loop of `prepare` over the candidates from `index` on, after `emitted` anomalies: the
messages that it appends. -/
def inject (valid : List PublishableMessage) :
    List (AnomalyType × Rat) → Nat → Nat → Gen (List PublishableMessage)
  | [], _, _ => return []
  | (kind, probability) :: rest, index, emitted =>
    if config.maxAnomaliesPerJourney ≤ emitted then return []
    else do
      let selected ← drawn source probability
      if selected then
        match valid[index % valid.length]? with
        | none => raiseError .indexError
        | some message =>
          let mutated ← mutate config kind message valid
          let more ← inject valid rest (index + 1) (emitted + 1)
          return mutated :: more
      else inject valid rest (index + 1) emitted

/-- The exchange of the first two messages. -/
def swapFirst : List PublishableMessage → List PublishableMessage
  | first :: second :: rest => second.tag .outOfOrder :: first.tag .outOfOrder :: rest
  | messages => messages

/-- `AnomalyInjector.prepare`. -/
def prepare (events : List EventEnvelope) : Gen (List PublishableMessage) := do
  let valid := events.map validMessage
  if config.anomaliesEnabled then
    let anomalous ← inject source config valid (candidates config) 0 0
    let messages := valid ++ anomalous
    if anomalous.length < config.maxAnomaliesPerJourney ∧ 2 ≤ messages.length then
      let swapped ← drawn source config.outOfOrderProbability
      return if swapped then swapFirst messages else messages
    else return messages
  else return valid

end

end CommercePlatform.Generator
