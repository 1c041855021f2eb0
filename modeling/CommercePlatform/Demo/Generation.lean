import CommercePlatform.Demo.Repository
import CommercePlatform.Generator.Anomalies

/-!
The generation of a run (`ScenarioRunner._generate`).

`Generation.step` is one step of the loop: it builds and registers the next batch of
messages, or publishes the next message of the batch. A run can be cut off after any
step, by a stop, a timeout or an exception, so what a run has emitted is what some
`Generated` state has published. The progress updates and the pacing are left out.
-/

namespace CommercePlatform.Demo

open Contract Generator

/-! ### generator.py -/

/-- The version and variant bits of `SeededUuidFactory.new`. -/
def shapeUuid (value : Nat) : UUID :=
  let ones := 2 ^ 128 - 1
  let versioned := (value &&& (ones ^^^ (0xF <<< 76))) ||| (4 <<< 76)
  .ofNat ((versioned &&& (ones ^^^ (0x3 <<< 62))) ||| (0x2 <<< 62))

/-- `SeededUuidFactory`; `getrandbits seed i` is the `i`-th `getrandbits(128)` of
`random.Random(seed)`. -/
def seededUuids (getrandbits : Int → Nat → Nat) (seed : Int) (i : Nat) : UUID :=
  shapeUuid (getrandbits seed i)

/-! ### scenario_runner.py -/

/-- `PERSONA_MAP`. -/
def personaMap : ScenarioType → Option CustomerPersona
  | .normal | .duplicate | .malformed => some .normal
  | .suspicious | .refund => some .suspicious
  | .takeover => some .accountTakeover
  | .bot => some .bot
  | .mixed => none

namespace RunCreate

variable (request : RunCreate)

/-- The weights of a distribution, or the default ones. -/
def personaWeights : Weights :=
  match request.personaDistribution with
  | none | some [] => defaultPersonaWeights
  | some (entry :: entries) => (entry :: entries).map fun e => (e.1, .finite e.2)

/-- `1 if the malformed scenario asks for the case else otherwise`. -/
def malformedProbability (malformed : MalformedCase) (otherwise : Rat) : Rat :=
  if request.scenarioType = .malformed ∧ request.malformedCase = malformed then 1 else otherwise

/-- The `GeneratorConfig` that `_generate` constructs. -/
def generatorConfig : GeneratorConfig where
  persona := personaMap request.scenarioType
  personaWeights := request.personaWeights
  addToCartProbability := if request.transactionEnabled then 1 else 0
  checkoutProbability := if request.transactionEnabled then 1 else 0
  refundProbability := if request.scenarioType = .refund then 1 else 0
  anomaliesEnabled := decide (request.scenarioType ∈ [.duplicate, .malformed, .mixed])
  duplicateEventProbability :=
    if request.scenarioType = .duplicate then 1 else request.duplicateRate
  malformedJsonProbability := request.malformedProbability .malformedJson request.malformedRate
  missingFieldProbability := request.malformedProbability .missingField 0
  unknownEventTypeProbability := request.malformedProbability .unknownEventType 0
  payloadMismatchProbability := request.malformedProbability .payloadMismatch 0
  maxAnomaliesPerJourney := 2

end RunCreate

/-- What the loop has done. -/
structure Generation where
  world : World := {}
  generated : Nat := 0
  pending : List PublishableMessage := []
  manifest : List (UUID × EventType) := []
  published : List PublishableMessage := []

section

variable (rt : Runtime) (source : Source) (request : RunCreate)

/-- `builder.build()` and `injector.prepare(journey.events)`. -/
def nextMessages : Gen (List PublishableMessage) := do
  let journey ← build rt source request.generatorConfig
  prepare source request.generatorConfig journey.events

/-- One step of the loop; there is none when it is over or an exception ends it. -/
def Generation.step (g : Generation) : Option Generation :=
  match g.pending with
  | message :: rest =>
    some { g with
      pending := rest
      published := g.published ++ [message]
      generated := g.generated + 1 }
  | [] =>
    if g.generated < request.eventCount then
      match nextMessages rt source request g.world with
      | .error _ => none
      | .ok (messages, world) =>
        let batch := messages.take (request.eventCount - g.generated)
        some { g with
          world
          pending := batch
          manifest := g.manifest ++ batch.map fun m => (m.eventId, m.eventType) }
    else none

/-- The state after so many steps. -/
def Generation.after : Nat → Option Generation
  | 0 => if request.generatorConfig.Accepted then some {} else none
  | n + 1 => (after n).bind (·.step rt source request)

end

end CommercePlatform.Demo
