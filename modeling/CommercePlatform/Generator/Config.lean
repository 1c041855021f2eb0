import CommercePlatform.Contract.Events

/-!
The generator's settings (`event_generator/config.py`), with the names of the fields
short of their `generator_`.

`personaWeights` holds the entries that `parse_persona_weights` splits its text into, as
`PersonaWeights` has it. The Kafka and logging settings are left out.
-/

namespace CommercePlatform.Generator

open Contract

/-! ### Floats -/

/-- A Python float: a number, an infinity or nan. Numbers are not rounded. -/
inductive PyFloat where
  | finite (value : Rat)
  | infinite (negative : Bool)
  | nan
  deriving DecidableEq

namespace PyFloat

/-- `x < 0`. -/
def isNegative : PyFloat → Bool
  | finite value => value < 0
  | infinite negative => negative
  | nan => false

/-- `x <= 0`. -/
def isNonpositive : PyFloat → Bool
  | finite value => value ≤ 0
  | infinite negative => negative
  | nan => false

def add : PyFloat → PyFloat → PyFloat
  | finite a, finite b => finite (a + b)
  | nan, _ | _, nan => nan
  | infinite a, infinite b => if a = b then infinite a else nan
  | infinite a, finite _ | finite _, infinite a => infinite a

/-- `x / y`, for a `y` that is not zero. -/
def div : PyFloat → PyFloat → PyFloat
  | finite a, finite b => finite (a / b)
  | nan, _ | _, nan | infinite _, infinite _ => nan
  | finite _, infinite _ => finite 0
  | infinite a, finite b => infinite (a != decide (b < 0))

end PyFloat

/-! ### Persona weights -/

/-- `CustomerPersona`, in its order. -/
def personas : List CustomerPersona :=
  [.normal, .indecisive, .discountHunter, .suspicious, .bot, .accountTakeover]

abbrev Weights := List (CustomerPersona × PyFloat)

/-- `parse_persona_weights`, from the entries of the text on. -/
def parsePersonaWeights (entries : Weights) : Option Weights :=
  let total := (entries.map Prod.snd).foldl PyFloat.add (.finite 0)
  if ¬ (entries.map Prod.fst).Nodup ∨ (entries.any fun entry => entry.2.isNegative) then none
  else if personas.any fun persona => persona ∉ entries.map Prod.fst then none
  else if total.isNonpositive then none
  else some (entries.map fun entry => (entry.1, entry.2.div total))

/-- `DEFAULT_PERSONA_WEIGHTS`. -/
def defaultPersonaWeights : Weights :=
  [(.normal, .finite 0.50), (.indecisive, .finite 0.15), (.discountHunter, .finite 0.15),
    (.suspicious, .finite 0.10), (.bot, .finite 0.05), (.accountTakeover, .finite 0.05)]

/-! ### GeneratorConfig -/

structure GeneratorConfig where
  maxProductViews : Nat := 20
  addToCartProbability : Rat := 0.55
  checkoutProbability : Rat := 0.70
  paymentSuccessProbability : Rat := 0.85
  refundProbability : Rat := 0.05
  customerPoolSize : Nat := 100
  newCustomerProbability : Rat := 0.35
  personaWeights : Weights := defaultPersonaWeights
  persona : Option CustomerPersona := none
  statefulMode : Bool := true
  maxPaymentAttempts : Nat := 3
  paymentRetryProbability : Rat := 0.65
  anomaliesEnabled : Bool := false
  duplicateEventProbability : Rat := 0
  malformedJsonProbability : Rat := 0
  missingFieldProbability : Rat := 0
  unknownEventTypeProbability : Rat := 0
  lateEventProbability : Rat := 0
  outOfOrderProbability : Rat := 0
  payloadMismatchProbability : Rat := 0
  maxLateEventSeconds : Nat := 86400
  maxAnomaliesPerJourney : Nat := 2

namespace GeneratorConfig

variable (config : GeneratorConfig)

/-- The probabilities, all under `ge=0, le=1`. -/
def probabilities : List Rat :=
  [config.addToCartProbability, config.checkoutProbability, config.paymentSuccessProbability,
    config.refundProbability, config.newCustomerProbability, config.paymentRetryProbability,
    config.duplicateEventProbability, config.malformedJsonProbability,
    config.missingFieldProbability, config.unknownEventTypeProbability,
    config.lateEventProbability, config.outOfOrderProbability, config.payloadMismatchProbability]

/-- The validators pass. -/
structure Accepted : Prop where
  maxProductViews : 0 < config.maxProductViews ∧ config.maxProductViews ≤ 100
  customerPoolSize : 0 < config.customerPoolSize ∧ config.customerPoolSize ≤ 100000
  maxPaymentAttempts : 1 ≤ config.maxPaymentAttempts ∧ config.maxPaymentAttempts ≤ 10
  maxLateEventSeconds : 0 < config.maxLateEventSeconds ∧ config.maxLateEventSeconds ≤ 2592000
  maxAnomaliesPerJourney : config.maxAnomaliesPerJourney ≤ 20
  probabilities : ∀ p ∈ config.probabilities, 0 ≤ p ∧ p ≤ 1
  personaWeights : (parsePersonaWeights config.personaWeights).isSome = true

instance : Decidable config.Accepted :=
  decidable_of_iff
    ((0 < config.maxProductViews ∧ config.maxProductViews ≤ 100) ∧
      (0 < config.customerPoolSize ∧ config.customerPoolSize ≤ 100000) ∧
      (1 ≤ config.maxPaymentAttempts ∧ config.maxPaymentAttempts ≤ 10) ∧
      (0 < config.maxLateEventSeconds ∧ config.maxLateEventSeconds ≤ 2592000) ∧
      config.maxAnomaliesPerJourney ≤ 20 ∧ (∀ p ∈ config.probabilities, 0 ≤ p ∧ p ≤ 1) ∧
      (parsePersonaWeights config.personaWeights).isSome = true)
    ⟨fun h => ⟨h.1, h.2.1, h.2.2.1, h.2.2.2.1, h.2.2.2.2.1, h.2.2.2.2.2.1, h.2.2.2.2.2.2⟩,
      fun h => ⟨h.maxProductViews, h.customerPoolSize, h.maxPaymentAttempts, h.maxLateEventSeconds,
        h.maxAnomaliesPerJourney, h.probabilities, h.personaWeights⟩⟩

end GeneratorConfig

end CommercePlatform.Generator
