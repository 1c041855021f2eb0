import Mathlib.Algebra.BigOperators.Ring.Finset
import CommercePlatform.Demo.Generation
import CommercePlatform.Generator.Completion
import CommercePlatform.Generator.PersonaWeights

/-!
The requests that start a run, and the settings that `_generate` makes of one.

A `RunInput` holds the fields of a `RunCreate` under their types, before its validators; an
accepted one is the `RunCreate` that `validate` returns. `RunInput.generatorConfig` goes
through the text of the weights, and `generatorConfig_eq` says that it is the typed
`RunCreate.generatorConfig`, under the validators of `GeneratorConfig`.
-/

namespace CommercePlatform.Demo

open Contract Generator

/-! ### models/scenarios.py -/

structure RunInput where
  scenarioType : ScenarioType
  eventCount : Int := 500
  durationSeconds : Option Int := none
  eventsPerSecond : Int := 20
  seed : Int := 42
  anomalyRate : Rat := 0
  duplicateRate : Rat := 0
  malformedRate : Rat := 0
  personaDistribution : Option (Dict Text Int) := none
  transactionEnabled : Bool := true
  notes : Option Text := none
  malformedCase : String := "malformed_json"

/-- The fields that fail their constraints, or what a relationship between them lacks. -/
inductive RequestError where
  | fields (names : List String)
  | relationship (message : String)
  deriving DecidableEq

/-- The malformed records under their names. -/
def malformedCases : List (String × MalformedCase) :=
  [("malformed_json", .malformedJson), ("missing_field", .missingField),
    ("unknown_event_type", .unknownEventType), ("payload_mismatch", .payloadMismatch)]

/-- `allowed`. -/
def allowedPersonas : List Text :=
  ["normal", "suspicious", "bot", "account_takeover", "discount_hunter", "indecisive"].map
    Text.ofString

namespace RunInput

variable (input : RunInput)

/-- The fields outside their bounds. -/
def invalidFields : List String :=
  let rate := fun r : Rat => decide (0 ≤ r ∧ r ≤ 0.25)
  [("event_count", decide (1 ≤ input.eventCount ∧ input.eventCount ≤ 100000)),
    ("duration_seconds", input.durationSeconds.all fun d => decide (1 ≤ d ∧ d ≤ 3600)),
    ("events_per_second", decide (1 ≤ input.eventsPerSecond ∧ input.eventsPerSecond ≤ 1000)),
    ("anomaly_rate", rate input.anomalyRate),
    ("duplicate_rate", rate input.duplicateRate),
    ("malformed_rate", rate input.malformedRate),
    ("notes", input.notes.all fun notes => decide (notes.length ≤ 500)),
    ("malformed_case", (malformedCases.lookup input.malformedCase).isSome)].filterMap fun field =>
      if field.2 then none else some field.1

/-- The entries of the distribution, or none. -/
def distribution : List (Text × Int) := (input.personaDistribution.map Dict.entries).getD []

/-- `validate_relationships`. -/
def relationshipError : Option String :=
  if input.durationSeconds.any fun d => decide (d * input.eventsPerSecond < input.eventCount) then
    some "event_count exceeds duration_seconds × events_per_second"
  else if input.scenarioType = .mixed then
    if input.distribution = [] ∨ (input.distribution.map Prod.snd).sum ≠ 100 then
      some "mixed persona percentages must total 100"
    else if (input.distribution.any fun entry => entry.1 ∉ allowedPersonas) ∨
        (input.distribution.any fun entry => entry.2 < 0 ∨ 100 < entry.2) then
      some "mixed persona distribution contains invalid values"
    else none
  else if input.personaDistribution.isSome then
    some "persona_distribution is only valid for mixed_traffic"
  else none

/-- The request with its values in their bounds. -/
def run : RunCreate where
  scenarioType := input.scenarioType
  eventCount := input.eventCount.toNat
  eventsPerSecond := input.eventsPerSecond.toNat
  seed := input.seed
  duplicateRate := input.duplicateRate
  malformedRate := input.malformedRate
  personaDistribution := input.personaDistribution.map fun d => d.entries.filterMap namedEntry
  transactionEnabled := input.transactionEnabled
  malformedCase := (malformedCases.lookup input.malformedCase).getD .malformedJson

/-- `RunCreate.model_validate`. -/
def validate : Except RequestError RunCreate :=
  if input.invalidFields = [] then
    match input.relationshipError with
    | none => .ok input.run
    | some message => .error (.relationship message)
  else .error (.fields input.invalidFields)

/-! ### scenario_runner.py -/

/-- `weight_string or GeneratorConfig().generator_persona_weights`. -/
def weightText : Text :=
  if input.distribution = [] then defaultWeightText
  else List.intercalate [0x2C] (input.distribution.map renderEntry)

/-- The `GeneratorConfig` that `_generate` constructs, unless its validators raise. -/
def generatorConfig (decimal : Nat → Option Nat) : Option GeneratorConfig :=
  (weightEntries decimal input.weightText).bind fun entries =>
    let config := { input.run.generatorConfig with personaWeights := entries }
    if config.Accepted then some config else none

end RunInput

/-! ### What the validators promise -/

theorem mem_allowedPersonas (name : Text) : name ∈ allowedPersonas ↔ name ∈ personaNames := by
  have listed : (∀ name ∈ allowedPersonas, name ∈ personaNames) ∧
      ∀ name ∈ personaNames, name ∈ allowedPersonas := by
    decide +kernel
  exact ⟨listed.1 name, listed.2 name⟩

/-- What holds of an accepted request. -/
structure RunInput.Valid (input : RunInput) : Prop where
  duplicateRate : 0 ≤ input.duplicateRate ∧ input.duplicateRate ≤ 0.25
  malformedRate : 0 ≤ input.malformedRate ∧ input.malformedRate ≤ 0.25
  mixed : input.scenarioType = .mixed →
    input.distribution ≠ [] ∧ (input.distribution.map Prod.snd).sum = 100 ∧
      ∀ entry ∈ input.distribution, Wellformed entry
  others : input.scenarioType ≠ .mixed → input.personaDistribution = none

theorem RunInput.validate_ok {input : RunInput} {request : RunCreate}
    (accepted : input.validate = .ok request) : input.run = request ∧ input.Valid := by
  unfold validate at accepted
  split at accepted
  case isFalse => cases accepted
  rename_i fields
  split at accepted
  case h_2 => cases accepted
  rename_i related
  obtain rfl := Except.ok.inj accepted
  simp only [invalidFields, List.filterMap_eq_nil_iff, List.mem_cons, List.not_mem_nil, or_false,
    forall_eq_or_imp, forall_eq, ite_eq_left_iff, reduceCtorEq, imp_false, Bool.not_eq_true,
    Bool.not_eq_false, decide_eq_true_eq] at fields
  obtain ⟨-, -, -, -, duplicateRate, malformedRate, -⟩ := fields
  refine ⟨rfl, duplicateRate, malformedRate, ?_, ?_⟩
  · intro mixed
    simp only [relationshipError, if_pos mixed] at related
    split at related
    · cases related
    split at related
    · cases related
    rename_i total
    split at related
    · cases related
    rename_i values
    obtain ⟨nonempty, total⟩ := not_or.mp total
    obtain ⟨names, bounds⟩ := not_or.mp values
    refine ⟨nonempty, not_not.mp total, fun entry mem => ⟨?_, ?_⟩⟩
    · by_contra unknown
      refine names (List.any_eq_true.mpr ⟨entry, mem, decide_eq_true ?_⟩)
      rwa [mem_allowedPersonas]
    · by_contra negative
      exact bounds (List.any_eq_true.mpr ⟨entry, mem, decide_eq_true (.inl (not_le.mp negative))⟩)
  · intro other
    simp only [relationshipError, if_neg other] at related
    split at related
    · cases related
    split at related
    · cases related
    · rename_i absent
      exact Option.not_isSome_iff_eq_none.mp absent

/-! ### The weights of an accepted request -/

section

variable {input : RunInput} (decimal : Nat → Option Nat)

theorem RunInput.Valid.known (valid : input.Valid) :
    ∀ entry ∈ input.distribution, Wellformed entry := by
  by_cases mixed : input.scenarioType = .mixed
  · exact (valid.mixed mixed).2.2
  · simp [distribution, valid.others mixed]

theorem namedEntry_wellformed {entry : Text × Int} (wellformed : Wellformed entry) :
    ∃ persona, personaNamed entry.1 = some persona ∧
      namedEntry entry = some (persona, entry.2.toNat) := by
  obtain ⟨persona, named⟩ := personaNamed_known wellformed.1
  refine ⟨persona, named, ?_⟩
  rw [namedEntry, named]
  rfl

theorem personaWeights_some {request : RunCreate} {entries : List (CustomerPersona × Nat)}
    (given : request.personaDistribution = some entries) (nonempty : entries ≠ []) :
    request.personaWeights = entries.map fun entry => (entry.1, .finite entry.2) := by
  unfold RunCreate.personaWeights
  rw [given]
  cases entries with
  | nil => exact absurd rfl nonempty
  | cons entry entries => rfl

/-- The text of the weights stands for the typed ones. -/
theorem RunInput.Valid.entries (valid : input.Valid) :
    weightEntries decimal input.weightText = some input.run.personaWeights := by
  unfold weightText
  cases given : input.personaDistribution with
  | none =>
    have absent : input.distribution = [] := by rw [distribution, given]; rfl
    rw [if_pos absent, weightEntries_default, RunCreate.personaWeights, run, given]
    rfl
  | some d =>
    have entries : input.distribution = d.entries := by rw [distribution, given]; rfl
    have typed : input.run.personaDistribution = some (d.entries.filterMap namedEntry) := by
      rw [run, given]
      rfl
    have known := valid.known
    rw [entries] at known ⊢
    split
    · rename_i none_
      rw [none_] at typed
      rw [weightEntries_default, RunCreate.personaWeights, typed]
      rfl
    · rename_i nonempty
      rw [weightEntries_join decimal nonempty known, personaWeights_some typed]
      obtain ⟨entry, mem⟩ := List.exists_mem_of_ne_nil _ nonempty
      obtain ⟨persona, -, named⟩ := namedEntry_wellformed (known entry mem)
      exact List.ne_nil_of_mem (List.mem_filterMap.mpr ⟨entry, mem, named⟩)

/-- The settings that go through the text are the typed ones, if these are accepted. -/
theorem RunInput.Valid.generatorConfig_eq (valid : input.Valid) :
    input.generatorConfig decimal =
      if input.run.generatorConfig.Accepted then some input.run.generatorConfig else none := by
  rw [RunInput.generatorConfig, valid.entries, Option.bind_some]
  rfl

/-! ### When the settings are accepted -/

/-- The distribution gives every persona a percentage. -/
def RunInput.NamesEvery (input : RunInput) : Prop :=
  ∀ name ∈ personaNames, name ∈ input.distribution.map Prod.fst

instance (input : RunInput) : Decidable input.NamesEvery :=
  inferInstanceAs (Decidable (∀ name ∈ personaNames, name ∈ input.distribution.map Prod.fst))

theorem personaNamed_injective {name name' : Text} {persona : CustomerPersona}
    (first : personaNamed name = some persona) (second : personaNamed name' = some persona) :
    name = name' := by
  have unique : ∀ name ∈ personaNames, ∀ name' ∈ personaNames,
      personaNamed name = personaNamed name' → name = name' := by
    decide +kernel
  exact unique name (personaNamed_mem first) name' (personaNamed_mem second)
    (first.trans second.symm)

/-- Numbers are parsed if every persona has one, none is negative and their sum is positive. -/
theorem parsePersonaWeights_nat {entries : List (CustomerPersona × Nat)}
    (once : (entries.map Prod.fst).Nodup) (positive : 0 < (entries.map Prod.snd).sum) :
    (parsePersonaWeights (entries.map fun entry => (entry.1, .finite entry.2))).isSome = true ↔
      ∀ persona, persona ∈ entries.map Prod.fst := by
  let weights : List (CustomerPersona × Rat) := entries.map fun entry => (entry.1, (entry.2 : Rat))
  have same : (entries.map fun entry => (entry.1, PyFloat.finite entry.2)) =
      weights.map fun entry => (entry.1, PyFloat.finite entry.2) := by
    simp [weights]
  have names : (weights.map fun entry => (entry.1, PyFloat.finite entry.2)).map Prod.fst =
      entries.map Prod.fst := by
    simp [weights]
  have nonneg : ((weights.map fun entry => (entry.1, PyFloat.finite entry.2)).any
      fun entry => entry.2.isNegative) = false := by
    simp [weights, PyFloat.isNegative]
  have total : 0 < (weights.map Prod.snd).sum := by
    have cast : (weights.map Prod.snd).sum = ((entries.map Prod.snd).sum : Nat) := by
      simp [weights, Nat.cast_list_sum, Function.comp_def]
    rw [cast]
    exact_mod_cast positive
  have every : (∀ persona, persona ∈ entries.map Prod.fst) ↔
      (Generator.personas.any fun persona => decide (persona ∉ entries.map Prod.fst)) = false := by
    rw [List.any_eq_false]
    constructor
    · intro all persona _
      simpa using all persona
    · intro listed persona
      have mem : persona ∈ Generator.personas := by cases persona <;> decide
      simpa using listed persona mem
  rw [same, parsePersonaWeights]
  simp only [names, nonneg, foldl_add_finite, zero_add, PyFloat.isNonpositive, not_le.mpr total,
    decide_false, once, not_true_eq_false, Bool.false_eq_true, or_false, if_false, every]
  cases Generator.personas.any fun persona => decide (persona ∉ entries.map Prod.fst) <;> simp

theorem mem_typed {entries : List (Text × Int)} {persona : CustomerPersona} :
    persona ∈ (entries.filterMap namedEntry).map Prod.fst ↔
      ∃ entry ∈ entries, personaNamed entry.1 = some persona := by
  constructor
  · intro mem
    obtain ⟨typed, inTyped, rfl⟩ := List.mem_map.mp mem
    obtain ⟨entry, inEntries, named⟩ := List.mem_filterMap.mp inTyped
    obtain ⟨persona, found, rfl⟩ := Option.map_eq_some_iff.mp named
    exact ⟨entry, inEntries, found⟩
  · rintro ⟨entry, inEntries, found⟩
    have typed : namedEntry entry = some (persona, entry.2.toNat) := by
      rw [namedEntry, found]
      rfl
    exact List.mem_map.mpr
      ⟨(persona, entry.2.toNat), List.mem_filterMap.mpr ⟨entry, inEntries, typed⟩, rfl⟩

theorem typed_nodup {entries : List (Text × Int)} (once : (entries.map Prod.fst).Nodup) :
    ((entries.filterMap namedEntry).map Prod.fst).Nodup := by
  induction entries with
  | nil => exact List.nodup_nil
  | cons entry entries ih =>
    obtain ⟨fresh, once⟩ := List.nodup_cons.mp once
    cases named : personaNamed entry.1 with
    | none =>
      rw [List.filterMap_cons_none (by rw [namedEntry, named]; rfl)]
      exact ih once
    | some persona =>
      rw [List.filterMap_cons_some (b := (persona, entry.2.toNat)) (by rw [namedEntry, named]; rfl)]
      refine List.nodup_cons.mpr ⟨?_, ih once⟩
      intro again
      obtain ⟨other, mem, same⟩ := mem_typed.mp again
      exact fresh (personaNamed_injective named same ▸ List.mem_map_of_mem mem)

theorem typed_sum {entries : List (Text × Int)} (known : ∀ entry ∈ entries, Wellformed entry) :
    (((entries.filterMap namedEntry).map Prod.snd).sum : Int) = (entries.map Prod.snd).sum := by
  induction entries with
  | nil => rfl
  | cons entry entries ih =>
    have wellformed := known entry List.mem_cons_self
    obtain ⟨persona, -, named⟩ := namedEntry_wellformed wellformed
    have rest := ih fun other mem => known other (List.mem_cons_of_mem entry mem)
    rw [List.filterMap_cons_some named, List.map_cons, List.sum_cons, List.map_cons, List.sum_cons,
      Nat.cast_add, rest, Int.toNat_of_nonneg wellformed.2]

/-- The names of a distribution are the names of its typed entries. -/
theorem namesEvery_iff : input.NamesEvery ↔
    ∀ persona, persona ∈ (input.distribution.filterMap namedEntry).map Prod.fst := by
  constructor
  · intro names persona
    have named : ∃ name ∈ personaNames, personaNamed name = some persona := by
      cases persona <;> decide +kernel
    obtain ⟨name, known, found⟩ := named
    obtain ⟨entry, mem, rfl⟩ := List.mem_map.mp (names name known)
    exact mem_typed.mpr ⟨entry, mem, found⟩
  · intro every name known
    obtain ⟨persona, found⟩ := personaNamed_known known
    obtain ⟨entry, mem, same⟩ := mem_typed.mp (every persona)
    exact List.mem_map.mpr ⟨entry, mem, personaNamed_injective same found⟩

/-- The weights are parsed, unless a distribution leaves a persona out. -/
theorem RunInput.Valid.weights_iff (valid : input.Valid) :
    (parsePersonaWeights input.run.personaWeights).isSome = true ↔
      (input.scenarioType = .mixed → input.NamesEvery) := by
  by_cases mixed : input.scenarioType = .mixed
  · obtain ⟨nonempty, total, known⟩ := valid.mixed mixed
    cases given : input.personaDistribution with
    | none => simp [RunInput.distribution, given] at nonempty
    | some d =>
      have entries : input.distribution = d.entries := by rw [RunInput.distribution, given]; rfl
      have typed : input.run.personaDistribution = some (d.entries.filterMap namedEntry) := by
        rw [RunInput.run, given]
        rfl
      have sum := typed_sum known
      rw [total] at sum
      rw [entries] at sum
      have some_ : d.entries.filterMap namedEntry ≠ [] := by
        intro none_
        rw [none_] at sum
        cases sum
      rw [personaWeights_some typed some_,
        parsePersonaWeights_nat (typed_nodup d.nodupKeys) (by omega), namesEvery_iff, entries]
      exact ⟨fun every _ => every, fun every => every mixed⟩
  · have absent := valid.others mixed
    rw [RunCreate.personaWeights, RunInput.run, absent]
    have parsed : (parsePersonaWeights defaultPersonaWeights).isSome = true := by decide +kernel
    exact iff_of_true parsed fun mixed' => absurd mixed' mixed

theorem unit_ite (c : Prop) [Decidable c] {p : Rat} (unit : 0 ≤ p ∧ p ≤ 1) :
    0 ≤ (if c then 1 else p) ∧ (if c then 1 else p) ≤ 1 := by
  split
  · norm_num
  · exact unit

/-- Whatever else `_generate` sets is within its bounds. -/
theorem RunInput.Valid.accepted_iff (valid : input.Valid) :
    input.run.generatorConfig.Accepted ↔
      (parsePersonaWeights input.run.personaWeights).isSome = true := by
  constructor
  · intro accepted
    exact accepted.personaWeights
  · intro weights
    have zero : (0 : Rat) ≤ 0 ∧ (0 : Rat) ≤ 1 := by norm_num
    have quarter : ∀ {r : Rat}, 0 ≤ r ∧ r ≤ 0.25 → 0 ≤ r ∧ r ≤ 1 := by
      intro r bounds
      exact ⟨bounds.1, bounds.2.trans (by norm_num)⟩
    refine {
      maxProductViews := show 0 < 20 ∧ 20 ≤ 100 by decide
      customerPoolSize := show 0 < 100 ∧ 100 ≤ 100000 by decide
      maxPaymentAttempts := show 1 ≤ 3 ∧ 3 ≤ 10 by decide
      maxLateEventSeconds := show 0 < 86400 ∧ 86400 ≤ 2592000 by decide
      maxAnomaliesPerJourney := show 2 ≤ 20 by decide
      probabilities := ?_
      personaWeights := weights }
    intro p mem
    simp only [GeneratorConfig.probabilities, RunCreate.generatorConfig,
      RunCreate.malformedProbability, List.mem_cons, List.not_mem_nil, or_false] at mem
    rcases mem with rfl | rfl | rfl | rfl | rfl | rfl | rfl | rfl | rfl | rfl | rfl | rfl | rfl
    · exact unit_ite _ zero
    · exact unit_ite _ zero
    · norm_num
    · exact unit_ite _ zero
    · norm_num
    · norm_num
    · exact unit_ite _ (quarter valid.duplicateRate)
    · exact unit_ite _ (quarter valid.malformedRate)
    · exact unit_ite _ zero
    · exact unit_ite _ zero
    · exact zero
    · exact zero
    · exact unit_ite _ zero

/-- The settings of an accepted request pass their validators, unless the request is for mixed
traffic and its distribution leaves a persona out. -/
theorem config_accepted_iff {request : RunCreate} (accepted : input.validate = .ok request) :
    (input.generatorConfig decimal).isSome = true ↔
      (request.scenarioType = .mixed → input.NamesEvery) := by
  obtain ⟨rfl, valid⟩ := RunInput.validate_ok accepted
  have same : input.run.generatorConfig.Accepted ↔
      (input.run.scenarioType = .mixed → input.NamesEvery) :=
    valid.accepted_iff.trans valid.weights_iff
  rw [valid.generatorConfig_eq, ← same]
  split
  · rename_i holds
    simp [holds]
  · rename_i fails
    simp [fails]

/-- Every persona has its percentage. -/
def balancedInput : RunInput where
  scenarioType := .mixed
  personaDistribution := some
    { entries := [("normal", 50), ("indecisive", 10), ("discount_hunter", 10), ("suspicious", 10),
        ("bot", 10), ("account_takeover", 10)].map fun entry => (Text.ofString entry.1, entry.2)
      nodupKeys := by decide +kernel }

theorem config_accepted_iff_balanced :
    balancedInput.validate = .ok balancedInput.run ∧
      (balancedInput.generatorConfig fun _ => none).isSome = true := by
  have accepted : balancedInput.validate = .ok balancedInput.run := by decide +kernel
  refine ⟨accepted, ?_⟩
  exact (config_accepted_iff (fun _ => none) accepted).mpr fun _ => by decide +kernel

/-- All of the traffic is normal, and no other persona is named. -/
def normalInput : RunInput where
  scenarioType := .mixed
  personaDistribution := some
    { entries := [(Text.ofString "normal", 100)], nodupKeys := by decide }

theorem not_config_accepted :
    ¬ ∀ (decimal : Nat → Option Nat) (input : RunInput) (request : RunCreate),
      input.validate = .ok request → (input.generatorConfig decimal).isSome = true := by
  intro claim
  have built := claim (fun _ => none) normalInput normalInput.run (by decide +kernel)
  revert built
  decide +kernel

end

end CommercePlatform.Demo
