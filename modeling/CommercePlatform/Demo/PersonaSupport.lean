import CommercePlatform.Demo.Requests
import CommercePlatform.Generator.Override

/-!
Which personas a run of mixed traffic has.

`_generate` always sets the probability of adding to the cart, and never to its default. A
builder without a fixed persona then leaves its weights alone, so that the traffic of every
mixed run is normal, whatever its distribution says.
-/

namespace CommercePlatform.Demo

open Contract Generator

/-- The percentage that the request gives to a persona. -/
def RunInput.percentage (input : RunInput) (persona : CustomerPersona) : Int :=
  ((input.distribution.find? fun entry => personaNamed entry.1 = some persona).map (·.2)).getD 0

/-- `random.random()`. -/
def IsRandom (source : Source) : Prop := ∀ i, 0 ≤ source.random i ∧ source.random i < 1

/-- The customers of a builder after any calls of `build`. -/
def ReachableStore (config : GeneratorConfig) (customers : Dict UUID CustomerState) : Prop :=
  ∃ rt source w journeys, IsRandom source ∧ Built rt source config (fun _ => True) w journeys ∧
    w.customers = customers

/-- The persona that `random.choices` selects, if a call of `_choose_persona` gets there. -/
def drawnPersona (source : Source) (config : GeneratorConfig) (w : World) :
    Option CustomerPersona :=
  if config.persona = none ∧ overridden config = false then weighted source config w else none

/-- The personas that are chosen are those with a positive percentage. -/
structure FollowsDistribution (input : RunInput) (config : GeneratorConfig) : Prop where
  supported : ∀ source w persona w', IsRandom source → ReachableStore config w.customers →
    choosePersona source config w = .ok (persona, w') →
      0 < input.percentage persona ∨ (persona = .normal ∧
        drawnPersona source config w = some .accountTakeover ∧ ¬ History w.customers)
  covered : ∀ w persona, ReachableStore config w.customers → 0 < input.percentage persona →
    (persona = .accountTakeover → History w.customers) →
      ∃ source w', IsRandom source ∧ choosePersona source config w = .ok (persona, w')

section

variable {input : RunInput} {request : RunCreate} {config : GeneratorConfig}

theorem isRandom_eager : IsRandom eagerSource := fun _ => ⟨le_rfl, zero_lt_one⟩

theorem reachableStore_start : ReachableStore config ∅ :=
  ⟨hashRuntime, eagerSource, {}, [], isRandom_eager, .start, rfl⟩

/-- The settings of mixed traffic name no persona and override the branch controls. -/
theorem mixed_overrides (mixed : input.scenarioType = .mixed) :
    Overrides input.run.generatorConfig := by
  have persona : input.run.generatorConfig.persona = none := by
    show personaMap input.scenarioType = none
    rw [mixed]
    rfl
  refine ⟨persona, decide_eq_true (.inr (.inl ?_))⟩
  show (if input.transactionEnabled then 1 else 0 : Rat) ≠ 0.55
  split <;> norm_num

/-- With transactions somebody can get the history that a takeover needs, without them nobody. -/
theorem history_iff (mixed : input.scenarioType = .mixed) :
    (∃ customers, ReachableStore input.run.generatorConfig customers ∧ History customers) ↔
      input.transactionEnabled = true := by
  constructor
  · rintro ⟨customers, ⟨rt, source, w, journeys, random, built, rfl⟩, state, member, history⟩
    by_contra disabled
    have never : input.run.generatorConfig.addToCartProbability = 0 := if_neg disabled
    have idle := built.idle (mixed_overrides mixed) never (fun i => (random i).1) state member
    rw [idle.history] at history
    cases history
  · intro enabled
    have buys : input.run.generatorConfig = buyingConfig input.run.generatorConfig := by
      simp only [RunCreate.generatorConfig, buyingConfig, RunInput.run, mixed, enabled, personaMap,
        if_true, reduceCtorEq, if_false]
    obtain ⟨result, w, ran, history⟩ := buying_history input.run.generatorConfig
    rw [← buys] at ran
    exact ⟨w.customers, ⟨hashRuntime, eagerSource, w, _, isRandom_eager,
      .journey .start trivial ran, rfl⟩, history⟩

/-- The traffic of a mixed run has the personas of its distribution if and only if the normal
persona has a percentage and no other has one, but for takeovers where transactions are
disabled and no account can be taken over. -/
theorem distribution_followed_iff (decimal : Nat → Option Nat)
    (accepted : input.validate = .ok request) (mixed : request.scenarioType = .mixed)
    (configured : input.generatorConfig decimal = some config) :
    FollowsDistribution input config ↔
      0 < input.percentage .normal ∧ ∀ persona, persona ≠ .normal → 0 < input.percentage persona →
        persona = .accountTakeover ∧ input.transactionEnabled = false := by
  obtain ⟨rfl, valid⟩ := RunInput.validate_ok accepted
  rw [valid.generatorConfig_eq, Option.ite_none_right_eq_some] at configured
  simp only [Option.some.injEq] at configured
  obtain ⟨-, rfl⟩ := configured
  have overrides := mixed_overrides mixed
  have never_drawn : ∀ source w, drawnPersona source input.run.generatorConfig w = none := by
    intro source w
    rw [drawnPersona, if_neg]
    rintro ⟨-, kept⟩
    rw [overrides.2] at kept
    cases kept
  have only_normal : ∀ {source w persona w'},
      choosePersona source input.run.generatorConfig w = .ok (persona, w') → persona = .normal := by
    intro source w persona w' chosen
    rw [choosePersona_overridden overrides] at chosen
    cases chosen
    rfl
  constructor
  · rintro ⟨supported, covered⟩
    constructor
    · rcases supported eagerSource {} .normal {} isRandom_eager reachableStore_start
        (choosePersona_overridden overrides {}) with positive | ⟨-, drawn, -⟩
      · exact positive
      · rw [never_drawn] at drawn
        cases drawn
    · intro persona other positive
      -- A persona that could be chosen would be the normal one.
      have absent : ¬ ∃ w : World, ReachableStore input.run.generatorConfig w.customers ∧
          (persona = .accountTakeover → History w.customers) := by
        rintro ⟨w, reachable, history⟩
        obtain ⟨source, w', -, chosen⟩ := covered w persona reachable positive history
        exact other (only_normal chosen)
      have takeover : persona = .accountTakeover := by
        by_contra plain
        exact absent ⟨{}, reachableStore_start, fun same => absurd same plain⟩
      refine ⟨takeover, ?_⟩
      by_contra enabled
      obtain ⟨customers, reachable, history⟩ :=
        (history_iff mixed).mpr (Bool.eq_true_of_not_eq_false enabled)
      exact absent ⟨{ customers }, reachable, fun _ => history⟩
  · rintro ⟨positive, others⟩
    constructor
    · intro source w persona w' random reachable chosen
      rw [only_normal chosen]
      exact .inl positive
    · intro w persona reachable asked history
      by_cases normal : persona = .normal
      · rw [normal]
        exact ⟨eagerSource, w, isRandom_eager, choosePersona_overridden overrides w⟩
      · obtain ⟨takeover, disabled⟩ := others persona normal asked
        have enabled := (history_iff mixed).mp ⟨w.customers, reachable, history takeover⟩
        rw [disabled] at enabled
        cases enabled

end

/-- Every customer is normal, and the other personas are named. -/
def plainInput : RunInput where
  scenarioType := .mixed
  personaDistribution := some
    { entries := [("normal", 100), ("indecisive", 0), ("discount_hunter", 0), ("suspicious", 0),
        ("bot", 0), ("account_takeover", 0)].map fun entry => (Text.ofString entry.1, entry.2)
      nodupKeys := by decide +kernel }

theorem distribution_followed_iff_plain :
    FollowsDistribution plainInput plainInput.run.generatorConfig := by
  have accepted : plainInput.validate = .ok plainInput.run := by decide +kernel
  have configured : plainInput.generatorConfig (fun _ => none) =
      some plainInput.run.generatorConfig := by
    rw [(RunInput.validate_ok accepted).2.generatorConfig_eq, if_pos (by decide +kernel)]
  refine (distribution_followed_iff (fun _ => none) accepted rfl configured).mpr
    ⟨by decide +kernel, ?_⟩
  intro persona other positive
  cases persona with
  | normal => exact absurd rfl other
  | indecisive | discountHunter | suspicious | bot | accountTakeover =>
    exact absurd positive (by decide +kernel)

/-- The distribution asks for bots, and none is ever chosen. -/
theorem not_distribution_followed :
    ¬ ∀ (decimal : Nat → Option Nat) (input : RunInput) (request : RunCreate)
      (config : GeneratorConfig), input.validate = .ok request → request.scenarioType = .mixed →
      input.generatorConfig decimal = some config → FollowsDistribution input config := by
  intro claim
  have accepted : balancedInput.validate = .ok balancedInput.run := by decide +kernel
  have configured : balancedInput.generatorConfig (fun _ => none) =
      some balancedInput.run.generatorConfig := by
    rw [(RunInput.validate_ok accepted).2.generatorConfig_eq, if_pos (by decide +kernel)]
  obtain ⟨-, covered⟩ := claim (fun _ => none) balancedInput _ _ accepted rfl configured
  obtain ⟨source, w', -, chosen⟩ :=
    covered {} .bot reachableStore_start (by decide +kernel) CustomerPersona.noConfusion
  rw [choosePersona_overridden (mixed_overrides rfl)] at chosen
  cases chosen

end CommercePlatform.Demo
