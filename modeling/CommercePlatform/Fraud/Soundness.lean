import Mathlib.Algebra.Order.BigOperators.Group.List
import Mathlib.Algebra.BigOperators.Group.List.Basic
import CommercePlatform.Fraud.Rules
import CommercePlatform.Persistence.Statements

/-!
Soundness and monotonicity of the fraud engine.

With exact decimal arithmetic no rule raises, so the results of an evaluation are a map
over the rules that support the event (`evaluate_ok`). Everything the engine says of an
evaluation then depends on the collection of the matched results only: it does not see
the order of the rules, and more rules can only add to it.
-/

namespace CommercePlatform.Fraud

open Contract Persistence

/-! ### Rules -/

/-- A rule's result: its score is within the rule's maximum, and a rule that does not match
scores nothing at the lowest severity. -/
structure FraudRuleResult.Within (rule : FraudRule) (r : FraudRuleResult) : Prop where
  ruleId : r.ruleId = rule.ruleId
  nonneg : 0 ≤ r.score
  maximum : r.score ≤ rule.maximumScore
  unmatched : r.isMatched = false → r.score = 0 ∧ r.severity = .low

/-- The rule does not raise, and its result is within its bounds. -/
def FraudRule.Sound (rule : FraudRule) (context : FraudContext) : Prop :=
  ∃ r, rule.evaluate context = .ok r ∧ r.Within rule

theorem result_within {rule : FraudRule} {context : FraudContext} {isMatched : Bool} {score : Nat}
    {severity : FraudSeverity} {reasonCode explanation : String}
    {evidence : List (String × EvidenceValue)} (most : score ≤ rule.maximumScore) :
    (result context rule.ruleId isMatched score severity reasonCode explanation evidence).Within
      rule := by
  constructor
  · rfl
  · simp only [result]
    split <;> omega
  · simp only [result]
    split <;> omega
  · intro quiet
    obtain rfl : isMatched = false := quiet
    exact ⟨rfl, rfl⟩

section

variable (config : FraudConfig) (context : FraudContext)

theorem deviates_exact :
    ∃ deviation, deviates Arithmetic.exact.toDecimalContext config context = .ok deviation := by
  unfold deviates
  split
  · split
    · exact ⟨_, rfl⟩
    · exact ⟨_, rfl⟩
  · exact ⟨_, rfl⟩

theorem nearFull_exact :
    ∃ full, nearFull Arithmetic.exact.toDecimalContext config context = .ok full := by
  unfold nearFull
  split
  · split
    · exact ⟨_, rfl⟩
    · exact ⟨_, rfl⟩
  · exact ⟨_, rfl⟩

/-- Each of the ten rules is sound in exact arithmetic. -/
theorem allRules_sound :
    ∀ rule ∈ allRules Arithmetic.exact.toDecimalContext config, rule.Sound context := by
  obtain ⟨deviation, deviates_⟩ := deviates_exact config context
  obtain ⟨full, nearFull_⟩ := nearFull_exact config context
  simp only [allRules, List.mem_cons, List.not_mem_nil, or_false]
  rintro rule (rfl | rfl | rfl | rfl | rfl | rfl | rfl | rfl | rfl | rfl)
  · refine ⟨_, by simp only [highAmountRule, deviates_]; rfl, ?_⟩
    refine @result_within (highAmountRule Arithmetic.exact.toDecimalContext config)
      _ _ _ _ _ _ _ ?_
    simp only [highAmountRule]
    omega
  · exact ⟨_, rfl, @result_within (paymentVelocityRule config) _ _ _ _ _ _ _ le_rfl⟩
  · exact ⟨_, rfl, @result_within (failedPaymentBurstRule config) _ _ _ _ _ _ _ le_rfl⟩
  · exact ⟨_, rfl, @result_within (newDeviceRule config) _ _ _ _ _ _ _ le_rfl⟩
  · refine ⟨_, rfl, @result_within (countryMismatchRule config) _ _ _ _ _ _ _ ?_⟩
    simp only [countryMismatchRule]
    omega
  · exact ⟨_, rfl, @result_within (rapidCheckoutRule config) _ _ _ _ _ _ _ le_rfl⟩
  · refine ⟨_, by simp only [accountTakeoverCompositeRule, deviates_]; rfl, ?_⟩
    exact @result_within (accountTakeoverCompositeRule Arithmetic.exact.toDecimalContext config)
      _ _ _ _ _ _ _ le_rfl
  · refine ⟨_, by simp only [refundAbuseRule, nearFull_]; rfl, ?_⟩
    exact @result_within (refundAbuseRule Arithmetic.exact.toDecimalContext config)
      _ _ _ _ _ _ _ le_rfl
  · exact ⟨_, rfl, @result_within (botCheckoutRule config) _ _ _ _ _ _ _ le_rfl⟩
  · exact ⟨_, rfl, @result_within (paymentAmountMismatchRule config) _ _ _ _ _ _ _ le_rfl⟩

end

/-! ### The aggregation -/

/-- The floor a decision puts under the severity. -/
def severityFloor : FraudDecision → FraudSeverity
  | .approve => .low
  | .review => .medium
  | .block => .high

def decisionOrder : FraudDecision → Nat
  | .approve => 0
  | .review => 1
  | .block => 2

/-- The decision for a score. -/
def decisionOf (config : FraudConfig) (score : Int) : FraudDecision :=
  if config.blockThreshold ≤ score then .block
  else if config.reviewThreshold ≤ score then .review
  else .approve

theorem decisionOf_iff (config : FraudConfig) (score : Int) :
    (decisionOf config score = .block ↔ config.blockThreshold ≤ score) ∧
      (decisionOf config score = .review ↔
        config.reviewThreshold ≤ score ∧ score < config.blockThreshold) ∧
      (decisionOf config score = .approve ↔
        score < config.reviewThreshold ∧ score < config.blockThreshold) := by
  unfold decisionOf
  split
  · simp only [reduceCtorEq, true_iff, false_iff]
    omega
  · split
    · simp only [reduceCtorEq, true_iff, false_iff]
      omega
    · simp only [reduceCtorEq, true_iff, false_iff]
      omega

/-- The score of the results. -/
def scoreOf (results : List FraudRuleResult) : Int :=
  min 100 ((results.filter (·.isMatched)).map (·.score)).sum

/-- The severities that count: the floor of the decision and those of the matched results. -/
def countedSeverities (config : FraudConfig) (results : List FraudRuleResult) : List FraudSeverity :=
  severityFloor (decisionOf config (scoreOf results)) ::
    (results.filter (·.isMatched)).map (·.severity)

/-- `s` is the greatest of the severities. -/
def Greatest (s : FraudSeverity) (severities : List FraudSeverity) : Prop :=
  s ∈ severities ∧ ∀ other ∈ severities, other.order ≤ s.order

theorem FraudSeverity.order_injective {a b : FraudSeverity} (same : a.order = b.order) : a = b := by
  cases a <;> cases b <;> first | rfl | cases same

theorem Greatest.unique {a b : FraudSeverity} {severities severities' : List FraudSeverity}
    (first : Greatest a severities) (second : Greatest b severities')
    (same : ∀ s, s ∈ severities ↔ s ∈ severities') : a = b :=
  FraudSeverity.order_injective (Nat.le_antisymm (second.2 a ((same a).mp first.1))
    (first.2 b ((same b).mpr second.1)))

theorem maxSeverity_greatest (minimum : FraudSeverity) (r : FraudRuleResult)
    (rest : List FraudRuleResult) :
    Greatest (maxSeverity minimum (r :: rest)) ((r :: rest).map (·.severity)) := by
  have fold : ∀ (rest : List FraudRuleResult) (s : FraudSeverity), Greatest
      (rest.foldl (fun s r => if s.order < r.severity.order then r.severity else s) s)
      (s :: rest.map (·.severity)) := by
    intro rest
    induction rest with
    | nil => exact fun s => ⟨List.mem_cons_self, by simp⟩
    | cons r rest ih =>
      intro s
      obtain ⟨mem, greatest⟩ := ih (if s.order < r.severity.order then r.severity else s)
      have head := greatest _ List.mem_cons_self
      have later : ∀ o ∈ rest.map (·.severity), o.order ≤ _ :=
        fun o ho => greatest o (List.mem_cons_of_mem _ ho)
      constructor
      · rw [List.foldl_cons]
        rcases List.mem_cons.mp mem with same | mem
        · rw [same]
          split
          · exact List.mem_cons_of_mem _ List.mem_cons_self
          · exact List.mem_cons_self
        · exact List.mem_cons_of_mem _ (List.mem_cons_of_mem _ mem)
      · intro other mem_
        rw [List.foldl_cons]
        simp only [List.map_cons, List.mem_cons] at mem_
        rcases mem_ with rfl | rfl | mem_
        · refine Nat.le_trans ?_ head
          split <;> omega
        · refine Nat.le_trans ?_ head
          split <;> omega
        · exact later other mem_
  exact fold rest r.severity

/-- What `aggregate` gives for results that are not negative. -/
theorem aggregate_ok {config : FraudConfig} {results : List FraudRuleResult}
    (nonneg : ∀ r ∈ results, 0 ≤ r.score) :
    ∃ severity, Greatest severity (countedSeverities config results) ∧
      aggregate results config =
        .ok (scoreOf results, decisionOf config (scoreOf results), severity) := by
  have none_ : results.any (·.score < 0) = false := by
    rw [List.any_eq_false]
    intro r mem negative
    have := nonneg r mem
    simp only [decide_eq_true_eq] at negative
    omega
  let minimum := severityFloor (decisionOf config (scoreOf results))
  let hits := results.filter (·.isMatched)
  refine ⟨if (maxSeverity minimum hits).order < minimum.order then minimum
    else maxSeverity minimum hits, ?_, ?_⟩
  · unfold Greatest countedSeverities
    cases matched : results.filter (·.isMatched) with
    | nil =>
      simp only [hits, matched, maxSeverity, lt_self_iff_false, if_false, List.map_nil,
        List.mem_singleton]
      exact ⟨rfl, fun other same => by rw [same]⟩
    | cons r rest =>
      obtain ⟨mem, greatest⟩ := maxSeverity_greatest minimum r rest
      simp only [hits, matched]
      split
      · rename_i below
        refine ⟨List.mem_cons_self, fun other mem_ => ?_⟩
        rcases List.mem_cons.mp mem_ with rfl | mem_
        · exact Nat.le_refl _
        · exact Nat.le_trans (greatest other mem_) (Nat.le_of_lt below)
      · rename_i above
        refine ⟨List.mem_cons_of_mem _ mem, fun other mem_ => ?_⟩
        rcases List.mem_cons.mp mem_ with rfl | mem_
        · exact Nat.not_lt.mp above
        · exact greatest other mem_
  · simp only [aggregate, none_, Bool.false_eq_true, if_false, minimum, hits]
    unfold decisionOf scoreOf
    split
    · rfl
    · split <;> rfl

/-! ### The engine -/

/-- The result of a rule that does not raise. -/
def FraudRule.outcome (context : FraudContext) (rule : FraudRule) : FraudRuleResult :=
  match rule.evaluate context with
  | .ok r => r
  | .error _ => result context rule.ruleId false 0 .low "" "" []

theorem FraudRule.Sound.outcome {rule : FraudRule} {context : FraudContext}
    (sound : rule.Sound context) :
    rule.apply context = .ok (rule.outcome context) ∧ (rule.outcome context).Within rule := by
  obtain ⟨r, evaluated, within⟩ := sound
  have same : rule.outcome context = r := by simp [FraudRule.outcome, evaluated]
  rw [same]
  refine ⟨?_, within⟩
  simp only [FraudRule.apply, evaluated]
  rw [if_neg (not_lt.mpr within.maximum)]

/-- The rules that support the event of the context. -/
def supporting (context : FraudContext) (rules : List FraudRule) : List FraudRule :=
  rules.filter fun rule => context.eventType ∈ rule.supportedEventTypes

def outcomes (context : FraudContext) (rules : List FraudRule) : List FraudRuleResult :=
  (supporting context rules).map (FraudRule.outcome context)

theorem mapM_map {α β ε : Type} {f : α → Except ε β} {g : α → β} {l : List α}
    (ok : ∀ a ∈ l, f a = .ok (g a)) : l.mapM f = .ok (l.map g) := by
  induction l with
  | nil => rfl
  | cons a l ih =>
    rw [List.mapM_cons, ok a List.mem_cons_self, ih fun b mem => ok b (List.mem_cons_of_mem a mem)]
    rfl

/-- What the engine says of a list of results. -/
structure Judged (config : FraudConfig) (results : List FraudRuleResult)
    (evaluation : FraudEvaluation) : Prop where
  ruleResults : evaluation.ruleResults = results
  score : evaluation.totalScore = scoreOf results
  decision : evaluation.decision = decisionOf config (scoreOf results)
  severity : Greatest evaluation.severity (countedSeverities config results)

section

variable {config : FraudConfig} {context : FraudContext} {rules rules' : List FraudRule}

theorem outcomes_nonneg (sound : ∀ rule ∈ rules, rule.Sound context) :
    ∀ r ∈ outcomes context rules, 0 ≤ r.score := by
  intro r mem
  obtain ⟨rule, supported_, rfl⟩ := List.mem_map.mp mem
  exact (sound rule (List.mem_filter.mp supported_).1).outcome.2.nonneg

/-- Sound rules are evaluated without raising. -/
theorem evaluate_ok (rt : Runtime) (config : FraudConfig)
    (sound : ∀ rule ∈ rules, rule.Sound context) :
    ∃ evaluation, evaluate rt config rules context = .ok evaluation ∧
      Judged config (outcomes context rules) evaluation := by
  have results : (supporting context rules).mapM (·.apply context) = .ok (outcomes context rules) :=
    mapM_map fun rule mem => (sound rule (List.mem_filter.mp mem).1).outcome.1
  obtain ⟨severity, greatest, aggregated⟩ :=
    @aggregate_ok config _ (outcomes_nonneg sound)
  simp only [evaluate]
  unfold supporting at results
  rw [results]
  simp only [bind, Except.bind, aggregated]
  exact ⟨_, rfl, rfl, rfl, rfl, greatest⟩

/-! ### More rules -/

theorem outcomes_perm (same : rules.Perm rules') :
    (outcomes context rules).Perm (outcomes context rules') :=
  (same.filter _).map _

theorem outcomes_subperm (more : rules.Subperm rules') :
    (outcomes context rules).Subperm (outcomes context rules') := by
  obtain ⟨kept, perm, sub⟩ := more
  exact ⟨outcomes context kept, outcomes_perm perm, (sub.filter _).map _⟩

theorem scoreOf_mono {results results' : List FraudRuleResult} (more : results.Subperm results')
    (nonneg : ∀ r ∈ results', 0 ≤ r.score) : scoreOf results ≤ scoreOf results' := by
  obtain ⟨kept, perm, sub⟩ := more
  have same : ((results.filter (·.isMatched)).map (·.score)).sum =
      ((kept.filter (·.isMatched)).map (·.score)).sum :=
    ((perm.symm.filter _).map _).sum_eq
  have grown : ((kept.filter (·.isMatched)).map (·.score)).sum ≤
      ((results'.filter (·.isMatched)).map (·.score)).sum := by
    refine ((sub.filter _).map _).sum_le_sum ?_
    intro score mem
    obtain ⟨r, matched, rfl⟩ := List.mem_map.mp mem
    exact nonneg r (List.mem_filter.mp matched).1
  unfold scoreOf
  omega

theorem decisionOf_mono (config : FraudConfig) {score score' : Int} (more : score ≤ score') :
    decisionOrder (decisionOf config score) ≤ decisionOrder (decisionOf config score') := by
  unfold decisionOf
  split
  · rw [if_pos (by omega)]
  · split
    · split
      · decide
      · rw [if_pos (by omega)]
    · exact Nat.zero_le _

theorem severityFloor_mono {decision decision' : FraudDecision}
    (more : decisionOrder decision ≤ decisionOrder decision') :
    (severityFloor decision).order ≤ (severityFloor decision').order := by
  revert more
  cases decision <;> cases decision' <;> decide

/-- More results never lower the verdict. -/
theorem Judged.mono {results results' : List FraudRuleResult}
    {evaluation evaluation' : FraudEvaluation} (judged : Judged config results evaluation)
    (judged' : Judged config results' evaluation') (more : results.Subperm results')
    (nonneg : ∀ r ∈ results', 0 ≤ r.score) :
    evaluation.totalScore ≤ evaluation'.totalScore ∧
      decisionOrder evaluation.decision ≤ decisionOrder evaluation'.decision ∧
      evaluation.severity.order ≤ evaluation'.severity.order := by
  have score := scoreOf_mono more nonneg
  have decision := decisionOf_mono config score
  refine ⟨by rw [judged.score, judged'.score]; exact score,
    by rw [judged.decision, judged'.decision]; exact decision, ?_⟩
  have counted := judged'.severity.2
  rcases List.mem_cons.mp judged.severity.1 with floor | matched
  · rw [floor]
    exact Nat.le_trans (severityFloor_mono decision) (counted _ List.mem_cons_self)
  · obtain ⟨r, hit, same⟩ := List.mem_map.mp matched
    obtain ⟨mem, isMatched⟩ := List.mem_filter.mp hit
    refine counted _ (List.mem_cons_of_mem _ (List.mem_map.mpr ⟨r, ?_, same⟩))
    exact List.mem_filter.mpr ⟨more.subset mem, isMatched⟩

/-- The verdict does not depend on the order of the results. -/
theorem Judged.perm {results results' : List FraudRuleResult}
    {evaluation evaluation' : FraudEvaluation} (judged : Judged config results evaluation)
    (judged' : Judged config results' evaluation') (same : results.Perm results') :
    (evaluation'.totalScore, evaluation'.decision, evaluation'.severity) =
      (evaluation.totalScore, evaluation.decision, evaluation.severity) := by
  have score : scoreOf results' = scoreOf results := by
    unfold scoreOf
    rw [((same.symm.filter _).map _).sum_eq]
  have severity : evaluation'.severity = evaluation.severity := by
    refine judged'.severity.unique judged.severity fun s => ?_
    unfold countedSeverities
    rw [score]
    exact (((same.symm.filter _).map _).cons _).mem_iff
  rw [judged.score, judged'.score, judged.decision, judged'.decision, severity, score]

/-! ### Soundness -/

/-- What an evaluation says: each result is of the rule that gave it and within its bounds,
the total is the clamped sum of the matched scores, the decision is read off the total, and
the severity is the greatest of the matched ones and of the floor of the decision. -/
structure EngineSound (config : FraudConfig) (context : FraudContext) (rules : List FraudRule)
    (evaluation : FraudEvaluation) : Prop where
  each : List.Forall₂ (fun rule r => FraudRuleResult.Within rule r) (supporting context rules)
    evaluation.ruleResults
  total : evaluation.totalScore = min 100 (evaluation.matchedRules.map (·.score)).sum
  range : 0 ≤ evaluation.totalScore ∧ evaluation.totalScore ≤ 100
  block : evaluation.decision = .block ↔ config.blockThreshold ≤ evaluation.totalScore
  review : evaluation.decision = .review ↔
    config.reviewThreshold ≤ evaluation.totalScore ∧ evaluation.totalScore < config.blockThreshold
  approve : evaluation.decision = .approve ↔
    evaluation.totalScore < config.reviewThreshold ∧ evaluation.totalScore < config.blockThreshold
  severity : Greatest evaluation.severity
    (severityFloor evaluation.decision :: evaluation.matchedRules.map (·.severity))

theorem Judged.engineSound {evaluation : FraudEvaluation}
    (judged : Judged config (outcomes context rules) evaluation)
    (sound : ∀ rule ∈ rules, rule.Sound context) :
    EngineSound config context rules evaluation := by
  have total : evaluation.totalScore = min 100 (evaluation.matchedRules.map (·.score)).sum := by
    rw [judged.score, FraudEvaluation.matchedRules, judged.ruleResults]
    rfl
  have nonneg : 0 ≤ (evaluation.matchedRules.map (·.score)).sum := by
    refine List.sum_nonneg fun score mem => ?_
    obtain ⟨r, matched, rfl⟩ := List.mem_map.mp mem
    have result_ := (List.mem_filter.mp matched).1
    rw [judged.ruleResults] at result_
    exact outcomes_nonneg sound r result_
  constructor
  · rw [judged.ruleResults, outcomes, List.forall₂_map_right_iff, List.forall₂_same]
    exact fun rule mem => (sound rule (List.mem_filter.mp mem).1).outcome.2
  · exact total
  · omega
  · rw [judged.decision, judged.score]
    exact (decisionOf_iff config _).1
  · rw [judged.decision, judged.score]
    exact (decisionOf_iff config _).2.1
  · rw [judged.decision, judged.score]
    exact (decisionOf_iff config _).2.2
  · have greatest := judged.severity
    unfold countedSeverities at greatest
    rwa [← judged.decision, ← judged.ruleResults] at greatest

/-- The rules a registry enables are among the ten. -/
theorem registry_sublist {arith : DecimalContext} {registry : List FraudRule}
    (constructs : buildRuleRegistry arith config = .ok registry) :
    registry.Sublist (allRules arith config) := by
  unfold buildRuleRegistry at constructs
  cases validated : validateRegistry (allRules arith config) config.enabledRuleIds with
  | error e => simp [validated, bind, Except.bind] at constructs
  | ok u =>
    simp only [validated, bind, Except.bind] at constructs
    cases constructs
    exact List.filter_sublist

end

/-- The engine constructs when the configuration is accepted and enables known rules. -/
theorem buildRuleRegistry_ok (arith : DecimalContext) {config : FraudConfig}
    (accepted : config.Accepted) (known : ∀ id ∈ config.enabledRuleIds, id ∈ defaultRules) :
    buildRuleRegistry arith config =
      .ok ((allRules arith config).filter (·.ruleId ∈ config.enabledRuleIds)) := by
  have ids : ((allRules arith config).map (·.ruleId)).Perm defaultRules := by
    simp only [allRules, List.map_cons, List.map_nil, highAmountRule, paymentVelocityRule,
      failedPaymentBurstRule, newDeviceRule, countryMismatchRule, rapidCheckoutRule,
      accountTakeoverCompositeRule, refundAbuseRule, botCheckoutRule, paymentAmountMismatchRule]
    decide
  have nodup : ((allRules arith config).map (·.ruleId)).Nodup :=
    ids.nodup_iff.mpr (by decide)
  have none_ : config.enabledRuleIds.filter (· ∉ (allRules arith config).map (·.ruleId)) = [] := by
    refine List.filter_eq_nil_iff.mpr fun id mem => ?_
    simpa using ids.mem_iff.mpr (known id mem)
  have scores : ¬ ∃ rule ∈ allRules arith config, rule.maximumScore < 0 ∨ 100 < rule.maximumScore := by
    have most := accepted.scores
    simp only [List.mem_cons, List.not_mem_nil, or_false, forall_eq_or_imp, forall_eq] at most
    simp only [allRules, List.mem_cons, List.not_mem_nil, or_false, exists_eq_or_imp,
      exists_eq_left, highAmountRule, paymentVelocityRule, failedPaymentBurstRule, newDeviceRule,
      countryMismatchRule, rapidCheckoutRule, accountTakeoverCompositeRule, refundAbuseRule,
      botCheckoutRule, paymentAmountMismatchRule]
    omega
  have valid : validateRegistry (allRules arith config) config.enabledRuleIds = .ok () := by
    simp only [validateRegistry, none_, nodup, scores]
    simp
  simp only [buildRuleRegistry, valid]
  rfl

/-- For every configuration for which the engine constructs and every context, with exact
decimal arithmetic: any of the enabled rules, in any order, are evaluated without raising
and soundly; another order of them gives the same score, decision and severity; and the
engine of a configuration that differs in the enabled rules, run on these rules and more,
gives no lower score, decision or severity. -/
theorem engine_sound (rt : Runtime) {config : FraudConfig} {registry : List FraudRule}
    (constructs : buildRuleRegistry Arithmetic.exact.toDecimalContext config = .ok registry)
    (context : FraudContext) {rules : List FraudRule} (enabled : rules.Subperm registry) :
    ∃ evaluation, evaluate rt config rules context = .ok evaluation ∧
      EngineSound config context rules evaluation ∧
      (∀ rules', rules'.Perm rules → ∃ evaluation',
        evaluate rt config rules' context = .ok evaluation' ∧
        (evaluation'.totalScore, evaluation'.decision, evaluation'.severity) =
          (evaluation.totalScore, evaluation.decision, evaluation.severity)) ∧
      ∀ enabledRuleIds registry' rules',
        buildRuleRegistry Arithmetic.exact.toDecimalContext { config with enabledRuleIds } =
          .ok registry' →
        rules'.Subperm registry' → rules.Subperm rules' →
        ∃ evaluation', evaluate rt { config with enabledRuleIds } rules' context = .ok evaluation' ∧
          evaluation.totalScore ≤ evaluation'.totalScore ∧
          decisionOrder evaluation.decision ≤ decisionOrder evaluation'.decision ∧
          evaluation.severity.order ≤ evaluation'.severity.order := by
  have all := allRules_sound config context
  have sound : ∀ rule ∈ rules, rule.Sound context :=
    fun rule mem => all rule ((registry_sublist constructs).subset (enabled.subset mem))
  obtain ⟨evaluation, evaluated, judged⟩ := evaluate_ok rt config sound
  refine ⟨evaluation, evaluated, judged.engineSound sound, ?_, ?_⟩
  · intro rules' same
    obtain ⟨evaluation', evaluated', judged'⟩ :=
      evaluate_ok rt config fun rule mem => sound rule (same.mem_iff.mp mem)
    exact ⟨evaluation', evaluated', judged.perm judged' (outcomes_perm same.symm)⟩
  · intro enabledRuleIds registry' rules' constructs' enabled' more
    -- The rules do not read which of them are enabled.
    have sound' : ∀ rule ∈ rules', rule.Sound context :=
      fun rule mem => all rule ((registry_sublist constructs').subset (enabled'.subset mem))
    obtain ⟨evaluation', evaluated', judged'⟩ :=
      evaluate_ok rt { config with enabledRuleIds } sound'
    have same : Judged config (outcomes context rules') evaluation' :=
      ⟨judged'.ruleResults, judged'.score, judged'.decision, judged'.severity⟩
    exact ⟨evaluation', evaluated', judged.mono same (outcomes_subperm more) (outcomes_nonneg sound')⟩

/-- A payment of 10 whose order has another total. -/
def mismatchContext : FraudContext where
  sourceEventId := .ofNat 1
  eventType := .paymentCompleted
  eventTime := 0
  customerId := .ofNat 2
  orderId := none
  paymentId := none
  sessionId := none
  amount := some 10
  currency := some .eur
  paymentStatus := some .completed
  paymentMethod := some .creditCard
  currentDevice := none
  currentCountry := none
  homeCountry := "TR"
  sessionStartedAt := none
  orderTime := none
  historicalAverageAmount := none
  recentPaymentAttempts := 0
  recentFailedPayments := 0
  recentFailureReasons := 0
  recentDistinctDevices := 0
  recentDistinctCountries := 0
  recentOrders := 0
  recentRefunds := 0
  lifetimeSuccessfulPayments := 0
  lifetimeFailedPayments := 0
  lifetimeSpend := 0
  refundableAmount := none
  previousSuccessfulDevices := []
  previousSuccessfulCountries := []
  productViewCount := 0
  refundAmount := none
  secondsSincePayment := none
  paymentAmountMatchesOrder := false

theorem defaultConfig_accepted : ({} : FraudConfig).Accepted := by
  constructor <;> decide +kernel

/-- The default engine blocks the payment. -/
theorem engine_sound_mismatch :
    ∃ evaluation, evaluate ⟨fun _ => "", id, fun space _ => space⟩ {}
        (allRules Arithmetic.exact.toDecimalContext {}) mismatchContext = .ok evaluation ∧
      evaluation.totalScore = 100 ∧ evaluation.decision = .block := by
  have constructs := buildRuleRegistry_ok Arithmetic.exact.toDecimalContext defaultConfig_accepted
    (by decide)
  have all : (allRules Arithmetic.exact.toDecimalContext {}).filter
      (·.ruleId ∈ ({} : FraudConfig).enabledRuleIds) =
        allRules Arithmetic.exact.toDecimalContext {} := by
    rfl
  rw [all] at constructs
  obtain ⟨evaluation, evaluated, sound, -⟩ :=
    engine_sound ⟨fun _ => "", id, fun space _ => space⟩ constructs mismatchContext (List.Subperm.refl _)
  have total : evaluation.totalScore = 100 := by
    have computed : (evaluate ⟨fun _ => "", id, fun space _ => space⟩ {}
        (allRules Arithmetic.exact.toDecimalContext {}) mismatchContext).toOption.map
          (·.totalScore) = some 100 := by decide +kernel
    rw [evaluated] at computed
    exact Option.some.inj computed
  exact ⟨evaluation, evaluated, total, sound.block.mpr (by rw [total]; decide)⟩

end CommercePlatform.Fraud
