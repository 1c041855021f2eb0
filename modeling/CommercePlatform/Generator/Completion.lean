import CommercePlatform.Generator.CausalValidity
import CommercePlatform.Generator.Stages

/-!
When a call of `build` returns.

The stages of a journey return (`Stages`), and so does the commit: a new customer was selected
while the pool had room, and the activity of an old one moves on. What is left is the
selection. A journey is `Served` when it has a persona, which weights that are not numbers
never select, and a customer of it; `build_returns_iff` says that it returns just then.
-/

namespace CommercePlatform.Generator

open Contract Stateful

section

variable {rt : Runtime} {source : Source} {config : GeneratorConfig} {context : DecimalContext}
  {limit : Instant} {customer : CustomerState} {visit : Visit}

/-! ### The persona -/

/-- Somebody has normal history, whose account can be taken over. -/
def History (customers : Dict UUID CustomerState) : Prop :=
  ∃ state ∈ customers.values, state.priorNormalHistory = true

instance (customers : Dict UUID CustomerState) : Decidable (History customers) :=
  inferInstanceAs (Decidable (∃ state ∈ customers.values, state.priorNormalHistory = true))

/-- A takeover needs somebody with normal history. -/
def takeoverOrNormal (customers : Dict UUID CustomerState) : CustomerPersona :=
  if History customers then .accountTakeover else .normal

/-- The persona that the next number of the RNG selects, if the weights are numbers. -/
def weighted (source : Source) (config : GeneratorConfig) (w : World) : Option CustomerPersona := do
  let weights ← parsePersonaWeights config.personaWeights
  let weights ← finiteWeights weights
  bisect (source.random w.draws * (weights.map Prod.snd).sum) weights 0

/-- The persona of the next journey: the configured one, the normal one where the branch
controls are overridden, or one drawn by the weights. -/
def askedFor (source : Source) (config : GeneratorConfig) (w : World) : Option CustomerPersona :=
  match config.persona with
  | some .accountTakeover => some (takeoverOrNormal w.customers)
  | some persona => some persona
  | none =>
    if overridden config then some .normal
    else (weighted source config w).map fun persona =>
      if persona = .accountTakeover then takeoverOrNormal w.customers else persona

variable (source) in
/-- What `candidate` finds. -/
theorem candidate_returns (p : CustomerState → Bool) (w : World) :
    ∃ found w', candidate source p w = .ok (found, w') ∧
      (found.isSome = true ↔ ∃ state ∈ w.customers.values, p state = true) := by
  have none_ : w.customers.values.filter p = [] ↔ ¬ ∃ state ∈ w.customers.values, p state = true := by
    simp [List.filter_eq_nil_iff]
  by_cases empty : w.customers.values.filter p = []
  · refine ⟨none, w, bind_ok.mpr ⟨w, w, rfl, ?_⟩, ?_⟩
    · rw [if_pos empty]
      rfl
    · simpa using none_.mp empty
  · obtain ⟨customer, w', chosen⟩ := choice_returns source empty w
    refine ⟨some customer, w', bind_ok.mpr ⟨w, w, rfl, ?_⟩, ?_⟩
    · rw [if_neg empty]
      exact bind_ok.mpr ⟨customer, w', chosen, rfl⟩
    · simpa using not_not.mp (fun absent => empty (none_.mpr absent))

variable (source) in
theorem takeoverCandidate_returns (w : World) :
    ∃ found w', takeoverCandidate source w = .ok (found, w') ∧
      (found.isSome = true ↔ History w.customers) := by
  obtain ⟨original, w', ran, found⟩ := candidate_returns source
    (fun customer => customer.priorNormalHistory) w
  refine ⟨_, w', bind_ok.mpr ⟨original, w', ran, rfl⟩, ?_⟩
  rw [Option.isSome_map]
  exact found

theorem finiteWeights_iff {weights : Weights} {finite : List (CustomerPersona × Rat)} :
    finiteWeights weights = some finite ↔
      weights = finite.map fun entry => (entry.1, PyFloat.finite entry.2) := by
  induction weights generalizing finite with
  | nil =>
    cases finite with
    | nil => exact iff_of_true rfl rfl
    | cons first finite => exact iff_of_false (by simp [finiteWeights]) (by simp)
  | cons entry weights ih =>
    obtain ⟨persona, weight⟩ := entry
    cases weight with
    | finite value =>
      have rest : finiteWeights ((persona, .finite value) :: weights) =
          (finiteWeights weights).bind fun others => some ((persona, value) :: others) :=
        List.mapM_cons
      rw [rest]
      cases others : finiteWeights weights with
      | none =>
        refine iff_of_false (by simp) ?_
        intro same
        cases finite with
        | nil => cases same
        | cons first finite =>
          have tail := ih.mpr (List.cons.inj same).2
          rw [others] at tail
          cases tail
      | some others_ =>
        have same := ih.mp others
        cases finite with
        | nil => simp
        | cons first finite =>
          obtain ⟨other, amount⟩ := first
          simp only [Option.bind_some, Option.some.injEq, List.cons.injEq, Prod.mk.injEq,
            List.map_cons, PyFloat.finite.injEq]
          refine and_congr_right fun _ => ?_
          rw [← ih, others, Option.some.injEq]
    | infinite negative =>
      have rest : finiteWeights ((persona, .infinite negative) :: weights) = none := List.mapM_cons
      rw [rest]
      refine iff_of_false (by simp) ?_
      intro same
      cases finite with
      | nil => cases same
      | cons first finite => cases (List.cons.inj same).1
    | nan =>
      have rest : finiteWeights ((persona, .nan) :: weights) = none := List.mapM_cons
      rw [rest]
      refine iff_of_false (by simp) ?_
      intro same
      cases finite with
      | nil => cases same
      | cons first finite => cases (List.cons.inj same).1

theorem finite_of_div {x y : PyFloat} {a : Rat} (div : x.div y = .finite a) :
    ∃ b, x = .finite b := by
  cases x with
  | finite b => exact ⟨b, rfl⟩
  | infinite negative => cases y <;> cases div
  | nan => cases y <;> cases div

theorem numbers_of_div {entries : Weights} {total : PyFloat} {finite : List (CustomerPersona × Rat)}
    (same : (entries.map fun entry => (entry.1, entry.2.div total)) =
      finite.map fun entry => (entry.1, PyFloat.finite entry.2)) :
    ∃ values : List (CustomerPersona × Rat),
      entries = values.map fun entry => (entry.1, PyFloat.finite entry.2) := by
  induction entries generalizing finite with
  | nil => exact ⟨[], rfl⟩
  | cons entry entries ih =>
    cases finite with
    | nil => cases same
    | cons first finite =>
      obtain ⟨first, rest⟩ := List.cons.inj same
      obtain ⟨b, weight⟩ := finite_of_div (congrArg Prod.snd first)
      obtain ⟨values, rfl⟩ := ih rest
      refine ⟨(entry.1, b) :: values, ?_⟩
      rw [List.map_cons, ← weight]

theorem foldl_add_finite (values : List (CustomerPersona × Rat)) (a : Rat) :
    ((values.map fun entry => (entry.1, PyFloat.finite entry.2)).map Prod.snd).foldl PyFloat.add
      (.finite a) = .finite (a + (values.map Prod.snd).sum) := by
  induction values generalizing a with
  | nil => simp
  | cons value values ih =>
    simp only [List.map_cons, List.foldl_cons, List.sum_cons]
    rw [show (PyFloat.finite a).add (.finite value.2) = .finite (a + value.2) from rfl, ih, add_assoc]

/-- Accepted weights that are numbers add up to one. -/
theorem weights_total {entries weights : Weights} {finite : List (CustomerPersona × Rat)}
    (parsed : parsePersonaWeights entries = some weights)
    (numbers : finiteWeights weights = some finite) : (finite.map Prod.snd).sum = 1 := by
  unfold parsePersonaWeights at parsed
  simp only at parsed
  split at parsed
  · cases parsed
  split at parsed
  · cases parsed
  split at parsed
  · cases parsed
  rename_i positive
  cases parsed
  have same := finiteWeights_iff.mp numbers
  obtain ⟨values, rfl⟩ := numbers_of_div same
  rw [foldl_add_finite, zero_add] at same positive
  have total : (values.map Prod.snd).sum ≠ 0 := by
    intro zero
    rw [zero] at positive
    exact positive rfl
  have finite_eq : finite = values.map fun entry =>
      (entry.1, entry.2 / (values.map Prod.snd).sum) := by
    have injective : Function.Injective
        fun entry : CustomerPersona × Rat => (entry.1, PyFloat.finite entry.2) := by
      rintro ⟨a, x⟩ ⟨b, y⟩ equal
      cases equal
      rfl
    refine injective.list_map ?_
    rw [← same, List.map_map, List.map_map]
    rfl
  rw [finite_eq, List.map_map]
  show (values.map fun entry => entry.2 / (values.map Prod.snd).sum).sum = 1
  simp only [div_eq_mul_inv]
  rw [List.sum_map_mul_right]
  exact mul_inv_cancel₀ total

/-- What the weights select, in a world that differs in its draws only. -/
theorem choices_iff {weights : Weights} {w : World} {persona : CustomerPersona}
    (parsed : parsePersonaWeights config.personaWeights = some weights) :
    (∃ w', choices source weights w = .ok (persona, w')) ↔
      weighted source config w = some persona := by
  unfold weighted choices
  rw [parsed]
  simp only [bind, Option.bind_some]
  cases numbers : finiteWeights weights with
  | none =>
    refine iff_of_false ?_ (by simp)
    rintro ⟨w', ran⟩
    exact raiseError_ok ran
  | some finite =>
    have total := weights_total parsed numbers
    simp only [Option.bind_some, total, if_neg (show ¬ (1 : Rat) ≤ 0 by norm_num)]
    constructor
    · rintro ⟨w', ran⟩
      obtain ⟨i, u, drawn, rest⟩ := bind_ok.mp ran
      cases drawn
      cases found : bisect (source.random w.draws * 1) finite 0 with
      | none =>
        rw [found] at rest
        exact (raiseError_ok rest).elim
      | some other =>
        rw [found] at rest
        obtain ⟨rfl, -⟩ := pure_ok.mp rest
        rfl
    · intro found
      refine ⟨{ w with draws := w.draws + 1 }, ?_⟩
      refine bind_ok.mpr ⟨w.draws, { w with draws := w.draws + 1 }, rfl, ?_⟩
      rw [found]
      rfl

/-- A takeover, or a seeding for one. -/
theorem takeover_iff {w : World} {f : Bool → Gen CustomerPersona}
    (returns : ∀ b u, ∃ u', f b u = .ok (if b then .normal else .accountTakeover, u'))
    {persona : CustomerPersona} :
    (∃ w', (do let candidate ← takeoverCandidate source; f candidate.isNone : Gen _) w =
      .ok (persona, w')) ↔ takeoverOrNormal w.customers = persona := by
  obtain ⟨found, u, ran, history⟩ := takeoverCandidate_returns source w
  obtain ⟨u', after⟩ := returns found.isNone u
  have same : (if found.isNone then .normal else .accountTakeover : CustomerPersona) =
      takeoverOrNormal w.customers := by
    cases found with
    | none => simpa [takeoverOrNormal] using history
    | some state => simpa [takeoverOrNormal] using history
  rw [← same]
  constructor
  · rintro ⟨w', chosen⟩
    obtain ⟨other, v, ran', rest⟩ := bind_ok.mp chosen
    cases ran.symm.trans ran'
    cases after.symm.trans rest
    rfl
  · rintro rfl
    exact ⟨u', bind_ok.mpr ⟨found, u, ran, after⟩⟩

variable (source) in
/-- `choosePersona` finds what is asked for, and raises if that is nothing. -/
theorem choosePersona_iff {w : World} {persona : CustomerPersona}
    (accepted : (parsePersonaWeights config.personaWeights).isSome = true) :
    (∃ w', choosePersona source config w = .ok (persona, w')) ↔
      askedFor source config w = some persona := by
  have pure_iff : ∀ {other : CustomerPersona} {u : World},
      (∃ w', (pure other : Gen CustomerPersona) u = .ok (persona, w')) ↔
        some other = some persona := by
    intro other u
    constructor
    · rintro ⟨w', ran⟩
      rw [(pure_ok.mp ran).1]
    · intro same
      cases same
      exact ⟨u, rfl⟩
  obtain ⟨weights, parsed⟩ := Option.isSome_iff_exists.mp accepted
  let drawnOr : Bool → Gen CustomerPersona :=
    fun seeds => pure (if seeds then .normal else .accountTakeover)
  unfold choosePersona askedFor
  cases config.persona with
  | some wanted =>
    cases wanted with
    | accountTakeover =>
      rw [Option.some.injEq]
      exact takeover_iff (f := fun seeds => if seeds then do
          modify fun w => { w with seedingTakeover := true }
          return .normal
        else return .accountTakeover) fun b u => by cases b <;> exact ⟨_, rfl⟩
    | normal | indecisive | discountHunter | suspicious | bot => exact pure_iff
  | none =>
    simp only
    split
    · exact pure_iff
    unfold drawPersona
    rw [parsed]
    have drawn : ∀ selected, (∃ w', choices source weights w = .ok (selected, w')) ↔
        weighted source config w = some selected := fun selected => choices_iff parsed
    have customers : ∀ {selected u}, choices source weights w = .ok (selected, u) →
        u.customers = w.customers := fun ran => ((silentFrame.choices weights).returns _ _ _ ran).1
    constructor
    · rintro ⟨w', chosen⟩
      obtain ⟨selected, u, ran, rest⟩ := bind_ok.mp chosen
      rw [(drawn selected).mp ⟨u, ran⟩, Option.map_some, Option.some.injEq]
      split at rest
      · rename_i takeover
        rw [if_pos takeover, ← customers ran]
        subst takeover
        exact (takeover_iff (f := drawnOr) fun b u => by cases b <;> exact ⟨_, rfl⟩).mp ⟨w', rest⟩
      · rename_i other
        rw [if_neg other, (pure_ok.mp rest).1]
    · intro asked
      obtain ⟨selected, found, same⟩ := Option.map_eq_some_iff.mp asked
      obtain ⟨u, ran⟩ := (drawn selected).mpr found
      split at same
      · rename_i takeover
        rw [← customers ran] at same
        subst takeover
        obtain ⟨w', rest⟩ :=
          (takeover_iff (f := drawnOr) fun b u => by cases b <;> exact ⟨_, rfl⟩).mpr same
        refine ⟨w', bind_ok.mpr ⟨.accountTakeover, u, ran, ?_⟩⟩
        rw [if_pos rfl]
        exact rest
      · rename_i other
        refine ⟨u, bind_ok.mpr ⟨selected, u, ran, ?_⟩⟩
        rw [if_neg other, same]
        rfl

/-! ### The customer -/

/-- A journey of the persona has a customer: there is room for a new one, or one of that persona
may return, or an account can be taken over. -/
def HasCustomer (config : GeneratorConfig) (w : World) (persona : CustomerPersona) : Prop :=
  w.customers.entries.length < config.customerPoolSize ∨
    (config.statefulMode = true ∧ ∃ state ∈ w.customers.values, state.persona = persona) ∨
    (persona = .accountTakeover ∧ History w.customers)

/-- The next journey has a persona, and a customer of that persona. -/
def Served (source : Source) (config : GeneratorConfig) (w : World) : Prop :=
  ∃ persona, askedFor source config w = some persona ∧ HasCustomer config w persona

theorem Selects.hasCustomer {w : World} {persona : CustomerPersona} {selection : Selection}
    (selects : Selects config w persona selection) : HasCustomer config w persona := by
  cases selects with
  | creates flag fresh room => exact .inl room
  | recalls flag member stateful same => exact .inr (.inl ⟨stateful, _, member, same⟩)
  | takesOver flag takeover original member history same =>
    exact .inr (.inr ⟨takeover, original, member, history⟩)

/-- With these customers in the pool the code returns what has `Q`, and leaves them alone. -/
def Answers {α : Type} (pool : Dict UUID CustomerState) (x : Gen α) (Q : α → Prop) : Prop :=
  Returns (fun w => w.customers = pool) x fun a w => w.customers = pool ∧ Q a

namespace Answers

variable {α β : Type} {pool : Dict UUID CustomerState} {x : Gen α} {f : α → Gen β} {Q : α → Prop}
  {R : β → Prop}

theorem pure {a : α} (holds : Q a) : Answers pool (Pure.pure a) Q :=
  Returns.pure fun _ same => ⟨same, holds⟩

theorem bind (first : Answers pool x Q) (rest : ∀ a, Q a → Answers pool (f a) R) :
    Answers pool (x >>= f) R :=
  Returns.bind first fun a w h => rest a h.2 w h.1

theorem still (respects : Respects Still x)
    (runs : ∀ w, w.customers = pool → ∃ a w', x w = .ok (a, w') ∧ Q a) : Answers pool x Q := by
  intro w same
  obtain ⟨a, w', ran, holds⟩ := runs w same
  exact ⟨a, w', ran, (still_of respects ran).1.trans same, holds⟩

theorem ite {c : Prop} [Decidable c] {y : Gen α} (yes : c → Answers pool x Q)
    (no : ¬ c → Answers pool y Q) : Answers pool (if c then x else y) Q := by
  split
  · exact yes ‹_›
  · exact no ‹_›

/-- `get` reads these customers. -/
theorem read {f : World → Gen β} (rest : ∀ w, w.customers = pool → Answers pool (f w) R) :
    Answers pool (get >>= f) R := by
  intro w same
  obtain ⟨b, w', ran, post⟩ := rest w same w same
  exact ⟨b, w', bind_ok.mpr ⟨w, w, rfl, ran⟩, post⟩

end Answers

section

variable {pool : Dict UUID CustomerState} {persona : CustomerPersona}

theorem candidate_answers (p : CustomerState → Bool) :
    Answers pool (candidate source p) fun found =>
      found.isSome = true ↔ ∃ state ∈ pool.values, p state = true := by
  refine .still (stillFrame.candidate p) fun w same => ?_
  rw [← same]
  exact candidate_returns source p w

theorem newCustomer_answers (room : pool.entries.length < config.customerPoolSize) :
    Answers pool (newCustomer source config persona) fun _ => True := by
  have drawing : Answers pool (newUuid source) fun _ => True :=
    .still stillFrame.newUuid fun w _ => ⟨_, _, rfl, trivial⟩
  have reading : Answers pool (awareNow source) fun _ => True :=
    .still (stillFrame.awareNow) fun w _ => ⟨_, _, rfl, trivial⟩
  have addressing : Answers pool (ipAddress source) fun _ => True :=
    .still stillFrame.ipAddress fun w _ => ⟨_, _, rfl, trivial⟩
  have creating : ∀ t, Answers pool (createCustomer source config.customerPoolSize persona t)
      fun _ => True := by
    refine fun t => .read fun w same => .ite (fun full => ?_) fun _ => ?_
    · rw [same] at full
      exact absurd room (Nat.not_lt.mpr full)
    · exact drawing.bind fun customerId _ => drawing.bind fun deviceId _ =>
        addressing.bind fun address _ => .pure trivial
  exact reading.bind fun now _ => (creating now).bind fun customer _ => .pure trivial

theorem selectByPersona_answers
    (has : pool.entries.length < config.customerPoolSize ∨
      config.statefulMode = true ∧ ∃ state ∈ pool.values, state.persona = persona) :
    Answers pool (selectByPersona source config persona) fun _ => True := by
  refine (candidate_answers _).bind fun found known => ?_
  cases found with
  | none =>
    refine newCustomer_answers (has.resolve_right ?_)
    rintro ⟨-, state, member, same⟩
    exact Bool.noConfusion (known.mpr ⟨state, member, decide_eq_true same⟩)
  | some customer =>
    refine .ite (fun stateful => ?_) fun other => newCustomer_answers (has.resolve_right ?_)
    · have preferring : Answers pool (preferNew source config) fun create =>
          create = true → pool.entries.length < config.customerPoolSize := by
        refine .read fun w same => .ite (fun room => ?_) fun _ => .pure nofun
        exact .still (stillFrame.chance _) fun u _ => ⟨_, _, rfl, fun _ => same ▸ room⟩
      refine preferring.bind fun create room => ?_
      exact .ite (fun yes => newCustomer_answers (room yes)) fun _ => .pure trivial
    · exact fun h => other h.1

theorem selectCustomer_answers {w : World} (has : HasCustomer config w persona) :
    Answers w.customers (selectCustomer source config persona) fun _ => True := by
  refine .ite (fun takeover => ?_) fun other => ?_
  · have looking : Answers w.customers (takeoverCandidate source) fun found =>
        found.isSome = true ↔ History w.customers := by
      refine .still stillFrame.takeoverCandidate fun u same => ?_
      rw [← same]
      exact takeoverCandidate_returns source u
    refine looking.bind fun found known => ?_
    cases found with
    | none =>
      refine selectByPersona_answers ?_
      rcases has with room | returns | ⟨-, history⟩
      · exact .inl room
      · exact .inr returns
      · exact Bool.noConfusion (known.mpr history)
    | some customer => exact .pure trivial
  · refine selectByPersona_answers ?_
    rcases has with room | returns | ⟨takeover, -⟩
    · exact .inl room
    · exact .inr returns
    · exact absurd takeover other

end

/-! ### The start of a journey -/

/-- A customer is at home somewhere, has a device, and was last active before the limit. -/
structure Fit (limit : Instant) (state : CustomerState) : Prop where
  home : state.homeCountry ∈ homeOrAbroad
  devices : state.knownDeviceIds ≠ [] ∧ state.knownIpAddresses ≠ []
  active : ∀ last, state.lastActivityTimestamp = some last → InTime limit last

/-- A journey takes at most a day until its customer returns, and 36 timestamps. -/
def journeySpan : Int := days 1 + 36 * longestDelay

theorem Selects.fit {w : World} {persona : CustomerPersona} {selection : Selection} {latest : Instant}
    (fit : ∀ state ∈ w.customers.values, Fit latest state)
    (selects : Selects config w persona selection) : Fit latest selection.customer := by
  rcases selects.state with ⟨-, fresh⟩ | ⟨-, original, member, same⟩
  · refine ⟨?_, fresh.devices, ?_⟩
    · rw [fresh.home]
      exact List.mem_cons_self
    · intro last active
      rw [fresh.active] at active
      cases active
  · rw [same]
    obtain ⟨home, devices, active⟩ := fit original member
    exact ⟨home, devices, active⟩

theorem returnDelay_short (persona : CustomerPersona) :
    (strategyFor persona).profile.returnDelay ≤ days 1 := by
  cases persona <;> decide

/-- The clock of a journey starts at a reading, or when its customer is due. -/
theorem startLogicalTime_returns {latest : Instant} (persona : CustomerPersona) (returning : Bool)
    (clock : ∀ i, InTime latest (source.clock i)) (within : latest + days 1 ≤ Instant.maximum)
    (fit : Fit latest customer) (w : World) :
    ∃ w', startLogicalTime source customer (strategyFor persona).profile returning w = .ok ((), w') ∧
      earliest ≤ w'.cursor ∧ w'.cursor ≤ latest + days 1 := by
  have nonneg := returnDelay_nonneg persona
  have short := returnDelay_short persona
  obtain ⟨low, high⟩ := clock w.readings
  have high : source.clock w.readings ≤ latest + days 1 :=
    high.trans (Int.le_add_of_nonneg_right (by decide))
  cases active : customer.lastActivityTimestamp with
  | none =>
    refine ⟨{ w with readings := w.readings + 1, cursor := source.clock w.readings },
      bind_ok.mpr ⟨source.clock w.readings, _, rfl, ?_⟩, low, high⟩
    rw [active]
    rfl
  | some last =>
    obtain ⟨first, before⟩ := fit.active last active
    have due : last + (strategyFor persona).profile.returnDelay ≤ latest + days 1 :=
      Int.add_le_add before short
    have room : Instant.minimum ≤ last + (strategyFor persona).profile.returnDelay ∧
        last + (strategyFor persona).profile.returnDelay ≤ Instant.maximum := by
      refine ⟨le_trans (by decide) (first.trans (Int.le_add_of_nonneg_right nonneg)), ?_⟩
      exact due.trans within
    cases returning with
    | false =>
      refine ⟨{ w with readings := w.readings + 1, cursor := source.clock w.readings },
        bind_ok.mpr ⟨source.clock w.readings, _, rfl, ?_⟩, low, high⟩
      rw [active]
      rfl
    | true =>
      refine ⟨{ w with
        readings := w.readings + 1
        cursor := max (source.clock w.readings) (last + (strategyFor persona).profile.returnDelay) },
        bind_ok.mpr ⟨source.clock w.readings, { w with readings := w.readings + 1 }, rfl, ?_⟩,
        low.trans (le_max_left _ _), max_le high due⟩
      rw [active]
      refine bind_ok.mpr ⟨last + (strategyFor persona).profile.returnDelay,
        { w with readings := w.readings + 1 }, ?_, rfl⟩
      rw [later, if_pos room]
      rfl

variable (context) in
/-- Where a journey is served, `browse` returns. -/
theorem browse_returns {latest : Instant} {w : World}
    (accepted : config.Accepted) (hex : ∀ text, IsNonEmptyString (rt.sha256Hex text))
    (clock : ∀ i, InTime latest (source.clock i)) (room : latest + journeySpan ≤ Instant.maximum)
    (fit : ∀ state ∈ w.customers.values, Fit latest state) (served : Served source config w) :
    ∃ visit u, browse rt source config w = .ok (visit, u) ∧
      Timely (latest + journeySpan) 14 u ∧ Underway context (latest + journeySpan) visit := by
  obtain ⟨persona, asked, has⟩ := served
  have span : days 1 ≤ journeySpan := by decide
  have within : latest + days 1 ≤ Instant.maximum := (Int.add_le_add_left span latest).trans room
  obtain ⟨w₁, chosen⟩ := (choosePersona_iff source
    (w := { w with seedingTakeover := false }) accepted.personaWeights).mpr asked
  have pool : w₁.customers = w.customers := (isSilent_choosePersona _ _ _ chosen).1
  obtain ⟨selection, w₂, selected, -⟩ := selectCustomer_answers has w₁ pool
  have fit' : ∀ state ∈ w₁.customers.values, Fit latest state := by
    rw [pool]
    exact fit
  have customer := (selectCustomer_selects selected).fit fit'
  obtain ⟨w₃, started, low, high⟩ := startLogicalTime_returns selection.customer.persona
    selection.returning clock within customer w₂
  have timely : Timely (latest + journeySpan) (22 + 14) w₃ := by
    refine ⟨low, (Int.add_le_add_right high _).trans ?_⟩
    rw [Int.add_assoc]
    exact le_rfl
  obtain ⟨visit, u, visited, after, underway⟩ := visitAs_spends context room hex
    accepted.maxProductViews.1 customer.home customer.devices 14 w₃ timely
  refine ⟨visit, u, ?_, after, underway⟩
  rw [browse_eq]
  exact bind_ok.mpr ⟨(), _, rfl, bind_ok.mpr ⟨persona, w₁, chosen,
    bind_ok.mpr ⟨selection, w₂, selected, bind_ok.mpr ⟨(), w₃, started, visited⟩⟩⟩⟩

/-- And only there. -/
theorem browse_served {visit : Visit} {w u : World} (accepted : config.Accepted)
    (ran : browse rt source config w = .ok (visit, u)) :
    Served source config w ∧ (visit.returning = false →
      w.customers.entries.length < config.customerPoolSize) := by
  rw [browse_eq] at ran
  obtain ⟨_, w₀, unset, ran⟩ := bind_ok.mp ran
  obtain ⟨persona, w₁, chosen, ran⟩ := bind_ok.mp ran
  obtain ⟨selection, w₂, selected, ran⟩ := bind_ok.mp ran
  obtain ⟨_, w₃, started, visited⟩ := bind_ok.mp ran
  obtain rfl := modify_ok.mp unset
  have silent := isSilent_choosePersona _ _ _ chosen
  have selects : Selects config w persona selection :=
    .before ⟨silent.1, silent.2⟩ (selectCustomer_selects selected)
  have asked := (choosePersona_iff source accepted.personaWeights).mp ⟨w₁, chosen⟩
  refine ⟨⟨persona, asked, selects.hasCustomer⟩, fun returning => ?_⟩
  have same : visit.returning = selection.returning := by
    obtain ⟨correlationId, _, -, visited⟩ := bind_ok.mp visited
    obtain ⟨registration, _, -, visited⟩ := bind_ok.mp visited
    obtain ⟨identity, _, -, visited⟩ := bind_ok.mp visited
    obtain ⟨sessionId, _, -, visited⟩ := bind_ok.mp visited
    obtain ⟨session, _, -, visited⟩ := bind_ok.mp visited
    obtain ⟨products, _, -, visited⟩ := bind_ok.mp visited
    obtain ⟨views, _, -, visited⟩ := bind_ok.mp visited
    obtain ⟨adding, _, -, visited⟩ := bind_ok.mp visited
    obtain ⟨adds, _, -, returned⟩ := bind_ok.mp visited
    exact congrArg Visit.returning (pure_ok.mp returned).1
  cases selects with
  | creates flag fresh room => exact room
  | recalls flag | takesOver flag =>
    rw [← same, returning] at flag
    cases flag

/-! ### The end of a journey -/

theorem InTime.mono {t limit' : Instant} (time : InTime limit t) (le : limit ≤ limit') :
    InTime limit' t :=
  ⟨time.1, time.2.trans le⟩

theorem Leaves.kept_of {events : List EventEnvelope} (leaves : Leaves visit events customer) :
    customer.customerId = visit.customer.customerId ∧
      customer.homeCountry = visit.customer.homeCountry ∧
      customer.knownDeviceIds = visit.customer.knownDeviceIds ∧
      customer.knownIpAddresses = visit.customer.knownIpAddresses := by
  cases leaves <;> exact ⟨rfl, rfl, rfl, rfl⟩

/-- A journey before its commit. -/
structure Prepared (rt : Runtime) (source : Source) (config : GeneratorConfig)
    (context : DecimalContext) (limit : Instant) (w : World) (visit : Visit) (u : World)
    (c : Conclusion) (v : World) : Prop where
  browsed : browse rt source config w = .ok (visit, u)
  concluded : conclude source config visit u = .ok (c, v)
  underway : Underway context limit visit
  checked : Checked context limit c.events
  pool : v.customers = w.customers
  tail : ∃ events, Tail source config.maxPaymentAttempts u v visit events ∧
    Leaves visit events c.customer ∧ c.events = visit.events ++ events

section

variable {latest : Instant} {w w' : World} (accepted : config.Accepted)
  (hex : ∀ text, IsNonEmptyString (rt.sha256Hex text)) (exact : ExactCents context)
  (clock : ∀ i, InTime latest (source.clock i)) (room : latest + journeySpan ≤ Instant.maximum)
  (fit : ∀ state ∈ w.customers.values, Fit latest state)

include accepted hex exact clock room fit

variable (context) in
theorem served_prepares (served : Served source config w) :
    ∃ visit u c v, Prepared rt source config context (latest + journeySpan) w visit u c v := by
  obtain ⟨some_, few⟩ := accepted.maxPaymentAttempts
  obtain ⟨visit, u, browsed, timely, underway⟩ :=
    browse_returns context accepted hex clock room fit served
  obtain ⟨c, v, concluded, -, checked⟩ :=
    conclude_spends source room underway exact few some_ 0 u timely
  obtain ⟨events, tail, leaves, same⟩ := conclude_tail some_ (browse_spec browsed) concluded
  refine ⟨visit, u, c, v, browsed, concluded, underway, checked, ?_, events, tail, leaves, same⟩
  rw [tail.customers]
  exact (older_browse.returns _ _ _ browsed).1

/-- What is committed is fit again. -/
theorem build_fit {result : JourneyResult} (ran : build rt source config w = .ok (result, w')) :
    ∀ state ∈ w'.customers.values, Fit (latest + journeySpan) state := by
  rw [build_eq] at ran
  obtain ⟨visit, u, browsed, ran⟩ := bind_ok.mp ran
  obtain ⟨c, v, concluded, finished⟩ := bind_ok.mp ran
  obtain ⟨visit', u', c', v', prepared⟩ := served_prepares context accepted hex exact
    clock room fit (browse_served accepted browsed).1
  cases browsed.symm.trans prepared.browsed
  cases concluded.symm.trans prepared.concluded
  obtain ⟨events, tail, leaves, -⟩ := prepared.tail
  obtain ⟨-, home, devices, addresses⟩ := leaves.kept_of
  obtain ⟨last, found, -, -, -, pool, -⟩ := finish_commits finished
  intro state member
  obtain ⟨key, known⟩ := Dict.mem_values.mp member
  rw [pool, Dict.get?_set, prepared.pool] at known
  split at known
  · obtain rfl := Option.some.inj known
    have opened := (browse_opened browsed).devices
    refine ⟨?_, ?_, ?_⟩
    · simp only [CustomerState.finished, (record_keeps _ _).2.2, home]
      exact prepared.underway.sited.2
    · simp only [CustomerState.finished, (record_keeps _ _).1, (record_keeps _ _).2.1, devices,
        addresses]
      exact opened
    · intro t active
      obtain rfl := Option.some.inj active
      exact (prepared.checked last (List.mem_of_getLast? found)).time
  · obtain ⟨home, devices, active⟩ := fit state (Dict.mem_values.mpr ⟨key, known⟩)
    refine ⟨home, devices, fun t known => (active t known).mono ?_⟩
    exact Int.le_add_of_nonneg_right (by decide)

end

theorem Built.fit {met : World → Prop} {w : World} {journeys : List JourneyResult} {latest : Instant}
    (accepted : config.Accepted) (hex : ∀ text, IsNonEmptyString (rt.sha256Hex text))
    (exact : ExactCents context) (clock : ∀ i, InTime latest (source.clock i))
    (room : latest + journeys.length * journeySpan ≤ Instant.maximum)
    (built : Built rt source config met w journeys) :
    ∀ state ∈ w.customers.values, Fit (latest + journeys.length * journeySpan) state := by
  induction built with
  | start =>
    intro state member
    cases member
  | journey before _ ran ih =>
    rename_i w w' journeys result here
    have longer : latest + ((journeys ++ [result]).length : Nat) * journeySpan =
        latest + journeys.length * journeySpan + journeySpan := by
      rw [List.length_append, List.length_singleton, Nat.cast_add, Nat.cast_one, Int.add_mul,
        Int.one_mul, Int.add_assoc]
    rw [longer] at room ⊢
    have le : latest ≤ latest + journeys.length * journeySpan :=
      Int.le_add_of_nonneg_right (Int.mul_nonneg (Int.natCast_nonneg _) (by decide))
    have shorter : latest + journeys.length * journeySpan ≤
        latest + journeys.length * journeySpan + journeySpan :=
      Int.le_add_of_nonneg_right (by decide)
    exact build_fit accepted hex exact (fun i => (clock i).mono le) room
      (ih (shorter.trans room)) ran
  | failure before ran ih =>
    rw [(build_raises ran).1]
    exact ih room

end

/-! Every journey is served while the pool has room; one customer fills the smallest pool. -/

/-- The digest of the first identifier of `eagerSource`. -/
def firstHash : String := "12b9377cbe7e5c94e8a70d9d23929523d14afa954793130f8a3959c7b849aca8"

def hashRuntime : Runtime where
  canonicalJson event := event.eventId.str
  sha256Hex _ := firstHash
  uuid5 namespace_ _ := namespace_

/-- Arithmetic that does not round. -/
def exactContext : DecimalContext where
  sum a b := some (a + b)
  product a b := some (a * b)
  quotient a b := some (a / b)

theorem firstHash_nonEmpty : IsNonEmptyString firstHash := isNonEmptyString_of (by decide +kernel)

theorem exactContext_exact : ExactCents exactContext := fun a b _ _ =>
  congrArg some (sub_eq_add_neg ((a : Rat) / 100) ((b : Rat) / 100)).symm

end CommercePlatform.Generator
