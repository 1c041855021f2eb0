import CommercePlatform.Contract.RoundTrip
import CommercePlatform.Generator.Journeys

/-!
The stages of a journey return.

From the selection of the customer on nothing fails while the clock has room for the journey,
and every event passes the checks of its model (`WellFormed`). `Spends n x Q` says this of a
piece that takes at most `n` timestamps.
-/

namespace CommercePlatform.Generator

open Contract Stateful

/-! ### Room on the clock -/

/-- Before it the skew of a producer cannot be taken off. -/
def earliest : Instant := Instant.minimum + maxProducerClockSkew

/-- No two events of a journey are further apart. -/
def longestDelay : Int := minutes 12

/-- The clock has room for `n` timestamps before the limit. -/
structure Timely (limit : Instant) (n : Nat) (w : World) : Prop where
  low : earliest ≤ w.cursor
  high : w.cursor + n * longestDelay ≤ limit

/-- A time that an event can have. -/
def InTime (limit t : Instant) : Prop := earliest ≤ t ∧ t ≤ limit

/-- The code returns what has `Q`, and takes at most `n` timestamps. -/
def Spends {α : Type} (limit : Instant) (n : Nat) (x : Gen α) (Q : α → Prop) : Prop :=
  ∀ m, Returns (Timely limit (n + m)) x fun a w => Timely limit m w ∧ Q a

theorem Timely.mono {limit : Instant} {n m : Nat} {w : World} (timely : Timely limit n w)
    (le : m ≤ n) : Timely limit m w where
  low := timely.low
  high := by
    have less : (m : Int) * longestDelay ≤ n * longestDelay :=
      Int.mul_le_mul_of_nonneg_right (Int.ofNat_le.mpr le) (by decide)
    exact (Int.add_le_add_left less w.cursor).trans timely.high

namespace Spends

variable {α β : Type} {limit : Instant} {n m k : Nat} {x : Gen α} {f : α → Gen β}
  {Q Q' : α → Prop} {R : β → Prop}

theorem pure {a : α} (holds : Q a) : Spends limit n (Pure.pure a) Q :=
  fun m => Returns.pure fun _ timely => ⟨timely.mono (Nat.le_add_left m n), holds⟩

theorem mono (spends : Spends limit n x Q) (le : n ≤ m) (post : ∀ a, Q a → Q' a) :
    Spends limit m x Q' := by
  intro l
  exact (spends l).weaken (fun _ timely => timely.mono (Nat.add_le_add_right le l))
    fun a _ h => ⟨h.1, post a h.2⟩

theorem bind (first : Spends limit n x Q) (rest : ∀ a, Q a → Spends limit m (f a) R)
    (le : n + m ≤ k) : Spends limit k (x >>= f) R := by
  intro l
  refine Returns.bind ((first (m + l)).weaken ?_ fun _ _ h => h) fun a => ?_
  · intro w timely
    exact timely.mono (by omega)
  · intro w h
    exact rest a h.2 l w h.1

theorem ite {c : Prop} [Decidable c] {y : Gen α} (yes : c → Spends limit n x Q)
    (no : ¬ c → Spends limit n y Q) : Spends limit n (if c then x else y) Q := by
  split
  · exact yes ‹_›
  · exact no ‹_›

/-- What holds of every run holds of this one. -/
theorem known (Q' : α → Prop) (spends : Spends limit n x Q)
    (spec : ∀ w a w', x w = .ok (a, w') → Q' a) :
    Spends limit n x fun a => Q a ∧ Q' a := by
  intro l
  refine ((spends l).known fun w a w' _ ran => spec w a w' ran).weaken (fun _ h => h) ?_
  intro a w h
  exact ⟨h.1.1, h.1.2, h.2⟩

/-- Code under which the clock stands still. -/
theorem still (respects : Respects Still x) (runs : ∀ w, ∃ a w', x w = .ok (a, w') ∧ Q a) :
    Spends limit 0 x Q := by
  intro l w timely
  obtain ⟨a, w', ran, holds⟩ := runs w
  have here := (still_of respects ran).2
  refine ⟨a, w', ran, ⟨?_, ?_⟩, holds⟩
  · rw [here]
    exact timely.low
  · rw [here]
    exact (timely.mono (Nat.le_add_left l 0)).high

end Spends

section

variable {rt : Runtime} {source : Source} {config : GeneratorConfig} {limit : Instant}

/-! ### The primitives -/

theorem newUuid_spends : Spends limit 0 (newUuid source) fun _ => True :=
  .still stillFrame.newUuid fun _ => ⟨_, _, rfl, trivial⟩

theorem chance_spends (probability : Rat) :
    Spends limit 0 (chance source probability) fun _ => True :=
  .still (stillFrame.chance probability) fun _ => ⟨_, _, rfl, trivial⟩

theorem probability_spends (profile : PersonaProfile) (branch : Branch) :
    Spends limit 0 (probability config profile branch) fun _ => True :=
  .still (stillFrame.probability profile branch) fun _ => ⟨_, _, rfl, trivial⟩

theorem randint_spends {low high : Nat} (le : low ≤ high) :
    Spends limit 0 (randint source low high) fun n => low ≤ n ∧ n ≤ high := by
  refine .still (stillFrame.randint low high) fun w => ?_
  rw [randint, if_neg (Nat.not_lt.mpr le)]
  refine ⟨_, _, rfl, Nat.le_add_right _ _, ?_⟩
  have below : source.pick w.draws % (high - low + 1) < high - low + 1 :=
    Nat.mod_lt _ (Nat.succ_pos _)
  omega

variable (source) in
theorem choice_returns {α : Type} {population : List α} (some_ : population ≠ []) (w : World) :
    ∃ a w', choice source population w = .ok (a, w') := by
  have inside : source.pick w.draws % population.length < population.length :=
    Nat.mod_lt _ (List.length_pos_of_ne_nil some_)
  refine ⟨population[source.pick w.draws % population.length], { w with draws := w.draws + 1 }, ?_⟩
  refine bind_ok.mpr ⟨w.draws, _, rfl, ?_⟩
  rw [List.getElem?_eq_getElem inside]
  rfl

theorem choice_spends {α : Type} {population : List α} (some_ : population ≠ []) :
    Spends limit 0 (choice source population) fun a => a ∈ population := by
  refine .still (stillFrame.choice population) fun w => ?_
  obtain ⟨a, w', ran⟩ := choice_returns source some_ w
  exact ⟨a, w', ran, choice_mem ran⟩

theorem lastOf_spends {α : Type} {xs : List α} (some_ : xs ≠ []) :
    Spends limit 0 (lastOf xs) fun _ => True := by
  refine .still (stillFrame.lastOf xs) fun w => ?_
  rw [lastOf, List.getLast?_eq_some_getLast some_]
  exact ⟨_, _, rfl, trivial⟩

theorem ipAddress_spends : Spends limit 0 (ipAddress source) fun _ => True :=
  (randint_spends (by decide)).bind (fun _ _ => .pure (n := 0) trivial) le_rfl

theorem nextTimestamp_spends {delay : Int} (within : limit ≤ Instant.maximum)
    (nonneg : 0 ≤ delay) (short : delay ≤ longestDelay) :
    Spends limit 1 (nextTimestamp delay) (InTime limit) := by
  intro l w timely
  have low : earliest ≤ w.cursor + delay := timely.low.trans (Int.le_add_of_nonneg_right nonneg)
  have spent : w.cursor + delay + l * longestDelay ≤ limit := by
    refine le_trans ?_ timely.high
    rw [Nat.cast_add, Nat.cast_one, Int.add_mul, Int.one_mul, Int.add_assoc]
    exact Int.add_le_add_left (Int.add_le_add_right short _) _
  have high : w.cursor + delay ≤ limit := by
    refine le_trans (Int.le_add_of_nonneg_right ?_) spent
    exact Int.mul_nonneg (Int.natCast_nonneg l) (by decide)
  have room : Instant.minimum ≤ w.cursor + delay ∧ w.cursor + delay ≤ Instant.maximum :=
    ⟨le_trans (by decide) low, high.trans within⟩
  refine ⟨w.cursor + delay, { w with cursor := w.cursor + delay }, ?_, ⟨low, spent⟩, low, high⟩
  refine bind_ok.mpr ⟨w, w, rfl, bind_ok.mpr ⟨w.cursor + delay, w, ?_, rfl⟩⟩
  rw [later, if_pos room]
  rfl

/-! ### Events that pass the checks -/

/-- Sums of amounts in hundredths are exact, as all sums of at most 28 digits are. -/
def ExactCents (context : DecimalContext) : Prop :=
  ∀ a b : Nat, b ≤ a → a < 10 ^ 26 →
    context.sum ((a : Rat) / 100) (-((b : Rat) / 100)) = some ((a : Rat) / 100 - (b : Rat) / 100)

variable {context : DecimalContext} {correlationId sessionId : UUID} {profile : PersonaProfile}
  {customer : CustomerState} {visit : Visit}

/-- `IsNonEmptyString`, as a check. -/
def isTrimmed (s : String) : Bool :=
  !s.toList.isEmpty && s.toList.head?.all (fun c => !isSpace c) &&
    s.toList.getLast?.all fun c => !isSpace c

theorem isNonEmptyString_of {s : String} (checked : isTrimmed s = true) : IsNonEmptyString s := by
  simp only [isTrimmed, Bool.and_eq_true, Bool.not_eq_true', Option.all_eq_true] at checked
  obtain ⟨⟨some_, first⟩, last⟩ := checked
  exact ⟨List.isEmpty_eq_false_iff.mp some_, fun c head => by simpa using first c head,
    fun c end_ => by simpa using last c end_⟩

theorem isNonEmptyString_generator : IsNonEmptyString "event-generator" :=
  isNonEmptyString_of (by decide +kernel)

/-- The countries of the generated sessions. -/
def homeOrAbroad : List String := ["TR", "DE", "GB", "US"]

theorem isCountryCode_of {s : String} (listed : s ∈ homeOrAbroad) : IsCountryCode s := by
  have all : ∀ s ∈ homeOrAbroad, s.toList.length = 2 ∧
      s.toList.all (fun c => 'A' ≤ c ∧ c ≤ 'Z') = true := by decide +kernel
  exact all s listed

/-- The checks of its model pass, and the event has a time before the limit. -/
structure Passes (context : DecimalContext) (limit : Instant) (event : EventEnvelope) : Prop where
  formed : WellFormed context event
  time : InTime limit event.eventTime

variable (context) in
theorem envelope_spends {payload : Payload} {timestamp : Instant} (within : limit ≤ Instant.maximum)
    (time : InTime limit timestamp) (fields : payload.FieldsValid)
    (instants : ∀ t ∈ payload.instants, t = timestamp)
    (totals : validateTotals context payload = .ok ()) :
    Spends limit 0 (envelope source correlationId payload timestamp) (Passes context limit) := by
  have inside : Instant.minimum ≤ timestamp ∧ timestamp ≤ Instant.maximum :=
    ⟨le_trans (by decide) time.1, time.2.trans within⟩
  refine newUuid_spends.bind (fun eventId _ => .pure (n := 0) ⟨?_, time⟩) le_rfl
  constructor
  · exact Nat.one_pos
  · exact isNonEmptyString_generator
  · exact fields
  · intro t mem
    rcases List.mem_cons.mp mem with rfl | later_
    · exact inside
    rcases List.mem_cons.mp later_ with rfl | other
    · exact inside
    · rw [instants t other]
      exact inside
  · exact totals
  · have low : Instant.minimum ≤ timestamp - maxProducerClockSkew := Int.le_sub_right_of_add_le time.1
    have high : timestamp - maxProducerClockSkew ≤ Instant.maximum :=
      (Int.sub_le_self _ (by decide)).trans inside.2
    have produced : ¬ timestamp < timestamp - maxProducerClockSkew :=
      Int.not_lt.mpr (Int.sub_le_self _ (by decide))
    simp [validateContractConsistency, Instant.subtract, low, high, produced, bind, Except.bind]
    rfl

/-- All events pass. -/
def Checked (context : DecimalContext) (limit : Instant) (events : List EventEnvelope) : Prop :=
  ∀ event ∈ events, Passes context limit event

theorem Checked.append {events events' : List EventEnvelope} (first : Checked context limit events)
    (second : Checked context limit events') : Checked context limit (events ++ events') := by
  intro event mem
  rcases List.mem_append.mp mem with early | late
  · exact first event early
  · exact second event late

theorem Checked.cons {event : EventEnvelope} {events : List EventEnvelope}
    (first : Passes context limit event) (rest : Checked context limit events) :
    Checked context limit (event :: events) := by
  intro other mem
  rcases List.mem_cons.mp mem with rfl | late
  · exact first
  · exact rest other late

theorem Checked.nil : Checked context limit [] := by
  intro event mem
  cases mem

/-! ### Up to the decision to add to the cart -/

variable (context) in
theorem register_spends {selection : Selection} (within : limit ≤ Instant.maximum)
    (hex : ∀ text, IsNonEmptyString (rt.sha256Hex text))
    (home : selection.customer.homeCountry ∈ homeOrAbroad) :
    Spends limit 1 (register rt source selection correlationId) (Checked context limit) := by
  refine .ite (fun _ => .pure .nil) fun _ => ?_
  refine (nextTimestamp_spends within le_rfl (by decide)).bind (m := 0) (fun t time => ?_) le_rfl
  refine (envelope_spends context within time ?_ ?_ ?_).bind (m := 0)
    (fun event checked => .pure (.cons checked .nil)) le_rfl
  · exact ⟨hex _, isCountryCode_of home⟩
  · exact fun _ mem => List.mem_singleton.mp mem
  · rfl

/-- The session is in one of the countries, and so is its customer's home. -/
def Identity.Sited (identity : Identity) : Prop :=
  identity.country ∈ homeOrAbroad ∧ identity.customer.homeCountry ∈ homeOrAbroad

theorem identityForSession_spends (home : customer.homeCountry ∈ homeOrAbroad)
    (devices : customer.knownDeviceIds ≠ [] ∧ customer.knownIpAddresses ≠ []) :
    Spends limit 0 (identityForSession source customer profile) fun identity =>
      identity.Sited ∧ identity.customer.persona = customer.persona := by
  refine Spends.known _ ?_ fun _ _ _ ran => (identityForSession_spec ran).2.2
  have device : Spends limit 0 (deviceFor source customer profile) Identity.Sited := by
    refine (chance_spends _).bind (m := 0) (fun changed _ => ?_) le_rfl
    refine .ite (fun _ => ?_) fun _ => ?_
    · refine newUuid_spends.bind (m := 0) (fun deviceId _ => ?_) le_rfl
      exact ipAddress_spends.bind (m := 0) (fun address _ => .pure ⟨home, home⟩) le_rfl
    · refine (lastOf_spends devices.1).bind (m := 0) (fun deviceId _ => ?_) le_rfl
      exact (lastOf_spends devices.2).bind (m := 0) (fun address _ => .pure ⟨home, home⟩) le_rfl
  refine device.bind (m := 0) (fun identity sited => ?_) le_rfl
  refine (chance_spends _).bind (m := 0) (fun abroad _ => ?_) le_rfl
  refine .ite (fun _ => ?_) fun _ => .pure sited
  refine (choice_spends (by simp)).bind (m := 0) (fun country listed => .pure ⟨?_, sited.2⟩) le_rfl
  exact List.mem_cons_of_mem _ listed

variable (context) in
theorem startSession_spends {identity : Identity} (within : limit ≤ Instant.maximum)
    (nonneg : 0 ≤ profile.actionDelay) (short : profile.actionDelay ≤ longestDelay)
    (sited : identity.Sited) :
    Spends limit 1 (startSession source identity profile correlationId sessionId)
      (Passes context limit) := by
  refine (nextTimestamp_spends within nonneg short).bind (m := 0) (fun t time => ?_) le_rfl
  have device : Spends limit 0 (sessionDevice source identity.customer.persona) fun _ => True :=
    .ite (fun _ => .pure trivial) fun _ => (choice_spends (by simp)).mono le_rfl fun _ _ => trivial
  refine device.bind (m := 0) (fun type _ => ?_) le_rfl
  refine envelope_spends context within time ?_ ?_ rfl
  · exact isCountryCode_of sited.1
  · exact fun _ mem => List.mem_singleton.mp mem

theorem catalogue_named {product : Product} (listed : product ∈ productCatalogue) :
    IsNonEmptyString product.category := by
  have all : ∀ product ∈ productCatalogue, isTrimmed product.category = true := by decide +kernel
  exact isNonEmptyString_of (all product listed)

theorem Decimal.cents_nonneg (n : Nat) : 0 ≤ (Decimal.cents n).value := by
  rw [Decimal.cents_value]
  exact div_nonneg (Nat.cast_nonneg n) (by norm_num)

theorem nextProduct_spends {ranked products : List Product} (some_ : ranked ≠ []) :
    Spends limit 0 (nextProduct source customer profile ranked products) fun _ => True := by
  have fresh : Spends limit 0 (freshProduct source customer profile ranked products)
      fun _ => True := by
    refine .ite (fun _ => ?_) fun _ => (choice_spends some_).mono le_rfl fun _ _ => trivial
    have inside : products.length % ranked.length < ranked.length :=
      Nat.mod_lt _ (List.length_pos_of_ne_nil some_)
    rw [List.getElem?_eq_getElem inside]
    exact .pure trivial
  unfold nextProduct
  split
  · refine .ite (fun _ => ?_) fun _ => fresh
    refine (chance_spends _).bind (m := 0) (fun again _ => ?_) le_rfl
    exact .ite (fun _ => .pure trivial) fun _ => fresh
  · exact fresh

theorem moreProducts_spends {ranked : List Product} (some_ : ranked ≠ []) (n : Nat)
    (products : List Product) :
    Spends limit 0 (moreProducts source customer profile ranked n products) fun _ => True := by
  induction n generalizing products with
  | zero => exact .pure trivial
  | succ n ih => exact (nextProduct_spends some_).bind (m := 0) (fun product _ => ih _) le_rfl

/-- The products that are viewed: of the catalogue, one at least and few. -/
structure Viewed (products : List Product) : Prop where
  some_ : products ≠ []
  listed : ∀ product ∈ products, product ∈ productCatalogue
  few : products.length ≤ 20

theorem minViews_pos (persona : CustomerPersona) : 1 ≤ (strategyFor persona).profile.minViews := by
  cases persona <;> decide

theorem maxViews_pos (persona : CustomerPersona) : 1 ≤ (strategyFor persona).profile.maxViews := by
  cases persona <;> decide

theorem viewProducts_spends (persona : CustomerPersona)
    (profile_ : profile = (strategyFor persona).profile) (views : 0 < config.maxProductViews) :
    Spends limit 0 (viewProducts source config customer profile) Viewed := by
  subst profile_
  have spends : Spends limit 0
      (viewProducts source config customer (strategyFor persona).profile) fun _ => True := by
    refine (randint_spends (Nat.min_le_right _ _)).bind (m := 0) (fun count _ => ?_) le_rfl
    refine moreProducts_spends ?_ _ _
    intro none_
    have first : productCatalogue.head (by decide) ∈ productCatalogue := List.head_mem _
    rw [← mem_rankProducts, none_] at first
    cases first
  refine (spends.known Viewed fun w products w' ran => ?_).mono le_rfl fun _ h => h.2
  obtain ⟨-, listed, few⟩ := viewProducts_spec (maxViews_le persona) ran
  refine ⟨?_, listed, few⟩
  obtain ⟨count, u, drawn, rest⟩ := bind_ok.mp ran
  obtain ⟨-, -, length⟩ := moreProducts_spec rest
  have one : 1 ≤ count := by
    unfold randint at drawn
    split at drawn
    · exact (raiseError_ok drawn).elim
    · obtain ⟨i, v, -, returned⟩ := bind_ok.mp drawn
      obtain ⟨rfl, -⟩ := pure_ok.mp returned
      have low := minViews_pos persona
      have high := maxViews_pos persona
      omega
  intro none_
  rw [none_, List.length_nil] at length
  omega

variable (context) in
theorem showProducts_spends (within : limit ≤ Instant.maximum) (nonneg : 0 ≤ profile.actionDelay)
    (short : profile.actionDelay ≤ longestDelay) {products : List Product}
    (listed : ∀ product ∈ products, product ∈ productCatalogue) :
    Spends limit products.length
      (showProducts source customer profile correlationId sessionId products)
      (Checked context limit) := by
  induction products with
  | nil => exact .pure .nil
  | cons product products ih =>
    have here := listed product List.mem_cons_self
    obtain ⟨⟨n, price, -⟩, -⟩ := catalogue_priced here
    refine (nextTimestamp_spends within nonneg short).bind (m := products.length)
      (fun t time => ?_) (by rw [List.length_cons, Nat.add_comm])
    refine (envelope_spends context within time ?_ ?_ rfl).bind (m := products.length)
      (fun event checked => ?_) (Nat.zero_add _).le
    · exact ⟨catalogue_named here, price ▸ Decimal.cents_nonneg n⟩
    · simp [Payload.instants]
    · exact (ih fun other mem => listed other (List.mem_cons_of_mem _ mem)).bind (m := 0)
        (fun events rest => .pure (.cons checked rest)) le_rfl

/-! ### The visit -/

/-- `browse`, after the clock has been set. -/
def visitAs (rt : Runtime) (source : Source) (config : GeneratorConfig) (selection : Selection) :
    Gen Visit := do
  let profile := (strategyFor selection.customer.persona).profile
  let correlationId ← newUuid source
  let registration ← register rt source selection correlationId
  let identity ← identityForSession source selection.customer profile
  let sessionId ← newUuid source
  let session ← startSession source identity profile correlationId sessionId
  let products ← viewProducts source config identity.customer profile
  let views ← showProducts source identity.customer profile correlationId sessionId products
  let adding ← probability config profile .add
  let adds ← chance source adding
  return {
    customer := identity.customer
    returning := selection.returning
    profile, correlationId
    deviceId := identity.deviceId
    ipAddress := identity.ipAddress
    country := identity.country
    sessionId, products
    events := registration ++ session :: views
    adds }

theorem browse_eq (rt : Runtime) (source : Source) (config : GeneratorConfig) :
    browse rt source config = (do
      modify fun w => { w with seedingTakeover := false }
      let persona ← choosePersona source config
      let selection ← selectCustomer source config persona
      startLogicalTime source selection.customer
        (strategyFor selection.customer.persona).profile selection.returning
      visitAs rt source config selection) := rfl

/-- What the rest of the journey needs of a visit. -/
structure Underway (context : DecimalContext) (limit : Instant) (visit : Visit) : Prop where
  checked : Checked context limit visit.events
  sited : visit.country ∈ homeOrAbroad ∧ visit.customer.homeCountry ∈ homeOrAbroad
  viewed : Viewed visit.products
  profile : visit.profile = (strategyFor visit.customer.persona).profile

theorem actionDelay_short (persona : CustomerPersona) :
    (strategyFor persona).profile.actionDelay ≤ longestDelay := by
  cases persona <;> decide

variable (context) in
theorem visitAs_spends {selection : Selection} (within : limit ≤ Instant.maximum)
    (hex : ∀ text, IsNonEmptyString (rt.sha256Hex text)) (views : 0 < config.maxProductViews)
    (home : selection.customer.homeCountry ∈ homeOrAbroad)
    (devices : selection.customer.knownDeviceIds ≠ [] ∧ selection.customer.knownIpAddresses ≠ []) :
    Spends limit 22 (visitAs rt source config selection) (Underway context limit) := by
  have nonneg := actionDelay_nonneg selection.customer.persona
  have short := actionDelay_short selection.customer.persona
  refine newUuid_spends.bind (m := 22) (fun correlationId _ => ?_) le_rfl
  refine (register_spends context within hex home).bind (m := 21) (fun registration registers => ?_)
    le_rfl
  refine (identityForSession_spends home devices).bind (m := 21) (fun identity identified => ?_)
    le_rfl
  obtain ⟨sited, persona⟩ := identified
  refine newUuid_spends.bind (m := 21) (fun sessionId _ => ?_) le_rfl
  refine (startSession_spends context within nonneg short sited).bind (m := 20)
    (fun session starts => ?_) le_rfl
  refine (viewProducts_spends _ rfl views).bind (m := 20) (fun products viewed => ?_) le_rfl
  refine (showProducts_spends context within nonneg short viewed.listed).bind (m := 0)
    (fun shown shows => ?_) viewed.few
  refine (probability_spends _ _).bind (m := 0) (fun adding _ => ?_) le_rfl
  refine (chance_spends _).bind (m := 0) (fun adds _ => .pure ?_) le_rfl
  exact ⟨registers.append (.cons starts shows), sited, viewed, by rw [persona]⟩

/-! ### From there to the end -/

/-- What is in a basket, and what it costs. -/
structure Basket.Priced (basket : Basket) : Prop where
  some_ : 0 < basket.quantity
  amounts : ∃ s k, basket.subtotal = .cents s ∧ basket.discount = .cents k ∧ k + 2 ≤ s ∧ s < 10 ^ 9

theorem catalogue_stocked {product : Product} (listed : product ∈ productCatalogue) :
    1 ≤ min product.availableQuantity 3 := by
  have all : ∀ product ∈ productCatalogue, 1 ≤ min product.availableQuantity 3 := by decide
  exact all product listed

theorem bestProduct_spends (beats : Product → Product → Bool) {products : List Product}
    (some_ : products ≠ []) : Spends limit 0 (bestProduct beats products) fun _ => True := by
  cases products with
  | nil => exact absurd rfl some_
  | cons product products => exact .pure trivial

theorem cartProduct_spends (viewed : Viewed visit.products) :
    Spends limit 0 (cartProduct source visit) fun product => product ∈ productCatalogue := by
  have spends : Spends limit 0 (cartProduct source visit) fun _ => True := by
    refine .ite (fun _ => bestProduct_spends _ viewed.some_) fun _ => ?_
    refine .ite (fun _ => bestProduct_spends _ viewed.some_) fun _ => ?_
    exact (choice_spends viewed.some_).mono le_rfl fun _ _ => trivial
  refine (spends.known (fun product => product ∈ productCatalogue) ?_).mono le_rfl
    fun _ h => h.2
  intro w product w' ran
  exact viewed.listed product (cartProduct_spec ran).2

theorem cartFor_spends : Spends limit 0 (cartFor source visit) fun _ => True := by
  unfold cartFor
  split
  · exact .ite (fun _ => .pure trivial) fun _ => newUuid_spends
  · exact newUuid_spends

theorem fillBasket_spends (within : limit ≤ Instant.maximum) (underway : Underway context limit visit)
    (adds : visit.adds = true) :
    Spends limit 1 (fillBasket source visit) fun basket =>
      Passes context limit basket.event ∧ basket.Priced := by
  have nonneg : 0 ≤ visit.profile.actionDelay := underway.profile ▸ actionDelay_nonneg _
  have short : visit.profile.actionDelay ≤ longestDelay := underway.profile ▸ actionDelay_short _
  have filling : Spends limit 1 (fillBasket source visit) fun basket =>
      Passes context limit basket.event ∧ 0 < basket.quantity := by
    refine (cartProduct_spends underway.viewed).bind (m := 1) (fun product listed => ?_) le_rfl
    refine (randint_spends (catalogue_stocked listed)).bind (m := 1) (fun n some_ => ?_) le_rfl
    refine cartFor_spends.bind (m := 1) (fun cartId _ => ?_) le_rfl
    refine (nextTimestamp_spends within nonneg short).bind (m := 0) (fun t time => ?_) le_rfl
    obtain ⟨⟨c, price, -⟩, -⟩ := catalogue_priced listed
    refine (envelope_spends context within time ?_ ?_ rfl).bind (m := 0) (fun event checked => ?_)
      le_rfl
    · exact ⟨some_.1, price ▸ Decimal.cents_nonneg c⟩
    · simp [Payload.instants]
    · have granting : Spends limit 0 (discountFor source visit (product.price.mul (.ofNat n)))
          fun _ => True := (chance_spends _).bind (m := 0) (fun _ _ => .pure trivial) le_rfl
      exact granting.bind (m := 0) (fun discount _ => .pure ⟨checked, some_.1⟩) le_rfl
  refine (filling.known _ fun w basket w' ran => ?_).mono le_rfl
    fun basket h => ⟨h.1.1, h.1.2, h.2⟩
  obtain ⟨cart, filled⟩ := fillBasket_spec underway.profile underway.viewed.listed adds ran
  exact filled.amounts

/-- The totals of the checkout and of the order. -/
theorem Basket.Priced.totals {basket : Basket} (exact : ExactCents context)
    (priced : basket.Priced) :
    validateTotals.check context basket.subtotal.value basket.discount.value basket.total.value =
        .ok () ∧
      0 ≤ basket.subtotal.value ∧ 0 ≤ basket.discount.value ∧ 0 ≤ basket.total.value ∧
      ∃ t, basket.total = .cents t ∧ 2 ≤ t := by
  obtain ⟨s, k, subtotal, discount, le, few⟩ := priced.amounts
  rw [Basket.total_spec subtotal discount le, subtotal, discount]
  refine ⟨?_, Decimal.cents_nonneg s, Decimal.cents_nonneg k, Decimal.cents_nonneg (s - k), s - k,
    rfl, by omega⟩
  have less : ¬ (s / 100 : Rat) < k / 100 := by
    rw [not_lt]
    exact div_le_div_of_nonneg_right (Nat.cast_le.mpr (by omega)) (by norm_num)
  have difference : ((s - k : Nat) / 100 : Rat) = s / 100 - k / 100 := by
    rw [Nat.cast_sub (by omega), sub_div]
  have sum := exact s k (by omega) (by omega)
  simp only [validateTotals.check, Decimal.cents_value, if_neg less, DecimalContext.add, sum,
    DecimalContext.orOverflow, bind, Except.bind, difference, ne_eq, not_true, if_false]
  rfl

theorem startCheckout_spends {basket : Basket} (within : limit ≤ Instant.maximum)
    (underway : Underway context limit visit) (exact : ExactCents context) (priced : basket.Priced) :
    Spends limit 1 (startCheckout source visit basket) (Passes context limit) := by
  have nonneg : 0 ≤ visit.profile.actionDelay := underway.profile ▸ actionDelay_nonneg _
  have short : visit.profile.actionDelay ≤ longestDelay := underway.profile ▸ actionDelay_short _
  obtain ⟨totals, subtotal, discount, total, -⟩ := priced.totals exact
  refine (nextTimestamp_spends within nonneg short).bind (m := 0) (fun t time => ?_) le_rfl
  refine envelope_spends context within time ?_ ?_ totals
  · exact ⟨priced.some_, subtotal, discount, total⟩
  · simp [Payload.instants]

theorem createOrder_spends {basket : Basket} {orderId : UUID} (within : limit ≤ Instant.maximum)
    (underway : Underway context limit visit) (exact : ExactCents context) (priced : basket.Priced) :
    Spends limit 1 (createOrder source visit basket orderId) (Passes context limit) := by
  have nonneg : 0 ≤ visit.profile.actionDelay := underway.profile ▸ actionDelay_nonneg _
  have short : visit.profile.actionDelay ≤ longestDelay := underway.profile ▸ actionDelay_short _
  obtain ⟨totals, subtotal, discount, total, -⟩ := priced.totals exact
  refine (nextTimestamp_spends within nonneg short).bind (m := 0) (fun t time => ?_) le_rfl
  refine envelope_spends context within time ?_ ?_ totals
  · exact ⟨priced.some_, subtotal, discount, total,
      isCountryCode_of underway.sited.1, isCountryCode_of underway.sited.2⟩
  · exact fun _ mem => List.mem_singleton.mp mem

theorem payments_spends {orderId : UUID} {total : Decimal} (within : limit ≤ Instant.maximum)
    (underway : Underway context limit visit) (positive : 0 < total.value) (n : Nat) :
    Spends limit n (payments source config visit orderId total n) fun paid =>
      Checked context limit paid.events := by
  have nonneg : 0 ≤ visit.profile.actionDelay := underway.profile ▸ actionDelay_nonneg _
  have short : visit.profile.actionDelay ≤ longestDelay := underway.profile ▸ actionDelay_short _
  have country := isCountryCode_of underway.sited.1
  induction n with
  | zero => exact .pure .nil
  | succ n ih =>
    refine newUuid_spends.bind (m := n + 1) (fun paymentId _ => ?_) (Nat.zero_add _).le
    refine (nextTimestamp_spends within nonneg short).bind (m := n) (fun t time => ?_)
      (Nat.add_comm 1 n).le
    refine (probability_spends _ _).bind (m := n) (fun paying _ => ?_) (Nat.zero_add n).le
    refine (chance_spends _).bind (m := n) (fun success _ => ?_) (Nat.zero_add n).le
    refine .ite (fun _ => ?_) fun _ => ?_
    · refine (choice_spends (by simp)).bind (m := n) (fun method _ => ?_) (Nat.zero_add n).le
      refine (envelope_spends context within time ?_ ?_ rfl).bind (m := n)
        (fun event checked => .pure (.cons checked .nil)) (Nat.zero_add n).le
      · exact ⟨positive, country⟩
      · exact fun _ mem => List.mem_singleton.mp mem
    · refine (choice_spends (by simp)).bind (m := n) (fun method _ => ?_) (Nat.zero_add n).le
      refine (choice_spends (by simp)).bind (m := n) (fun reason _ => ?_) (Nat.zero_add n).le
      refine (envelope_spends context within time ?_ ?_ rfl).bind (m := n) (fun event checked => ?_)
        (Nat.zero_add n).le
      · exact ⟨positive, country⟩
      · exact fun _ mem => List.mem_singleton.mp mem
      · refine (chance_spends _).bind (m := n) (fun again _ => ?_) (Nat.zero_add n).le
        refine .ite (fun _ => ?_) fun _ => .pure (.cons checked .nil)
        exact ih.bind (m := 0) (fun rest more => .pure (.cons checked more)) le_rfl

theorem refundFor_spends {orderId : UUID} {t : Nat} {successful : Option UUID}
    (within : limit ≤ Instant.maximum) (underway : Underway context limit visit) (some_ : 2 ≤ t) :
    Spends limit 1 (refundFor source config visit orderId (.cents t) successful)
      (Checked context limit) := by
  have nonneg : 0 ≤ visit.profile.actionDelay := underway.profile ▸ actionDelay_nonneg _
  have short : visit.profile.actionDelay ≤ longestDelay := underway.profile ▸ actionDelay_short _
  have positive : 0 < (Decimal.cents t).half.quantizeCents.value := by
    rw [Decimal.quantizeCents_half]
    have rounded := Decimal.div_le_halfEven (t * 5) 10
    exact positive_cents (by omega)
  have reason : IsNonEmptyString "customer request" := isNonEmptyString_of (by decide +kernel)
  cases successful with
  | none => exact .pure .nil
  | some paymentId =>
    refine (probability_spends _ _).bind (m := 1) (fun refunding _ => ?_) le_rfl
    refine (chance_spends _).bind (m := 1) (fun refunded _ => ?_) le_rfl
    refine .ite (fun _ => ?_) fun _ => .pure .nil
    have requesting : Spends limit 1 (requestRefund source visit orderId paymentId (.cents t))
        (Passes context limit) := by
      refine (nextTimestamp_spends within nonneg short).bind (m := 0) (fun t time => ?_) le_rfl
      refine newUuid_spends.bind (m := 0) (fun refundId _ => ?_) le_rfl
      refine envelope_spends context within time ?_ ?_ rfl
      · exact ⟨positive, reason⟩
      · exact fun _ mem => List.mem_singleton.mp mem
    exact requesting.bind (m := 0) (fun event checked => .pure (.cons checked .nil)) le_rfl

theorem checksOut_spends {basket : Basket} :
    Spends limit 0 (checksOut source config visit basket) fun _ => True :=
  (probability_spends _ _).bind (m := 0) (fun _ _ => chance_spends _) le_rfl

variable (source) in
theorem conclude_spends (within : limit ≤ Instant.maximum) (underway : Underway context limit visit)
    (exact : ExactCents context) (attempts : config.maxPaymentAttempts ≤ 10)
    (some_ : 1 ≤ config.maxPaymentAttempts) :
    Spends limit 14 (conclude source config visit) fun c => Checked context limit c.events := by
  refine .ite (fun adds => ?_) fun _ => .pure underway.checked
  refine (fillBasket_spends within underway adds).bind (m := 13) (fun basket filled => ?_) le_rfl
  obtain ⟨carted, priced⟩ := filled
  refine checksOut_spends.bind (m := 13) (fun buys _ => ?_) le_rfl
  refine .ite (fun _ => ?_) fun _ => .pure (underway.checked.append (.cons carted .nil))
  obtain ⟨-, -, -, -, t, total, large⟩ := priced.totals exact
  refine (startCheckout_spends within underway exact priced).bind (m := 12)
    (fun checkout checked => ?_) le_rfl
  refine newUuid_spends.bind (m := 12) (fun orderId _ => ?_) le_rfl
  refine (createOrder_spends within underway exact priced).bind (m := 11)
    (fun order ordered => ?_) le_rfl
  rw [total]
  have few := (maximumAttempts_le visit.profile some_).trans attempts
  refine (payments_spends within underway (positive_cents (by omega)) _).bind (m := 1)
    (fun paid charged => ?_) (by omega)
  refine (refundFor_spends within underway large).bind (m := 0) (fun refund refunded => .pure ?_)
    le_rfl
  exact underway.checked.append (.cons carted (.cons checked (.cons ordered
    (charged.append refunded))))

end

end CommercePlatform.Generator
