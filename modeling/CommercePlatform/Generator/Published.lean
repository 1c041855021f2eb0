import Mathlib.Data.Nat.Digits.Lemmas
import CommercePlatform.Contract.Soundness
import CommercePlatform.Generator.Labels
import CommercePlatform.Generator.Seeded

/-!
What a validator says about the messages of a run.

Every event of a run passes the checks of its model, is of the current version, and has a
canonical form; its time is not before the first reading of the clock. So about each message
that the Kafka client accepts, in any run, a validator says what the label says
(`published_labelled`).
-/

namespace CommercePlatform.Generator

open Contract Processor Stateful

/-! ### Versions and times -/

/-- The clock has come to `first`. -/
def From (first : Instant) (w : World) : Prop := first ≤ w.cursor

/-- An event of the current version, not before `first`. -/
def Current (first : Instant) (event : EventEnvelope) : Prop :=
  event.eventVersion = 1 ∧ first ≤ event.eventTime

/-- The code appends current events, from the clock at `first` on. -/
def Appends {α : Type} (first : Instant) (x : Gen α) (events : α → List EventEnvelope) : Prop :=
  Ensures (From first) x fun a w => From first w ∧ ∀ event ∈ events a, Current first event

section

variable {α β : Type} {first : Instant} {x : Gen α} {f : α → Gen β}
  {events : α → List EventEnvelope} {events' : β → List EventEnvelope}
  {rt : Runtime} {source : Source} {config : GeneratorConfig}

namespace Appends

theorem pure {a : α} (current : ∀ event ∈ events a, Current first event) :
    Appends first (Pure.pure a) events :=
  Ensures.pure fun _ here => ⟨here, current⟩

theorem bind (start : Appends first x events)
    (rest : ∀ a, (∀ event ∈ events a, Current first event) → Appends first (f a) events') :
    Appends first (x >>= f) events' := by
  refine Ensures.bind start fun a => ?_
  intro w b w' ⟨here, current⟩ ran
  exact rest a current w b w' here ran

/-- Code that leaves the clock alone comes before it. -/
theorem after (respects : Respects Still x) (rest : ∀ a, Appends first (f a) events') :
    Appends first (x >>= f) events' := by
  refine Ensures.bind (Q := fun _ w => From first w) ?_ rest
  exact Ensures.of_keeps respects.returns fun w w' here still => here.trans still.2.ge

theorem ite {c : Prop} [Decidable c] {y : Gen α} (yes : Appends first x events)
    (no : Appends first y events) : Appends first (if c then x else y) events :=
  Ensures.ite (fun _ => yes) fun _ => no

end Appends

variable {correlationId sessionId orderId : UUID} {profile : PersonaProfile}
  {customer : CustomerState} {visit : Visit}

/-- The next timestamp, and an event made of it. -/
theorem nextTimestamp_appends {delay : Int} (nonneg : 0 ≤ delay) {f : Instant → Gen β}
    (rest : ∀ timestamp, first ≤ timestamp → Appends first (f timestamp) events') :
    Appends first (nextTimestamp delay >>= f) events' := by
  intro w b w' here ran
  obtain ⟨timestamp, u, ticked, ran⟩ := bind_ok.mp ran
  obtain ⟨time, -, cursor⟩ := nextTimestamp_ok ticked
  have later : first ≤ timestamp := by
    rw [time]
    exact here.trans (Int.le_add_of_nonneg_right nonneg)
  exact rest timestamp later u b w' (later.trans cursor.ge) ran

theorem envelope_appends {payload : Payload} {timestamp : Instant} (late : first ≤ timestamp) :
    Appends first (envelope source correlationId payload timestamp) fun event => [event] := by
  refine Appends.after stillFrame.newUuid fun eventId => .pure fun event mem => ?_
  rw [List.mem_singleton.mp mem]
  exact ⟨rfl, late⟩

theorem register_appends {selection : Selection} :
    Appends first (register rt source selection correlationId) id := by
  refine Appends.ite (.pure (by simp)) ?_
  refine nextTimestamp_appends le_rfl fun timestamp late => ?_
  exact (envelope_appends late).bind fun event current => .pure current

theorem startSession_appends {identity : Identity} (nonneg : 0 ≤ profile.actionDelay) :
    Appends first (startSession source identity profile correlationId sessionId)
      fun event => [event] := by
  refine nextTimestamp_appends nonneg fun timestamp late => ?_
  exact .after (stillFrame.sessionDevice _) fun type => envelope_appends late

theorem showProducts_appends (nonneg : 0 ≤ profile.actionDelay) (products : List Product) :
    Appends first (showProducts source customer profile correlationId sessionId products) id := by
  induction products with
  | nil => exact .pure (by simp)
  | cons product products ih =>
    refine nextTimestamp_appends nonneg fun timestamp late => ?_
    refine (envelope_appends late).bind fun event current => ih.bind fun rest others => ?_
    refine .pure fun other mem => ?_
    rcases List.mem_cons.mp mem with rfl | mem
    · exact current other List.mem_cons_self
    · exact others other mem

theorem visitAs_appends (selection : Selection) :
    Appends first (visitAs rt source config selection) (·.events) := by
  have nonneg := actionDelay_nonneg selection.customer.persona
  refine .after stillFrame.newUuid fun correlationId => ?_
  refine register_appends.bind fun registration registers => ?_
  refine .after (stillFrame.identityForSession _ _) fun identity => ?_
  refine .after stillFrame.newUuid fun sessionId => ?_
  refine (startSession_appends nonneg).bind fun session starts => ?_
  refine .after (stillFrame.viewProducts _ _) fun products => ?_
  refine (showProducts_appends nonneg products).bind fun views shows => ?_
  refine .after (stillFrame.probability _ _) fun adding => ?_
  refine .after (stillFrame.chance _) fun adds => .pure fun event mem => ?_
  rcases List.mem_append.mp mem with early | late
  · exact registers event early
  rcases List.mem_cons.mp late with rfl | late
  · exact starts event List.mem_cons_self
  · exact shows event late

theorem fillBasket_appends (nonneg : 0 ≤ visit.profile.actionDelay) :
    Appends first (fillBasket source visit) fun basket => [basket.event] := by
  refine .after (stillFrame.cartProduct _) fun product => ?_
  refine .after (stillFrame.randint _ _) fun quantity => ?_
  refine .after (stillFrame.cartFor _) fun cartId => ?_
  refine nextTimestamp_appends nonneg fun timestamp late => ?_
  refine (envelope_appends late).bind fun event current => ?_
  exact .after (stillFrame.discountFor _ _) fun discount => .pure current

theorem payments_appends {total : Decimal} (nonneg : 0 ≤ visit.profile.actionDelay) (n : Nat) :
    Appends first (payments source config visit orderId total n) (·.events) := by
  induction n with
  | zero => exact .pure (by simp)
  | succ n ih =>
    refine .after stillFrame.newUuid fun paymentId => ?_
    refine nextTimestamp_appends nonneg fun timestamp late => ?_
    refine .after (stillFrame.probability _ _) fun paying => ?_
    refine .after (stillFrame.chance _) fun success => ?_
    refine Appends.ite ?_ ?_
    · refine .after (stillFrame.choice _) fun method => ?_
      exact (envelope_appends late).bind fun event current => .pure current
    · refine .after (stillFrame.choice _) fun method => ?_
      refine .after (stillFrame.choice _) fun reason => ?_
      refine (envelope_appends late).bind fun event current => ?_
      refine .after (stillFrame.chance _) fun again => Appends.ite ?_ (.pure current)
      refine ih.bind fun rest others => .pure fun other mem => ?_
      rcases List.mem_cons.mp mem with rfl | mem
      · exact current other List.mem_cons_self
      · exact others other mem

theorem refundFor_appends {total : Decimal} {successful : Option UUID}
    (nonneg : 0 ≤ visit.profile.actionDelay) :
    Appends first (refundFor source config visit orderId total successful) id := by
  cases successful with
  | none => exact .pure (by simp)
  | some paymentId =>
    refine .after (stillFrame.probability _ _) fun refunding => ?_
    refine .after (stillFrame.chance _) fun refunded => Appends.ite ?_ (.pure (by simp))
    have requested : Appends first (requestRefund source visit orderId paymentId total)
        fun event => [event] := by
      refine nextTimestamp_appends nonneg fun timestamp late => ?_
      exact .after stillFrame.newUuid fun refundId => envelope_appends late
    exact requested.bind fun event current => .pure current

theorem conclude_appends (nonneg : 0 ≤ visit.profile.actionDelay)
    (visited : ∀ event ∈ visit.events, Current first event) :
    Appends first (conclude source config visit) (·.events) := by
  unfold conclude
  refine Appends.ite ?_ (.pure visited)
  refine (fillBasket_appends nonneg).bind fun basket added => ?_
  refine .after (stillFrame.checksOut _ _) fun buys => Appends.ite ?_ ?_
  · have checkout : Appends first (startCheckout source visit basket) fun event => [event] :=
      nextTimestamp_appends nonneg fun timestamp late => envelope_appends late
    refine checkout.bind fun checkout started => ?_
    refine .after stillFrame.newUuid fun orderId => ?_
    have order : Appends first (createOrder source visit basket orderId) fun event => [event] :=
      nextTimestamp_appends nonneg fun timestamp late => envelope_appends late
    refine order.bind fun order created => ?_
    refine (payments_appends nonneg _).bind fun paid pays => ?_
    refine (refundFor_appends nonneg).bind fun refund refunds => .pure fun event mem => ?_
    rcases List.mem_append.mp mem with early | mem
    · exact visited event early
    rcases List.mem_cons.mp mem with rfl | mem
    · exact added _ List.mem_cons_self
    rcases List.mem_cons.mp mem with rfl | mem
    · exact started event List.mem_cons_self
    rcases List.mem_cons.mp mem with rfl | mem
    · exact created event List.mem_cons_self
    rcases List.mem_append.mp mem with early | late
    · exact pays event early
    · exact refunds event late
  · refine .pure fun event mem => ?_
    rcases List.mem_append.mp mem with early | mem
    · exact visited event early
    · rw [List.mem_singleton.mp mem]
      exact added basket.event List.mem_cons_self

theorem startLogicalTime_from (clock : ∀ i, first ≤ source.clock i) (returning : Bool)
    {w w' : World} {u : PUnit}
    (ran : startLogicalTime source customer profile returning w = .ok (u, w')) : From first w' := by
  obtain ⟨now, w₁, read, ran⟩ := bind_ok.mp ran
  obtain ⟨_, w₂, read', read⟩ := bind_ok.mp read
  obtain ⟨_, w₃, -, returned⟩ := bind_ok.mp read
  obtain ⟨rfl, -⟩ := pure_ok.mp returned
  cases active : customer.lastActivityTimestamp with
  | none =>
    rw [active] at ran
    obtain rfl := modify_ok.mp ran
    exact clock _
  | some last =>
    rw [active] at ran
    change (if _ then _ else _ : Gen Unit) w₁ = _ at ran
    split at ran
    · obtain ⟨due, w₄, -, set⟩ := bind_ok.mp ran
      obtain rfl := modify_ok.mp set
      exact (clock _).trans (le_max_left _ _)
    · obtain rfl := modify_ok.mp ran
      exact clock _

variable {w w' : World} {result : JourneyResult}

theorem build_current (clock : ∀ i, first ≤ source.clock i)
    (ran : build rt source config w = .ok (result, w')) :
    ∀ event ∈ result.events, Current first event := by
  rw [build_eq] at ran
  obtain ⟨visit, u, browsed, ran⟩ := bind_ok.mp ran
  obtain ⟨c, v, concluded, finished⟩ := bind_ok.mp ran
  have nonneg : 0 ≤ visit.profile.actionDelay := by
    rw [(browse_spec browsed).profile]
    exact actionDelay_nonneg _
  rw [browse_eq] at browsed
  obtain ⟨_, w₀, -, browsed⟩ := bind_ok.mp browsed
  obtain ⟨persona, w₁, -, browsed⟩ := bind_ok.mp browsed
  obtain ⟨selection, w₂, -, browsed⟩ := bind_ok.mp browsed
  obtain ⟨_, w₃, started, visited⟩ := bind_ok.mp browsed
  obtain ⟨here, visiting⟩ := visitAs_appends selection w₃ visit u
    (startLogicalTime_from clock _ started) visited
  obtain ⟨-, concluding⟩ := conclude_appends nonneg visiting u c v here concluded
  obtain ⟨last, -, same, -⟩ := finish_commits finished
  rw [same]
  exact concluding

/-- The events of a journey pass their checks where the pool is fit. -/
theorem build_checked {context : DecimalContext} {latest : Instant} (accepted : config.Accepted)
    (hex : ∀ text, IsNonEmptyString (rt.sha256Hex text)) (exact : ExactCents context)
    (clock : ∀ i, InTime latest (source.clock i))
    (room : latest + journeySpan ≤ Instant.maximum)
    (fit : ∀ state ∈ w.customers.values, Fit latest state)
    (ran : build rt source config w = .ok (result, w')) :
    Checked context (latest + journeySpan) result.events := by
  rw [build_eq] at ran
  obtain ⟨visit, u, browsed, ran⟩ := bind_ok.mp ran
  obtain ⟨c, v, concluded, finished⟩ := bind_ok.mp ran
  obtain ⟨visit', u', c', v', prepared⟩ := served_prepares context accepted hex exact clock room
    fit (browse_served accepted browsed).1
  cases browsed.symm.trans prepared.browsed
  cases concluded.symm.trans prepared.concluded
  obtain ⟨last, -, same, -⟩ := finish_commits finished
  rw [same]
  exact prepared.checked

/-! ### Integers -/

/-- The integers of a payload are small. -/
def Small (payload : Payload) : Prop := ∀ n ∈ payload.integers, n ≤ 1000

/-- What has been put into the cart of this stage is little. -/
def Stage.Small : Stage → Prop
  | .carted cart => cart.quantity ≤ 1000
  | .checkedOut checkout => checkout.itemCount ≤ 1000
  | _ => True

theorem Follows.small {stage next : Stage} {payload : Payload}
    (follows : Follows stage payload next) (small : stage.Small) :
    Generator.Small payload ∧ next.Small := by
  cases follows with
  | view p session price stock => exact ⟨by simpa [Generator.Small, Payload.integers], trivial⟩
  | add p session price line some_ few =>
    exact ⟨by simpa [Generator.Small, Payload.integers], few⟩
  | checkout p checks =>
    have few := checks.itemCount.trans_le small
    exact ⟨by simpa [Generator.Small, Payload.integers], few⟩
  | order p orders =>
    have few := orders.itemCount.trans_le small
    exact ⟨by simpa [Generator.Small, Payload.integers], trivial⟩
  | _ => exact ⟨by simp [Generator.Small, Payload.integers], trivial⟩

theorem Lives.small {stage last : Stage} {journey : List EventEnvelope}
    (lives : Lives stage journey last) (small : stage.Small) :
    ∀ event ∈ journey, Generator.Small event.payload := by
  induction lives with
  | nil => simp
  | cons follows _ ih =>
    obtain ⟨here, next⟩ := follows.small small
    intro event mem
    rcases List.mem_cons.mp mem with rfl | later
    · exact here
    · exact ih next event later

theorem shortNat_of_le {n : Nat} (small : n ≤ 1000) : ShortNat n := by
  have digits : (Nat.digits 10 n).length ≤ 4 :=
    (Nat.digits_length_le_iff (by decide) n).mpr (by omega)
  have length : (Json.dumpNat n).length ≤ 4 := by
    unfold Json.dumpNat
    split
    · decide
    · simpa using digits
  simp only [ShortNat, Json.shortInts, Int.natAbs_natCast]
  exact decide_eq_true (length.trans (by decide))

theorem build_rendered (accepted : config.Accepted)
    (ran : build rt source config w = .ok (result, w')) {event : EventEnvelope}
    (mem : event ∈ result.events) (version : event.eventVersion = 1) :
    ∃ text, event.canonicalJson = .ok text := by
  obtain ⟨start, last, begins, lives⟩ := (build_spec accepted.maxPaymentAttempts.1 ran).life
  have small : start.Small := by
    rcases begins with rfl | rfl <;> trivial
  refine canonicalJson_short ?_ (short_modelDump fun n held => ?_)
  · rw [version]
    exact shortNat_of_le (by decide)
  · exact shortNat_of_le (lives.small small event mem n held)

end

/-! ### All events of a run -/

section

variable {setup : Setup} {context : DecimalContext} {first latest : Instant}

theorem generated_built {n : Nat} {made : Generated} (ran : setup.generated n = some made) :
    Built setup.rt setup.source setup.config (fun _ => True) made.world
      (made.batches.map (·.journey)) := by
  induction n generalizing made with
  | zero =>
    cases ran
    exact .start
  | succ n ih =>
    obtain ⟨before, early, stepped⟩ := Option.bind_eq_some_iff.mp ran
    unfold Generated.next at stepped
    split at stepped
    · cases stepped
    · rename_i journey world built
      split at stepped
      · cases stepped
      · cases stepped
        rw [List.map_append]
        exact (ih early).journey trivial built

/-- What is known of a generated event, whatever pydantic makes of it. -/
structure Sendable (context : DecimalContext) (first : Instant) (event : EventEnvelope) :
    Prop where
  formed : WellFormed context event
  current : Current first event
  rendered : ∃ text, event.canonicalJson = .ok text

theorem generated_sendable (accepted : setup.config.Accepted)
    (hex : ∀ text, IsNonEmptyString (setup.rt.sha256Hex text)) (exact : ExactCents context)
    (clock : ∀ i, first ≤ setup.source.clock i ∧ InTime latest (setup.source.clock i)) {n : Nat}
    (room : latest + n * journeySpan ≤ Instant.maximum) {made : Generated}
    (ran : setup.generated n = some made) :
    ∀ batch ∈ made.batches, ∀ event ∈ batch.journey.events, Sendable context first event := by
  induction n generalizing made with
  | zero =>
    cases ran
    simp
  | succ n ih =>
    obtain ⟨before, early, stepped⟩ := Option.bind_eq_some_iff.mp ran
    rw [Nat.cast_add, Nat.cast_one, Int.add_mul, Int.one_mul, ← Int.add_assoc] at room
    have shorter : latest + n * journeySpan ≤ latest + n * journeySpan + journeySpan :=
      Int.le_add_of_nonneg_right (by decide)
    have le : latest ≤ latest + n * journeySpan :=
      Int.le_add_of_nonneg_right (Int.mul_nonneg (Int.natCast_nonneg _) (by decide))
    have earlier := ih (shorter.trans room) early
    have length : (before.batches.map (·.journey)).length = n := by
      rw [List.length_map]
      exact generated_length early
    have fit := (generated_built early).fit accepted hex exact (fun i => (clock i).2)
      (by rw [length]; exact shorter.trans room)
    rw [length] at fit
    unfold Generated.next at stepped
    split at stepped
    · cases stepped
    · rename_i journey world built
      split at stepped
      · cases stepped
      · cases stepped
        intro batch mem event held
        rcases List.mem_append.mp mem with old | new
        · exact earlier batch old event held
        · rw [List.mem_singleton.mp new] at held
          have current := build_current (fun i => (clock i).1) built event held
          have checked := build_checked accepted hex exact (fun i => ((clock i).2).mono le) room
            fit built event held
          exact ⟨checked.formed, current, build_rendered accepted built held current.1⟩

theorem generated_makes {n : Nat} {made : Generated} (ran : setup.generated n = some made) :
    ∀ batch ∈ made.batches, setup.Makes batch := by
  induction n generalizing made with
  | zero =>
    cases ran
    simp
  | succ n ih =>
    obtain ⟨before, early, stepped⟩ := Option.bind_eq_some_iff.mp ran
    obtain ⟨batch, makes, same⟩ := next_batches stepped
    rw [same]
    intro other mem
    rcases List.mem_append.mp mem with old | new
    · exact ih early other old
    · rw [List.mem_singleton.mp new]
      exact makes

end

/-- pydantic reads the scalars of the event, and the time that makes it late. -/
structure Readable (py : Pydantic) (config : GeneratorConfig) (event : EventEnvelope) : Prop where
  denotes : Denotes py event
  earlier : py.awareDatetime (utcJson (event.eventTime - lateness config)) =
    some ⟨event.eventTime - lateness config, 0⟩

/-- About every message that the client has accepted, whatever has become of it since, a
validator says what its label says. -/
theorem published_labelled (setup : Setup) (v : Validator) (conforms : Conforms v.toParser)
    (accepted : setup.config.Accepted) (hex : ∀ text, IsNonEmptyString (setup.rt.sha256Hex text))
    (exact : ExactCents v.context) {latest : Instant}
    (clock : ∀ i, Instant.minimum + seconds 540 ≤ setup.source.clock i ∧
      setup.source.clock i ≤ latest)
    {labels : List GenerationLabel} {run : GenerationRun}
    (ran : setup.machine.run {} labels = some run)
    (room : latest + (run.batches.length + 1 : Nat) * journeySpan ≤ Instant.maximum)
    (readable : ∀ n ≤ run.batches.length + 1, ∀ made, setup.generated n = some made →
      ∀ batch ∈ made.batches, ∀ event ∈ batch.journey.events,
        Readable v.py setup.config event) :
    ∀ message ∈ run.producer.client.accepted, Labelled v setup.config message := by
  obtain ⟨n, few, made, generated, -, published⟩ := (GenerationRun.Determined.ran ran).published
  intro message mem
  obtain ⟨batch, listed, held⟩ := List.mem_flatMap.mp (published.subset mem)
  obtain ⟨⟨w, w', built⟩, ⟨u, u', prepared⟩⟩ := generated_makes generated batch listed
  have spans : (n : Int) * journeySpan ≤ (run.batches.length + 1 : Nat) * journeySpan :=
    Int.mul_le_mul_of_nonneg_right (Int.ofNat_le.mpr few) (by decide)
  have timely : ∀ i, Instant.minimum + seconds 540 ≤ setup.source.clock i ∧
      InTime latest (setup.source.clock i) := by
    intro i
    obtain ⟨low, high⟩ := clock i
    have first : earliest ≤ Instant.minimum + seconds 540 := by decide
    exact ⟨low, first.trans low, high⟩
  have sendable := generated_sendable accepted hex exact timely
    ((Int.add_le_add_left spans latest).trans room) generated batch listed
  have publishable : ∀ event ∈ batch.journey.events, Publishable v setup.config event := by
    intro event here
    obtain ⟨formed, current, rendered⟩ := sendable event here
    obtain ⟨denotes, earlier⟩ := readable n few made generated batch listed event here
    exact ⟨formed, current.1, denotes, rendered, current.2, earlier⟩
  have early : ∀ event ∈ batch.journey.events,
      Instant.minimum + seconds 240 ≤ event.eventTime := by
    intro event here
    have less : Instant.minimum + seconds 240 ≤ Instant.minimum + seconds 540 := by decide
    exact less.trans (publishable event here).time
  have late : ∀ event ∈ batch.journey.events, event.eventTime ≤ Instant.maximum :=
    fun event here => ((publishable event here).formed.instants _ List.mem_cons_self).2
  obtain ⟨messages, w'', originals, copies, again, split, -, here, there⟩ :=
    prepare_prepared setup.injector setup.config (build_two accepted built) early late u
  cases prepared.symm.trans again
  rw [split] at held
  rcases List.mem_append.mp held with original | copy
  · exact labelled_original conforms publishable (here message original)
  · exact labelled_mutated conforms publishable (there message copy)

/-! ### One journey -/

/-- The times of the trial, and four minutes before. -/
def trialTimes : List Instant := (List.range 16).map fun k => 1735732560000000 + 30000000 * k

def trialAmounts : List Decimal :=
  [.cents 129990, .cents 6500, .cents 123490, .cents 61745]

/-- pydantic on these scalars. -/
def trialPydantic : Pydantic :=
  { samplePydantic with
    awareDatetime := fun
      | .str text =>
        (trialTimes.find? fun t => Text.ofString (serializeUtc t) = text).map (⟨·, 0⟩)
      | _ => none
    decimal := fun
      | .str text => trialAmounts.find? fun d => Text.ofString d.str = text
      | _ => none
    ipAddress := fun
      | .str text =>
        if text = Text.ofString (hostAddress 1).text then some (hostAddress 1) else none
      | _ => none }

def trialValidator : Validator :=
  { sampleValidator with py := trialPydantic, context := exactContext }

theorem trialValidator_conforms : Conforms trialValidator.toParser :=
  sampleValidator_conforms.congr (by decide) rfl rfl

/-- The scalars of an event are those of the trial. -/
def ofTrial (event : EventEnvelope) : Bool :=
  decide (event.eventTime - lateness trialSetup.config ∈ trialTimes) &&
    event.instants.all (· ∈ trialTimes) &&
    event.payload.decimals.all (· ∈ trialAmounts) &&
    event.payload.addresses.all (· = hostAddress 1)

theorem trialPydantic_instant {t : Instant} (listed : t ∈ trialTimes) :
    trialPydantic.awareDatetime (utcJson t) = some ⟨t, 0⟩ := by
  have all : ∀ t ∈ trialTimes, (trialTimes.find? fun t' =>
      Text.ofString (serializeUtc t') = Text.ofString (serializeUtc t)) = some t := by
    decide +kernel
  simp only [trialPydantic, utcJson, strJson, all t listed, Option.map_some]

theorem ofTrial_readable {event : EventEnvelope} (ofTrial : ofTrial event = true) :
    Readable trialPydantic trialSetup.config event := by
  simp only [Generator.ofTrial, Bool.and_eq_true, List.all_eq_true,
    decide_eq_true_eq] at ofTrial
  obtain ⟨⟨⟨late, instants⟩, decimals⟩, addresses⟩ := ofTrial
  refine ⟨⟨uuidOfText_str, ?_, ?_, ?_⟩, trialPydantic_instant late⟩
  · intro t mem
    exact trialPydantic_instant (instants t mem)
  · intro d mem
    have all : ∀ d ∈ trialAmounts, (trialAmounts.find? fun d' =>
        Text.ofString d'.str = Text.ofString d.str) = some d := by
      decide +kernel
    simp only [trialPydantic, moneyJson, strJson]
    exact all d (decimals d mem)
  · intro ip mem
    rw [addresses ip mem]
    simp only [trialPydantic, strJson, if_true]

theorem generated_ofTrial : (trialSetup.generated 2).map (fun made =>
    made.batches.all fun batch => batch.journey.events.all ofTrial) = some true := by
  decide +kernel

theorem published_labelled_trial :
    ∃ run, trialSetup.machine.run {} trialLabels = some run ∧
      run.producer.client.accepted.length = 9 ∧
      ∀ message ∈ run.producer.client.accepted,
        Labelled trialValidator trialSetup.config message := by
  have trial : (trialSetup.machine.run {} trialLabels).map
      (fun run => (run.producer.client.accepted.length, run.batches.length)) = some (9, 1) := by
    decide +kernel
  obtain ⟨run, ran, sizes⟩ := Option.map_eq_some_iff.mp trial
  obtain ⟨nine, one⟩ := Prod.mk.inj sizes
  obtain ⟨made₂, generated₂, all⟩ := Option.map_eq_some_iff.mp generated_ofTrial
  have clock : ∀ i, Instant.minimum + seconds 540 ≤ trialSetup.source.clock i ∧
      trialSetup.source.clock i ≤ 1735732800000000 := by
    have low : Instant.minimum + seconds 540 ≤ 1735732800000000 := by decide
    exact fun _ => ⟨low, le_rfl⟩
  have room : 1735732800000000 + (run.batches.length + 1 : Nat) * journeySpan ≤
      Instant.maximum := by
    rw [one]
    decide
  have readable : ∀ n ≤ run.batches.length + 1, ∀ made, trialSetup.generated n = some made →
      ∀ batch ∈ made.batches, ∀ event ∈ batch.journey.events,
        Readable trialPydantic trialSetup.config event := by
    rw [one]
    intro n few made generated batch listed event held
    have known := (generated_extends few generated generated₂).subset listed
    simp only [List.all_eq_true] at all
    exact ofTrial_readable (all batch known event held)
  exact ⟨run, ran, nine, published_labelled trialSetup trialValidator trialValidator_conforms
    (by decide +kernel) (fun _ => firstHash_nonEmpty) exactContext_exact clock ran room readable⟩

end CommercePlatform.Generator
