import Mathlib.Data.Finset.Card
import Mathlib.Data.Finset.Dedup
import CommercePlatform.Fraud.PaymentHistory

/-!
The windowed counters of a context.

`build` reads the newest payments of the look-back once and counts in Python what lies in
each window. The rows come newest first, so cutting them to a window gives the newest
payments of the window; but a window that is longer than the look-back is cut to it.
-/

namespace CommercePlatform.Fraud

open Contract Persistence Schema

/-! ### Cutting a listing -/

/-- A listing cut to the rows from `start` on lists the newest rows from `start` on. -/
theorem latest_from {ρ : Type} (table : Dict UUID ρ) (p : ρ → Bool) (at_ : ρ → Instant)
    (limit : Nat) (start : Instant) :
    (Db.latest table p at_ limit).filter (fun r => decide (start ≤ at_ r)) =
      Db.latest table (fun r => p r && decide (start ≤ at_ r)) at_ limit := by
  have unique : ∀ a ∈ table.entries, ∀ b ∈ table.entries, a.1 = b.1 → a = b :=
    fun a ha b hb => List.inj_on_of_nodup_map table.nodupKeys ha hb
  have cut := filter_take_mergeSort newestFirst_trans (@newestFirst_total _ at_)
    (l := table.entries.filter fun e => p e.2) (q := fun e => decide (start ≤ at_ e.2))
    (fun a ha b hb first next => unique a (List.mem_filter.mp ha).1 b (List.mem_filter.mp hb).1
      (newestFirst_antisymm first next))
    (fun a _ b _ first late => by
      simp only [newestFirst, decide_eq_true_eq] at first late ⊢
      rcases first with newer | ⟨same, -⟩
      · exact le_trans late newer.le
      · rwa [same])
    limit
  rw [List.filter_filter] at cut
  simp only [latest_listed, listed, List.filter_map]
  refine congrArg (List.map Prod.snd) (cut.trans ?_)
  congr 2
  exact List.filter_congr fun e _ => Bool.and_comm _ _

theorem latest_length {ρ : Type} (table : Dict UUID ρ) (p : ρ → Bool) (at_ : ρ → Instant)
    (limit : Nat) : (Db.latest table p at_ limit).length = min limit (table.values.filter p).length := by
  simp only [latest_listed, listed, List.length_map, List.length_take, List.length_mergeSort,
    Dict.values, List.filter_map]
  rfl

/-! ### Windows -/

/-- A payment of the customer from `start` up to `upTo`. -/
def inWindow (customerId : UUID) (start upTo : Instant) (row : Payment) : Bool :=
  row.customerId = customerId ∧ start ≤ row.attemptedAt ∧ row.attemptedAt ≤ upTo

/-- The number of payments of the customer in a window. -/
def windowCount (db : Db) (customerId : UUID) (start upTo : Instant) : Nat :=
  (db.payments.values.filter (inWindow customerId start upTo)).length

/-- The `limit` most recent payments of the customer in a window. -/
def windowNewest (db : Db) (customerId : UUID) (start upTo : Instant) (limit : Nat) : List Payment :=
  Db.latest db.payments (inWindow customerId start upTo) (·.attemptedAt) limit

/-- Where a window starts: with its width before the event, but not before the look-back. -/
def windowStart (config : FraudConfig) (eventTime : Instant) (width : Nat) : Instant :=
  max (eventTime - seconds width) (eventTime - days config.historyLookbackDays)

variable (config : FraudConfig) (db : Db) (customerId : UUID) (eventTime : Instant) in
/-- The counters of a context, with the start of each of the three windows. -/
structure Windowed (start : Nat → Instant) (context : FraudContext) : Prop where
  attempts : context.recentPaymentAttempts = min config.maxHistoryRecords
    (windowCount db customerId (start config.velocityWindowSeconds) eventTime)
  devices : context.recentDistinctDevices =
    ((windowNewest db customerId (start config.velocityWindowSeconds) eventTime
      config.maxHistoryRecords).map (·.deviceId)).toFinset.card
  countries : context.recentDistinctCountries =
    ((windowNewest db customerId (start config.countryWindowSeconds) eventTime
      config.maxHistoryRecords).map (·.country)).toFinset.card
  failures : context.recentFailedPayments =
    ((windowNewest db customerId (start config.failedPaymentWindowSeconds) eventTime
      config.maxHistoryRecords).filter (·.status = .failed)).length

section

variable {arith : Arithmetic} {config : FraudConfig} {event : EventEnvelope} {db : Db}
  {context : FraudContext} {customerId : UUID} {customer : Customer} {lookback : Instant}

/-- The payments `build` reads, cut to a window. -/
theorem paymentsBetween_window (width : Nat) (limit : Nat) :
    ((Stmt.paymentsBetween customerId event.eventTime
        (event.eventTime - days config.historyLookbackDays) limit).answer db).filter
        (fun r : Payment => decide (event.eventTime - seconds width ≤ r.attemptedAt)) =
      windowNewest db customerId (windowStart config event.eventTime width) event.eventTime limit := by
  refine (latest_from db.payments (fun r => r.customerId = customerId ∧
    r.attemptedAt ≤ event.eventTime ∧ event.eventTime - days config.historyLookbackDays ≤
      r.attemptedAt) (·.attemptedAt) limit (event.eventTime - seconds width)).trans ?_
  refine congrArg (fun p => Db.latest db.payments p (·.attemptedAt) limit) (funext fun r => ?_)
  rw [Bool.eq_iff_iff]
  simp only [inWindow, windowStart, Bool.and_eq_true, decide_eq_true_eq, max_le_iff]
  constructor
  · rintro ⟨⟨owner, before_, since⟩, recent⟩
    exact ⟨owner, ⟨recent, since⟩, before_⟩
  · rintro ⟨owner, ⟨recent, since⟩, before_⟩
    exact ⟨⟨owner, before_, since⟩, recent⟩

theorem subtract_ok {instant shifted : Instant} {width : Int}
    (ok : instant.subtract width = .ok shifted) : shifted = instant - width := by
  unfold Instant.subtract at ok
  split at ok
  · exact (Except.ok.inj ok).symm
  · cases ok

theorem ContextFrom.windowed (h : ContextFrom arith config event db context customerId customer lookback) :
    Windowed config db customerId event.eventTime (windowStart config event.eventTime) context := by
  obtain rfl := subtract_ok h.shifted
  obtain ⟨average, -, rest⟩ := Except.bind_ok h.context
  obtain ⟨velocityStart, velocity, rest⟩ := Except.bind_ok rest
  obtain ⟨failureStart, failure, rest⟩ := Except.bind_ok rest
  obtain ⟨countryStart, country, rest⟩ := Except.bind_ok rest
  obtain ⟨spend, -, rest⟩ := Except.bind_ok rest
  obtain rfl := subtract_ok velocity
  obtain rfl := subtract_ok failure
  obtain rfl := subtract_ok country
  cases rest
  constructor
  · simp only [historyOf, paymentsBetween_window]
    exact latest_length ..
  · simp only [historyOf, paymentsBetween_window, List.card_toFinset]
  · simp only [historyOf, paymentsBetween_window, List.card_toFinset]
  · rw [← paymentsBetween_window]
    refine congrArg List.length ((List.filter_congr fun r _ => ?_).trans List.filter_filter.symm)
    simp only [Bool.decide_and]

/-- For every configuration and database and every event whose context is built: the recent
attempts are the payments of the velocity window, at most as many as are read, and the
devices, countries and failures are those of the most recent payments of their windows,
where each window starts no earlier than the look-back. -/
theorem windowed_counters {ws ws' : List Write} (named : event.payload.customerId = some customerId)
    (built : alone (D := database arith) (build arith config event) db ws = .ok (context, ws')) :
    Windowed config ((database arith).view db ws) customerId event.eventTime
      (windowStart config event.eventTime) context := by
  obtain ⟨⟨customerId', customer, lookback, from_⟩, -⟩ := build_alone.mp built
  obtain rfl : customerId' = customerId := Option.some.inj (from_.named.symm.trans named)
  exact from_.windowed

end

/-! ### A window longer than the look-back -/

/-- One day is looked back, and the velocity window is longer than two. -/
def shortLookback : FraudConfig := { historyLookbackDays := 1, velocityWindowSeconds := 200000 }

theorem shortLookback_accepted : shortLookback.Accepted := by
  constructor <;> decide +kernel

/-- A customer with a payment at the epoch and one 100000 seconds before it. -/
def twoPayments : Db :=
  let payment (n : Nat) (attemptedAt : Instant) : Payment :=
    ⟨.ofNat 2, .ofNat 1, .completed, 10, .eur, .creditCard, none, "d", plainAddress, "TR",
      .ofNat n, attemptedAt⟩
  { customers := (∅ : Dict UUID Customer).set (.ofNat 1) ⟨"h", .normal, "TR", 0, .ofNat 1, .ofNat 1⟩
    payments := ((∅ : Dict UUID Payment).set (.ofNat 4) (payment 4 (-100000000000))).set (.ofNat 5)
      (payment 5 0) }

theorem twoPayments_built (config : FraudConfig) (windows : windowsStart config 0 = true) :
    ∃ context, alone (D := database .exact) (build .exact config (plainPayment 5 0).event)
      twoPayments [] = .ok (context, []) :=
  @build_exact { plainUow with fraudConfig := config } rfl twoPayments [] (plainPayment 5 0).event
    windows rfl

/-- Both payments lie in the velocity window of the later one, which counts itself only. -/
theorem not_windowed :
    shortLookback.Accepted ∧
      windowCount twoPayments (.ofNat 1) (0 - seconds shortLookback.velocityWindowSeconds) 0 = 2 ∧
      ∃ context, alone (D := database .exact) (build .exact shortLookback (plainPayment 5 0).event)
          twoPayments [] = .ok (context, []) ∧
        context.recentPaymentAttempts = 1 ∧
        ¬ Windowed shortLookback twoPayments (.ofNat 1) 0 (fun width => 0 - seconds width)
          context := by
  refine ⟨shortLookback_accepted, by decide +kernel, ?_⟩
  obtain ⟨context, built⟩ := twoPayments_built shortLookback (by decide +kernel)
  obtain ⟨⟨customerId, customer, lookback, from_⟩, -⟩ := build_alone.mp built
  obtain rfl : customerId = .ofNat 1 := (Option.some.inj from_.named).symm
  have one : context.recentPaymentAttempts = 1 := by
    rw [from_.windowed.attempts]
    decide +kernel
  refine ⟨context, built, one, fun windowed => ?_⟩
  have two := windowed.attempts
  rw [one] at two
  revert two
  decide +kernel

/-- With the default windows the later payment counts itself only, too. -/
theorem windowed_counters_default :
    ∃ context, alone (D := database .exact) (build .exact {} (plainPayment 5 0).event) twoPayments [] =
        .ok (context, []) ∧ context.recentPaymentAttempts = 1 := by
  obtain ⟨context, built⟩ := twoPayments_built {} (by decide +kernel)
  have windowed : Windowed {} twoPayments (.ofNat 1) 0 (windowStart {} 0) context :=
    windowed_counters rfl built
  refine ⟨context, built, ?_⟩
  rw [windowed.attempts]
  decide +kernel

end CommercePlatform.Fraud
