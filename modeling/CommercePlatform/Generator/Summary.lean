import CommercePlatform.Generator.Anomalies
import CommercePlatform.Lib.Counter

/-!
The summary of a generation run (`event_generator/summary.py`).

`Summarizes` says what every counter of a summary counts; recording one more journey keeps
it. The texts that `as_log` renders are left out.
-/

namespace CommercePlatform.Generator

open Contract

structure RunSummary where
  journeysPerPersona : Counter CustomerPersona := ∅
  customersPerPersona : Counter CustomerPersona := ∅
  eventsPerType : Counter EventType := ∅
  anomaliesPerType : Counter AnomalyType := ∅
  newJourneys : Nat := 0
  returningJourneys : Nat := 0
  paymentSuccesses : Nat := 0
  paymentFailures : Nat := 0
  refunds : Nat := 0
  eventTotal : Nat := 0
  journeyTotal : Nat := 0
  totalLogicalCommerceValue : Rat := 0
  seenCustomers : List UUID := []

namespace RunSummary

/-! ### The numbers of `as_log` -/

section

variable (s : RunSummary)

def journeysGenerated : Nat := s.journeyTotal

def uniqueCustomers : Nat := s.seenCustomers.length

def validMessages : Nat := s.eventTotal

def anomalousMessages : Nat := s.anomaliesPerType.total

def duplicateMessages : Nat := s.anomaliesPerType.count .duplicate

end

/-! ### `record_journey` -/

variable (context : DecimalContext)

/-- The body of the loop over the events. -/
def recordEvent (s : RunSummary) (event : EventEnvelope) : Except PyException RunSummary :=
  let counted := { s with
    eventsPerType := s.eventsPerType.inc event.eventType
    eventTotal := s.eventTotal + 1 }
  match event.payload with
  | .paymentCompleted payload => do
    let value ← context.add s.totalLogicalCommerceValue payload.amount.value
    return { counted with
      paymentSuccesses := s.paymentSuccesses + 1
      totalLogicalCommerceValue := value }
  | .paymentFailed _ => return { counted with paymentFailures := s.paymentFailures + 1 }
  | .refundRequested _ => return { counted with refunds := s.refunds + 1 }
  | _ => return counted

/-- What the journey adds before its events. -/
def recordStart (s : RunSummary) (journey : JourneyResult) : RunSummary :=
  { s with
    journeyTotal := s.journeyTotal + 1
    journeysPerPersona := s.journeysPerPersona.inc journey.persona
    seenCustomers :=
      if journey.customerId ∈ s.seenCustomers then s.seenCustomers
      else s.seenCustomers ++ [journey.customerId]
    customersPerPersona :=
      if journey.customerId ∈ s.seenCustomers then s.customersPerPersona
      else s.customersPerPersona.inc journey.persona
    returningJourneys := s.returningJourneys + if journey.returningCustomer then 1 else 0
    newJourneys := s.newJourneys + if journey.returningCustomer then 0 else 1 }

def recordJourney (s : RunSummary) (journey : JourneyResult) (anomalyTypes : List AnomalyType) :
    Except PyException RunSummary := do
  let recorded ← journey.events.foldlM (recordEvent context) (s.recordStart journey)
  return { recorded with anomaliesPerType := recorded.anomaliesPerType.update anomalyTypes }

end RunSummary

/-! ### What a summary counts -/

/-- A journey as it is recorded, with the anomalies of its messages. -/
abbrev Recorded := JourneyResult × List AnomalyType

/-- All the events of the journeys, by type. -/
def eventTypes (records : List Recorded) : List EventType :=
  records.flatMap fun r => r.1.events.map (·.eventType)

structure Summarizes (s : RunSummary) (records : List Recorded) : Prop where
  journeys : s.journeyTotal = records.length
  personas : ∀ p, s.journeysPerPersona.count p = (records.map (·.1.persona)).count p
  returning : s.returningJourneys = (records.map (·.1.returningCustomer)).count true
  fresh : s.newJourneys = (records.map (·.1.returningCustomer)).count false
  /-- Every customer is seen once. -/
  customers : s.seenCustomers.Nodup ∧
    ∀ id, id ∈ s.seenCustomers ↔ id ∈ records.map (·.1.customerId)
  unique : s.customersPerPersona.total = s.seenCustomers.length
  events : s.eventTotal = (eventTypes records).length
  types : ∀ t, s.eventsPerType.count t = (eventTypes records).count t
  successes : s.paymentSuccesses = (eventTypes records).count .paymentCompleted
  failures : s.paymentFailures = (eventTypes records).count .paymentFailed
  refunds : s.refunds = (eventTypes records).count .refundRequested
  anomalies : ∀ k, s.anomaliesPerType.count k = (records.flatMap Prod.snd).count k
  anomalous : s.anomaliesPerType.total = (records.flatMap Prod.snd).length

theorem summarizes_nil : Summarizes {} [] := by
  constructor <;> simp [eventTypes]

section

variable {context : DecimalContext} {s s' : RunSummary}

/-- What the events add. -/
structure Recording (s : RunSummary) (types : List EventType) (s' : RunSummary) : Prop where
  perType : s'.eventsPerType = s.eventsPerType.update types
  total : s'.eventTotal = s.eventTotal + types.length
  successes : s'.paymentSuccesses = s.paymentSuccesses + types.count .paymentCompleted
  failures : s'.paymentFailures = s.paymentFailures + types.count .paymentFailed
  refunds : s'.refunds = s.refunds + types.count .refundRequested
  journeys : s'.journeyTotal = s.journeyTotal
  personas : s'.journeysPerPersona = s.journeysPerPersona
  returning : s'.returningJourneys = s.returningJourneys
  fresh : s'.newJourneys = s.newJourneys
  seen : s'.seenCustomers = s.seenCustomers
  customers : s'.customersPerPersona = s.customersPerPersona
  anomalies : s'.anomaliesPerType = s.anomaliesPerType

theorem Recording.nil : Recording s [] s := by constructor <;> simp [Counter.update]

theorem Recording.trans {u : RunSummary} {a b : List EventType} (first : Recording s a u)
    (rest : Recording u b s') : Recording s (a ++ b) s' where
  perType := by rw [rest.perType, first.perType, Counter.update_append]
  total := by rw [rest.total, first.total, List.length_append, Nat.add_assoc]
  successes := by rw [rest.successes, first.successes, List.count_append, Nat.add_assoc]
  failures := by rw [rest.failures, first.failures, List.count_append, Nat.add_assoc]
  refunds := by rw [rest.refunds, first.refunds, List.count_append, Nat.add_assoc]
  journeys := rest.journeys.trans first.journeys
  personas := rest.personas.trans first.personas
  returning := rest.returning.trans first.returning
  fresh := rest.fresh.trans first.fresh
  seen := rest.seen.trans first.seen
  customers := rest.customers.trans first.customers
  anomalies := rest.anomalies.trans first.anomalies

theorem recordEvent_recording {event : EventEnvelope}
    (ok : s.recordEvent context event = .ok s') : Recording s [event.eventType] s' := by
  unfold RunSummary.recordEvent at ok
  unfold EventEnvelope.eventType at ok ⊢
  cases payload : event.payload with
  | paymentCompleted p =>
    rw [payload] at ok
    obtain ⟨value, -, ok⟩ := Except.bind_ok ok
    cases ok
    constructor <;> rfl
  | _ =>
    rw [payload] at ok
    cases ok
    constructor <;> rfl

theorem recordEvents_recording {events : List EventEnvelope}
    (ok : events.foldlM (RunSummary.recordEvent context) s = .ok s') :
    Recording s (events.map (·.eventType)) s' := by
  induction events generalizing s with
  | nil => cases ok; exact .nil
  | cons event events ih =>
    rw [List.foldlM_cons] at ok
    obtain ⟨u, first, rest⟩ := Except.bind_ok ok
    exact (recordEvent_recording first).trans (ih rest)

/-- One more journey. -/
theorem Summarizes.record {records : List Recorded} {journey : JourneyResult}
    {anomalyTypes : List AnomalyType} (h : Summarizes s records)
    (ok : s.recordJourney context journey anomalyTypes = .ok s') :
    Summarizes s' (records ++ [(journey, anomalyTypes)]) := by
  obtain ⟨u, events, ok⟩ := Except.bind_ok ok
  cases ok
  have r := recordEvents_recording events
  have types : eventTypes (records ++ [(journey, anomalyTypes)]) =
      eventTypes records ++ journey.events.map (·.eventType) := by
    simp [eventTypes]
  refine ⟨?_, fun p => ?_, ?_, ?_, ?_, ?_, ?_, fun t => ?_, ?_, ?_, ?_, fun k => ?_, ?_⟩
  · simp [r.journeys, RunSummary.recordStart, h.journeys]
  · simp only [r.personas, RunSummary.recordStart, Counter.count_inc, h.personas p, List.map_append,
      List.map_cons, List.map_nil, List.count_append, List.count_singleton, beq_iff_eq]
  · simp only [r.returning, RunSummary.recordStart, h.returning, List.map_append, List.map_cons,
      List.map_nil, List.count_append, List.count_singleton, beq_true]
  · simp only [r.fresh, RunSummary.recordStart, h.fresh, List.map_append, List.map_cons,
      List.map_nil, List.count_append, List.count_singleton]
    cases journey.returningCustomer <;> rfl
  · simp only [r.seen, RunSummary.recordStart, List.map_append, List.map_cons, List.map_nil,
      List.mem_append, List.mem_singleton]
    split
    · rename_i known
      refine ⟨h.customers.1, fun id => ?_⟩
      rw [h.customers.2 id]
      constructor
      · exact Or.inl
      · rintro (before | rfl)
        · exact before
        · exact (h.customers.2 _).mp known
    · rename_i unknown
      refine ⟨?_, fun id => ?_⟩
      · exact List.nodup_append.mpr ⟨h.customers.1, List.nodup_singleton _, by
          intro a mem b here
          rintro rfl
          exact unknown (List.mem_singleton.mp here ▸ mem)⟩
      · simp only [List.mem_append, List.mem_singleton, h.customers.2 id]
  · simp only [r.customers, r.seen, RunSummary.recordStart]
    split
    · exact h.unique
    · rw [Counter.total_inc, h.unique, List.length_append, List.length_singleton]
  · rw [types, List.length_append, ← h.events]
    exact r.total
  · rw [types, List.count_append, ← h.types t]
    simp only [r.perType, Counter.count_update, RunSummary.recordStart]
  · rw [types, List.count_append, ← h.successes]
    exact r.successes
  · rw [types, List.count_append, ← h.failures]
    exact r.failures
  · rw [types, List.count_append, ← h.refunds]
    exact r.refunds
  · simp only [Counter.count_update, r.anomalies, RunSummary.recordStart, h.anomalies k,
      List.flatMap_append, List.flatMap_cons, List.flatMap_nil, List.append_nil, List.count_append]
  · simp only [Counter.total_update, r.anomalies, RunSummary.recordStart, h.anomalous,
      List.flatMap_append, List.flatMap_cons, List.flatMap_nil, List.append_nil, List.length_append]

end

end CommercePlatform.Generator
