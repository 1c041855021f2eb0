import CommercePlatform.Persistence.Frame

/-!
Ledger, evaluations, alerts and outbox agree.

`FraudComplete` couples the four tables that one transaction writes together. Each
way a transaction extends them is one lemma here; which way it is depends on the
handler and on the decision of the engine.
-/

namespace CommercePlatform.Persistence

open Contract Fraud

/-- An alert of the engine for the evaluation `v`. -/
def EngineAlert (db : Db) (a v : UUID) : Prop :=
  ∃ alert, db.fraudAlerts.get? a = some alert ∧ alert.evaluationId = some v

/-- Some alert names the evaluation `v` and the source event `e`. -/
def AlertAbout (db : Db) (v e : UUID) : Prop :=
  ∃ a alert, db.fraudAlerts.get? a = some alert ∧ alert.evaluationId = some v ∧
    alert.sourceEventId = e

/-- The outbox row `o` is for the alert `a`. -/
def Queued (db : Db) (o a : UUID) : Prop :=
  ∃ row, db.fraudOutbox.get? o = some row ∧ row.aggregateId = a

/-- The evaluation `v` is of the event `e`. -/
def EvaluationOf (db : Db) (v e : UUID) : Prop :=
  ∃ row, db.fraudEvaluations.get? v = some row ∧ row.sourceEventId = e

/-- The event `e` has a ledger row of an eligible type. -/
def Eligible (db : Db) (e : UUID) : Prop :=
  ∃ row, db.processedEvents.get? e = some row ∧ fraudEligible row.eventType = true

/-- The evaluation `v` asks for an alert. -/
def Flagged (db : Db) (v : UUID) : Prop :=
  ∃ row, db.fraudEvaluations.get? v = some row ∧ row.decision ≠ .approve

structure FraudComplete (outboxEnabled : Bool) (db : Db) : Prop where
  evaluated : ∀ e, Eligible db e → ∃ v, EvaluationOf db v e
  sourced : ∀ v e, EvaluationOf db v e → Eligible db e
  evaluated_once : ∀ v v' e, EvaluationOf db v e → EvaluationOf db v' e → v = v'
  alerted : ∀ v, Flagged db v → ∃ a, EngineAlert db a v
  flagged : ∀ a v, EngineAlert db a v → Flagged db v
  about : ∀ v e, AlertAbout db v e → EvaluationOf db v e
  alerted_once : ∀ a a' v, EngineAlert db a v → EngineAlert db a' v → a = a'
  queued : outboxEnabled → ∀ a v, EngineAlert db a v → ∃ o, Queued db o a
  for_alert : ∀ o a, Queued db o a → ∃ v, EngineAlert db a v
  queued_once : ∀ o o' a, Queued db o a → Queued db o' a → o = o'

theorem fraudComplete_empty (outboxEnabled : Bool) : FraudComplete outboxEnabled {} := by
  constructor <;>
    simp [Eligible, EvaluationOf, Flagged, EngineAlert, AlertAbout, Queued]

/-! ### Reading a table after one row was added -/

section

variable {db db' : Db} {a o v e x y : UUID}

theorem engineAlert_set {alert : FraudAlert} (fresh : db.fraudAlerts.get? a = none)
    (alerts : db'.fraudAlerts = db.fraudAlerts.set a alert) :
    EngineAlert db' x y ↔ EngineAlert db x y ∨ x = a ∧ alert.evaluationId = some y := by
  unfold EngineAlert
  rw [alerts]
  by_cases same : x = a
  · subst same; simp [fresh]
  · simp [Dict.get?_set_ne _ _ same, same]

theorem alertAbout_set {alert : FraudAlert} (fresh : db.fraudAlerts.get? a = none)
    (alerts : db'.fraudAlerts = db.fraudAlerts.set a alert) :
    AlertAbout db' x y ↔
      AlertAbout db x y ∨ alert.evaluationId = some x ∧ alert.sourceEventId = y := by
  unfold AlertAbout
  rw [alerts]
  constructor
  · rintro ⟨key, row, found, named, about⟩
    rw [Dict.get?_set] at found
    split at found
    · cases found; exact Or.inr ⟨named, about⟩
    · exact Or.inl ⟨key, row, found, named, about⟩
  · rintro (⟨key, row, found, named, about⟩ | new)
    · refine ⟨key, row, ?_, named, about⟩
      rw [Dict.get?_set_ne _ _ fun same => by rw [same, fresh] at found; cases found]
      exact found
    · exact ⟨a, alert, Dict.get?_set_self _ _ _, new⟩

theorem queued_set {row : FraudOutbox} (fresh : db.fraudOutbox.get? o = none)
    (outbox : db'.fraudOutbox = db.fraudOutbox.set o row) :
    Queued db' x y ↔ Queued db x y ∨ x = o ∧ row.aggregateId = y := by
  unfold Queued
  rw [outbox]
  by_cases same : x = o
  · subst same; simp [fresh]
  · simp [Dict.get?_set_ne _ _ same, same]

theorem evaluationOf_set {row : FraudEvaluationRow} (fresh : db.fraudEvaluations.get? v = none)
    (evaluations : db'.fraudEvaluations = db.fraudEvaluations.set v row) :
    EvaluationOf db' x y ↔ EvaluationOf db x y ∨ x = v ∧ row.sourceEventId = y := by
  unfold EvaluationOf
  rw [evaluations]
  by_cases same : x = v
  · subst same; simp [fresh]
  · simp [Dict.get?_set_ne _ _ same, same]

theorem flagged_set {row : FraudEvaluationRow} (fresh : db.fraudEvaluations.get? v = none)
    (evaluations : db'.fraudEvaluations = db.fraudEvaluations.set v row) :
    Flagged db' x ↔ Flagged db x ∨ x = v ∧ row.decision ≠ .approve := by
  unfold Flagged
  rw [evaluations]
  by_cases same : x = v
  · subst same; simp [fresh]
  · simp [Dict.get?_set_ne _ _ same, same]

theorem eligible_set {row : ProcessedEvent} (fresh : db.processedEvents.get? e = none)
    (ledger : db'.processedEvents = db.processedEvents.set e row) :
    Eligible db' x ↔ Eligible db x ∨ x = e ∧ fraudEligible row.eventType = true := by
  unfold Eligible
  rw [ledger]
  by_cases same : x = e
  · subst same; simp [fresh]
  · simp [Dict.get?_set_ne _ _ same, same]

end

/-! ### What an absent key excludes -/

section

variable {db db' : Db} {outboxEnabled : Bool}

theorem not_eligible_of_absent {e : UUID} (fresh : db.processedEvents.get? e = none) :
    ¬ Eligible db e := by
  rintro ⟨row, found, -⟩
  rw [fresh] at found
  cases found

theorem not_engineAlert_of_absent {a v : UUID} (fresh : db.fraudAlerts.get? a = none) :
    ¬ EngineAlert db a v := by
  rintro ⟨row, found, -⟩
  rw [fresh] at found
  cases found

theorem not_flagged_of_absent {v : UUID} (fresh : db.fraudEvaluations.get? v = none) :
    ¬ Flagged db v := by
  rintro ⟨row, found, -⟩
  rw [fresh] at found
  cases found

/-! ### The ways a transaction extends the tables -/

theorem FraudComplete.congr (h : FraudComplete outboxEnabled db)
    (ledger : db'.processedEvents = db.processedEvents)
    (evaluations : db'.fraudEvaluations = db.fraudEvaluations)
    (alerts : db'.fraudAlerts = db.fraudAlerts) (outbox : db'.fraudOutbox = db.fraudOutbox) :
    FraudComplete outboxEnabled db' := by
  constructor <;> simp only [Eligible, EvaluationOf, Flagged, EngineAlert, AlertAbout, Queued, ledger,
    evaluations, alerts, outbox]
  exacts [h.evaluated, h.sourced, h.evaluated_once, h.alerted, h.flagged, h.about, h.alerted_once,
    h.queued, h.for_alert, h.queued_once]

variable (h : FraudComplete outboxEnabled db) {e : UUID} {event : ProcessedEvent}
  (newEvent : db.processedEvents.get? e = none)
  (ledger : db'.processedEvents = db.processedEvents.set e event)

include h newEvent ledger

/-- An event of another type, perhaps with an external alert. -/
theorem FraudComplete.addEvent (ineligible : fraudEligible event.eventType = false)
    (evaluations : db'.fraudEvaluations = db.fraudEvaluations)
    (alerts : ∀ a v, EngineAlert db' a v ↔ EngineAlert db a v)
    (about : ∀ v e, AlertAbout db' v e ↔ AlertAbout db v e)
    (outbox : db'.fraudOutbox = db.fraudOutbox) : FraudComplete outboxEnabled db' := by
  have eligible : ∀ x, Eligible db' x ↔ Eligible db x := by
    intro x
    rw [eligible_set newEvent ledger, ineligible]
    simp
  have sourced : ∀ v x, EvaluationOf db' v x ↔ EvaluationOf db v x := by
    simp [EvaluationOf, evaluations]
  have flagged : ∀ v, Flagged db' v ↔ Flagged db v := by simp [Flagged, evaluations]
  have queued : ∀ o a, Queued db' o a ↔ Queued db o a := by simp [Queued, outbox]
  constructor <;> simp only [eligible, sourced, flagged, queued, alerts, about]
  exacts [h.evaluated, h.sourced, h.evaluated_once, h.alerted, h.flagged, h.about, h.alerted_once,
    h.queued, h.for_alert, h.queued_once]

variable {v : UUID} {evaluation : FraudEvaluationRow}
  (newEvaluation : db.fraudEvaluations.get? v = none)
  (evaluations : db'.fraudEvaluations = db.fraudEvaluations.set v evaluation)
  (eligible : fraudEligible event.eventType = true) (source : evaluation.sourceEventId = e)

include newEvaluation evaluations eligible source

/-- The half of the invariant that does not depend on the decision. -/
theorem FraudComplete.addEvaluation :
    (∀ x, Eligible db' x → ∃ v, EvaluationOf db' v x) ∧
      (∀ u x, EvaluationOf db' u x → Eligible db' x) ∧
      ∀ u u' x, EvaluationOf db' u x → EvaluationOf db' u' x → u = u' := by
  simp only [eligible_set newEvent ledger, evaluationOf_set newEvaluation evaluations, source,
    eligible, and_true]
  have unsourced : ∀ u, ¬ EvaluationOf db u e := fun u evaluated =>
    not_eligible_of_absent newEvent (h.sourced u e evaluated)
  refine ⟨fun x known => ?_, fun u x evaluated => ?_, fun u u' x first second => ?_⟩
  · rcases known with old | rfl
    · exact (h.evaluated x old).imp fun _ => Or.inl
    · exact ⟨v, Or.inr ⟨rfl, rfl⟩⟩
  · rcases evaluated with old | ⟨-, rfl⟩
    · exact Or.inl (h.sourced u x old)
    · exact Or.inr rfl
  · rcases first with old | ⟨rfl, rfl⟩ <;> rcases second with old' | ⟨rfl, same⟩
    · exact h.evaluated_once u u' x old old'
    · exact absurd (same ▸ old) (unsourced u)
    · exact absurd old' (unsourced u')
    · rfl

/-- An approved event. -/
theorem FraudComplete.addApproved (approved : evaluation.decision = .approve)
    (alerts : db'.fraudAlerts = db.fraudAlerts) (outbox : db'.fraudOutbox = db.fraudOutbox) :
    FraudComplete outboxEnabled db' := by
  obtain ⟨evaluated, sourced, once⟩ :=
    h.addEvaluation newEvent ledger newEvaluation evaluations eligible source
  have flagged : ∀ x, Flagged db' x ↔ Flagged db x := by
    intro x
    rw [flagged_set newEvaluation evaluations, approved]
    simp
  have alert : ∀ a x, EngineAlert db' a x ↔ EngineAlert db a x := by simp [EngineAlert, alerts]
  have queued : ∀ o a, Queued db' o a ↔ Queued db o a := by simp [Queued, outbox]
  have about : ∀ u x, AlertAbout db' u x → EvaluationOf db' u x := by
    intro u x named
    rw [AlertAbout, alerts] at named
    exact (evaluationOf_set newEvaluation evaluations).mpr (Or.inl (h.about u x named))
  refine ⟨evaluated, sourced, once, ?_, ?_, about, ?_, ?_, ?_, ?_⟩ <;>
    simp only [flagged, alert, queued]
  exacts [h.alerted, h.flagged, h.alerted_once, h.queued, h.for_alert, h.queued_once]

/-- An event for review or blocked, with its alert and outbox row. -/
theorem FraudComplete.addFlagged (decision : evaluation.decision ≠ .approve) {a : UUID}
    {alert : FraudAlert} (newAlert : db.fraudAlerts.get? a = none)
    (alerts : db'.fraudAlerts = db.fraudAlerts.set a alert) (names : alert.evaluationId = some v)
    (sameSource : alert.sourceEventId = e)
    (outbox : outboxEnabled = false ∧ db'.fraudOutbox = db.fraudOutbox ∨
      ∃ o row, db.fraudOutbox.get? o = none ∧ row.aggregateId = a ∧
        db'.fraudOutbox = db.fraudOutbox.set o row) :
    FraudComplete outboxEnabled db' := by
  obtain ⟨evaluated, sourced, once⟩ :=
    h.addEvaluation newEvent ledger newEvaluation evaluations eligible source
  have flag : ∀ x, Flagged db' x ↔ Flagged db x ∨ x = v := by
    intro x
    rw [flagged_set newEvaluation evaluations]
    simp [decision]
  have alert_ : ∀ x y, EngineAlert db' x y ↔ EngineAlert db x y ∨ x = a ∧ y = v := by
    intro x y
    rw [engineAlert_set newAlert alerts, names]
    simp [eq_comm]
  have unnamed : ∀ x, ¬ EngineAlert db x v := fun x named =>
    not_flagged_of_absent newEvaluation (h.flagged x v named)
  have unqueued : ∀ o, ¬ Queued db o a := fun o queued =>
    (h.for_alert o a queued).elim fun y named => not_engineAlert_of_absent newAlert named
  have about : ∀ u x, AlertAbout db' u x → EvaluationOf db' u x := by
    intro u x named
    rw [alertAbout_set newAlert alerts, names] at named
    rw [evaluationOf_set newEvaluation evaluations]
    rcases named with old | ⟨same, rfl⟩
    · exact Or.inl (h.about u x old)
    · exact Or.inr ⟨(Option.some.inj same).symm, source.trans sameSource.symm⟩
  refine ⟨evaluated, sourced, once, ?_, ?_, about, ?_, ?_, ?_, ?_⟩
  · intro x flagged
    rcases (flag x).mp flagged with old | rfl
    · exact (h.alerted x old).imp fun y named => (alert_ y x).mpr (Or.inl named)
    · exact ⟨a, (alert_ a x).mpr (Or.inr ⟨rfl, rfl⟩)⟩
  · intro x y named
    rcases (alert_ x y).mp named with old | ⟨-, rfl⟩
    · exact (flag y).mpr (Or.inl (h.flagged x y old))
    · exact (flag y).mpr (Or.inr rfl)
  · intro x x' y first second
    rcases (alert_ x y).mp first with old | ⟨rfl, rfl⟩ <;>
      rcases (alert_ x' y).mp second with old' | ⟨rfl, same⟩
    · exact h.alerted_once x x' y old old'
    · exact absurd (same ▸ old) (unnamed x)
    · exact absurd old' (unnamed x')
    · rfl
  · intro enabled x y named
    rcases outbox with ⟨disabled, -⟩ | ⟨o, row, newRow, aggregate, outbox⟩
    · rw [disabled] at enabled; cases enabled
    · rcases (alert_ x y).mp named with old | ⟨rfl, -⟩
      · exact (h.queued enabled x y old).imp fun o' queued =>
          (queued_set newRow outbox).mpr (Or.inl queued)
      · exact ⟨o, (queued_set newRow outbox).mpr (Or.inr ⟨rfl, aggregate⟩)⟩
  · intro o x queued
    have old : Queued db o x ∨ x = a := by
      rcases outbox with ⟨-, outbox⟩ | ⟨o', row, newRow, aggregate, outbox⟩
      · exact Or.inl (by simpa [Queued, outbox] using queued)
      · rcases (queued_set newRow outbox).mp queued with old | ⟨-, same⟩
        · exact Or.inl old
        · exact Or.inr (same.symm.trans aggregate)
    rcases old with old | rfl
    · exact (h.for_alert o x old).imp fun y named => (alert_ x y).mpr (Or.inl named)
    · exact ⟨v, (alert_ x v).mpr (Or.inr ⟨rfl, rfl⟩)⟩
  · intro o o' x first second
    rcases outbox with ⟨-, outbox⟩ | ⟨o'', row, newRow, aggregate, outbox⟩
    · exact h.queued_once o o' x (by simpa [Queued, outbox] using first)
        (by simpa [Queued, outbox] using second)
    · rcases (queued_set newRow outbox).mp first with old | ⟨rfl, same⟩ <;>
        rcases (queued_set newRow outbox).mp second with old' | ⟨rfl, same'⟩
      · exact h.queued_once o o' x old old'
      · exact absurd (aggregate ▸ same' ▸ old) (unqueued o)
      · exact absurd (aggregate ▸ same ▸ old') (unqueued o')
      · rfl

end

end CommercePlatform.Persistence
