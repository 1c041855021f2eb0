import CommercePlatform.Persistence.ExactlyOnce
import CommercePlatform.Persistence.RefundSafety

/-!
Calls of `persist`, any number at once.

Every call is a transaction of its own and ends in one of the ways `persist` can
end: it returns or raises, it raises although COMMIT took effect because the
acknowledgement was lost, or its process dies. Which ended how is recorded, so that
the results can be compared with what was committed.
-/

namespace CommercePlatform.Persistence

open Contract Fraud Schema

/-- How a call of `persist` ended. -/
inductive Ended where
  | returned (result : Except PyException PersistenceResult)
  /-- COMMIT took effect, but the caller only saw an exception. -/
  | acknowledgementLost (result : Except PyException PersistenceResult)
  | crashed

/-- The endings that may not leave a trace: duplicates, exceptions and crashes before
COMMIT. -/
def Ended.leavesTables : Ended → Bool
  | returned (.ok result) => result.alreadyPersisted
  | returned (.error _) => true
  | acknowledgementLost _ => false
  | crashed => true

/-- What the caller sees of an ending. -/
def Ended.answer : Ended → Option (Except PyException PersistenceResult)
  | returned result => some result
  | acknowledgementLost result => some result
  | crashed => none

structure Service (uow : UnitOfWork) where
  store : (database uow.arith).Store Nat Request PyException PersistenceResult
  started : Nat := 0
  ended : List (Nat × Ended) := []

inductive ServiceLabel where
  | call (call : PersistCall)
  | statement (id : Nat)
  /-- The pool, the connection or the server fails at the next statement. -/
  | fault (id : Nat) (e : PyException)
  /-- The body has raised: the transaction block rolls back. -/
  | raised (id : Nat)
  | commit (id : Nat)
  | commitLost (id : Nat) (e : PyException)
  | crash (id : Nat)

namespace Service

variable {uow : UnitOfWork}

/-- A new call opens its transaction. -/
def begin_ (st : Service uow) (call : PersistCall) : Service uow :=
  let tx : (database uow.arith).Tx Request PyException PersistenceResult :=
    { request := (st.started, call), body := uow.transaction call }
  { st with
    store := { st.store with open_ := st.store.open_.set st.started tx }
    started := st.started + 1 }

/-- The call `id` ends, its transaction rolled back. -/
def finish (st : Service uow) (id : Nat) (ending : Ended) : Service uow :=
  { st with
    store := { st.store with open_ := st.store.open_.erase id }
    ended := (id, ending) :: st.ended }

/-- The call `id` ends, its transaction committed. -/
def finishCommitted (st : Service uow) (id : Nat)
    (tx : (database uow.arith).Tx Request PyException PersistenceResult) (ending : Ended) :
    Service uow :=
  { st with
    store := { committed := st.store.committed.commit tx.request tx.writes
               open_ := st.store.open_.erase id }
    ended := (id, ending) :: st.ended }

/-- The answer of the server to COMMIT. -/
def deferredError (st : Service uow)
    (tx : (database uow.arith).Tx Request PyException PersistenceResult) : Option SqlError :=
  (database uow.arith).deferred ((database uow.arith).view st.store.committed.db tx.writes) tx.writes

def step (st : Service uow) : ServiceLabel → Option (Service uow)
  | .call call =>
    some (st.begin_ call)
  | .statement id =>
    (st.store.open_.get? id).bind fun tx =>
      (tx.advance st.store.committed.db (st.store.held id)).map fun
        | .ok tx' => { st with store := { st.store with open_ := st.store.open_.set id tx' } }
        | .error e => st.finish id (.returned (classify (.psycopg (some e.sqlstate))))
  | .fault id e =>
    if e.isInstance .processorError then none
    else (st.store.open_.get? id).map fun _ => st.finish id (.returned (classify e))
  | .raised id =>
    (st.store.open_.get? id).bind fun tx =>
      match tx.body with
      | .throw e => some (st.finish id (.returned (classify e)))
      | _ => none
  | .commit id =>
    (st.store.open_.get? id).bind fun tx =>
      match tx.body with
      | .pure result =>
        match st.deferredError tx with
        | none => some (st.finishCommitted id tx (.returned (.ok result)))
        | some e => some (st.finish id (.returned (classify (.psycopg (some e.sqlstate)))))
      | _ => none
  | .commitLost id e =>
    (st.store.open_.get? id).bind fun tx =>
      match tx.body with
      | .pure _ =>
        match st.deferredError tx with
        | none =>
          if e.isInstance .processorError then none
          else some (st.finishCommitted id tx (.acknowledgementLost (classify e)))
        | some _ => none
      | _ => none
  | .crash id => (st.store.open_.get? id).map fun _ => st.finish id .crashed

/-- Any number of `persist` calls under every interleaving. -/
def machine (uow : UnitOfWork) : Machine (Service uow) ServiceLabel := ⟨step⟩

def init (uow : UnitOfWork) (db : Db) : Service uow := { store := { committed := ⟨db, []⟩ } }

/-! ### What a step does -/

/-- The ways a call ends with its transaction rolled back. -/
inductive RolledBack (st : Service uow) (id : Nat)
    (tx : (database uow.arith).Tx Request PyException PersistenceResult) :
    ServiceLabel → Ended → Prop
  | statement {e : SqlError} :
      tx.advance st.store.committed.db (st.store.held id) = some (.error e) →
      RolledBack st id tx (.statement id) (.returned (classify (.psycopg (some e.sqlstate))))
  | fault {e : PyException} : e.isInstance .processorError = false →
      RolledBack st id tx (.fault id e) (.returned (classify e))
  | raised {e : PyException} : tx.body = .throw e →
      RolledBack st id tx (.raised id) (.returned (classify e))
  | deferred {result : PersistenceResult} {e : SqlError} : tx.body = .pure result →
      st.deferredError tx = some e →
      RolledBack st id tx (.commit id) (.returned (classify (.psycopg (some e.sqlstate))))
  | crashed : RolledBack st id tx (.crash id) .crashed

/-- The ways a call ends with its transaction committed. -/
inductive EndsCommitted (id : Nat) (result : PersistenceResult) : ServiceLabel → Ended → Prop
  | returned : EndsCommitted id result (.commit id) (.returned (.ok result))
  | acknowledgementLost {e : PyException} : e.isInstance .processorError = false →
      EndsCommitted id result (.commitLost id e) (.acknowledgementLost (classify e))

/-- The ways a step changes the service. -/
theorem step_cases {st st' : Service uow} {l : ServiceLabel} (stepped : st.step l = some st') :
    (∃ call, l = .call call ∧ st' = st.begin_ call) ∨
    (∃ id tx tx', l = .statement id ∧ st.store.open_.get? id = some tx ∧
      tx.advance st.store.committed.db (st.store.held id) = some (.ok tx') ∧
      st' = { st with store := { st.store with open_ := st.store.open_.set id tx' } }) ∨
    (∃ id tx ending, st.store.open_.get? id = some tx ∧ RolledBack st id tx l ending ∧
      st' = st.finish id ending) ∨
    ∃ id tx result ending, st.store.open_.get? id = some tx ∧ tx.body = .pure result ∧
      st.deferredError tx = none ∧ EndsCommitted id result l ending ∧
      st' = st.finishCommitted id tx ending := by
  cases l with
  | call call => exact Or.inl ⟨call, rfl, (Option.some.inj stepped).symm⟩
  | statement id =>
    obtain ⟨tx, found, stepped⟩ := Option.bind_eq_some_iff.mp stepped
    obtain ⟨r, advanced, rfl⟩ := Option.map_eq_some_iff.mp stepped
    cases r with
    | ok tx' => exact Or.inr (Or.inl ⟨id, tx, tx', rfl, found, advanced, rfl⟩)
    | error e => exact Or.inr (Or.inr (Or.inl ⟨id, tx, _, found, .statement advanced, rfl⟩))
  | fault id e =>
    simp only [step] at stepped
    split at stepped
    · cases stepped
    · rename_i infrastructure
      obtain ⟨tx, found, rfl⟩ := Option.map_eq_some_iff.mp stepped
      exact Or.inr (Or.inr (Or.inl ⟨id, tx, _, found, .fault (by simpa using infrastructure), rfl⟩))
  | raised id =>
    obtain ⟨tx, found, stepped⟩ := Option.bind_eq_some_iff.mp stepped
    split at stepped
    · rename_i body
      cases stepped
      exact Or.inr (Or.inr (Or.inl ⟨id, tx, _, found, .raised body, rfl⟩))
    · cases stepped
  | commit id =>
    obtain ⟨tx, found, stepped⟩ := Option.bind_eq_some_iff.mp stepped
    split at stepped
    · rename_i result body
      split at stepped
      · rename_i checked
        cases stepped
        exact Or.inr (Or.inr (Or.inr ⟨id, tx, result, _, found, body, checked, .returned, rfl⟩))
      · rename_i failed
        cases stepped
        exact Or.inr (Or.inr (Or.inl ⟨id, tx, _, found, .deferred body failed, rfl⟩))
    · cases stepped
  | commitLost id e =>
    obtain ⟨tx, found, stepped⟩ := Option.bind_eq_some_iff.mp stepped
    split at stepped
    · rename_i result body
      split at stepped
      · rename_i checked
        split at stepped
        · cases stepped
        · rename_i infrastructure
          cases stepped
          exact Or.inr (Or.inr (Or.inr ⟨id, tx, result, _, found, body, checked,
            .acknowledgementLost (by simpa using infrastructure), rfl⟩))
      · cases stepped
    · cases stepped
  | crash id =>
    obtain ⟨tx, found, rfl⟩ := Option.map_eq_some_iff.mp stepped
    exact Or.inr (Or.inr (Or.inl ⟨id, tx, _, found, .crashed, rfl⟩))

/-! ### The invariant -/

theorem transaction_leaves (uow : UnitOfWork) (call : PersistCall) :
    (uow.transaction call).Leaves fun result => result.alreadyPersisted = false := by
  refine Prog.Leaves.after fun _ => Prog.Leaves.after fun counts => ?_
  split
  · exact Prog.Leaves.after fun _ => Prog.Leaves.after fun _ => Prog.Leaves.after fun _ => rfl
  · rfl

/-- Every open call is its own transaction, has not ended and has committed nothing;
an ending that may not leave a trace has left none. -/
structure Accounted (st : Service uow) : Prop where
  opened : ∀ id tx, st.store.open_.get? id = some tx → tx.request.1 = id ∧ id < st.started ∧
    (∀ entry ∈ st.store.committed.history, entry.1.1 ≠ id) ∧
    tx.body.Leaves fun result => result.alreadyPersisted = false
  past : ∀ entry ∈ st.store.committed.history, entry.1.1 < st.started
  numbered : ∀ x ∈ st.ended, x.1 < st.started ∧ (st.store.open_.get? x.1).isNone
  untouched : ∀ x ∈ st.ended, x.2.leavesTables = true →
    ∀ entry ∈ st.store.committed.history, entry.1.1 ≠ x.1

theorem advance_request {tx tx' : (database uow.arith).Tx Request PyException PersistenceResult}
    {db : Db} {held : List Lock} (advanced : tx.advance db held = some (.ok tx')) :
    tx'.request = tx.request ∧ ∀ P, tx.body.Leaves P → tx'.body.Leaves P := by
  obtain ⟨s, k, r, ws, body, -, -, rfl⟩ := Tx.advance_ok advanced
  exact ⟨rfl, fun P leaves => by rw [body] at leaves; exact leaves r⟩

theorem accounted_init (uow : UnitOfWork) (db : Db) : Accounted (init uow db) := by
  constructor <;> simp [init]

theorem Accounted.step {st st' : Service uow} {l : ServiceLabel} (h : Accounted st)
    (stepped : st.step l = some st') : Accounted st' := by
  rcases step_cases stepped with ⟨call, -, rfl⟩ | ⟨id, tx, tx', -, found, advanced, rfl⟩ |
    ⟨id, tx, ending, found, -, rfl⟩ | ⟨id, tx, result, ending, found, body, checked, how, rfl⟩
  · refine ⟨fun id tx present => ?_, fun entry mem => (h.past entry mem).trans (Nat.lt_succ_self _),
      fun x mem => ?_, h.untouched⟩
    · simp only [begin_, Dict.get?_set] at present
      split at present
      · rename_i same
        cases present
        exact ⟨same.symm, same ▸ Nat.lt_succ_self _, fun entry mem => same ▸ (h.past entry mem).ne,
          transaction_leaves uow call⟩
      · obtain ⟨request, less, rest⟩ := h.opened id tx present
        exact ⟨request, less.trans (Nat.lt_succ_self _), rest⟩
    · obtain ⟨less, closed⟩ := h.numbered x mem
      refine ⟨less.trans (Nat.lt_succ_self _), ?_⟩
      simp only [begin_]
      rw [Dict.get?_set_ne _ _ less.ne]
      exact closed
  · refine ⟨fun j other present => ?_, h.past, fun x mem => ?_, h.untouched⟩
    · simp only [Dict.get?_set] at present
      split at present
      · rename_i same
        subst same
        cases present
        obtain ⟨request, leaves⟩ := advance_request advanced
        obtain ⟨own, less, fresh, kept⟩ := h.opened j tx found
        exact ⟨request ▸ own, less, fresh, leaves _ kept⟩
      · exact h.opened j other present
    · obtain ⟨less, closed⟩ := h.numbered x mem
      refine ⟨less, ?_⟩
      simp only []
      rw [Dict.get?_set_ne _ _ fun same => by rw [same, found] at closed; cases closed]
      exact closed
  · obtain ⟨-, less, fresh, -⟩ := h.opened id tx found
    refine ⟨fun j other present => ?_, h.past, ?_, ?_⟩
    · simp only [finish, Dict.get?_erase] at present
      split at present
      · cases present
      · exact h.opened j other present
    · refine List.forall_mem_cons.mpr ⟨⟨less, by simp [finish]⟩, fun x mem => ?_⟩
      obtain ⟨less, closed⟩ := h.numbered x mem
      refine ⟨less, ?_⟩
      simp only [finish, Dict.get?_erase]
      split <;> simp [closed]
    · exact List.forall_mem_cons.mpr ⟨fun _ => fresh, h.untouched⟩
  · obtain ⟨own, less, fresh, leaves⟩ := h.opened id tx found
    refine ⟨fun j other present => ?_, ?_, ?_, ?_⟩
    · simp only [finishCommitted, Dict.get?_erase] at present
      split at present
      · cases present
      · rename_i ne
        obtain ⟨request, less, fresh, leaves⟩ := h.opened j other present
        exact ⟨request, less, List.forall_mem_cons.mpr ⟨own ▸ Ne.symm ne, fresh⟩, leaves⟩
    · exact List.forall_mem_cons.mpr ⟨own ▸ less, h.past⟩
    · refine List.forall_mem_cons.mpr ⟨⟨less, by simp [finishCommitted]⟩, fun x mem => ?_⟩
      obtain ⟨less, closed⟩ := h.numbered x mem
      refine ⟨less, ?_⟩
      simp only [finishCommitted, Dict.get?_erase]
      split <;> simp [closed]
    · refine List.forall_mem_cons.mpr ⟨fun silent => ?_, fun x mem silent => ?_⟩
      · -- A committed call reports its own result, or lost its acknowledgement.
        rw [body] at leaves
        cases how with
        | returned =>
          rw [Ended.leavesTables, show result.alreadyPersisted = false from leaves] at silent
          cases silent
        | acknowledgementLost => cases silent
      · refine List.forall_mem_cons.mpr ⟨fun same => ?_, h.untouched x mem silent⟩
        have closed := (h.numbered x mem).2
        rw [← same, own, found] at closed
        cases closed

/-- The store of the service is a store of the transaction library. -/
theorem step_store {st st' : Service uow} {l : ServiceLabel} (h : Accounted st)
    (stepped : st.step l = some st') :
    ∃ i a, st.store.step (fun request => uow.transaction request.2) i a = some st'.store := by
  rcases step_cases stepped with ⟨call, -, rfl⟩ | ⟨id, tx, tx', -, found, advanced, rfl⟩ |
    ⟨id, tx, ending, found, -, rfl⟩ | ⟨id, tx, result, ending, found, body, checked, -, rfl⟩
  · refine ⟨st.started, .begin (st.started, call), ?_⟩
    have free : st.store.open_.get? st.started = none := by
      cases present : st.store.open_.get? st.started with
      | none => rfl
      | some tx => exact absurd (h.opened _ tx present).2.1 (lt_irrefl _)
    simp [Store.step, free, begin_]
  · exact ⟨id, .statement, by simp [Store.step, found, advanced]⟩
  · exact ⟨id, .rollback, rfl⟩
  · refine ⟨id, .commit, ?_⟩
    simp only [deferredError] at checked
    simp only [Store.step, found, body, checked]
    rfl

end Service

/-! ### Exactly once -/

/-- Ledger, evaluations, alerts and outbox, in the words of the tables. -/
structure FraudRecords (outboxEnabled : Bool) (db : Db) : Prop where
  evaluated : ∀ e row, db.processedEvents.get? e = some row → fraudEligible row.eventType = true →
    ∃! v, EvaluationOf db v e
  flagged : ∀ v row, db.fraudEvaluations.get? v = some row →
    ((row.decision = .review ∨ row.decision = .block) ↔
      (∃! a, EngineAlert db a v) ∧
        (outboxEnabled = true → ∀ a, EngineAlert db a v → ∃! o, Queued db o a))
  approved : ∀ v row, db.fraudEvaluations.get? v = some row →
    (row.decision = .approve ↔ ¬ ∃ a, EngineAlert db a v)
  evaluation_event : ∀ v row, db.fraudEvaluations.get? v = some row →
    (db.processedEvents.get? row.sourceEventId).isSome
  alert_event : ∀ a row, db.fraudAlerts.get? a = some row → row.evaluationId ≠ none →
    (db.processedEvents.get? row.sourceEventId).isSome
  outbox_event : ∀ o row, db.fraudOutbox.get? o = some row →
    ∃ alert, db.fraudAlerts.get? row.aggregateId = some alert ∧ alert.evaluationId ≠ none ∧
      (db.processedEvents.get? alert.sourceEventId).isSome

theorem FraudComplete.records {outboxEnabled : Bool} {db : Db}
    (h : FraudComplete outboxEnabled db) : FraudRecords outboxEnabled db := by
  have event : ∀ v e, EvaluationOf db v e → (db.processedEvents.get? e).isSome := by
    intro v e evaluated
    obtain ⟨row, found, -⟩ := h.sourced v e evaluated
    simp [found]
  have flaggedIff : ∀ v row, db.fraudEvaluations.get? v = some row →
      (row.decision ≠ .approve ↔ ∃ a, EngineAlert db a v) := by
    intro v row found
    constructor
    · exact fun flagged => h.alerted v ⟨row, found, flagged⟩
    · rintro ⟨a, named⟩
      obtain ⟨row', found', flagged⟩ := h.flagged a v named
      rw [found] at found'
      cases found'
      exact flagged
  have split : ∀ d : FraudDecision, (d = .review ∨ d = .block) ↔ d ≠ .approve := by
    intro d; cases d <;> simp
  refine ⟨fun e row found eligible => ?_, fun v row found => ?_, fun v row found => ?_,
    fun v row found => ?_, fun a row found named => ?_, fun o row found => ?_⟩
  · obtain ⟨v, evaluated⟩ := h.evaluated e ⟨row, found, eligible⟩
    exact ⟨v, evaluated, fun v' evaluated' => h.evaluated_once v' v e evaluated' evaluated⟩
  · rw [split, flaggedIff v row found]
    constructor
    · rintro ⟨a, named⟩
      refine ⟨⟨a, named, fun a' named' => h.alerted_once a' a v named' named⟩, ?_⟩
      intro enabled a' named'
      obtain ⟨o, queued⟩ := h.queued enabled a' v named'
      exact ⟨o, queued, fun o' queued' => h.queued_once o' o a' queued' queued⟩
    · rintro ⟨⟨a, named, -⟩, -⟩
      exact ⟨a, named⟩
  · rw [← not_iff_not, not_not]
    exact flaggedIff v row found
  · exact event v _ ⟨row, found, rfl⟩
  · obtain ⟨v, named⟩ := Option.ne_none_iff_exists'.mp named
    exact event v _ (h.about v _ ⟨a, row, found, named, rfl⟩)
  · obtain ⟨v, alert, stored, named⟩ := h.for_alert o _ ⟨row, found, rfl⟩
    exact ⟨alert, stored, by simp [named], event v _ (h.about v _ ⟨_, alert, stored, named, rfl⟩)⟩

/-- What every state of the service satisfies. -/
structure PersistSafe {uow : UnitOfWork} (start : Db) (st : Service uow) : Prop where
  /-- At most one call has committed for an event, -/
  once : (st.store.committed.history.map fun entry => entry.1.eventId).Nodup
  /-- a call that has committed has inserted the ledger row of its event, -/
  recorded : ∀ entry ∈ st.store.committed.history,
    ∃ row, Write.processedEvents entry.1.eventId row ∈ entry.2
  /-- and the tables hold what the committed calls wrote, and nothing else. -/
  replay : st.store.committed.db =
    (database uow.arith).view start (st.store.committed.history.reverse.flatMap Prod.snd)
  /-- A duplicate, and a call that raised without committing, wrote nothing. -/
  untouched : ∀ x ∈ st.ended, x.2.leavesTables = true →
    ∀ entry ∈ st.store.committed.history, entry.1.1 ≠ x.1
  records : FraudRecords uow.fraudConfig.outboxEnabled st.store.committed.db

/-- Exactly-once effects and transactional completeness, for every interleaving of
`persist` calls with failures and crashes anywhere. -/
theorem persist_safe {uow : UnitOfWork} (enabled : uow.fraudConfig.engineEnabled = true)
    {start : Db} (complete : FraudComplete uow.fraudConfig.outboxEnabled start)
    {labels : List ServiceLabel} {st : Service uow}
    (ran : (Service.machine uow).run (Service.init uow start) labels = some st) :
    PersistSafe start st := by
  have bodies : ∀ request c, ExactlyOnce uow start c → _ :=
    transaction_exactlyOnce enabled
  let Inv (st : Service uow) : Prop := Service.Accounted st ∧
    Verified (D := database uow.arith) (ExactlyOnce uow start) keyAgree st.store
  have keep : ∀ st l st', Inv st → (Service.machine uow).step st l = some st' → Inv st' := by
    rintro st l st' ⟨accounted, verified⟩ stepped
    obtain ⟨i, a, moved⟩ := Service.step_store accounted stepped
    exact ⟨accounted.step stepped,
      step_verified (keyAgree_guard _) (fun call _ => bodies call) verified moved⟩
  have init : Inv (Service.init uow start) :=
    ⟨Service.accounted_init uow start, exactlyOnce_start complete, by simp [Service.init],
      by simp [Service.init]⟩
  obtain ⟨accounted, verified⟩ := (Service.machine uow).invariant keep init ran
  have exact_ := verified.committed
  exact ⟨exact_.once, exact_.recorded, exact_.replay, accounted.untouched, exact_.complete.records⟩

section

def engineUow : UnitOfWork := { plainUow with fraudConfig := { engineEnabled := true } }

def registration (n : Nat) : PersistCall :=
  plainCall n (.userRegistered ⟨.ofNat n, "h", "TR", .normal, 0⟩)

/-- The first call loses its connection, the second commits, the third finds its row. -/
def retried : List ServiceLabel :=
  [.call (registration 1), .statement 0, .statement 0, .fault 0 (.psycopg none),
    .call (registration 1), .statement 1, .statement 1, .statement 1, .statement 1, .statement 1,
    .commit 1, .call (registration 1), .statement 2, .raised 2]

theorem persist_safe_retried :
    ∃ st, (Service.machine engineUow).run (Service.init engineUow {}) retried = some st ∧
      PersistSafe {} st ∧ st.store.committed.history.map (·.1.1) = [1] ∧
      st.ended.map (·.1) = [2, 1, 0] := by
  have ends : ((Service.machine engineUow).run (Service.init engineUow {}) retried).map (fun st =>
      (st.store.committed.history.map (·.1.1), st.ended.map (·.1))) = some ([1], [2, 1, 0]) := by
    decide +kernel
  obtain ⟨st, ran, at_end⟩ := Option.map_eq_some_iff.mp ends
  obtain ⟨history, ended⟩ := Prod.mk.inj at_end
  exact ⟨st, ran, persist_safe rfl (fraudComplete_empty _) ran, history, ended⟩

end

end CommercePlatform.Persistence
