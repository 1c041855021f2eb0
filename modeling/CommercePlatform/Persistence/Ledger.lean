import CommercePlatform.Persistence.Raises
import CommercePlatform.Persistence.Service

/-!
The ledger under `persist`.

Rows of `processed_events` are only added, and only by the transaction of their event:
whoever has seen a row, or has committed one, can rely on it. A call of `persist` that
returns has done one or the other (`Persisted`), whatever else runs.
-/

namespace CommercePlatform.Persistence

open Contract Fraud Schema

/-- The ledger holds the event under this canonical hash. -/
def Persisted (db : Db) (eventId : UUID) (digest : String) : Prop :=
  ∃ row, db.processedEvents.get? eventId = some row ∧ row.payloadSha256 = digest

instance (db : Db) (eventId : UUID) (digest : String) : Decidable (Persisted db eventId digest) :=
  decidable_of_iff ((db.processedEvents.get? eventId).map (·.payloadSha256) = some digest)
    Option.map_eq_some_iff

/-! ### The invariant -/

def ledgerTable (t : Table) : Bool := t = .processedEvents

/-- A locked key of the ledger keeps its row. -/
def ledgerAgree : Lock → Db → Db → Prop
  | .row .processedEvents id, db, db' => db'.processedEvents.get? id = db.processedEvents.get? id
  | _, _, _ => True

theorem ledgerAgree_guard (arith : Arithmetic) : IsGuard (D := database arith) ledgerAgree where
  refl l db := by
    unfold ledgerAgree
    split <;> trivial
  trans l db db' db'' first next := by
    unfold ledgerAgree at *
    split
    · exact next.trans first
    · trivial

section

variable (uow : UnitOfWork) (start : Db)

def Request.digest (request : Request) : String := uow.rt.canonicalPayloadHash request.2.event

/-- The ledger is what it was, and the rows of the committed calls. -/
structure LedgerKept (c : (database uow.arith).Committed Request) : Prop where
  sourced : ∀ id row, c.db.processedEvents.get? id = some row →
    start.processedEvents.get? id = some row ∨
      ∃ entry ∈ c.history, entry.1.eventId = id ∧ entry.1.digest uow = row.payloadSha256
  start_kept : ∀ id row, start.processedEvents.get? id = some row →
    c.db.processedEvents.get? id = some row
  history_kept : ∀ entry ∈ c.history, Persisted c.db entry.1.eventId (entry.1.digest uow)

end

variable {uow : UnitOfWork} {start : Db}

theorem ledgerKept_start : LedgerKept uow start ⟨start, []⟩ :=
  ⟨fun _ _ found => Or.inl found, fun _ _ found => found, by simp⟩

/-- What was in the ledger stays there. -/
theorem LedgerKept.mono {c c' : (database uow.arith).Committed Request} (h : LedgerKept uow start c)
    (h' : LedgerKept uow start c') (grew : ∀ entry ∈ c.history, entry ∈ c'.history)
    {id : UUID} {digest : String} (persisted : Persisted c.db id digest) :
    Persisted c'.db id digest := by
  obtain ⟨row, found, rfl⟩ := persisted
  rcases h.sourced id row found with old | ⟨entry, mem, rfl, same⟩
  · exact ⟨row, h'.start_kept id row old, rfl⟩
  · exact same ▸ h'.history_kept entry (grew entry mem)

/-- Committing a new row keeps the invariant. -/
theorem LedgerKept.commit {c : (database uow.arith).Committed Request} (h : LedgerKept uow start c)
    {request : Request} {ws : List Write} {row : ProcessedEvent}
    (absent : c.db.processedEvents.get? request.eventId = none)
    (digest : row.payloadSha256 = request.digest uow)
    (ledger : ((database uow.arith).view c.db ws).processedEvents =
      c.db.processedEvents.set request.eventId row) :
    LedgerKept uow start (c.commit request ws) := by
  have other : ∀ id, (∃ row, c.db.processedEvents.get? id = some row) → id ≠ request.eventId := by
    rintro id ⟨row, found⟩ rfl
    rw [absent] at found
    cases found
  refine ⟨fun id row' found => ?_, fun id row' found => ?_, ?_⟩
  · have found : (c.db.processedEvents.set request.eventId row).get? id = some row' := ledger ▸ found
    rw [Dict.get?_set] at found
    split at found
    · rename_i same
      cases found
      exact Or.inr ⟨_, List.mem_cons_self, same.symm, digest.symm⟩
    · refine (h.sourced id row' found).imp_right ?_
      rintro ⟨entry, mem, same⟩
      exact ⟨entry, List.mem_cons_of_mem _ mem, same⟩
  · have kept := h.start_kept id row' found
    have : (c.db.processedEvents.set request.eventId row).get? id = some row' := by
      rw [Dict.get?_set_ne _ _ (other id ⟨row', kept⟩)]
      exact kept
    exact ledger ▸ this
  · refine List.forall_mem_cons.mpr ⟨⟨row, ledger ▸ by simp, digest⟩, fun entry mem => ?_⟩
    obtain ⟨row', kept, same⟩ := h.history_kept entry mem
    refine ⟨row', ?_, same⟩
    have : (c.db.processedEvents.set request.eventId row).get? entry.1.eventId = some row' := by
      rw [Dict.get?_set_ne _ _ (other _ ⟨row', kept⟩)]
      exact kept
    exact ledger ▸ this

/-! ### The bodies -/

theorem untouched_of_filter {ws : List Write} (none : ws.filter (touches ledgerTable) = []) :
    ∀ w ∈ ws, w.table ≠ .processedEvents := by
  intro w mem same
  have := List.filter_eq_nil_iff.mp none w mem
  simp [touches, ledgerTable, same] at this

/-- What a transaction sees of the ledger. -/
theorem view_ledger {arith : Arithmetic} {db : Db} {ws rel : List Write}
    (only : ws.filter (touches ledgerTable) = rel) :
    ((database arith).view db ws).processedEvents =
      ((database arith).view db rel).processedEvents := by
  have same : Db.restrict ledgerTable ((database arith).view db ws) =
      Db.restrict ledgerTable ((database arith).view db rel) := only ▸ restrict_view_filter _ _ _
  simpa [Db.restrict, ledgerTable] using congrArg Db.processedEvents same

section

variable (uow start)

abbrev RowSettled (request : Request) : Assn (database uow.arith) Request :=
  Settled (D := database uow.arith) (LedgerKept uow start) ledgerAgree (touches ledgerTable) request

abbrev KnowsRow (rel : List Write) : Assn (database uow.arith) Request :=
  Holds (D := database uow.arith) (LedgerKept uow start) (touches ledgerTable) rel
    (rel.map Write.lock) (Fresh rel)

end

theorem fresh_ledgerGuarded (rel : List Write) (only : ∀ w ∈ rel, w.table = .processedEvents) :
    Guards (D := database uow.arith) ledgerAgree (rel.map Write.lock) (Fresh rel) := by
  intro db db' same fresh w mem
  have agree : ledgerAgree w.lock db db' := same _ (List.mem_map_of_mem mem)
  have absent := fresh w mem
  have table := only w mem
  cases w <;> first
    | exact agree.trans absent
    | cases table

variable {c : (database uow.arith).Committed Request} {ws : List Write} {ls : List Lock}

theorem insertIdentity_row {event : EventEnvelope} {message : ConsumedMessage}
    {processorInstanceId : String} {persistRawJson : Bool} (h : KnowsRow uow start [] c ws ls) :
    wp (D := database uow.arith) (LedgerKept uow start) ledgerAgree
      (insertIdentity uow.rt event message processorInstanceId persistRawJson)
      (fun _ => KnowsRow uow start [.processedEvents event.eventId
        (ledgerRow uow.rt event message processorInstanceId persistRawJson)]) c ws ls := by
  have nothing : Guards (D := database uow.arith) ledgerAgree [] (Fresh []) :=
    fresh_ledgerGuarded [] (by simp)
  refine wp_sql nothing h fun c h seen _ _ existing _ => ?_
  split
  · split <;> trivial
  refine wp_sql nothing (h.skip (by simp [Stmt.writes]) _) fun c h seen _ _ source _ => ?_
  split
  · trivial
  refine wp_sql nothing (h.skip (by simp [Stmt.writes]) _) fun c h seen view passed r _ => ?_
  have absent : seen.processedEvents.get? event.eventId = none :=
    Stmt.absent_of_passed passed (by simp [Stmt.constraints, Stmt.unique])
  have locked : Lock.row .processedEvents event.eventId ∈ Stmt.locks
      (.insertEvent event.eventId (ledgerRow uow.rt event message processorInstanceId
        persistRawJson)) seen := by
    simp [Stmt.locks, Stmt.addKey, absent]
  refine ⟨h.inv, ?_, ?_, fresh_singleton ?_⟩
  · rw [List.filter_append, h.rel]
    rfl
  · intro l mem
    obtain rfl := List.mem_singleton.mp mem
    exact List.mem_append_right _ locked
  · rw [view, view_ledger h.rel] at absent
    exact absent

/-- A transaction that has inserted its row may commit. -/
theorem KnowsRow.settled {request : Request} {row : ProcessedEvent}
    (h : KnowsRow uow start [.processedEvents request.eventId row] c ws ls)
    (digest : row.payloadSha256 = request.digest uow) : RowSettled uow start request c ws ls := by
  refine ⟨_, _, _, fresh_ledgerGuarded _ (by simp [Write.table]), h, ?_⟩
  intro c' ws' inv fresh only _
  have ledger : ((database uow.arith).view c'.db ws').processedEvents =
      c'.db.processedEvents.set request.eventId row := view_ledger only
  have absent : c'.db.processedEvents.get? request.eventId = none :=
    fresh (.processedEvents request.eventId row) (by simp)
  refine ⟨inv.commit absent digest ledger, fun l free => ?_⟩
  unfold ledgerAgree
  split
  · rename_i id
    rw [ledger]
    refine Dict.get?_set_ne _ _ fun same => free ?_
    simp [same, Write.lock]
  · trivial

theorem handlerTables_ledger (eventType : EventType) :
    ∀ t ∈ handlerTables eventType, ledgerTable t = false := by
  cases eventType <;> simp [handlerTables, ledgerTable]

/-- Every transaction keeps the ledger. -/
theorem transaction_ledger (request : Request) (c : (database uow.arith).Committed Request)
    (inv : LedgerKept uow start c) :
    wp (D := database uow.arith) (LedgerKept uow start) ledgerAgree (uow.transaction request.2)
      (fun _ => CommitSafe (D := database uow.arith) (LedgerKept uow start) ledgerAgree request)
      c [] [] := by
  have weaken : ∀ (_ : PersistenceResult) c ws ls, RowSettled uow start request c ws ls →
      CommitSafe (D := database uow.arith) (LedgerKept uow start) ledgerAgree request c ws ls :=
    fun _ _ _ _ settled => settled.commitSafe
  refine wp_mono ?_ weaken
  have begin_ : KnowsRow uow start [] c [] [] := ⟨inv, rfl, by simp, by simp [Fresh]⟩
  refine wp_then (insertIdentity_row begin_) fun _ c ws ls h => ?_
  have settled : RowSettled uow start request c ws ls := h.settled rfl
  refine wp_then (wp_settled ((applyHandler_writes _ _ _).irrelevant (handlerTables_ledger _)) settled)
    fun counts c ws ls settled => wp_ite (fun _ => ?_) fun _ => settled
  exact wp_settled ((fraudStage_writes _ _ _).irrelevant (by simp [ledgerTable])) settled

/-! ### The duplicate check -/

def NotDuplicate (e : PyException) : Prop := e.isInstance .alreadyPersistedEvent = false

theorem HandlerError.notDuplicate {e : PyException} (h : HandlerError e) : NotDuplicate e := by
  cases h <;> rfl

theorem configuration_notDuplicate (cls : ErrorClass)
    (is : cls.isInstance .fraudRuleConfigurationError = true) :
    cls.isInstance .alreadyPersistedEvent = false := by
  revert is
  cases cls <;> decide

theorem StageError.notDuplicate {e : PyException} (h : StageError e) : NotDuplicate e := by
  cases h with
  | configuration is => exact configuration_notDuplicate _ is
  | _ => rfl

/-- The transaction looks its event up first; it raises `AlreadyPersistedEvent` when it
finds it, and else never. -/
theorem transaction_check (uow : UnitOfWork) (call : PersistCall) :
    ∃ k, uow.transaction call = .call (.selectEvent call.event.eventId) k ∧
      (∀ row : String × String × Int × Int, row.1 = uow.rt.canonicalPayloadHash call.event →
        k (some row) = .throw (.raised .alreadyPersistedEvent call.event.eventId.str)) ∧
      ∀ existing : Option (String × String × Int × Int),
        (∀ row, existing = some row → row.1 ≠ uow.rt.canonicalPayloadHash call.event) →
        Raises NotDuplicate (k existing) := by
  refine ⟨_, rfl, fun row same => ?_, fun existing other => ?_⟩
  · change Prog.bind (if row.1 = uow.rt.canonicalPayloadHash call.event then raise _ _
      else raise _ _ : Sql Unit) _ = _
    rw [if_pos same]
    rfl
  · refine Raises.bind ?_ fun _ => Raises.bind ?_ fun counts => ?_
    · cases existing with
      | some row =>
        change Raises NotDuplicate (if row.1 = uow.rt.canonicalPayloadHash call.event then
          raise _ _ else raise _ _ : Sql Unit)
        rw [if_neg (other row rfl)]
        exact Raises.raise (HandlerError.integrity _).notDuplicate
      | none =>
        refine Raises.bind (p := sql (.selectEventAt _ _ _)) (.query _) fun source => ?_
        cases source with
        | some _ => exact Raises.raise (HandlerError.integrity _).notDuplicate
        | none => exact Raises.bind (.query _) fun _ => .pure _
    · exact (applyHandler_raises _ _ _).mono fun _ raised => raised.notDuplicate
    · exact .ite ((fraudStage_raises _ _ _).mono fun _ raised => raised.notDuplicate) (.pure _)

/-- Where an open transaction stands with its duplicate check. -/
inductive Checked (uow : UnitOfWork) (db : Db)
    (tx : (database uow.arith).Tx Request PyException PersistenceResult) : Prop where
  | before : tx.body = uow.transaction tx.request.2 → tx.writes = [] → Checked uow db tx
  | duplicate {message : String} : tx.body = .throw (.raised .alreadyPersistedEvent message) →
      Persisted db tx.request.eventId (tx.request.digest uow) → Checked uow db tx
  | passed : Raises NotDuplicate tx.body → Checked uow db tx

theorem Checked.mono {db db' : Db}
    {tx : (database uow.arith).Tx Request PyException PersistenceResult} (h : Checked uow db tx)
    (kept : ∀ id digest, Persisted db id digest → Persisted db' id digest) : Checked uow db' tx := by
  cases h with
  | before body writes => exact .before body writes
  | duplicate body persisted => exact .duplicate body (kept _ _ persisted)
  | passed quiet => exact .passed quiet

/-- What the lookup answers. -/
theorem selectEvent_answer (eventId : UUID) (db : Db) :
    (Stmt.selectEvent eventId).answer db =
      ((db.processedEvents.get? eventId).map fun row =>
        (row.payloadSha256, row.kafkaTopic, row.kafkaPartition, row.kafkaOffset) :
        Option (String × String × Int × Int)) := rfl

theorem Checked.advance {db : Db} {held : List Lock}
    {tx tx' : (database uow.arith).Tx Request PyException PersistenceResult} (h : Checked uow db tx)
    (advanced : tx.advance db held = some (.ok tx')) : Checked uow db tx' := by
  obtain ⟨s, k, r, ws, body, -, ran, rfl⟩ := Tx.advance_ok advanced
  cases h with
  | duplicate thrown => rw [thrown] at body; cases body
  | passed quiet => rw [body] at quiet; exact .passed (quiet r)
  | before whole writes =>
    obtain ⟨k', first, found, other⟩ := transaction_check uow tx.request.2
    rw [body, first] at whole
    cases whole
    obtain ⟨rfl, -, -⟩ := exec_ok ran
    rw [writes, view_nil, selectEvent_answer]
    cases present : db.processedEvents.get? tx.request.2.event.eventId with
    | none => exact .passed (other _ (by simp))
    | some row =>
      by_cases same : row.payloadSha256 = uow.rt.canonicalPayloadHash tx.request.2.event
      · exact .duplicate (found _ same) ⟨row, present, same⟩
      · exact .passed (other _ (by simpa using same))

/-! ### The service -/

theorem classify_ok {e : PyException} {r : PersistenceResult} (ok : classify e = .ok r) :
    e.isInstance .alreadyPersistedEvent = true ∧ r.alreadyPersisted = true := by
  unfold classify at ok
  split at ok
  · split at ok
    · rename_i is
      cases ok
      exact ⟨is, rfl⟩
    · cases ok
  · cases ok
  · split at ok <;> cases ok
  · cases ok
  · cases ok

namespace Service

variable (start) in
/-- The ledger is kept, and every open call stands somewhere with its duplicate check. -/
structure Ledgered (st : Service uow) : Prop where
  accounted : Accounted st
  verified : Verified (D := database uow.arith) (LedgerKept uow start) ledgerAgree st.store
  checked : ∀ id tx, st.store.open_.get? id = some tx → Checked uow st.store.committed.db tx

theorem ledgered_init : Ledgered start (init uow start) :=
  ⟨accounted_init uow start, ⟨ledgerKept_start, by simp [init], by simp [init]⟩, by simp [init]⟩

/-- The ledger only grows. -/
theorem Ledgered.kept {st st' : Service uow} {l : ServiceLabel} (h : Ledgered start st)
    (stepped : st.step l = some st') {id : UUID} {digest : String}
    (persisted : Persisted st.store.committed.db id digest) :
    Persisted st'.store.committed.db id digest := by
  obtain ⟨i, a, moved⟩ := step_store h.accounted stepped
  have after := step_verified (ledgerAgree_guard _) (fun call _ => transaction_ledger call) h.verified moved
  refine h.verified.committed.mono after.committed ?_ persisted
  rcases step_cases stepped with ⟨call, -, rfl⟩ | ⟨id, tx, tx', -, found, advanced, rfl⟩ |
    ⟨id, tx, ending, found, -, rfl⟩ | ⟨id, tx, result, ending, found, body, checked, -, rfl⟩
  · exact fun _ mem => mem
  · exact fun _ mem => mem
  · exact fun _ mem => mem
  · exact fun _ mem => List.mem_cons_of_mem _ mem

theorem Ledgered.step {st st' : Service uow} {l : ServiceLabel} (h : Ledgered start st)
    (stepped : st.step l = some st') : Ledgered start st' := by
  obtain ⟨i, a, moved⟩ := step_store h.accounted stepped
  refine ⟨h.accounted.step stepped,
    step_verified (ledgerAgree_guard _) (fun call _ => transaction_ledger call) h.verified moved, ?_⟩
  have kept : ∀ id digest, Persisted st.store.committed.db id digest →
      Persisted st'.store.committed.db id digest := fun _ _ => h.kept stepped
  rcases step_cases stepped with ⟨call, -, rfl⟩ | ⟨id, tx, tx', -, found, advanced, rfl⟩ |
    ⟨id, tx, ending, found, -, rfl⟩ | ⟨id, tx, result, ending, found, body, checked, -, rfl⟩
  · intro id tx present
    simp only [begin_, Dict.get?_set] at present
    split at present
    · cases present; exact .before rfl rfl
    · exact h.checked id tx present
  · intro j other present
    simp only [Dict.get?_set] at present
    split at present
    · cases present; exact (h.checked id tx found).advance advanced
    · exact h.checked j other present
  · intro j other present
    simp only [finish, Dict.get?_erase] at present
    split at present
    · cases present
    · exact h.checked j other present
  · intro j other present
    simp only [finishCommitted, Dict.get?_erase] at present
    split at present
    · cases present
    · exact (h.checked j other present).mono kept

/-- A rolled back call that returned has found its event in the ledger. -/
theorem Ledgered.found {st : Service uow} (h : Ledgered start st) {id : Nat}
    {tx : (database uow.arith).Tx Request PyException PersistenceResult} {l : ServiceLabel}
    {ending : Ended} {r : PersistenceResult} (present : st.store.open_.get? id = some tx)
    (ended : RolledBack st id tx l ending) (returned : ending.answer = some (.ok r)) :
    Persisted st.store.committed.db tx.request.eventId (tx.request.digest uow) := by
  have never : ∀ sqlstate, classify (.psycopg (some sqlstate)) ≠ .ok r := by
    intro sqlstate ok
    have := (classify_ok ok).1
    cases this
  cases ended with
  | statement => exact absurd (Option.some.inj returned) (never _)
  | deferred => exact absurd (Option.some.inj returned) (never _)
  | crashed => cases returned
  | @fault e infrastructure =>
    have is := (classify_ok (Option.some.inj returned)).1
    rw [PyException.isInstance_processorError is] at infrastructure
    cases infrastructure
  | @raised e body =>
    have is := (classify_ok (Option.some.inj returned)).1
    cases h.checked id tx present with
    | before whole =>
      obtain ⟨k, first, -⟩ := transaction_check uow tx.request.2
      rw [body, first] at whole
      cases whole
    | duplicate _ persisted => exact persisted
    | passed quiet =>
      rw [body] at quiet
      exact absurd (is.symm.trans quiet) (by decide)

/-! ### A call somebody waits for -/

/-- The call `id` was made for `event`; when it has returned, the event is in the
ledger. -/
structure Awaited (st : Service uow) (id : Nat) (event : EventEnvelope) : Prop where
  started : id < st.started
  own : ∀ tx, st.store.open_.get? id = some tx → tx.request.2.event = event
  answered : ∀ ending r, st.ended.lookup id = some ending → ending.answer = some (.ok r) →
    Persisted st.store.committed.db event.eventId (uow.rt.canonicalPayloadHash event)

theorem lookup_cons (ended : List (Nat × Ended)) (id id' : Nat) (ending : Ended) :
    ((id', ending) :: ended).lookup id = if id = id' then some ending else ended.lookup id := by
  rw [List.lookup_cons]
  by_cases same : id = id'
  · simp [same]
  · simp [same, beq_false_of_ne same]

/-- A call that has just been made. -/
theorem Accounted.awaited {st : Service uow} (h : Accounted st) (call : PersistCall) :
    Awaited (st.begin_ call) st.started call.event := by
  refine ⟨Nat.lt_succ_self _, fun tx present => ?_, fun ending r found => ?_⟩
  · simp only [begin_, Dict.get?_set_self, Option.some.injEq] at present
    rw [← present]
  · have fresh : ∀ x ∈ st.ended, x.1 ≠ st.started := fun x mem => (h.numbered x mem).1.ne
    obtain ⟨before, after, split, -⟩ := List.lookup_eq_some_iff.mp found
    have mem : (st.started, ending) ∈ st.ended := split ▸ by simp
    exact absurd rfl (fresh _ mem)

theorem Awaited.step {st st' : Service uow} {l : ServiceLabel} {id : Nat} {event : EventEnvelope}
    (h : Awaited st id event) (ledgered : Ledgered start st) (stepped : st.step l = some st') :
    Awaited st' id event := by
  have after := ledgered.step stepped
  have kept : ∀ {id digest}, Persisted st.store.committed.db id digest →
      Persisted st'.store.committed.db id digest := fun persisted => ledgered.kept stepped persisted
  rcases step_cases stepped with ⟨call, -, rfl⟩ | ⟨i, tx, tx', -, found, advanced, rfl⟩ |
    ⟨i, tx, ending, found, ended, rfl⟩ | ⟨i, tx, result, ending, found, body, checked, -, rfl⟩
  · refine ⟨h.started.trans (Nat.lt_succ_self _), fun tx present => ?_, h.answered⟩
    simp only [begin_] at present
    rw [Dict.get?_set_ne _ _ h.started.ne] at present
    exact h.own tx present
  · refine ⟨h.started, fun other present => ?_, h.answered⟩
    simp only [Dict.get?_set] at present
    split at present
    · rename_i same
      subst same
      cases present
      rw [(advance_request advanced).1]
      exact h.own tx found
    · exact h.own other present
  · refine ⟨h.started, fun other present => ?_, fun ending' r looked returned => ?_⟩
    · simp only [finish, Dict.get?_erase] at present
      split at present
      · cases present
      · exact h.own other present
    · simp only [finish, lookup_cons] at looked
      split at looked
      · rename_i same
        subst same
        cases looked
        have persisted := ledgered.found found ended returned
        rw [Request.eventId, Request.digest, h.own tx found] at persisted
        exact persisted
      · exact h.answered ending' r looked returned
  · refine ⟨h.started, fun other present => ?_, fun ending' r looked returned => ?_⟩
    · simp only [finishCommitted, Dict.get?_erase] at present
      split at present
      · cases present
      · exact h.own other present
    · simp only [finishCommitted, lookup_cons] at looked
      split at looked
      · rename_i same
        subst same
        have persisted := after.verified.committed.history_kept _ List.mem_cons_self
        rw [Request.eventId, Request.digest, h.own tx found] at persisted
        exact persisted
      · exact kept (h.answered ending' r looked returned)

end Service

end CommercePlatform.Persistence
