import CommercePlatform.Persistence.FraudComplete

/-!
Exactly-once effects.

A committed transaction has inserted the ledger row of its event under the lock of
the event's key, so no second one can commit for the same event. The invariant
`ExactlyOnce` says this of the history of committed calls, says that the tables are
what these calls wrote, and includes `FraudComplete`.
-/

namespace CommercePlatform.Persistence

open Contract Fraud Schema

/-! ### The four tables -/

def ledgerTables (t : Table) : Bool :=
  t = .processedEvents ∨ t = .fraudEvaluations ∨ t = .fraudAlerts ∨ t = .fraudOutbox

/-- The four tables of a database agree with those of another. -/
structure SameLedger (db db' : Db) : Prop where
  processedEvents : db.processedEvents = db'.processedEvents
  fraudEvaluations : db.fraudEvaluations = db'.fraudEvaluations
  fraudAlerts : db.fraudAlerts = db'.fraudAlerts
  fraudOutbox : db.fraudOutbox = db'.fraudOutbox

/-- What a transaction sees of the four tables. -/
theorem sameLedger_view {arith : Arithmetic} {db : Db} {ws rel : List Write}
    (only : ws.filter (touches ledgerTables) = rel) :
    SameLedger ((database arith).view db ws) ((database arith).view db rel) := by
  have same : Db.restrict ledgerTables ((database arith).view db ws) =
      Db.restrict ledgerTables ((database arith).view db rel) := only ▸ restrict_view_filter _ _ _
  constructor
  · simpa [Db.restrict, ledgerTables] using congrArg Db.processedEvents same
  · simpa [Db.restrict, ledgerTables] using congrArg Db.fraudEvaluations same
  · simpa [Db.restrict, ledgerTables] using congrArg Db.fraudAlerts same
  · simpa [Db.restrict, ledgerTables] using congrArg Db.fraudOutbox same

theorem view_processedEvents {arith : Arithmetic} (db : Db) {ws : List Write}
    (elsewhere : ∀ w ∈ ws, w.table ≠ .processedEvents) :
    ((database arith).view db ws).processedEvents = db.processedEvents := by
  induction ws generalizing db with
  | nil => rfl
  | cons w ws ih =>
    obtain ⟨first, rest⟩ := List.forall_mem_cons.mp elsewhere
    have kept : (db.apply w).processedEvents = db.processedEvents := by
      cases w <;> first
        | rfl
        | exact absurd rfl first
    exact (ih _ rest).trans kept

/-- A locked key of the four tables keeps its row. -/
def keyAgree : Lock → Db → Db → Prop
  | .row .processedEvents id, db, db' => db'.processedEvents.get? id = db.processedEvents.get? id
  | .row .fraudEvaluations id, db, db' => db'.fraudEvaluations.get? id = db.fraudEvaluations.get? id
  | .row .fraudAlerts id, db, db' => db'.fraudAlerts.get? id = db.fraudAlerts.get? id
  | .row .fraudOutbox id, db, db' => db'.fraudOutbox.get? id = db.fraudOutbox.get? id
  | _, _, _ => True

theorem keyAgree_guard (arith : Arithmetic) : IsGuard (D := database arith) keyAgree where
  refl l db := by
    unfold keyAgree
    split <;> trivial
  trans l db db' db'' first next := by
    unfold keyAgree at *
    split
    · exact next.trans first
    · exact next.trans first
    · exact next.trans first
    · exact next.trans first
    · trivial

/-- The key a write takes. -/
def Write.lock : Write → Lock
  | .cartItems (cartId, productId) _ => .cartItem cartId productId
  | .processedEvents id _ => .row .processedEvents id
  | .customers id _ => .row .customers id
  | .sessions id _ => .row .sessions id
  | .productViews id _ => .row .productViews id
  | .carts id _ => .row .carts id
  | .orders id _ => .row .orders id
  | .payments id _ => .row .payments id
  | .refunds id _ => .row .refunds id
  | .fraudEvaluations id _ => .row .fraudEvaluations id
  | .fraudAlerts id _ => .row .fraudAlerts id
  | .fraudOutbox id _ => .row .fraudOutbox id

theorem keyAgree_apply (db : Db) {w : Write} {l : Lock} (free : l ≠ w.lock) :
    keyAgree l db (db.apply w) := by
  unfold keyAgree
  split <;> cases w <;> first
    | rfl
    | trivial
    | (refine Dict.get?_set_ne _ _ fun same => free ?_
       rw [same]
       rfl)

/-- Writes change no other keys than their own. -/
theorem keyAgree_view {arith : Arithmetic} (db : Db) {ws : List Write} {l : Lock}
    (free : ∀ w ∈ ws, l ≠ w.lock) : keyAgree l db ((database arith).view db ws) := by
  induction ws generalizing db with
  | nil => exact (keyAgree_guard arith).refl l db
  | cons w ws ih =>
    obtain ⟨first, rest⟩ := List.forall_mem_cons.mp free
    exact (keyAgree_guard arith).trans l _ _ _ (keyAgree_apply db first) (ih _ rest)

theorem keyAgree_congr {db db' db'' : Db} {l : Lock} (same : SameLedger db' db'')
    (agree : keyAgree l db db'') : keyAgree l db db' := by
  unfold keyAgree at *
  split
  · rw [same.processedEvents]; exact agree
  · rw [same.fraudEvaluations]; exact agree
  · rw [same.fraudAlerts]; exact agree
  · rw [same.fraudOutbox]; exact agree
  · trivial

/-! ### The invariant -/

/-- A call of `persist` and its number. -/
abbrev Request := Nat × PersistCall

def Request.eventId (request : Request) : UUID := request.2.event.eventId

section

variable (uow : UnitOfWork) (start : Db)

/-- The committed state reached from `start`. -/
structure ExactlyOnce (c : (database uow.arith).Committed Request) : Prop where
  /-- Evaluations, alerts and outbox rows match the ledger. -/
  complete : FraudComplete uow.fraudConfig.outboxEnabled c.db
  /-- A committed call wrote the ledger row of its event, -/
  recorded : ∀ entry ∈ c.history, ∃ row, Write.processedEvents entry.1.eventId row ∈ entry.2
  /-- and no other committed call is for the same event. -/
  once : (c.history.map fun entry => entry.1.eventId).Nodup
  ledger : ∀ entry ∈ c.history, (c.db.processedEvents.get? entry.1.eventId).isSome
  /-- The tables are what the committed calls wrote, one after another. -/
  replay : c.db = (database uow.arith).view start (c.history.reverse.flatMap Prod.snd)

end

variable {uow : UnitOfWork} {start : Db}

theorem exactlyOnce_start (complete : FraudComplete uow.fraudConfig.outboxEnabled start) :
    ExactlyOnce uow start ⟨start, []⟩ :=
  ⟨complete, by simp, by simp, by simp, rfl⟩

theorem ExactlyOnce.commit {c : (database uow.arith).Committed Request}
    (h : ExactlyOnce uow start c) {request : Request} {ws : List Write} {row : ProcessedEvent}
    (absent : c.db.processedEvents.get? request.eventId = none)
    (mem : Write.processedEvents request.eventId row ∈ ws)
    (ledger : ((database uow.arith).view c.db ws).processedEvents =
      c.db.processedEvents.set request.eventId row)
    (complete : FraudComplete uow.fraudConfig.outboxEnabled ((database uow.arith).view c.db ws)) :
    ExactlyOnce uow start (c.commit request ws) where
  complete := complete
  recorded := List.forall_mem_cons.mpr ⟨⟨row, mem⟩, h.recorded⟩
  once := by
    refine List.nodup_cons.mpr ⟨fun again => ?_, h.once⟩
    obtain ⟨entry, past, same⟩ := List.mem_map.mp again
    have present := h.ledger entry past
    rw [same, absent] at present
    cases present
  ledger := by
    refine List.forall_mem_cons.mpr ⟨?_, fun entry past => ?_⟩
    · exact ledger ▸ by simp
    · have present := h.ledger entry past
      refine ledger ▸ ?_
      rw [Dict.get?_set]
      split <;> simp [present]
  replay := by
    simp only [Committed.commit, List.reverse_cons, List.flatMap_append, List.flatMap_singleton]
    exact (congrArg (fun db => (database uow.arith).view db ws) h.replay).trans
      (view_append (database uow.arith) _ _ _).symm

/-! ### The bodies -/

section

variable (uow start)

/-- What a transaction knows about the four tables. -/
abbrev KnowsLedger (rel : List Write) (need : List Lock) (P : Db → Prop) :
    Assn (database uow.arith) Request :=
  Holds (D := database uow.arith) (ExactlyOnce uow start) (touches ledgerTables) rel need P

abbrev LedgerSettled (request : Request) : Assn (database uow.arith) Request :=
  Settled (D := database uow.arith) (ExactlyOnce uow start) keyAgree (touches ledgerTables) request

abbrev ledgerWp {α : Type} (p : Sql α) (Q : α → Assn (database uow.arith) Request) :
    Assn (database uow.arith) Request :=
  wp (D := database uow.arith) (ExactlyOnce uow start) keyAgree p Q

/-- No row is stored under the keys of these writes. -/
def Fresh (ws : List Write) (db : Db) : Prop :=
  ∀ w ∈ ws, match w with
    | .processedEvents id _ => db.processedEvents.get? id = none
    | .fraudEvaluations id _ => db.fraudEvaluations.get? id = none
    | .fraudAlerts id _ => db.fraudAlerts.get? id = none
    | .fraudOutbox id _ => db.fraudOutbox.get? id = none
    | _ => True

/-- A transaction whose rows all have new keys, and holds their locks. -/
abbrev Adding (ws : List Write) : Assn (database uow.arith) Request :=
  KnowsLedger uow start ws (ws.map Write.lock) (Fresh ws)

end

theorem fresh_singleton {db : Db} {w : Write} (fresh : match w with
    | .processedEvents id _ => db.processedEvents.get? id = none
    | .fraudEvaluations id _ => db.fraudEvaluations.get? id = none
    | .fraudAlerts id _ => db.fraudAlerts.get? id = none
    | .fraudOutbox id _ => db.fraudOutbox.get? id = none
    | _ => True) : Fresh [w] db := by
  intro w' mem
  obtain rfl := List.mem_singleton.mp mem
  exact fresh

theorem fresh_guarded (ws : List Write) :
    Guards (D := database uow.arith) keyAgree (ws.map Write.lock) (Fresh ws) := by
  intro db db' same fresh w mem
  have agree : keyAgree w.lock db db' := same _ (List.mem_map_of_mem mem)
  have absent := fresh w mem
  cases w <;> first
    | trivial
    | exact agree.trans absent

section

variable {request : Request} {c : (database uow.arith).Committed Request} {ws rel : List Write}
  {ls : List Lock}

/-- One more new row. -/
theorem Adding.push (h : Adding uow start rel c ws ls) {w : Write} {locks : List Lock}
    (relevant : touches ledgerTables w = true) (locked : w.lock ∈ locks)
    (fresh : Fresh [w] c.db) : Adding uow start (rel ++ [w]) c (ws ++ [w]) (ls ++ locks) where
  inv := h.inv
  rel := by
    rw [List.filter_append, h.rel]
    simp [relevant]
  need := by
    intro l mem
    rw [List.map_append, List.mem_append] at mem
    rcases mem with old | new
    · exact List.mem_append_left _ (h.need l old)
    · exact List.mem_append_right _ (List.mem_singleton.mp new ▸ locked)
  known := by
    intro x mem
    rcases List.mem_append.mp mem with old | new
    · exact h.known x old
    · exact fresh x new

/-- A transaction that adds the ledger row of its event and keeps `FraudComplete` may
commit. -/
theorem Adding.settled (h : Adding uow start rel c ws ls) {row : ProcessedEvent}
    {others : List Write} (first : rel = .processedEvents request.eventId row :: others)
    (elsewhere : ∀ w ∈ others, w.table ≠ .processedEvents)
    (complete : ∀ db db', FraudComplete uow.fraudConfig.outboxEnabled db → Fresh rel db →
      SameLedger db' ((database uow.arith).view db rel) →
      FraudComplete uow.fraudConfig.outboxEnabled db') :
    LedgerSettled uow start request c ws ls := by
  refine ⟨rel, rel.map Write.lock, Fresh rel, fresh_guarded rel, h, ?_⟩
  intro c' ws' inv fresh only _
  have same : SameLedger ((database uow.arith).view c'.db ws') _ := sameLedger_view only
  have absent : c'.db.processedEvents.get? request.eventId = none :=
    fresh (.processedEvents request.eventId row) (by simp [first])
  have mem : Write.processedEvents request.eventId row ∈ ws' := by
    have : Write.processedEvents request.eventId row ∈ rel := by simp [first]
    exact List.mem_of_mem_filter (only ▸ this)
  refine ⟨inv.commit absent mem ?_ (complete _ _ inv.complete fresh same), ?_⟩
  · rw [same.processedEvents, first]
    exact view_processedEvents _ elsewhere
  · intro l free
    refine keyAgree_congr same (keyAgree_view _ fun w mem taken => free ?_)
    exact taken ▸ List.mem_map_of_mem mem

/-- An `INSERT` whose key passed its constraint. -/
theorem Adding.insert {α : Type} {s : Stmt} {w : Write} {f : s.Result → Sql α}
    {Q : α → Assn (database uow.arith) Request} (h : Adding uow start rel c ws ls)
    (relevant : touches ledgerTables w = true) (wrote : ∀ seen, s.writes uow.arith seen = [w])
    (added : ∀ db seen, SameLedger seen ((database uow.arith).view db rel) →
      (∀ x ∈ s.constraints uow.arith seen, x.1 = true) → Fresh [w] db ∧ w.lock ∈ s.locks seen)
    (next : ∀ r c ws ls, Adding uow start (rel ++ [w]) c ws ls →
      ledgerWp uow start (f r) Q c ws ls) :
    ledgerWp uow start (sql s >>= f) Q c ws ls := by
  refine wp_sql (fresh_guarded rel) h fun c h seen view passed r _ => next r _ _ _ ?_
  obtain ⟨fresh, locked⟩ := added c.db seen (view ▸ sameLedger_view h.rel) passed
  rw [wrote]
  exact Adding.push h relevant locked fresh

theorem insertIdentity_adding {event : EventEnvelope} {message : ConsumedMessage}
    {processorInstanceId : String} {persistRawJson : Bool} (h : Adding uow start [] c ws ls) :
    ledgerWp uow start (insertIdentity uow.rt event message processorInstanceId persistRawJson)
      (fun _ => Adding uow start [.processedEvents event.eventId
        (ledgerRow uow.rt event message processorInstanceId persistRawJson)]) c ws ls := by
  refine wp_sql (fresh_guarded []) h fun c h seen _ _ existing _ => ?_
  split
  · split <;> trivial
  refine wp_sql (fresh_guarded []) (h.skip (by simp [Stmt.writes]) _)
    fun c h seen _ _ source _ => ?_
  split
  · trivial
  refine Adding.insert (h.skip (by simp [Stmt.writes]) _) rfl (fun _ => rfl) ?_
    fun _ _ _ _ h => h
  intro db seen same passed
  have absent : seen.processedEvents.get? event.eventId = none :=
    Stmt.absent_of_passed passed (by simp [Stmt.constraints, Stmt.unique])
  refine ⟨fresh_singleton ?_, by simp [Stmt.locks, Stmt.addKey, absent, Write.lock]⟩
  rw [same.processedEvents] at absent
  exact absent

/-- An external alert takes a new key, or is not stored. -/
theorem insertExternalAlert_adding {payload : FraudAlertCreatedPayload} {e : UUID}
    {event : ProcessedEvent} (h : Adding uow start [.processedEvents e event] c ws ls) :
    ledgerWp uow start (insertExternalAlert uow.rt payload)
      (fun _ c ws ls => Adding uow start [.processedEvents e event] c ws ls ∨
        Adding uow start [.processedEvents e event,
          .fraudAlerts payload.alertId (externalAlertRow uow.rt payload)] c ws ls) c ws ls := by
  have once : insertExternalAlert uow.rt payload =
      sql (.insertExternalAlert payload.alertId (externalAlertRow uow.rt payload)) >>= pure := rfl
  rw [once]
  refine wp_sql (fresh_guarded _) h fun c h seen view passed _ _ => ?_
  generalize externalAlertRow uow.rt payload = row at *
  cases conflict : seen.fraudAlerts.values.any (·.sourceEventId = row.sourceEventId) with
  | true => exact Or.inl (h.skip (by simp [Stmt.writes, conflict]) _)
  | false =>
    have absent : seen.fraudAlerts.get? payload.alertId = none :=
      Stmt.absent_of_passed passed
        (by simp [Stmt.constraints, Stmt.unique, Stmt.ifAdded, conflict])
    have wrote : (Stmt.insertExternalAlert payload.alertId row).writes uow.arith seen =
        [.fraudAlerts payload.alertId row] := by simp [Stmt.writes, conflict]
    have same : seen.fraudAlerts = c.db.fraudAlerts := (view ▸ sameLedger_view h.rel).fraudAlerts
    rw [wrote]
    refine Or.inr (Adding.push h rfl ?_ (fresh_singleton (same ▸ absent)))
    simp [Stmt.locks, conflict, Stmt.addKey, absent, Write.lock]

theorem applyHandler_external {event : EventEnvelope} {payload : FraudAlertCreatedPayload}
    {e : UUID} {row : ProcessedEvent} (alert : event.payload = .fraudAlertCreated payload)
    (h : Adding uow start [.processedEvents e row] c ws ls) :
    ledgerWp uow start (applyHandler uow.rt uow.arith event)
      (fun _ c ws ls => Adding uow start [.processedEvents e row] c ws ls ∨
        Adding uow start [.processedEvents e row,
          .fraudAlerts payload.alertId (externalAlertRow uow.rt payload)] c ws ls) c ws ls := by
  unfold applyHandler
  rw [alert]
  exact wp_then (insertExternalAlert_adding h) fun _ _ _ _ h => h

end

/-- The evaluation, and with it the alert and the outbox row, of an eligible event. -/
theorem persistEvaluation_settled {request : Request}
    {c : (database uow.arith).Committed Request} {ws : List Write} {ls : List Lock}
    {event : ProcessedEvent} {evaluation : FraudEvaluation}
    (eligible : fraudEligible event.eventType = true)
    (source : evaluation.sourceEventId = request.eventId)
    (h : Adding uow start [.processedEvents request.eventId event] c ws ls) :
    ledgerWp uow start (persistEvaluation uow.rt uow.fraudConfig evaluation request.2.event
      request.2.now) (fun _ => LedgerSettled uow start request) c ws ls := by
  refine wp_sql (fresh_guarded _) h fun c h seen view _ existing answered => ?_
  split
  · -- A stored evaluation would belong to a ledger row that is not there.
    rename_i row
    exfalso
    have same : seen.fraudEvaluations = c.db.fraudEvaluations :=
      (view ▸ sameLedger_view h.rel).fraudEvaluations
    have found : seen.evaluationOf evaluation.sourceEventId = some row := answered.symm
    obtain ⟨v, stored⟩ := Dict.mem_values.mp (List.mem_of_find?_eq_some found)
    have named := List.find?_some found
    refine not_eligible_of_absent (h.known (.processedEvents request.eventId event) (by simp))
      (h.inv.complete.sourced v request.eventId ⟨row, same ▸ stored, ?_⟩)
    exact (of_decide_eq_true named).trans source
  refine Adding.insert (h.skip (by simp [Stmt.writes]) _) rfl (fun _ => rfl) ?_
    fun _ c ws ls h => ?_
  · intro db seen same passed
    have absent : seen.fraudEvaluations.get? evaluation.evaluationId = none :=
      Stmt.absent_of_passed passed (by simp [Stmt.constraints, Stmt.unique])
    refine ⟨fresh_singleton ?_, by simp [Stmt.locks, Stmt.addKey, absent, Write.lock]⟩
    rw [same.fraudEvaluations] at absent
    exact absent
  refine wp_ite (fun approved => ?_) fun flagged => ?_
  · refine Adding.settled h rfl (by simp [Write.table]) fun db db' complete fresh seen => ?_
    exact complete.addApproved (fresh (.processedEvents request.eventId event) (by simp))
      seen.processedEvents
      (fresh (.fraudEvaluations evaluation.evaluationId (evaluationRow evaluation)) (by simp))
      seen.fraudEvaluations eligible source approved seen.fraudAlerts seen.fraudOutbox
  set message := buildAlertMessage uow.rt evaluation request.2.event
  refine Adding.insert h rfl (fun _ => rfl) ?_ fun _ c ws ls h => ?_
  · intro db seen same passed
    have absent : seen.fraudAlerts.get? message.alertId = none :=
      Stmt.absent_of_passed passed (by simp [Stmt.constraints, Stmt.unique])
    refine ⟨fresh_singleton ?_, by simp [Stmt.locks, Stmt.addKey, absent, Write.lock]⟩
    rw [same.fraudAlerts] at absent
    exact absent
  refine wp_ite (fun enabled => ?_) fun disabled => ?_
  · refine Adding.insert h rfl (fun _ => rfl) ?_ fun _ c ws ls h => ?_
    · intro db seen same passed
      have absent : seen.fraudOutbox.get? message.outboxId = none :=
        Stmt.absent_of_passed passed (by simp [Stmt.constraints, Stmt.unique])
      refine ⟨fresh_singleton ?_, by simp [Stmt.locks, Stmt.addKey, absent, Write.lock]⟩
      rw [same.fraudOutbox] at absent
      exact absent
    · refine Adding.settled h rfl (by simp [Write.table]) fun db db' complete fresh seen => ?_
      exact complete.addFlagged (fresh (.processedEvents request.eventId event) (by simp))
        seen.processedEvents
        (fresh (.fraudEvaluations evaluation.evaluationId (evaluationRow evaluation)) (by simp))
        seen.fraudEvaluations eligible source flagged
        (fresh (.fraudAlerts message.alertId (alertRow evaluation message)) (by simp))
        seen.fraudAlerts rfl source (Or.inr ⟨message.outboxId, _,
          fresh (.fraudOutbox message.outboxId (outboxRow uow.fraudConfig message request.2.now))
            (by simp), rfl, seen.fraudOutbox⟩)
  · refine Adding.settled h rfl (by simp [Write.table]) fun db db' complete fresh seen => ?_
    exact complete.addFlagged (fresh (.processedEvents request.eventId event) (by simp))
      seen.processedEvents
      (fresh (.fraudEvaluations evaluation.evaluationId (evaluationRow evaluation)) (by simp))
      seen.fraudEvaluations eligible source flagged
      (fresh (.fraudAlerts message.alertId (alertRow evaluation message)) (by simp))
      seen.fraudAlerts rfl source (Or.inl ⟨by simpa using disabled, seen.fraudOutbox⟩)

/-- What the fraud stage evaluates is the event of the call. -/
theorem build_source (arith : Arithmetic) (config : FraudConfig) (event : EventEnvelope) :
    (build arith config event).Leaves fun context => context.sourceEventId = event.eventId := by
  unfold build
  split
  · trivial
  · refine Prog.Leaves.after fun lookback => Prog.Leaves.after fun history => ?_
    unfold compute
    split
    · rename_i built; exact contextOf_source built
    · trivial

theorem fraudStage_settled {request : Request} {c : (database uow.arith).Committed Request}
    {ws : List Write} {ls : List Lock} {event : ProcessedEvent} {rows : Dict Table Nat}
    (eligible : fraudEligible event.eventType = true)
    (h : Adding uow start [.processedEvents request.eventId event] c ws ls) :
    ledgerWp uow start (uow.fraudStage request.2 rows)
      (fun _ => LedgerSettled uow start request) c ws ls := by
  refine wp_then (wp_leaves (build_source _ _ _) (wp_frame
    ((build_writes _ _ _).irrelevant (by simp)) (fresh_guarded _) h)) ?_
  rintro context c ws ls ⟨named, h⟩
  cases evaluated : evaluate uow.rt uow.fraudConfig uow.rules context with
  | error e => trivial
  | ok evaluation =>
    have source : evaluation.sourceEventId = request.eventId :=
      (evaluate_source evaluated).trans named
    rw [compute_ok_bind]
    exact wp_then (persistEvaluation_settled eligible source h) fun _ _ _ _ settled => settled

/-- An event that is not evaluated may commit once its handler is done. -/
theorem Adding.ineligible {request : Request} {c : (database uow.arith).Committed Request}
    {ws : List Write} {ls : List Lock} {event : ProcessedEvent} {others : List Write}
    (ineligible : fraudEligible event.eventType = false)
    (h : Adding uow start (.processedEvents request.eventId event :: others) c ws ls)
    (external : others = [] ∨ ∃ a row, others = [.fraudAlerts a row] ∧ row.evaluationId = none) :
    LedgerSettled uow start request c ws ls := by
  refine Adding.settled h rfl ?_ fun db db' complete fresh seen => ?_
  · rcases external with rfl | ⟨a, row, rfl, -⟩ <;> simp [Write.table]
  have newEvent := fresh (.processedEvents request.eventId event) (by simp)
  rcases external with rfl | ⟨a, row, rfl, unnamed⟩
  · refine complete.addEvent newEvent seen.processedEvents ineligible seen.fraudEvaluations ?_ ?_
      seen.fraudOutbox
    · intro x y
      rw [EngineAlert, EngineAlert, seen.fraudAlerts]
      rfl
    · intro x y
      rw [AlertAbout, AlertAbout, seen.fraudAlerts]
      rfl
  · have newAlert := fresh (.fraudAlerts a row) (by simp)
    refine complete.addEvent newEvent seen.processedEvents ineligible seen.fraudEvaluations ?_ ?_
      seen.fraudOutbox
    · intro x y
      rw [engineAlert_set newAlert seen.fraudAlerts, unnamed]
      simp
    · intro x y
      rw [alertAbout_set newAlert seen.fraudAlerts, unnamed]
      simp

/-- Every transaction keeps the invariant. -/
theorem transaction_exactlyOnce (enabled : uow.fraudConfig.engineEnabled = true)
    (request : Request) (c : (database uow.arith).Committed Request)
    (inv : ExactlyOnce uow start c) :
    ledgerWp uow start (uow.transaction request.2) (fun _ => CommitSafe
      (D := database uow.arith) (ExactlyOnce uow start) keyAgree request) c [] [] := by
  have weaken : ∀ (_ : PersistenceResult) c ws ls, LedgerSettled uow start request c ws ls →
      CommitSafe (D := database uow.arith) (ExactlyOnce uow start) keyAgree request c ws ls :=
    fun _ _ _ _ settled => settled.commitSafe
  refine wp_mono ?_ weaken
  have begin_ : Adding uow start [] c [] [] := ⟨inv, rfl, by simp, by simp [Fresh]⟩
  refine wp_then (insertIdentity_adding begin_) fun _ c ws ls h => ?_
  set row := ledgerRow uow.rt request.2.event request.2.message request.2.processorInstanceId
    uow.persistRawJson
  have kind : row.eventType = request.2.event.eventType := rfl
  cases payload : request.2.event.payload with
  | fraudAlertCreated payload =>
    have ineligible : fraudEligible request.2.event.eventType = false := by
      rw [EventEnvelope.eventType, payload]
      rfl
    refine wp_then (applyHandler_external payload h) fun counts c ws ls h => ?_
    refine wp_ite (fun stage => absurd stage.2 (by simp [ineligible])) fun _ => ?_
    rcases h with h | h
    · exact Adding.ineligible (kind ▸ ineligible) h (Or.inl rfl)
    · exact Adding.ineligible (kind ▸ ineligible) h (Or.inr ⟨_, _, rfl, rfl⟩)
  | _ =>
    have writes := applyHandler_writes uow.rt uow.arith request.2.event
    rw [EventEnvelope.eventType, payload] at writes
    refine wp_then (wp_frame (writes.irrelevant (by simp [handlerTables, Payload.eventType,
      ledgerTables])) (fresh_guarded _) h) fun counts c ws ls h => ?_
    refine wp_ite (fun stage => fraudStage_settled stage.2 h) fun stage => ?_
    exact Adding.ineligible (kind ▸ by simpa [enabled] using stage) h (Or.inl rfl)

end CommercePlatform.Persistence
