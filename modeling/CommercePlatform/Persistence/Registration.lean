import CommercePlatform.Fraud.Accepted

/-!
Customers and sessions that are registered again.

A customer row carries the identity of the first payload that was persisted for it, and so
does a session row: both are written once and only `last_event_id` changes. The
repositories compare a later payload with the row they read back. For a customer that is
the payload's own form; for a session the `inet` column reads back with its netmask.
-/

namespace CommercePlatform.Persistence

open Contract Fraud Schema

/-! ### Identities -/

/-- The columns of a customer that a registration fixes. -/
def Customer.identity (row : Customer) : String × CustomerPersona × String × Instant :=
  (row.emailHash, row.persona, row.homeCountry, row.registeredAt)

def registeredIdentity (payload : UserRegisteredPayload) :
    String × CustomerPersona × String × Instant :=
  (payload.emailHash, payload.persona, payload.countryCode, payload.registeredAt)

/-- The columns of a session that its start fixes. -/
def Session.identity (row : Session) : UUID × String × IpAddress × String × Instant :=
  (row.customerId, row.deviceId, row.ipAddress, row.country, row.startedAt)

def startedIdentity (payload : SessionStartedPayload) :
    UUID × String × IpAddress × String × Instant :=
  (payload.customerId, payload.deviceId.str, payload.ipAddress, payload.countryCode,
    payload.startedAt)

/-! ### The first payload -/

/-- The registration of the customer, if the payload is one. -/
def registers (id : UUID) : Payload → Option UserRegisteredPayload
  | .userRegistered payload => if payload.customerId = id then some payload else none
  | _ => none

def starts (id : UUID) : Payload → Option SessionStartedPayload
  | .sessionStarted payload => if payload.sessionId = id then some payload else none
  | _ => none

/-- The first payload persisted that `select` picks; the history is last first. -/
def firstPersisted {β : Type} (select : Payload → Option β)
    (history : List (PersistCall × List Write)) : Option β :=
  history.reverse.findSome? fun entry => select entry.1.event.payload

theorem firstPersisted_cons {β : Type} (select : Payload → Option β)
    (entry : PersistCall × List Write) (history : List (PersistCall × List Write)) :
    firstPersisted select (entry :: history) =
      (firstPersisted select history).or (select entry.1.event.payload) := by
  simp only [firstPersisted, List.reverse_cons, List.findSome?_append, List.findSome?_singleton]

/-- The rows have the identities of the first payloads, in both directions. -/
structure Registered (db : Db) (history : List (PersistCall × List Write)) : Prop where
  customers : ∀ id, (db.customers.get? id).map Customer.identity =
    (firstPersisted (registers id) history).map registeredIdentity
  sessions : ∀ id, (db.sessions.get? id).map Session.identity =
    (firstPersisted (starts id) history).map startedIdentity

theorem registered_empty : Registered {} [] :=
  ⟨fun _ => rfl, fun _ => rfl⟩

/-- What a committed call may do to the two tables: add the rows of its payload where there
are none. -/
theorem Registered.commit {db db' : Db} {history : List (PersistCall × List Write)}
    (h : Registered db history) {call : PersistCall} {ws : List Write}
    (customers : ∀ id, (db'.customers.get? id).map Customer.identity =
      ((db.customers.get? id).map Customer.identity).or
        ((registers id call.event.payload).map registeredIdentity))
    (sessions : ∀ id, (db'.sessions.get? id).map Session.identity =
      ((db.sessions.get? id).map Session.identity).or
        ((starts id call.event.payload).map startedIdentity)) :
    Registered db' ((call, ws) :: history) where
  customers id := by
    rw [customers, h.customers, firstPersisted_cons, Option.map_or]
  sessions id := by
    rw [sessions, h.sessions, firstPersisted_cons, Option.map_or]

/-! ### What the locks guard -/

def identityTables (t : Table) : Bool := t = .customers ∨ t = .sessions

/-- No customer is ever deleted. -/
def CustomersStay (db db' : Db) : Prop :=
  ∀ id, (db.customers.get? id).isSome → (db'.customers.get? id).isSome

/-- A locked row is kept, and every lock stands for customers that stay. -/
def identityAgree (l : Lock) (db db' : Db) : Prop :=
  CustomersStay db db' ∧
    (∀ id, l = .row .customers id → db'.customers.get? id = db.customers.get? id) ∧
    ∀ id, l = .row .sessions id → db'.sessions.get? id = db.sessions.get? id

theorem identityAgree_guard (arith : Arithmetic) : IsGuard (D := database arith) identityAgree where
  refl l db := ⟨fun _ present => present, fun _ _ => rfl, fun _ _ => rfl⟩
  trans l db db' db'' first next := by
    refine ⟨fun id present => next.1 id (first.1 id present), ?_, ?_⟩
    · intro id same
      exact (next.2.1 id same).trans (first.2.1 id same)
    · intro id same
      exact (next.2.2 id same).trans (first.2.2 id same)

/-! ### The bodies -/

section

variable {arith : Arithmetic}

def RegisteredIn (arith : Arithmetic) (c : (database arith).Committed PersistCall) : Prop :=
  Registered c.db c.history

abbrev KnowsIdentity (arith : Arithmetic) (rel : List Write) (need : List Lock) (P : Db → Prop) :
    Assn (database arith) PersistCall :=
  Holds (D := database arith) (RegisteredIn arith) (touches identityTables) rel need P

abbrev IdentitySettled (arith : Arithmetic) (call : PersistCall) :
    Assn (database arith) PersistCall :=
  Settled (D := database arith) (RegisteredIn arith) identityAgree (touches identityTables) call

abbrev identityWp {α : Type} (p : Sql α) (Q : α → Assn (database arith) PersistCall) :
    Assn (database arith) PersistCall :=
  wp (D := database arith) (RegisteredIn arith) identityAgree p Q

theorem identity_seen (db : Db) {ws rel : List Write}
    (only : ws.filter (touches identityTables) = rel) :
    ((database arith).view db ws).customers = ((database arith).view db rel).customers ∧
      ((database arith).view db ws).sessions = ((database arith).view db rel).sessions := by
  have same := only ▸ @restrict_view_filter arith identityTables db ws
  constructor
  · simpa [Db.restrict, identityTables] using congrArg Db.customers same
  · simpa [Db.restrict, identityTables] using congrArg Db.sessions same

variable {call : PersistCall} {c : (database arith).Committed PersistCall} {ws : List Write}
  {ls : List Lock}

theorem identitySettled_of (rel : List Write) {need : List Lock} {P : Db → Prop}
    (guards : Guards (D := database arith) identityAgree need P)
    (h : KnowsIdentity arith rel need P c ws ls)
    (keep : ∀ db db', P db →
      db'.customers = ((database arith).view db rel).customers →
      db'.sessions = ((database arith).view db rel).sessions →
      (∀ id, (db'.customers.get? id).map Customer.identity =
        ((db.customers.get? id).map Customer.identity).or
          ((registers id call.event.payload).map registeredIdentity)) ∧
      (∀ id, (db'.sessions.get? id).map Session.identity =
        ((db.sessions.get? id).map Session.identity).or
          ((starts id call.event.payload).map startedIdentity)) ∧
      ∀ l, l ∉ need → identityAgree l db db') :
    IdentitySettled arith call c ws ls := by
  refine ⟨rel, need, P, guards, h, fun c' ws' inv known only _ => ?_⟩
  obtain ⟨customers, sessions⟩ := @identity_seen arith c'.db _ _ only
  obtain ⟨customers', sessions', agree⟩ :=
    keep c'.db ((database arith).view c'.db ws') known customers sessions
  exact ⟨inv.commit customers' sessions', agree⟩

theorem no_identity : Guards (D := database arith) identityAgree [] fun _ => True :=
  fun _ _ _ _ => trivial

/-- A call that registers nothing and writes neither table. -/
theorem identitySettled_nil {need : List Lock}
    (registersNone : ∀ id, registers id call.event.payload = none)
    (startsNone : ∀ id, starts id call.event.payload = none)
    (h : KnowsIdentity arith [] need (fun _ => True) c ws ls) :
    IdentitySettled arith call c ws ls := by
  refine identitySettled_of [] (fun _ _ _ _ => trivial) h fun db db' _ customers sessions => ?_
  have customers : db'.customers = db.customers := customers
  have sessions : db'.sessions = db.sessions := sessions
  refine ⟨fun id => ?_, fun id => ?_, fun l _ => ⟨fun id present => ?_, fun id _ => ?_, fun id _ => ?_⟩⟩
  · rw [customers, registersNone]
    simp
  · rw [sessions, startsNone]
    simp
  · rw [customers]
    exact present
  · rw [customers]
  · rw [sessions]

/-- The ledger row of the event is locked from here on. -/
theorem insertIdentity_identity {rt : Runtime} {event : EventEnvelope} {message : ConsumedMessage}
    {processorInstanceId : String} {persistRawJson : Bool}
    (h : KnowsIdentity arith [] [] (fun _ => True) c ws ls) :
    identityWp (insertIdentity rt event message processorInstanceId persistRawJson)
      (fun _ => KnowsIdentity arith [] [.row .processedEvents event.eventId] fun _ => True)
      c ws ls := by
  refine wp_sql no_identity h fun c h seen _ _ existing _ => ?_
  split
  · split <;> trivial
  refine wp_sql no_identity (h.skip (by simp [Stmt.writes]) _) fun c h seen _ _ source _ => ?_
  split
  · trivial
  refine wp_sql no_identity (h.skip (by simp [Stmt.writes]) _) fun c h seen _ passed _ _ => ?_
  have absent : seen.processedEvents.get? event.eventId = none :=
    Stmt.absent_of_passed passed (by simp [Stmt.constraints, Stmt.unique])
  have h := h.skip (W := (Stmt.insertEvent event.eventId
      (ledgerRow rt event message processorInstanceId persistRawJson)).writes arith seen)
    (by simp [Stmt.writes, touches, identityTables, Write.table])
    ((Stmt.insertEvent event.eventId
      (ledgerRow rt event message processorInstanceId persistRawJson)).locks seen)
  refine ⟨h.inv, h.rel, fun l mem => List.mem_append_right _ ?_, trivial⟩
  simpa [Stmt.locks, Stmt.addKey, absent] using Or.inl (List.mem_singleton.mp mem)

theorem customer_guarded (id : UUID) (row : Option Customer) :
    Guards (D := database arith) identityAgree [.row .customers id]
      fun db => db.customers.get? id = row := by
  intro db db' same known
  have agree : identityAgree (.row .customers id) db db' := same _ (by simp)
  exact (agree.2.1 id rfl).trans known

theorem session_guarded (id : UUID) (row : Option Session) :
    Guards (D := database arith) identityAgree [.row .sessions id]
      fun db => db.sessions.get? id = row := by
  intro db db' same known
  have agree : identityAgree (.row .sessions id) db db' := same _ (by simp)
  exact (agree.2.2 id rfl).trans known

/-- Another row of `customers` is written: the first of its key, or one of the same identity. -/
theorem identitySettled_customer {payload : UserRegisteredPayload} (old : Option Customer)
    (row : Customer) (is : call.event.payload = .userRegistered payload)
    (identity : some row.identity =
      (old.map Customer.identity).or (some (registeredIdentity payload)))
    (h : KnowsIdentity arith [.customers payload.customerId row]
      [.row .customers payload.customerId]
      (fun db => db.customers.get? payload.customerId = old) c ws ls) :
    IdentitySettled arith call c ws ls := by
  refine identitySettled_of _ (customer_guarded _ old) h fun db db' known customers sessions => ?_
  have customers : db'.customers = db.customers.set payload.customerId row := customers
  have sessions : db'.sessions = db.sessions := sessions
  refine ⟨fun id => ?_, fun id => ?_, fun l free => ⟨fun id present => ?_, fun id same => ?_,
    fun id _ => ?_⟩⟩
  · rw [customers, is, registers, Dict.get?_set]
    by_cases same : id = payload.customerId
    · subst same
      simpa [known] using identity
    · simp [same, Ne.symm same]
  · rw [sessions, is]
    simp [starts]
  · rw [customers, Dict.get?_set]
    split
    · rfl
    · exact present
  · rw [customers, Dict.get?_set_ne]
    rintro rfl
    exact free (by simp [same])
  · rw [sessions]

theorem identitySettled_session {payload : SessionStartedPayload} (row : Session)
    (is : call.event.payload = .sessionStarted payload)
    (identity : row.identity = startedIdentity payload)
    (h : KnowsIdentity arith [.sessions payload.sessionId row] [.row .sessions payload.sessionId]
      (fun db => db.sessions.get? payload.sessionId = none) c ws ls) :
    IdentitySettled arith call c ws ls := by
  refine identitySettled_of _ (session_guarded _ none) h fun db db' known customers sessions => ?_
  have customers : db'.customers = db.customers := customers
  have sessions : db'.sessions = db.sessions.set payload.sessionId row := sessions
  refine ⟨fun id => ?_, fun id => ?_, fun l free => ⟨fun id present => ?_, fun id _ => ?_,
    fun id same => ?_⟩⟩
  · rw [customers, is]
    simp [registers]
  · rw [sessions, is, starts, Dict.get?_set]
    by_cases same : id = payload.sessionId
    · subst same
      simp [known, identity]
    · simp [same, Ne.symm same]
  · rw [customers]
    exact present
  · rw [customers]
  · rw [sessions, Dict.get?_set_ne]
    rintro rfl
    exact free (by simp [same])

/-- A registration adds the row of its payload, or touches the row that is there. -/
theorem registerCustomer_identity {payload : UserRegisteredPayload} {eventId e : UUID}
    (is : call.event.payload = .userRegistered payload)
    (h : KnowsIdentity arith [] [.row .processedEvents e] (fun _ => True) c ws ls) :
    identityWp (registerCustomer payload eventId) (fun _ => IdentitySettled arith call) c ws ls := by
  have nothing : Guards (D := database arith) identityAgree [.row .processedEvents e]
      fun _ => True := fun _ _ _ _ => trivial
  refine wp_sql nothing h fun c h seen view _ existing answer => ?_
  have seenRow : seen.customers.get? payload.customerId = c.db.customers.get? payload.customerId := by
    rw [view, (identity_seen c.db h.rel).1]
    rfl
  split
  · rename_i found
    refine wp_ite (fun _ => trivial) fun same => ?_
    have present : (c.db.customers.get? payload.customerId).isSome := by
      rw [← seenRow]
      cases row : seen.customers.get? payload.customerId with
      | none => simp [Stmt.answer, row] at answer
      | some row => rfl
    have stays : Guards (D := database arith) identityAgree [.row .processedEvents e]
        fun db => (db.customers.get? payload.customerId).isSome := by
      intro db db' same present
      have agree : identityAgree (.row .processedEvents e) db db' := same _ (by simp)
      exact agree.1 _ present
    have known : KnowsIdentity arith [] [.row .processedEvents e]
        (fun db => (db.customers.get? payload.customerId).isSome) c ws ls :=
      h.mono fun _ _ => present
    refine wp_sql stays (holds_statement (by simp [Stmt.target]) known seen)
      fun c h seen view _ _ _ => ?_
    obtain ⟨row, there⟩ := Option.isSome_iff_exists.mp h.known
    have seenRow : seen.customers.get? payload.customerId = some row := by
      rw [view, (identity_seen c.db h.rel).1]
      exact there
    refine identitySettled_customer (some row) { row with lastEventId := eventId } is rfl
      ⟨h.inv, ?_, fun l mem => List.mem_append_right _ ?_, there⟩
    · rw [List.filter_append, h.rel]
      simp [Stmt.writes, seenRow, touches, identityTables, Write.table]
    · simpa [Stmt.locks, Stmt.lockRow, seenRow] using mem
  · refine wp_sql nothing (holds_statement (by simp [Stmt.target]) h seen)
      fun c h seen view passed _ _ => ?_
    have absent : seen.customers.get? payload.customerId = none :=
      Stmt.absent_of_passed passed (by simp [Stmt.constraints, Stmt.unique])
    have there : c.db.customers.get? payload.customerId = none := by
      rw [view, (identity_seen c.db h.rel).1] at absent
      exact absent
    refine identitySettled_customer none
      { emailHash := payload.emailHash
        persona := payload.persona
        homeCountry := payload.countryCode
        registeredAt := payload.registeredAt
        firstEventId := eventId
        lastEventId := eventId } is rfl
      ⟨h.inv, ?_, fun l mem => List.mem_append_right _ ?_, there⟩
    · rw [List.filter_append, h.rel]
      rfl
    · simpa [Stmt.locks, Stmt.addKey, absent] using mem

/-- A session is added, or refused: the column never reads back as the payload's address. -/
theorem insertSession_identity {payload : SessionStartedPayload} {eventId : UUID} {need : List Lock}
    (is : call.event.payload = .sessionStarted payload)
    (h : KnowsIdentity arith [] need (fun _ => True) c ws ls) :
    identityWp (insertSession payload eventId) (fun _ => IdentitySettled arith call) c ws ls := by
  have nothing : Guards (D := database arith) identityAgree need fun _ => True :=
    fun _ _ _ _ => trivial
  refine wp_then (wp_frame ((requireCustomer_writes _).irrelevant (by simp)) nothing h)
    fun _ c ws ls h => ?_
  refine wp_sql nothing h fun c h seen view _ existing answer => ?_
  split
  · rename_i found
    refine wp_ite (fun _ => trivial) fun same => ?_
    exfalso
    cases present : seen.sessions.get? payload.sessionId with
    | none => simp [Stmt.answer, present] at answer
    | some row =>
      simp only [Stmt.answer, present, Option.map_some] at answer
      have address : row.ipAddress.inetText = payload.ipAddress.text := by
        have tuple := (Option.some.inj answer).symm.trans (not_not.mp same)
        exact (Prod.mk.inj (Prod.mk.inj (Prod.mk.inj tuple).2).2).1
      exact IpAddress.inetText_ne _ _ address
  · refine wp_sql nothing (holds_statement (by simp [Stmt.target]) h seen)
      fun c h seen view passed _ _ => ?_
    have absent : seen.sessions.get? payload.sessionId = none :=
      Stmt.absent_of_passed passed (by simp [Stmt.constraints, Stmt.unique])
    have there : c.db.sessions.get? payload.sessionId = none := by
      rw [view, (identity_seen c.db h.rel).2] at absent
      exact absent
    refine identitySettled_session
      { customerId := payload.customerId
        deviceId := payload.deviceId.str
        deviceType := payload.deviceType
        ipAddress := payload.ipAddress
        country := payload.countryCode
        channel := payload.channel
        startedAt := payload.startedAt
        firstEventId := eventId } is rfl
      ⟨h.inv, ?_, fun l mem => List.mem_append_right _ ?_, there⟩
    · rw [List.filter_append, h.rel]
      rfl
    · simpa [Stmt.locks, Stmt.addKey, absent] using mem

theorem applyHandler_identity (rt : Runtime) {e : UUID}
    (h : KnowsIdentity arith [] [.row .processedEvents e] (fun _ => True) c ws ls) :
    identityWp (applyHandler rt arith call.event) (fun _ => IdentitySettled arith call) c ws ls := by
  have frame {p : Sql RowCounts} {ts : List Table} (writes : Writes ts p)
      (elsewhere : ∀ t ∈ ts, identityTables t = false)
      (registersNone : ∀ id, registers id call.event.payload = none)
      (startsNone : ∀ id, starts id call.event.payload = none) :
      identityWp p (fun _ => IdentitySettled arith call) c ws ls :=
    wp_settled (writes.irrelevant elsewhere) (identitySettled_nil registersNone startsNone h)
  have writes := applyHandler_writes rt arith call.event
  unfold applyHandler at writes ⊢
  unfold EventEnvelope.eventType at writes
  cases payload : call.event.payload with
  | userRegistered p =>
    exact wp_then (registerCustomer_identity payload h) fun _ _ _ _ settled => settled
  | sessionStarted p =>
    exact wp_then (insertSession_identity payload h) fun _ _ _ _ settled => settled
  | _ =>
    rw [payload] at writes frame
    exact frame writes (by simp [handlerTables, Payload.eventType, identityTables])
      (fun _ => rfl) fun _ => rfl

end

theorem transaction_identity (uow : UnitOfWork) (call : PersistCall) :
    Keeps (D := database uow.arith) (RegisteredIn uow.arith) identityAgree uow.transaction call := by
  intro c inv
  have weaken : ∀ (_ : PersistenceResult) c ws ls, IdentitySettled uow.arith call c ws ls →
      CommitSafe (D := database uow.arith) (RegisteredIn uow.arith) identityAgree call c ws ls :=
    fun _ _ _ _ settled => settled.commitSafe
  refine wp_mono ?_ weaken
  unfold UnitOfWork.transaction
  have begins : KnowsIdentity uow.arith [] [] (fun _ => True) c [] [] := ⟨inv, rfl, by simp, trivial⟩
  refine wp_then (insertIdentity_identity begins) fun _ c ws ls h => ?_
  refine wp_then (applyHandler_identity _ h) fun counts c ws ls settled => ?_
  refine wp_ite (fun _ => ?_) fun _ => settled
  exact wp_settled ((fraudStage_writes uow call _).irrelevant (by decide)) settled

/-- In every committed state the rows have the identities of the first payloads. -/
theorem run_registered {ι : Type} [DecidableEq ι] {uow : UnitOfWork}
    {acts : List (ι × Act PersistCall)} {st : uow.Sessions ι}
    (ran : (uow.sessions ι).run (uow.startFrom {}) acts = some st) :
    Registered st.committed.db st.committed.history := by
  have init : RegisteredIn uow.arith (uow.startFrom (ι := ι) {}).committed := registered_empty
  exact run_inv (identityAgree_guard _) (fun _ call _ => transaction_identity uow call) init ran

/-! ### A payload that comes again -/

/-- A payload that registers a customer or starts a session. -/
inductive Registration where
  | customer (payload : UserRegisteredPayload)
  | session (payload : SessionStartedPayload)

namespace Registration

/-- The repository method. -/
def insert (eventId : UUID) : Registration → Sql Nat
  | customer payload => registerCustomer payload eventId
  | session payload => insertSession payload eventId

/-- Its customer or session is persisted. -/
def Persisted (db : Db) : Registration → Prop
  | customer payload => (db.customers.get? payload.customerId).isSome
  | session payload => (db.sessions.get? payload.sessionId).isSome

/-- It has the identity of the payload that was persisted first. -/
def SameIdentity (history : List (PersistCall × List Write)) : Registration → Prop
  | customer payload =>
    (firstPersisted (registers payload.customerId) history).map registeredIdentity =
      some (registeredIdentity payload)
  | session payload =>
    (firstPersisted (starts payload.sessionId) history).map startedIdentity =
      some (startedIdentity payload)

end Registration

section

variable (arith : Arithmetic)

/-- The repository accepts the payload and every identity column is as it was. -/
def Reaccepts (db : Db) (body : Sql Nat) : Prop :=
  ∃ count ws, alone (D := database arith) body db [] = .ok (count, ws) ∧
    (∀ id, (((database arith).view db ws).customers.get? id).map Customer.identity =
      (db.customers.get? id).map Customer.identity) ∧
    ∀ id, (((database arith).view db ws).sessions.get? id).map Session.identity =
      (db.sessions.get? id).map Session.identity

/-- The repository raises `PermanentDatabaseIntegrityError`, which rolls back. -/
def Conflicts (db : Db) (body : Sql Nat) : Prop :=
  ∃ message, alone (D := database arith) body db [] =
    .error (.inr (.raised .permanentDatabaseIntegrityError message))

/-- The payload is accepted if and only if its identity is the persisted one, and raises a
conflict otherwise. -/
def ConflictsExactly (c : (database arith).Committed PersistCall) (eventId : UUID)
    (registration : Registration) : Prop :=
  (Reaccepts arith c.db (registration.insert eventId) ↔ registration.SameIdentity c.history) ∧
    (¬ registration.SameIdentity c.history → Conflicts arith c.db (registration.insert eventId))

variable {arith} {db : Db}

/-- A customer that is there is compared and touched, or the comparison raises. -/
theorem registerCustomer_again {payload : UserRegisteredPayload} {eventId : UUID} {row : Customer}
    (present : db.customers.get? payload.customerId = some row) :
    alone (D := database arith) (registerCustomer payload eventId) db [] =
      if row.identity = registeredIdentity payload then
        .ok (0, [.customers payload.customerId { row with lastEventId := eventId }])
      else .error (.inr (.raised .permanentDatabaseIntegrityError
        "customer immutable identity conflict")) := by
  have read : (Stmt.selectCustomer payload.customerId).answer ((database arith).view db []) =
      some row.identity := congrArg (Option.map _) present
  unfold registerCustomer
  rw [alone_query rfl, read]
  dsimp only
  change alone (D := database arith) (if row.identity ≠ registeredIdentity payload then _ else _)
    db [] = _
  by_cases same : row.identity = registeredIdentity payload
  · rw [if_pos same, if_neg (not_not.mpr same)]
    have wrote : (Stmt.updateCustomer payload.customerId eventId).writes arith
        ((database arith).view db []) =
        [.customers payload.customerId { row with lastEventId := eventId }] :=
      congrArg (fun found => (Option.map _ found).toList) present
    refine alone_sql.mpr ⟨?_, ?_⟩
    · intro x mem
      cases mem
    · rw [wrote]
      rfl
  · rw [if_neg same, if_pos same]
    rfl

/-- A session that is there is never found equal: its address reads back with a netmask. -/
theorem insertSession_again {payload : SessionStartedPayload} {eventId : UUID} {row : Session}
    (present : db.sessions.get? payload.sessionId = some row) :
    alone (D := database arith) (insertSession payload eventId) db [] =
      if (db.customers.get? payload.customerId).isSome then
        .error (.inr (.raised .permanentDatabaseIntegrityError "session identity conflict"))
      else .error (.inr (.raised .missingBusinessDependencyError "customer is not persisted")) := by
  have read : (Stmt.selectSession payload.sessionId).answer ((database arith).view db []) =
      some (row.customerId, row.deviceId, row.ipAddress.inetText, row.country, row.startedAt) :=
    congrArg (Option.map _) present
  have found : (database arith).exec (.existsCustomer payload.customerId)
      ((database arith).view db []) = .ok ((db.customers.get? payload.customerId).isSome, []) := rfl
  have differs : (row.customerId, row.deviceId, row.ipAddress.inetText, row.country,
      row.startedAt) ≠ (payload.customerId, payload.deviceId.str, payload.ipAddress.text,
        payload.countryCode, payload.startedAt) := by
    intro same
    exact IpAddress.inetText_ne _ _ (Prod.mk.inj (Prod.mk.inj (Prod.mk.inj same).2).2).1
  refine (alone_exec found).trans ?_
  cases (db.customers.get? payload.customerId).isSome with
  | false => rfl
  | true =>
    have rest (f : _ → Sql Nat) : alone (D := database arith)
        (sql (.selectSession payload.sessionId) >>= f) db ([] ++ []) =
        alone (D := database arith) (f (some (row.customerId, row.deviceId,
          row.ipAddress.inetText, row.country, row.startedAt))) db [] := by
      rw [List.append_nil, alone_query rfl, read]
    refine (rest _).trans ?_
    dsimp only
    rw [if_pos differs, if_pos rfl]
    rfl

/-! ### When conflicts are exact -/

/-- A customer always; a session where the identity is another one and the customer that
the payload names is persisted. -/
def Registration.Compared (db : Db) (history : List (PersistCall × List Write)) :
    Registration → Prop
  | .customer _ => True
  | .session payload => ¬ (Registration.session payload).SameIdentity history ∧
      (db.customers.get? payload.customerId).isSome

theorem customer_exactly {c : (database arith).Committed PersistCall}
    (h : Registered c.db c.history) {payload : UserRegisteredPayload} {row : Customer}
    (present : c.db.customers.get? payload.customerId = some row) (eventId : UUID) :
    ConflictsExactly arith c eventId (.customer payload) := by
  have first := h.customers payload.customerId
  rw [present, Option.map_some] at first
  have same : (Registration.customer payload).SameIdentity c.history ↔
      row.identity = registeredIdentity payload := by
    rw [Registration.SameIdentity, ← first, Option.some.injEq]
  have ran := @registerCustomer_again arith c.db payload eventId row present
  unfold ConflictsExactly
  rw [same]
  by_cases agree : row.identity = registeredIdentity payload
  · rw [if_pos agree] at ran
    refine ⟨⟨fun _ => agree, fun _ => ⟨_, _, ran, fun id => ?_, fun id => rfl⟩⟩,
      fun other => absurd agree other⟩
    -- Only `last_event_id` is written.
    have written : ((database arith).view c.db [.customers payload.customerId
        { row with lastEventId := eventId }]).customers =
        c.db.customers.set payload.customerId { row with lastEventId := eventId } := rfl
    rw [written, Dict.get?_set]
    split
    · rename_i here
      rw [here, present]
      rfl
    · rfl
  · rw [if_neg agree] at ran
    refine ⟨⟨?_, fun same => absurd same agree⟩, fun _ => ⟨_, ran⟩⟩
    rintro ⟨count, ws, accepted, -⟩
    cases ran.symm.trans accepted

theorem session_exactly_iff {c : (database arith).Committed PersistCall}
    {payload : SessionStartedPayload} {row : Session}
    (present : c.db.sessions.get? payload.sessionId = some row) (eventId : UUID) :
    ConflictsExactly arith c eventId (.session payload) ↔
      ¬ (Registration.session payload).SameIdentity c.history ∧
        (c.db.customers.get? payload.customerId).isSome := by
  have ran := @insertSession_again arith c.db payload eventId row present
  have refused : ¬ Reaccepts arith c.db ((Registration.session payload).insert eventId) := by
    rintro ⟨count, ws, accepted, -⟩
    have impossible := ran.symm.trans accepted
    split at impossible <;> cases impossible
  constructor
  · rintro ⟨exactly, conflicts⟩
    have other : ¬ (Registration.session payload).SameIdentity c.history :=
      fun same => refused (exactly.mpr same)
    refine ⟨other, ?_⟩
    obtain ⟨message, raised⟩ := conflicts other
    cases known : (c.db.customers.get? payload.customerId).isSome with
    | true => rfl
    | false =>
      rw [known] at ran
      cases ran.symm.trans raised
  · rintro ⟨other, known⟩
    rw [if_pos known] at ran
    exact ⟨⟨fun accepted => absurd accepted refused, fun same => absurd same other⟩,
      fun _ => ⟨_, ran⟩⟩

end

/-- In every state of every run, a payload for a persisted customer or session is told
exactly by its identity if and only if it is of a customer, or of a session with another
identity whose customer is persisted. -/
theorem reregistration_exact {ι : Type} [DecidableEq ι] {uow : UnitOfWork}
    {acts : List (ι × Act PersistCall)} {st : uow.Sessions ι}
    (ran : (uow.sessions ι).run (uow.startFrom {}) acts = some st) (registration : Registration)
    (persisted : registration.Persisted st.committed.db) (eventId : UUID) :
    ConflictsExactly uow.arith st.committed eventId registration ↔
      registration.Compared st.committed.db st.committed.history := by
  cases registration with
  | customer payload =>
    obtain ⟨row, present⟩ := Option.isSome_iff_exists.mp persisted
    exact iff_of_true (customer_exactly (run_registered ran) present eventId) trivial
  | session payload =>
    obtain ⟨row, present⟩ := Option.isSome_iff_exists.mp persisted
    exact session_exactly_iff present eventId

/-- A customer and a session. -/
def startedShop : List (Nat × Act PersistCall) :=
  oneByOne [(Persistence.registration 1, 5), (plainSession 2, 6)]

def startedAgain (country : String) : Registration :=
  .session ⟨.ofNat 3, .ofNat 1, .ofNat 9, .desktop, plainAddress, country, .web, 0⟩

theorem startedShop_runs :
    ∃ st, (plainUow.sessions Nat).run (plainUow.startFrom {}) startedShop = some st ∧
      (∃ row, st.committed.db.sessions.get? (.ofNat 3) = some row) ∧
      (startedAgain "TR").SameIdentity st.committed.history ∧
      (startedAgain "DE").Compared st.committed.db st.committed.history := by
  have shop : ((plainUow.sessions Nat).run (plainUow.startFrom {}) startedShop).map (fun st =>
      ((st.committed.db.sessions.get? (.ofNat 3)).isSome,
        decide ((firstPersisted (starts (.ofNat 3)) st.committed.history).map startedIdentity =
          some (.ofNat 1, (UUID.ofNat 9).str, plainAddress, "TR", 0)),
        (st.committed.db.customers.get? (.ofNat 1)).isSome)) = some (true, true, true) := by
    decide +kernel
  obtain ⟨st, ran, at_end⟩ := Option.map_eq_some_iff.mp shop
  simp only [Prod.mk.injEq] at at_end
  obtain ⟨persisted, first, known⟩ := at_end
  have first := of_decide_eq_true first
  refine ⟨st, ran, Option.isSome_iff_exists.mp persisted, first, ?_, known⟩
  intro same
  have countries := congrArg (Option.map fun i => i.2.2.2.1) (first.symm.trans same)
  exact absurd countries (by decide +kernel)

/-- The same session from another country is refused. -/
theorem reregistration_exact_country :
    ∃ st, (plainUow.sessions Nat).run (plainUow.startFrom {}) startedShop = some st ∧
      ConflictsExactly plainUow.arith st.committed (.ofNat 7) (startedAgain "DE") := by
  obtain ⟨st, ran, ⟨row, present⟩, -, compared⟩ := startedShop_runs
  have persisted : (startedAgain "DE").Persisted st.committed.db :=
    Option.isSome_iff_exists.mpr ⟨row, present⟩
  exact ⟨st, ran, (reregistration_exact ran (startedAgain "DE") persisted (.ofNat 7)).mpr compared⟩

/-- The very same session is refused too. -/
theorem not_reregistration_exact :
    ∃ st, (plainUow.sessions Nat).run (plainUow.startFrom {}) startedShop = some st ∧
      (startedAgain "TR").Persisted st.committed.db ∧
      (startedAgain "TR").SameIdentity st.committed.history ∧
      Conflicts plainUow.arith st.committed.db ((startedAgain "TR").insert (.ofNat 7)) ∧
      ¬ ConflictsExactly plainUow.arith st.committed (.ofNat 7) (startedAgain "TR") := by
  obtain ⟨st, ran, ⟨row, present⟩, same, compared⟩ := startedShop_runs
  have refused : Conflicts plainUow.arith st.committed.db ((startedAgain "TR").insert (.ofNat 7)) := by
    refine ⟨_, (insertSession_again present).trans (if_pos compared.2)⟩
  refine ⟨st, ran, Option.isSome_iff_exists.mpr ⟨row, present⟩, same, refused, ?_⟩
  intro exactly
  exact ((session_exactly_iff present (.ofNat 7)).mp exactly).1 same

end CommercePlatform.Persistence
