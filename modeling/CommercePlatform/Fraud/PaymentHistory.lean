import CommercePlatform.Lib.Rank
import CommercePlatform.Fraud.Accepted

/-!
Payments as history.

The fields of a context that tell of earlier payments are computed from the newest rows
of the customer that were attempted before the event time. The row of the event itself
is excluded only by that time, although both times are the producer's.
-/

namespace CommercePlatform.Fraud

open Contract Persistence Schema

/-! ### The rows a listing returns -/

section

variable {ρ : Type} [DecidableEq ρ] {table : Dict UUID ρ} {p : ρ → Bool} {at_ : ρ → Instant}
  {limit : Nat} {id : UUID} {row : ρ}

/-- `ORDER BY at DESC, id`. -/
def newestFirst (at_ : ρ → Instant) (a b : UUID × ρ) : Bool :=
  at_ b.2 < at_ a.2 ∨ (at_ a.2 = at_ b.2 ∧ a.1.hex.map Fin.val ≤ b.1.hex.map Fin.val)

/-- The rows of `Db.latest`, with their keys. -/
def listed (table : Dict UUID ρ) (p : ρ → Bool) (at_ : ρ → Instant) (limit : Nat) :
    List (UUID × ρ) :=
  ((table.entries.filter fun e => p e.2).mergeSort (newestFirst at_)).take limit

omit [DecidableEq ρ] in
theorem latest_listed : Db.latest table p at_ limit = (listed table p at_ limit).map Prod.snd := rfl

/-- The rows that are listed before a given one. -/
def listedBefore (table : Dict UUID ρ) (p : ρ → Bool) (at_ : ρ → Instant) (x : UUID × ρ) :
    List (UUID × ρ) :=
  table.entries.filter fun e => p e.2 && (decide (e.1 ≠ x.1) && newestFirst at_ e x)

omit [DecidableEq ρ] in
theorem newestFirst_trans (a b c : UUID × ρ) (first : newestFirst at_ a b = true)
    (next : newestFirst at_ b c = true) : newestFirst at_ a c = true := by
  simp only [newestFirst, decide_eq_true_eq] at first next ⊢
  rcases first with newer | ⟨same, ids⟩
  · rcases next with newer' | ⟨same', -⟩
    · exact Or.inl (lt_trans newer' newer)
    · exact Or.inl (same' ▸ newer)
  · rcases next with newer' | ⟨same', ids'⟩
    · exact Or.inl (same ▸ newer')
    · exact Or.inr ⟨same.trans same', le_trans ids ids'⟩

omit [DecidableEq ρ] in
theorem newestFirst_total (a b : UUID × ρ) : (newestFirst at_ a b || newestFirst at_ b a) = true := by
  simp only [newestFirst, Bool.or_eq_true, decide_eq_true_eq]
  rcases lt_trichotomy (at_ a.2) (at_ b.2) with older | same | newer
  · exact Or.inr (Or.inl older)
  · rcases le_total (a.1.hex.map Fin.val) (b.1.hex.map Fin.val) with ids | ids
    · exact Or.inl (Or.inr ⟨same, ids⟩)
    · exact Or.inr (Or.inr ⟨same.symm, ids⟩)
  · exact Or.inl (Or.inl newer)

omit [DecidableEq ρ] in
theorem newestFirst_antisymm {a b : UUID × ρ} (first : newestFirst at_ a b = true)
    (next : newestFirst at_ b a = true) : a.1 = b.1 := by
  simp only [newestFirst, decide_eq_true_eq] at first next
  have ids : a.1.hex.map Fin.val = b.1.hex.map Fin.val := by
    rcases first with newer | ⟨same, ids⟩
    · rcases next with newer' | ⟨same', -⟩
      · exact absurd newer (not_lt.mpr newer'.le)
      · exact absurd same' newer.ne
    · rcases next with newer' | ⟨-, ids'⟩
      · exact absurd same newer'.ne
      · exact le_antisymm ids ids'
  have hex : a.1.hex = b.1.hex := List.map_injective_iff.mpr Fin.val_injective ids
  exact (UUID.mk.injEq _ _ _ _).mpr hex

/-- A row is listed when it qualifies and fewer than `limit` rows are listed before it. -/
theorem mem_listed (found : table.get? id = some row) :
    (id, row) ∈ listed table p at_ limit ↔
      p row = true ∧ (listedBefore table p at_ (id, row)).length < limit := by
  have mem := Dict.mem_entries.mpr found
  have unique : ∀ a ∈ table.entries, ∀ b ∈ table.entries, a.1 = b.1 → a = b :=
    fun a ha b hb => List.inj_on_of_nodup_map table.nodupKeys ha hb
  by_cases holds : p row = true
  · have rank := mem_take_mergeSort newestFirst_trans (@newestFirst_total _ at_)
      (l := table.entries.filter fun e => p e.2)
      (table.nodupKeys.of_map.filter _)
      (fun a ha b hb first next => unique a (List.mem_filter.mp ha).1 b (List.mem_filter.mp hb).1
        (newestFirst_antisymm first next))
      (List.mem_filter.mpr ⟨mem, holds⟩) limit
    refine rank.trans ?_
    have same : before (newestFirst at_) (table.entries.filter fun e => p e.2) (id, row) =
        listedBefore table p at_ (id, row) := by
      rw [before, listedBefore, List.filter_filter]
      refine List.filter_congr fun e he => ?_
      have key : (e ≠ (id, row)) ↔ e.1 ≠ id :=
        not_congr ⟨fun same => by rw [same], fun same => unique e he _ mem same⟩
      rw [Bool.and_comm, decide_eq_decide.mpr key]
    rw [same]
    exact (and_iff_right holds).symm
  · refine iff_of_false (fun listed_ => holds ?_) fun both => holds both.1
    have sorted := List.mem_of_mem_take listed_
    exact (List.mem_filter.mp ((List.mergeSort_perm _ _).mem_iff.mp sorted)).2

omit [DecidableEq ρ] in
/-- The row itself is not listed before itself. -/
theorem listedBefore_set {own : ρ} :
    listedBefore (table.set id row) p at_ (id, own) = listedBefore table p at_ (id, own) := by
  simp only [listedBefore, Dict.set]
  induction table.entries with
  | nil => simp [Dict.setEntries]
  | cons e rest ih =>
    obtain ⟨key, value⟩ := e
    simp only [Dict.setEntries]
    split
    · rename_i same
      simp [same]
    · rw [List.filter_cons, List.filter_cons, ih]

end

/-! ### A payment as its own history -/

/-- The payment, customer and time of attempt of a payment event. -/
def paymentAttempt : Payload → Option (UUID × UUID × Instant)
  | .paymentCompleted p => some (p.paymentId, p.customerId, p.completedAt)
  | .paymentFailed p => some (p.paymentId, p.customerId, p.failedAt)
  | _ => none

/-- The payments of a customer before a time. -/
def earlierOf (customerId : UUID) (eventTime : Instant) (row : Payment) : Bool :=
  row.customerId = customerId ∧ row.attemptedAt < eventTime

/-- The earlier payments of a customer that are listed before one attempted at a time. -/
def listedAhead (db : Db) (customerId : UUID) (eventTime : Instant) (paymentId : UUID)
    (attemptedAt : Instant) : List (UUID × Payment) :=
  db.payments.entries.filter fun e => earlierOf customerId eventTime e.2 ∧ e.1 ≠ paymentId ∧
    (attemptedAt < e.2.attemptedAt ∨
      (e.2.attemptedAt = attemptedAt ∧ e.1.hex.map Fin.val ≤ paymentId.hex.map Fin.val))

theorem listedBefore_payments (db : Db) (customerId : UUID) (eventTime : Instant) (paymentId : UUID)
    (row : Payment) :
    listedBefore db.payments (earlierOf customerId eventTime) (·.attemptedAt) (paymentId, row) =
      listedAhead db customerId eventTime paymentId row.attemptedAt := by
  simp [listedBefore, listedAhead, newestFirst]

/-- The rows an event reads as the earlier payments of a customer. -/
def priorRows (config : FraudConfig) (db : Db) (customerId : UUID) (eventTime : Instant) :
    List Payment :=
  (Stmt.paymentsBefore customerId eventTime config.maxHistoryRecords).answer db

theorem priorRows_listed (config : FraudConfig) (db : Db) (customerId : UUID) (eventTime : Instant) :
    priorRows config db customerId eventTime =
      (listed db.payments (earlierOf customerId eventTime) (·.attemptedAt)
        config.maxHistoryRecords).map Prod.snd := rfl

section

variable {uow : UnitOfWork} {db : Db} {call : PersistCall} {ws : List Write}
  {context : FraudContext}

/-- The payment row of a payment event. -/
theorem payment_handled {paymentId customerId : UUID} {attemptedAt : Instant}
    (attempt : paymentAttempt call.event.payload = some (paymentId, customerId, attemptedAt))
    {db' : Db} {ws' : List Write} {counts : RowCounts}
    (handled : alone (D := database uow.arith) (applyHandler uow.rt uow.arith call.event) db' [] =
      .ok (counts, ws')) :
    ∃ row order, PaymentAccepted uow.arith db' paymentId row order ws' ∧
      row.customerId = customerId ∧ row.attemptedAt = attemptedAt ∧
      row.eventId = call.event.eventId := by
  unfold applyHandler at handled
  cases payload : call.event.payload with
  | paymentCompleted p =>
    simp only [payload] at handled
    rw [payload] at attempt
    cases attempt
    obtain ⟨order, accepted⟩ := insertPayment_alone handled
    exact ⟨_, order, accepted, rfl, rfl, rfl⟩
  | paymentFailed p =>
    simp only [payload] at handled
    rw [payload] at attempt
    cases attempt
    obtain ⟨order, accepted⟩ := insertPayment_alone handled
    exact ⟨_, order, accepted, rfl, rfl, rfl⟩
  | _ =>
    rw [payload] at attempt
    cases attempt

theorem paymentAttempt_customer {payload : Payload} {paymentId customerId : UUID}
    {attemptedAt : Instant}
    (attempt : paymentAttempt payload = some (paymentId, customerId, attemptedAt)) :
    payload.customerId = some customerId := by
  cases payload <;> cases attempt <;> rfl

/-- The row of an accepted payment, among the rows that are listed. -/
theorem own_listed {arith : Arithmetic} {paymentId : UUID} {row : Payment} {order : Order}
    (h : PaymentAccepted arith db paymentId row order ws) {p : Payment → Bool} {limit : Nat} :
    (∃ r ∈ (listed ((database arith).view db ws).payments p (·.attemptedAt) limit).map Prod.snd,
        r.eventId = row.eventId) ↔
      (paymentId, { row with amount := arith.stored row.amount }) ∈
        listed ((database arith).view db ws).payments p (·.attemptedAt) limit := by
  constructor
  · rintro ⟨r, mem, same⟩
    obtain ⟨⟨key, r'⟩, listed_, rfl⟩ := List.mem_map.mp mem
    have entry := (List.mem_filter.mp ((List.mergeSort_perm _ _).mem_iff.mp
      (List.mem_of_mem_take listed_))).1
    have found := Dict.mem_entries.mp entry
    rw [h.seen, Dict.get?_set] at found
    split at found
    · rename_i key_
      cases found
      rwa [← key_]
    · exact absurd same (h.fresh r' (Dict.mem_values.mpr ⟨key, found⟩))
  · intro listed_
    exact ⟨_, List.mem_map_of_mem listed_, rfl⟩

/-- The rows an accepted payment reads as earlier ones, and its own. -/
theorem own_rows_iff {paymentId customerId : UUID} {attemptedAt : Instant}
    (attempt : paymentAttempt call.event.payload = some (paymentId, customerId, attemptedAt))
    (evaluated : Evaluates uow db call ws context) :
    (∀ row ∈ priorRows uow.fraudConfig ((database uow.arith).view db ws) customerId
        call.event.eventTime, row.eventId ≠ call.event.eventId) ↔
      call.event.eventTime ≤ attemptedAt ∨ uow.fraudConfig.maxHistoryRecords ≤
        (listedAhead db customerId call.event.eventTime paymentId attemptedAt).length := by
  obtain ⟨db', ws', counts, same, handled, seen, -⟩ := evaluated.handled
  obtain ⟨row, order, accepted, owner, time, event⟩ := payment_handled attempt handled
  have payments : db'.payments = db.payments := by
    simpa [Db.restrict, businessTables] using congrArg Db.payments same
  have ahead : listedAhead db customerId call.event.eventTime paymentId attemptedAt =
      listedBefore db'.payments (earlierOf customerId call.event.eventTime) (·.attemptedAt)
        (paymentId, { row with amount := uow.arith.stored row.amount }) := by
    simp only [listedBefore_payments, listedAhead, payments, time]
  have found : ((database uow.arith).view db' ws').payments.get? paymentId =
      some { row with amount := uow.arith.stored row.amount } := by
    rw [accepted.seen, Dict.get?_set_self]
  have own := (own_listed accepted).trans (@mem_listed _ _ _
    (earlierOf customerId call.event.eventTime) (·.attemptedAt) uow.fraudConfig.maxHistoryRecords _ _
    found)
  rw [accepted.seen, listedBefore_set, ← accepted.seen, ← ahead, event] at own
  have notOwn := not_congr own
  rw [seen, priorRows_listed]
  simp only [not_exists, not_and, not_lt] at notOwn
  refine notOwn.trans ?_
  simp only [earlierOf, owner, time, true_and, decide_eq_true_eq]
  rw [or_iff_not_imp_left, not_le]

/-- The fields of a payment's context that tell of earlier payments are computed from the
rows it reads. These are rows of other payments if and only if the attempt does not lie
before the event time or enough other payments are listed ahead of it. -/
theorem own_history_iff {paymentId customerId : UUID} {attemptedAt : Instant}
    (attempt : paymentAttempt call.event.payload = some (paymentId, customerId, attemptedAt))
    (evaluated : Evaluates uow db call ws context) :
    priorFields uow.arith call.event.payload.currency (priorRows uow.fraudConfig
        ((database uow.arith).view db ws) customerId call.event.eventTime) = .ok context.prior ∧
      ((∀ row ∈ priorRows uow.fraudConfig ((database uow.arith).view db ws) customerId
          call.event.eventTime, row.eventId ≠ call.event.eventId) ↔
        call.event.eventTime ≤ attemptedAt ∨ uow.fraudConfig.maxHistoryRecords ≤
          (listedAhead db customerId call.event.eventTime paymentId attemptedAt).length) := by
  refine ⟨?_, own_rows_iff attempt evaluated⟩
  obtain ⟨_, _, _, -, -, -, customer', customer, lookback, from_⟩ := evaluated.handled
  obtain rfl : customer' = customerId :=
    Option.some.inj (from_.named.symm.trans (paymentAttempt_customer attempt))
  exact contextOf_prior from_.context

end

/-- The first payment of a customer is its own history when it was attempted before the
time of its event. -/
theorem not_own_history :
    ¬ ∀ (acts : List (Nat × Act PersistCall)) (st : plainUow.Sessions Nat) (call : PersistCall)
      (paymentId customerId : UUID) (attemptedAt : Instant) (ws : List Write)
      (context : FraudContext),
      (plainUow.sessions Nat).run (plainUow.startFrom {}) acts = some st →
      paymentAttempt call.event.payload = some (paymentId, customerId, attemptedAt) →
      Evaluates engineUow st.committed.db call ws context →
      ∀ row ∈ priorRows engineUow.fraudConfig
          ((database engineUow.arith).view st.committed.db ws) customerId call.event.eventTime,
        row.eventId ≠ call.event.eventId := by
  intro others
  obtain ⟨st, ran, none_, evaluates⟩ := orderedShop_payments
  obtain ⟨ws, context, evaluated⟩ := evaluates (-1) (by simp)
  have rows := others orderedShop st _ _ _ _ ws context ran rfl evaluated
  rcases (own_rows_iff rfl evaluated).mp rows with late | crowded
  · exact absurd late (by decide)
  · rw [listedAhead, none_] at crowded
    exact absurd crowded (by decide)

/-- Attempted at the time of its event, the same payment is not. -/
theorem own_history_iff_onTime :
    ∃ (st : plainUow.Sessions Nat) (ws : List Write) (context : FraudContext),
      (plainUow.sessions Nat).run (plainUow.startFrom {}) orderedShop = some st ∧
      Evaluates engineUow st.committed.db (plainPayment 5 0) ws context ∧
      ∀ row ∈ priorRows engineUow.fraudConfig
          ((database engineUow.arith).view st.committed.db ws) (.ofNat 1) 0,
        row.eventId ≠ .ofNat 5 := by
  obtain ⟨st, ran, -, evaluates⟩ := orderedShop_payments
  obtain ⟨ws, context, evaluated⟩ := evaluates 0 (by simp)
  have iff := (own_history_iff rfl evaluated).2
  exact ⟨st, ws, context, ran, evaluated, iff.mpr (Or.inl le_rfl)⟩

end CommercePlatform.Fraud
