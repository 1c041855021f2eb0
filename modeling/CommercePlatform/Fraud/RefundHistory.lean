import CommercePlatform.Fraud.PaymentHistory

/-!
Refunds and the history of successful payments.

A refund changes the status of its payment, and `build` counts only the status
`completed` as successful. `refund_history_iff` compares what an event computes after a
refund with what it would have computed without it.
-/

namespace CommercePlatform.Fraud

open Contract Persistence Schema

/-! ### The same writes on two databases -/

/-- The write is of this payment. -/
def Write.ofPayment (id : UUID) : Write → Bool
  | .payments key _ => key = id
  | _ => false

section

variable {arith : Arithmetic} {db db' : Db} {id : UUID} {row row' : Payment} {later : List Write}

theorem view_payments_congr (same : db'.payments = db.payments) :
    ((database arith).view db' later).payments = ((database arith).view db later).payments := by
  induction later generalizing db db' with
  | nil => exact same
  | cons w later ih =>
    refine ih ?_
    cases w <;> simp [Db.apply, same]

/-- A write of another row keeps the two databases different in one payment row. -/
theorem apply_payments_set (found : db.payments.get? id = some row)
    (set_ : db'.payments = db.payments.set id row') {w : Write}
    (other : Write.ofPayment id w = false) :
    (db.apply w).payments.get? id = some row ∧
      (db'.apply w).payments = (db.apply w).payments.set id row' := by
  cases w with
  | payments key value =>
    have ne : key ≠ id := of_decide_eq_false other
    refine ⟨(Dict.get?_set_ne _ _ ne.symm).trans found, ?_⟩
    simp only [Db.apply, set_]
    exact Dict.set_comm found ne _ _
  | _ => exact ⟨found, set_⟩

theorem view_payments_set (found : db.payments.get? id = some row)
    (set_ : db'.payments = db.payments.set id row')
    (others : ∀ w ∈ later, Write.ofPayment id w = false) :
    ((database arith).view db later).payments.get? id = some row ∧
      ((database arith).view db' later).payments =
        ((database arith).view db later).payments.set id row' := by
  induction later generalizing db db' with
  | nil => exact ⟨found, set_⟩
  | cons w later ih =>
    obtain ⟨found', set'⟩ := apply_payments_set found set_ (others w List.mem_cons_self)
    exact ih found' set' fun w mem => others w (List.mem_cons_of_mem _ mem)

/-- Once the row has been written again, the payments are the same. -/
theorem view_payments_again (found : db.payments.get? id = some row)
    (set_ : db'.payments = db.payments.set id row')
    (again : ∃ w ∈ later, Write.ofPayment id w = true) :
    ((database arith).view db' later).payments = ((database arith).view db later).payments := by
  induction later generalizing db db' with
  | nil => simp at again
  | cons w later ih =>
    by_cases here : Write.ofPayment id w = true
    · cases w with
      | payments key value =>
        obtain rfl : key = id := of_decide_eq_true here
        have same : (db'.apply (.payments key value)).payments =
            (db.apply (.payments key value)).payments := by
          simp only [Db.apply, set_, Dict.set_set]
        exact @view_payments_congr arith (db.apply (.payments key value))
          (db'.apply (.payments key value)) later same
      | _ => cases here
    · obtain ⟨found', set'⟩ := apply_payments_set found set_ (Bool.eq_false_iff.mpr here)
      refine ih found' set' ?_
      obtain ⟨w', mem, writes⟩ := again
      rcases List.mem_cons.mp mem with rfl | mem
      · exact absurd writes here
      · exact ⟨w', mem, writes⟩

end

/-! ### Listings after one row has changed -/

section

variable {ρ : Type} {table : Dict UUID ρ} {p : ρ → Bool} {at_ : ρ → Instant}
  {limit : Nat} {id : UUID} {row row' : ρ}

/-- A row that keeps its place is replaced in the listing. -/
theorem listed_set (found : table.get? id = some row) (kept : p row' = p row)
    (time : at_ row' = at_ row) :
    listed (table.set id row') p at_ limit =
      (listed table p at_ limit).map fun e => if e.1 = id then (id, row') else e := by
  have here : ∀ e ∈ table.entries, e.1 = id → e.2 = row := by
    rintro ⟨key, value⟩ mem rfl
    exact Option.some.inj ((Dict.mem_entries.mp mem).symm.trans found)
  have place : ∀ e ∈ table.entries, (if e.1 = id then (id, row') else e).1 = e.1 ∧
      at_ (if e.1 = id then (id, row') else e).2 = at_ e.2 ∧
      p (if e.1 = id then (id, row') else e).2 = p e.2 := by
    intro e mem
    split
    · rename_i key
      rw [here e mem key]
      exact ⟨key.symm, time, kept⟩
    · exact ⟨rfl, rfl, rfl⟩
  have qualify : (table.set id row').entries.filter (fun e => p e.2) =
      (table.entries.filter fun e => p e.2).map fun e => if e.1 = id then (id, row') else e := by
    rw [Dict.entries_set_old found, List.filter_map]
    congr 1
    exact List.filter_congr fun e mem => (place e mem).2.2
  rw [listed, qualify, listed, List.map_take]
  congr 1
  refine (List.map_mergeSort fun a ha b hb => ?_).symm
  obtain ⟨keyA, timeA, -⟩ := place a (List.mem_filter.mp ha).1
  obtain ⟨keyB, timeB, -⟩ := place b (List.mem_filter.mp hb).1
  simp only [newestFirst, keyA, keyB, timeA, timeB]

end

/-! ### Successful payments -/

/-- The fields of a context that tell of successful payments. -/
def FraudContext.successes (context : FraudContext) :
    Nat × Rat × Option Rat × List String × List String :=
  (context.lifetimeSuccessfulPayments, context.lifetimeSpend, context.historicalAverageAmount,
    context.previousSuccessfulDevices, context.previousSuccessfulCountries)

section

variable {arith : Arithmetic} {currency : Option Currency} {rows rows' : List Payment}
  {context context' : FraudContext}

theorem priorFields_count (computed : priorFields arith currency rows = .ok context.prior) :
    context.lifetimeSuccessfulPayments = (rows.filter (·.status = .completed)).length := by
  obtain ⟨_, -, rest⟩ := Except.bind_ok computed
  obtain ⟨_, -, rest⟩ := Except.bind_ok rest
  exact (congrArg PriorFields.lifetimeSuccessfulPayments (Except.ok.inj rest)).symm

/-- These fields are computed from the completed rows. -/
theorem priorFields_successes
    (same : rows.filter (·.status = .completed) = rows'.filter (·.status = .completed))
    (computed : priorFields arith currency rows = .ok context.prior)
    (computed' : priorFields arith currency rows' = .ok context'.prior) :
    context.successes = context'.successes := by
  obtain ⟨average, averaged, rest⟩ := Except.bind_ok computed
  obtain ⟨spend, spent, rest⟩ := Except.bind_ok rest
  obtain ⟨average', averaged', rest'⟩ := Except.bind_ok computed'
  obtain ⟨spend', spent', rest'⟩ := Except.bind_ok rest'
  rw [same, averaged'] at averaged
  rw [same, spent'] at spent
  obtain rfl := Except.ok.inj averaged
  obtain rfl := Except.ok.inj spent
  have fields := Except.ok.inj rest
  have fields' := Except.ok.inj rest'
  rw [same] at fields
  simp only [FraudContext.prior, PriorFields.mk.injEq] at fields fields'
  obtain ⟨count, -, total, mean, devices, countries⟩ := fields
  obtain ⟨count', -, total', mean', devices', countries'⟩ := fields'
  simp only [FraudContext.successes, ← count, ← total, ← mean, ← devices, ← countries, count',
    total', mean', devices', countries']

/-- A row that was not completed, or is not listed, changes nothing. -/
theorem completed_same {entries : List (UUID × Payment)} {id : UUID} {row' : Payment}
    (changed : row'.status ≠ .completed)
    (before : ∀ e ∈ entries, e.1 = id → e.2.status ≠ .completed) :
    ((entries.map fun e => if e.1 = id then (id, row') else e).map Prod.snd).filter
        (·.status = .completed) =
      (entries.map Prod.snd).filter (·.status = .completed) := by
  induction entries with
  | nil => rfl
  | cons e entries ih =>
    have rest := ih fun e mem => before e (List.mem_cons_of_mem _ mem)
    simp only [List.map_cons, List.filter_cons, rest]
    by_cases key : e.1 = id
    · have old := before e List.mem_cons_self key
      simp [key, changed, old]
    · simp [key]

/-- A completed row that is listed is lost. -/
theorem completed_fewer {entries : List (UUID × Payment)} {id : UUID} {row row' : Payment}
    (changed : row'.status ≠ .completed) (mem : (id, row) ∈ entries)
    (completed : row.status = .completed) :
    (((entries.map fun e => if e.1 = id then (id, row') else e).map Prod.snd).filter
        (·.status = .completed)).length <
      ((entries.map Prod.snd).filter (·.status = .completed)).length := by
  have most : ∀ entries : List (UUID × Payment),
      (((entries.map fun e => if e.1 = id then (id, row') else e).map Prod.snd).filter
        (·.status = .completed)).length ≤
        ((entries.map Prod.snd).filter (·.status = .completed)).length := by
    intro entries
    simp only [List.map_map, List.filter_map, List.length_map]
    refine List.Sublist.length_le (List.monotone_filter_right _ fun e holds => ?_)
    by_cases key : e.1 = id
    · simp [key, changed] at holds
    · simpa [key] using holds
  obtain ⟨first, last, rfl⟩ := List.append_of_mem mem
  have left_ := most first
  have right_ := most last
  simp only [List.map_append, List.map_cons, List.filter_append, List.filter_cons, if_true,
    List.length_append, changed, completed, decide_false, decide_true, List.length_cons,
    Bool.false_eq_true, if_false]
  omega

end

/-! ### Events after a refund -/

/-- The refunded payment was completed, is not written again, and is among the payments the
event reads as earlier ones. -/
structure CountedBefore (uow : UnitOfWork) (db : Db) (paymentId : UUID) (later : List Write)
    (event : EventEnvelope) (payment : Payment) : Prop where
  found : db.payments.get? paymentId = some payment
  completed : payment.status = .completed
  last : ∀ w ∈ later, Write.ofPayment paymentId w = false
  customer : event.payload.customerId = some payment.customerId
  earlier : payment.attemptedAt < event.eventTime
  listed : (listedAhead ((database uow.arith).view db later) payment.customerId event.eventTime
    paymentId payment.attemptedAt).length < uow.fraudConfig.maxHistoryRecords

section

variable {uow : UnitOfWork} {db : Db} {refund call : PersistCall} {ws ws' later : List Write}
  {payload : RefundRequestedPayload} {context context' : FraudContext}

/-- The payments after an accepted refund. -/
theorem refund_seen (requested : refund.event.payload = .refundRequested payload)
    {counts : RowCounts}
    (accepted : alone (D := database uow.arith) (accept uow refund) db [] = .ok (counts, ws)) :
    ∃ payment status, db.payments.get? payload.paymentId = some payment ∧ status ≠ .completed ∧
      ((database uow.arith).view db ws).payments =
        db.payments.set payload.paymentId { payment with status } := by
  obtain ⟨db', ws', same, handled, seen⟩ := accept_handler accepted
  have payments : db'.payments = db.payments := by
    simpa [Db.restrict, businessTables] using congrArg Db.payments same
  have handled : alone (D := database uow.arith) (insertRefund uow.arith payload
      refund.event.eventId) db' [] = .ok (counts, ws') := by
    simpa [applyHandler, requested] using handled
  obtain ⟨payment, asked, h⟩ := insertRefund_alone handled
  refine ⟨payment, statusAfter asked payment.amount, payments ▸ h.found, ?_, ?_⟩
  · rw [statusAfter]
    split <;> simp
  · rw [seen, h.seen.1, payments]

/-- Two databases whose payments are the same but for the status of one that was not
completed, or is not listed, show the same successful payments. -/
theorem successes_of_payments {seen seen' : Db} {customerId : UUID} {eventTime : Instant}
    {id : UUID} {payment : Payment} {status : PaymentStatus} (changed : status ≠ .completed)
    (found : seen.payments.get? id = some payment)
    (set_ : seen'.payments = seen.payments.set id { payment with status })
    {currency : Option Currency}
    (computed : priorFields uow.arith currency
      (priorRows uow.fraudConfig seen' customerId eventTime) = .ok context.prior)
    (computed' : priorFields uow.arith currency
      (priorRows uow.fraudConfig seen customerId eventTime) = .ok context'.prior) :
    context.successes = context'.successes ↔
      ¬ (payment.status = .completed ∧ earlierOf customerId eventTime payment = true ∧
        (listedAhead seen customerId eventTime id payment.attemptedAt).length <
          uow.fraudConfig.maxHistoryRecords) := by
  have rows : priorRows uow.fraudConfig seen' customerId eventTime =
      ((listed seen.payments (earlierOf customerId eventTime) (·.attemptedAt)
        uow.fraudConfig.maxHistoryRecords).map fun e =>
          if e.1 = id then (id, { payment with status }) else e).map Prod.snd := by
    have kept : earlierOf customerId eventTime { payment with status } =
        earlierOf customerId eventTime payment := rfl
    rw [priorRows_listed, set_, listed_set found kept rfl]
  have mem := @mem_listed _ _ _ (earlierOf customerId eventTime) (·.attemptedAt)
    uow.fraudConfig.maxHistoryRecords _ _ found
  rw [listedBefore_payments] at mem
  rw [← mem]
  rw [rows] at computed
  constructor
  · rintro same ⟨completed, listed_⟩
    have fewer := @completed_fewer _ _ _ { payment with status } changed listed_ completed
    rw [← priorFields_count computed, ← priorRows_listed, ← priorFields_count computed'] at fewer
    exact absurd (congrArg Prod.fst same) fewer.ne
  · intro quiet
    refine priorFields_successes (completed_same changed fun e listed_ key completed => ?_) computed
      computed'
    have entry := (List.mem_filter.mp ((List.mergeSort_perm _ _).mem_iff.mp
      (List.mem_of_mem_take listed_))).1
    obtain ⟨key', row⟩ := e
    obtain rfl : key' = id := key
    obtain rfl : row = payment := Option.some.inj ((Dict.mem_entries.mp entry).symm.trans found)
    exact quiet ⟨completed, listed_⟩

variable (requested : refund.event.payload = .refundRequested payload)
  (accepted : ∃ counts,
    alone (D := database uow.arith) (accept uow refund) db [] = .ok (counts, ws))
  (evaluated : Evaluates uow ((database uow.arith).view db (ws ++ later)) call ws' context)
  (without : alone (D := database uow.arith) (build uow.arith uow.fraudConfig call.event)
    ((database uow.arith).view db later) ws' = .ok (context', ws'))

include requested accepted evaluated without

/-- The rows read with and without the refund. -/
theorem refund_compared :
    ∃ payment status customerId, db.payments.get? payload.paymentId = some payment ∧
      status ≠ .completed ∧
      ((database uow.arith).view db ws).payments =
        db.payments.set payload.paymentId { payment with status } ∧
      call.event.payload.customerId = some customerId ∧
      priorFields uow.arith call.event.payload.currency (priorRows uow.fraudConfig
        ((database uow.arith).view ((database uow.arith).view db ws) (later ++ ws')) customerId
        call.event.eventTime) = .ok context.prior ∧
      priorFields uow.arith call.event.payload.currency (priorRows uow.fraudConfig
        ((database uow.arith).view db (later ++ ws')) customerId call.event.eventTime) =
          .ok context'.prior := by
  obtain ⟨counts, accepted⟩ := accepted
  obtain ⟨payment, status, found, changed, set_⟩ := refund_seen requested accepted
  obtain ⟨customerId, customer, lookback, from_⟩ := (build_alone.mp evaluated.built).1
  obtain ⟨customer', row', lookback', from'⟩ := (build_alone.mp without).1
  obtain rfl : customer' = customerId := Option.some.inj (from'.named.symm.trans from_.named)
  refine ⟨payment, status, customer', found, changed, set_, from_.named, ?_, ?_⟩
  · rw [show (database uow.arith).view ((database uow.arith).view db ws) (later ++ ws') =
      (database uow.arith).view ((database uow.arith).view db (ws ++ later)) ws' by simp [Schema.view]]
    exact contextOf_prior from_.context
  · rw [show (database uow.arith).view db (later ++ ws') =
      (database uow.arith).view ((database uow.arith).view db later) ws' by simp [Schema.view]]
    exact contextOf_prior from'.context

/-- An event that counts the payment loses it. -/
theorem refund_counted {payment : Payment}
    (counted : CountedBefore uow db payload.paymentId (later ++ ws') call.event payment) :
    context.successes ≠ context'.successes := by
  obtain ⟨row, status, customerId, found, changed, set_, named, computed, computed'⟩ :=
    refund_compared requested accepted evaluated without
  obtain rfl : row = payment := Option.some.inj (found.symm.trans counted.found)
  obtain rfl : row.customerId = customerId := Option.some.inj (counted.customer.symm.trans named)
  obtain ⟨found', set'⟩ := view_payments_set found set_ counted.last
  have iff := successes_of_payments changed found' set' computed computed'
  refine fun same => iff.mp same ⟨counted.completed, ?_, counted.listed⟩
  simp [earlierOf, counted.earlier]

/-- After a refund and any later writes, an event computes the same fields about successful
payments as without the refund, if and only if it does not count the refunded payment. -/
theorem refund_history_iff :
    context.successes = context'.successes ↔
      ¬ ∃ payment, CountedBefore uow db payload.paymentId (later ++ ws') call.event payment := by
  refine ⟨fun same ⟨_, counted⟩ =>
    refund_counted requested accepted evaluated without counted same, fun uncounted => ?_⟩
  obtain ⟨payment, status, customerId, found, changed, set_, named, computed, computed'⟩ :=
    refund_compared requested accepted evaluated without
  by_cases again : ∃ w ∈ later ++ ws', Write.ofPayment payload.paymentId w = true
  · have rows := congrArg (fun payments => (listed payments (earlierOf customerId call.event.eventTime)
      (·.attemptedAt) uow.fraudConfig.maxHistoryRecords).map Prod.snd)
      (@view_payments_again uow.arith _ _ _ _ _ _ found set_ again)
    exact priorFields_successes (congrArg _ rows) computed computed'
  · have others : ∀ w ∈ later ++ ws', Write.ofPayment payload.paymentId w = false :=
      fun w mem => Bool.eq_false_iff.mpr fun writes => again ⟨w, mem, writes⟩
    obtain ⟨found', set'⟩ := @view_payments_set uow.arith _ _ _ _ _ _ found set_ others
    refine (successes_of_payments changed found' set' computed computed').mpr ?_
    rintro ⟨completed, earlier, short⟩
    simp only [earlierOf, decide_eq_true_eq] at earlier
    refine uncounted ⟨payment, found, completed, others, ?_, earlier.2, ?_⟩
    · rw [named, earlier.1]
    · rw [earlier.1]
      exact short

end

/-! ### A checkout after a refund -/

section

/-- A checkout of the cart of 10. -/
def checkoutAt (eventTime : Instant) : PersistCall :=
  let call := plainCall 7 (.checkoutStarted
    ⟨.ofNat 3, .ofNat 1, .ofNat 4, 2, { coefficient := 10 }, { coefficient := 0 },
      { coefficient := 10 }, .eur⟩)
  { call with event := { call.event with eventTime } }

/-- A refund of 4 and then a checkout are accepted, and the checkout knows the customer, leaves
the payment alone and lists no other before it. -/
def checkoutReads (db : Db) (eventTime : Instant) : Bool :=
  match alone (D := database .exact) (accept engineUow (plainRefundOf 6 4)) db [] with
  | .error _ => false
  | .ok (_, ws) =>
    match alone (D := database .exact) (accept engineUow (checkoutAt eventTime))
        ((database .exact).view db ws) [] with
    | .error _ => false
    | .ok (_, ws') =>
      (((database .exact).view ((database .exact).view db ws) ws').customers.get? (.ofNat 1)).isSome
        && (((database .exact).view db ws').customers.get? (.ofNat 1)).isSome
        && windowsStart engineUow.fraudConfig eventTime
        && ws'.all (fun w => !Write.ofPayment (.ofNat 5) w)
        && (listedAhead ((database .exact).view db ws') (.ofNat 1) eventTime (.ofNat 5) 0).isEmpty

/-- What such a checkout evaluates, with and without the refund. -/
theorem checkoutReads_evaluates {db : Db} {eventTime : Instant}
    (reads : checkoutReads db eventTime = true) :
    ∃ ws ws' context context',
      (∃ counts, alone (D := database engineUow.arith) (accept engineUow (plainRefundOf 6 4)) db [] =
        .ok (counts, ws)) ∧
      Evaluates engineUow ((database engineUow.arith).view db (ws ++ [])) (checkoutAt eventTime) ws'
        context ∧
      alone (D := database engineUow.arith) (build engineUow.arith engineUow.fraudConfig
        (checkoutAt eventTime).event) ((database engineUow.arith).view db []) ws' =
          .ok (context', ws') ∧
      (∀ w ∈ [] ++ ws', Write.ofPayment (.ofNat 5) w = false) ∧
      listedAhead ((database engineUow.arith).view db ([] ++ ws')) (.ofNat 1) eventTime
        (.ofNat 5) 0 = [] := by
  unfold checkoutReads at reads
  split at reads
  · cases reads
  rename_i counts ws refunded
  split at reads
  · cases reads
  rename_i counts' ws' accepted
  simp only [Bool.and_eq_true, List.all_eq_true, Bool.not_eq_true', List.isEmpty_iff] at reads
  obtain ⟨⟨⟨⟨known, known'⟩, windows⟩, others⟩, none_⟩ := reads
  obtain ⟨context, built⟩ := @build_exact engineUow rfl ((database .exact).view db ws) ws'
    (checkoutAt eventTime).event windows known
  obtain ⟨context', built'⟩ := @build_exact engineUow rfl db ws' (checkoutAt eventTime).event windows
    known'
  refine ⟨ws, ws', context, context', ⟨counts, refunded⟩, ?_, built', others, none_⟩
  rw [List.append_nil]
  exact ⟨rfl, ⟨counts', accepted⟩, built⟩

theorem paidShop_reads :
    ∃ st payment, (plainUow.sessions Nat).run (plainUow.startFrom {}) paidShop = some st ∧
      st.committed.db.payments.get? (.ofNat 5) = some payment ∧ payment.status = .completed ∧
      payment.customerId = .ofNat 1 ∧ payment.attemptedAt = 0 ∧
      checkoutReads st.committed.db 0 = true ∧ checkoutReads st.committed.db 1 = true := by
  have shop : ((plainUow.sessions Nat).run (plainUow.startFrom {}) paidShop).map (fun st =>
      ((st.committed.db.payments.get? (.ofNat 5)).map fun payment =>
        (payment.status, payment.customerId, payment.attemptedAt),
        checkoutReads st.committed.db 0, checkoutReads st.committed.db 1)) =
      some (some (.completed, .ofNat 1, 0), true, true) := by decide +kernel
  obtain ⟨st, ran, at_end⟩ := Option.map_eq_some_iff.mp shop
  simp only [Prod.mk.injEq] at at_end
  obtain ⟨paid, early, late⟩ := at_end
  obtain ⟨payment, found, row⟩ := Option.map_eq_some_iff.mp paid
  simp only [Prod.mk.injEq] at row
  exact ⟨st, payment, ran, found, row.1, row.2.1, row.2.2, early, late⟩

/-- A partial refund takes its payment out of the history of a later checkout. -/
theorem not_refund_history :
    ¬ ∀ (acts : List (Nat × Act PersistCall)) (st : plainUow.Sessions Nat)
      (refund call : PersistCall) (payload : RefundRequestedPayload) (ws later ws' : List Write)
      (context context' : FraudContext),
      (plainUow.sessions Nat).run (plainUow.startFrom {}) acts = some st →
      refund.event.payload = .refundRequested payload →
      (∃ counts, alone (D := database engineUow.arith) (accept engineUow refund)
        st.committed.db [] = .ok (counts, ws)) →
      Evaluates engineUow ((database engineUow.arith).view st.committed.db (ws ++ later)) call ws'
        context →
      alone (D := database engineUow.arith) (build engineUow.arith engineUow.fraudConfig call.event)
        ((database engineUow.arith).view st.committed.db later) ws' = .ok (context', ws') →
      context.successes = context'.successes := by
  intro same
  obtain ⟨st, payment, ran, found, completed, owner, time, -, late⟩ := paidShop_reads
  obtain ⟨ws, ws', context, context', accepted, evaluated, without, others, none_⟩ :=
    checkoutReads_evaluates late
  refine refund_counted rfl accepted evaluated without
    (⟨found, completed, others, ?_, ?_, ?_⟩ : CountedBefore engineUow _ _ _ _ payment)
    (same paidShop st _ _ _ ws [] ws' context context' ran rfl accepted evaluated without)
  · rw [owner]
    rfl
  · rw [time]
    decide
  · rw [owner, time]
    refine lt_of_eq_of_lt (congrArg List.length none_) ?_
    decide

/-- A checkout at the time of the payment does not count it either way. -/
theorem refund_history_iff_sameTime :
    ∃ (st : plainUow.Sessions Nat) (ws ws' : List Write) (context context' : FraudContext),
      (plainUow.sessions Nat).run (plainUow.startFrom {}) paidShop = some st ∧
      Evaluates engineUow ((database engineUow.arith).view st.committed.db (ws ++ [])) (checkoutAt 0)
        ws' context ∧
      alone (D := database engineUow.arith) (build engineUow.arith engineUow.fraudConfig
        (checkoutAt 0).event) ((database engineUow.arith).view st.committed.db []) ws' =
          .ok (context', ws') ∧
      context.successes = context'.successes := by
  obtain ⟨st, payment, ran, found, -, -, time, early, -⟩ := paidShop_reads
  obtain ⟨ws, ws', context, context', accepted, evaluated, without, -, -⟩ :=
    checkoutReads_evaluates early
  refine ⟨st, ws, ws', context, context', ran, evaluated, without, ?_⟩
  refine (refund_history_iff rfl accepted evaluated without).mpr ?_
  rintro ⟨row, counted⟩
  obtain rfl : payment = row := Option.some.inj (found.symm.trans counted.found)
  have earlier := counted.earlier
  rw [time] at earlier
  exact absurd earlier (by decide)

end

end CommercePlatform.Fraud
