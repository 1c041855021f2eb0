import Mathlib.Tactic.Linarith
import CommercePlatform.Persistence.Frame

/-!
No over-refund.

`RefundsBalanced` relates the payments of a committed database to their refunds. A
refund locks its payment before it sums the refunds, so while the lock is held
neither the payment nor the sum can change; all other transactions leave both
tables alone or add a payment that nobody refunded yet.
-/

namespace CommercePlatform.Persistence

open Contract Fraud Schema

/-- What the refunds of a payment say about its status. -/
structure Payment.Balanced (payment : Payment) (refunded : Rat) : Prop where
  bounded : refunded ≤ payment.amount
  refunded_iff : payment.status = .refunded ↔ refunded = payment.amount
  partially_iff : payment.status = .partiallyRefunded ↔ 0 < refunded ∧ refunded < payment.amount
  unrefunded_iff : (payment.status = .completed ∨ payment.status = .failed) ↔ refunded = 0

/-- The payments and refunds of a database agree. -/
structure RefundsBalanced (db : Db) : Prop where
  balanced : ∀ id payment, db.payments.get? id = some payment → payment.Balanced (db.refunded id)
  failed : ∀ id payment, db.payments.get? id = some payment → payment.status = .failed →
    db.refundsOf id = []
  stays : ∀ id payment, db.payments.get? id = some payment → payment.failureReason ≠ none →
    payment.status = .failed
  matches_ : ∀ id refund, db.refunds.get? id = some refund →
    ∃ payment, db.payments.get? refund.paymentId = some payment ∧
      refund.orderId = payment.orderId ∧ refund.customerId = payment.customerId ∧
      refund.currency = payment.currency

theorem refundsBalanced_empty : RefundsBalanced {} := by
  constructor <;> simp

/-! ### The two tables -/

def paymentTables (t : Table) : Bool := t = .payments ∨ t = .refunds

theorem payments_of_restrict {db db' : Db}
    (same : db.restrict paymentTables = db'.restrict paymentTables) : db.payments = db'.payments := by
  simpa [Db.restrict, paymentTables] using congrArg Db.payments same

theorem refunds_of_restrict {db db' : Db}
    (same : db.restrict paymentTables = db'.restrict paymentTables) : db.refunds = db'.refunds := by
  simpa [Db.restrict, paymentTables] using congrArg Db.refunds same

theorem refundsOf_congr {db db' : Db} (same : db'.refunds = db.refunds) (id : UUID) :
    db'.refundsOf id = db.refundsOf id := by
  simp [Db.refundsOf, same]

theorem RefundsBalanced.congr {db db' : Db} (h : RefundsBalanced db)
    (payments : db'.payments = db.payments) (refunds : db'.refunds = db.refunds) :
    RefundsBalanced db' := by
  have same := refundsOf_congr refunds
  refine ⟨fun id payment found => ?_, fun id payment found failed => ?_,
    fun id payment found => h.stays id payment (payments ▸ found), fun id refund found => ?_⟩
  · rw [Db.refunded, same]; exact h.balanced id payment (payments ▸ found)
  · rw [same]; exact h.failed id payment (payments ▸ found) failed
  · rw [payments]; exact h.matches_ id refund (refunds ▸ found)

/-- A payment that is not there has no refunds. -/
theorem RefundsBalanced.refundsOf_absent {db : Db} (h : RefundsBalanced db) {id : UUID}
    (absent : db.payments.get? id = none) : db.refundsOf id = [] := by
  refine List.filter_eq_nil_iff.mpr fun refund mem => ?_
  obtain ⟨key, found⟩ := Dict.mem_values.mp mem
  obtain ⟨payment, present, -⟩ := h.matches_ key refund found
  intro same
  rw [of_decide_eq_true same, absent] at present
  cases present

/-! ### The two updates -/

section

variable {db db' : Db} (h : RefundsBalanced db) {id : UUID}

include h

theorem RefundsBalanced.insertPayment {payment : Payment} (absent : db.payments.get? id = none)
    (positive : 0 < payment.amount)
    (status : payment.status = .completed ∧ payment.failureReason = none ∨ payment.status = .failed)
    (payments : db'.payments = db.payments.set id payment) (refunds : db'.refunds = db.refunds) :
    RefundsBalanced db' := by
  have same := refundsOf_congr refunds
  have fresh : db'.refundsOf id = [] := (same id).trans (h.refundsOf_absent absent)
  have unrefunded : payment.status = .completed ∨ payment.status = .failed := status.imp_left And.left
  refine ⟨fun key row found => ?_, fun key row found failed => ?_, fun key row found reason => ?_,
    fun key refund found => ?_⟩
  · rw [payments, Dict.get?_set] at found
    split at found
    · rename_i eq
      cases found
      rw [eq, show db'.refunded id = 0 by simp [Db.refunded, fresh]]
      refine ⟨positive.le, ?_, ?_, iff_of_true unrefunded rfl⟩
      · refine iff_of_false (fun refunded => ?_) positive.ne
        rcases unrefunded with s | s <;> rw [s] at refunded <;> cases refunded
      · refine iff_of_false (fun partially => ?_) (fun sum => lt_irrefl _ sum.1)
        rcases unrefunded with s | s <;> rw [s] at partially <;> cases partially
    · rw [Db.refunded, same]
      exact h.balanced key row found
  · rw [payments, Dict.get?_set] at found
    split at found
    · rename_i eq; rw [eq]; exact fresh
    · rw [same]
      exact h.failed key row found failed
  · rw [payments, Dict.get?_set] at found
    split at found
    · cases found; exact status.resolve_left fun s => reason s.2
    · exact h.stays key row found reason
  · rw [refunds] at found
    obtain ⟨row, present, agree⟩ := h.matches_ key refund found
    refine ⟨row, ?_, agree⟩
    rw [payments, Dict.get?_set_ne _ _ fun eq => by rw [eq, absent] at present; cases present]
    exact present

/-- The status written for the new total of refunds. -/
def statusAfter (newTotal paid : Rat) : PaymentStatus :=
  if newTotal = paid then .refunded else .partiallyRefunded

omit h in
theorem refundsOf_insert {refund : Refund} (absent : db.refunds.get? id = none)
    (refunds : db'.refunds = db.refunds.set id refund) (paymentId : UUID) :
    db'.refundsOf paymentId =
      db.refundsOf paymentId ++ if refund.paymentId = paymentId then [refund] else [] := by
  simp only [Db.refundsOf, refunds, Dict.values_set_new absent, List.filter_append]
  by_cases same : refund.paymentId = paymentId <;> simp [same]

/-- While something is left to refund, what was refunded is not negative. -/
theorem RefundsBalanced.nonneg {payment : Payment} (found : db.payments.get? id = some payment)
    (left_ : db.refunded id < payment.amount) : 0 ≤ db.refunded id := by
  have balanced := h.balanced id payment found
  cases status : payment.status with
  | completed => exact (balanced.unrefunded_iff.mp (Or.inl status)).ge
  | failed => exact (balanced.unrefunded_iff.mp (Or.inr status)).ge
  | partiallyRefunded => exact (balanced.partially_iff.mp status).1.le
  | refunded => exact absurd (balanced.refunded_iff.mp status) left_.ne

theorem RefundsBalanced.insertRefund {refund : Refund} {payment : Payment}
    (absent : db.refunds.get? id = none)
    (found : db.payments.get? refund.paymentId = some payment)
    (successful : payment.status ≠ .failed)
    (agree : refund.orderId = payment.orderId ∧ refund.customerId = payment.customerId ∧
      refund.currency = payment.currency)
    (positive : 0 < refund.amount)
    (within : db.refunded refund.paymentId + refund.amount ≤ payment.amount)
    (refunds : db'.refunds = db.refunds.set id refund)
    (payments : db'.payments = db.payments.set refund.paymentId { payment with
      status := statusAfter (db.refunded refund.paymentId + refund.amount) payment.amount }) :
    RefundsBalanced db' := by
  have lists := refundsOf_insert absent refunds
  have total : db'.refunded refund.paymentId = db.refunded refund.paymentId + refund.amount := by
    simp [Db.refunded, lists]
  have others : ∀ key, key ≠ refund.paymentId → db'.refundsOf key = db.refundsOf key := by
    intro key ne
    rw [lists key, if_neg (Ne.symm ne), List.append_nil]
  refine ⟨fun key row present => ?_, fun key row present failed => ?_,
    fun key row present reason => ?_, fun key row present => ?_⟩
  · rw [payments, Dict.get?_set] at present
    split at present
    · rename_i eq
      cases present
      rw [eq, total]
      have some_ : 0 < db.refunded refund.paymentId + refund.amount := by
        have := h.nonneg found (by linarith)
        linarith
      refine ⟨within, ?_, ?_, ?_⟩
      · simp [statusAfter]
      · simp only [statusAfter]
        split
        · rename_i full; simp [full]
        · rename_i short
          exact iff_of_true rfl ⟨some_, lt_of_le_of_ne within short⟩
      · refine iff_of_false (fun s => ?_) some_.ne'
        simp only [statusAfter] at s
        split at s <;> simp at s
    · rename_i ne
      rw [Db.refunded, others key ne]
      exact h.balanced key row present
  · rw [payments, Dict.get?_set] at present
    split at present
    · cases present
      simp only [statusAfter] at failed
      split at failed <;> cases failed
    · rename_i ne
      rw [others key ne]
      exact h.failed key row present failed
  · rw [payments, Dict.get?_set] at present
    split at present
    · cases present; exact absurd (h.stays _ _ found reason) successful
    · exact h.stays key row present reason
  · rw [refunds, Dict.get?_set] at present
    rw [payments]
    split at present
    · cases present
      exact ⟨_, Dict.get?_set_self _ _ _, agree⟩
    · obtain ⟨old, oldFound, oldAgree⟩ := h.matches_ key row present
      by_cases eq : row.paymentId = refund.paymentId
      · rw [eq, found] at oldFound
        cases oldFound
        rw [eq]
        exact ⟨_, Dict.get?_set_self _ _ _, oldAgree⟩
      · exact ⟨old, by rw [Dict.get?_set_ne _ _ eq]; exact oldFound, oldAgree⟩

end

/-! ### What the locks guard -/

/-- A locked payment keeps its row and its refunds; a locked refund key keeps its row. -/
def paymentAgree : Lock → Db → Db → Prop
  | .row .payments id, db, db' =>
    db'.payments.get? id = db.payments.get? id ∧ db'.refundsOf id = db.refundsOf id
  | .row .refunds id, db, db' => db'.refunds.get? id = db.refunds.get? id
  | _, _, _ => True

theorem paymentAgree_of_eq {db db' : Db} (payments : db'.payments = db.payments)
    (refunds : db'.refunds = db.refunds) (l : Lock) : paymentAgree l db db' := by
  unfold paymentAgree
  split
  · exact ⟨by rw [payments], refundsOf_congr refunds _⟩
  · rw [refunds]
  · trivial

theorem paymentAgree_of_payment {db db' : Db} {id : UUID} {payment : Payment}
    (payments : db'.payments = db.payments.set id payment) (refunds : db'.refunds = db.refunds)
    {l : Lock} (free : l ≠ .row .payments id) : paymentAgree l db db' := by
  unfold paymentAgree
  split
  · rename_i key
    have ne : key ≠ id := fun eq => free (by rw [eq])
    exact ⟨by rw [payments, Dict.get?_set_ne _ _ ne], refundsOf_congr refunds _⟩
  · rw [refunds]
  · trivial

theorem paymentAgree_of_refund {db db' : Db} {id : UUID} {refund : Refund} {payment : Payment}
    (absent : db.refunds.get? id = none) (refunds : db'.refunds = db.refunds.set id refund)
    (payments : db'.payments = db.payments.set refund.paymentId payment) {l : Lock}
    (free : l ≠ .row .payments refund.paymentId) (free' : l ≠ .row .refunds id) :
    paymentAgree l db db' := by
  unfold paymentAgree
  split
  · rename_i key
    have ne : key ≠ refund.paymentId := fun eq => free (by rw [eq])
    refine ⟨by rw [payments, Dict.get?_set_ne _ _ ne], ?_⟩
    rw [refundsOf_insert absent refunds, if_neg (Ne.symm ne), List.append_nil]
  · rename_i key
    rw [refunds, Dict.get?_set_ne _ _ fun eq => free' (by rw [eq])]
  · trivial

theorem paymentAgree_guard : IsGuard (D := database .exact) paymentAgree where
  refl l db := paymentAgree_of_eq rfl rfl l
  trans l db db' db'' first next := by
    unfold paymentAgree at *
    split
    · exact ⟨next.1.trans first.1, next.2.trans first.2⟩
    · exact next.trans first
    · trivial

/-! ### The bodies -/

/-- The invariant, on committed databases. -/
def Balanced (c : (database .exact).Committed PersistCall) : Prop := RefundsBalanced c.db

/-- What a transaction knows about payments and refunds. -/
abbrev Knows (rel : List Write) (need : List Lock) (P : Db → Prop) :
    Assn (database .exact) PersistCall :=
  Holds (D := database .exact) Balanced (touches paymentTables) rel need P

abbrev PaymentsSettled (call : PersistCall) : Assn (database .exact) PersistCall :=
  Settled (D := database .exact) Balanced paymentAgree (touches paymentTables) call

abbrev paymentsWp {α : Type} (p : Sql α) (Q : α → Assn (database .exact) PersistCall) :
    Assn (database .exact) PersistCall :=
  wp (D := database .exact) Balanced paymentAgree p Q

theorem seen_payments {c : (database .exact).Committed PersistCall} {ws rel : List Write}
    (only : ws.filter (touches paymentTables) = rel) :
    ((database .exact).view c.db ws).payments = ((database .exact).view c.db rel).payments :=
  payments_of_restrict (only ▸ restrict_view_filter _ _ _)

theorem seen_refunds {c : (database .exact).Committed PersistCall} {ws rel : List Write}
    (only : ws.filter (touches paymentTables) = rel) :
    ((database .exact).view c.db ws).refunds = ((database .exact).view c.db rel).refunds :=
  refunds_of_restrict (only ▸ restrict_view_filter _ _ _)

section

variable {call : PersistCall} {c : (database .exact).Committed PersistCall} {ws : List Write}
  {ls : List Lock}

/-- A transaction that writes neither table may commit. -/
theorem paymentsSettled_nil (h : Knows [] [] (fun _ => True) c ws ls) :
    PaymentsSettled call c ws ls := by
  refine ⟨[], [], _, fun _ _ _ _ => trivial, h, fun c' ws' inv _ only _ => ⟨?_, fun l _ => ?_⟩⟩
  · exact RefundsBalanced.congr inv (seen_payments only) (seen_refunds only)
  · exact paymentAgree_of_eq (seen_payments only) (seen_refunds only) l

theorem nothing_guarded : Guards (D := database .exact) paymentAgree [] fun _ => True :=
  fun _ _ _ _ => trivial

/-- A payment row that was added. -/
theorem insertPayment_added {paymentId : UUID} {row : Payment} {seen : Db} {count : Nat}
    (passed : ∀ x ∈ (Stmt.insertPayment paymentId row).constraints .exact seen, x.1 = true)
    (counted : count = (Stmt.insertPayment paymentId row).answer seen) (added : count ≠ 0) :
    seen.payments.get? paymentId = none ∧ 0 < row.amount ∧
      (Stmt.insertPayment paymentId row).writes .exact seen = [.payments paymentId row] ∧
      .row .payments paymentId ∈ (Stmt.insertPayment paymentId row).locks seen := by
  have positive : 0 < row.amount := Stmt.positive_passed .exact
    (List.forall_mem_append.mp passed).1
  subst counted
  have absent : seen.payments.get? paymentId = none := Stmt.absent_of_inserted added
  simp [Stmt.writes, Stmt.locks, absent, positive]

theorem insertPayment_settled {paymentId : UUID} {row : Payment}
    (status : row.status = .completed ∧ row.failureReason = none ∨ row.status = .failed)
    (h : Knows [] [] (fun _ => True) c ws ls) :
    paymentsWp (insertPayment paymentId row) (fun _ => PaymentsSettled call) c ws ls := by
  refine wp_sql nothing_guarded h fun c h seen _ _ order _ => ?_
  split
  · trivial
  split
  · trivial
  refine wp_sql nothing_guarded (h.skip (by simp [Stmt.writes]) _)
    fun c h seen view passed payments counted => ?_
  split
  · trivial
  rename_i added
  obtain ⟨absent, positive, wrote, locked⟩ := insertPayment_added passed counted added
  rw [show seen.payments = c.db.payments from view ▸ seen_payments h.rel] at absent
  refine wp_settled (Writes.irrelevant (T := [.orders])
    (.ite (.bind (.update rfl (by simp)) fun _ => .pure _) (.pure _)) (by decide)) ?_
  refine ⟨[.payments paymentId row], [.row .payments paymentId],
    fun db => db.payments.get? paymentId = none, ?_, ⟨h.inv, ?_, ?_, absent⟩, ?_⟩
  · intro db db' agree absent
    have agree : paymentAgree (.row .payments paymentId) db db' := agree _ (by simp)
    exact agree.1.trans absent
  · rw [List.filter_append, h.rel, wrote]
    rfl
  · exact fun l mem => List.mem_append_right _ (List.mem_singleton.mp mem ▸ locked)
  · intro c' ws' inv absent only _
    have payments := seen_payments (c := c') only
    have refunds := seen_refunds (c := c') only
    exact ⟨RefundsBalanced.insertPayment inv absent positive status payments refunds,
      fun l free => paymentAgree_of_payment payments refunds (by simpa using free)⟩

/-- A refund row that was added. -/
theorem insertRefund_added {refundId : UUID} {row : Refund} {seen : Db} {count : Nat}
    (passed : ∀ x ∈ (Stmt.insertRefund refundId row).constraints .exact seen, x.1 = true)
    (counted : count = (Stmt.insertRefund refundId row).answer seen) (added : count ≠ 0) :
    seen.refunds.get? refundId = none ∧ 0 < row.amount ∧
      (Stmt.insertRefund refundId row).writes .exact seen = [.refunds refundId row] ∧
      .row .refunds refundId ∈ (Stmt.insertRefund refundId row).locks seen := by
  have positive : 0 < row.amount := Stmt.positive_passed .exact
    (List.forall_mem_append.mp passed).1
  subst counted
  have absent : seen.refunds.get? refundId = none := Stmt.absent_of_inserted added
  simp [Stmt.writes, Stmt.locks, absent, positive]

/-- Under the lock of the payment, its row and the sum of its refunds are known. -/
def paymentKnown (paymentId : UUID) (payment : Payment) (refunded : Rat) (db : Db) : Prop :=
  db.payments.get? paymentId = some payment ∧ db.refunded paymentId = refunded

theorem paymentKnown_guarded {paymentId : UUID} {payment : Payment} {refunded : Rat} {db db' : Db}
    (same : paymentAgree (.row .payments paymentId) db db')
    (known : paymentKnown paymentId payment refunded db) :
    paymentKnown paymentId payment refunded db' :=
  ⟨same.1.trans known.1, by rw [Db.refunded, same.2]; exact known.2⟩

theorem recordRefund_settled {payload : RefundRequestedPayload} {eventId : UUID}
    {payment : Payment} {refunded : Rat} (successful : payment.status ≠ .failed)
    (agree : payload.orderId = payment.orderId ∧ payload.customerId = payment.customerId ∧
      payload.currency = payment.currency)
    (h : Knows [] [.row .payments payload.paymentId]
      (paymentKnown payload.paymentId payment refunded) c ws ls) :
    paymentsWp (recordRefund .exact payload eventId payment.amount refunded)
      (fun _ => PaymentsSettled call) c ws ls := by
  have guards : Guards (D := database .exact) paymentAgree [.row .payments payload.paymentId]
      (paymentKnown payload.paymentId payment refunded) :=
    fun db db' same known => paymentKnown_guarded (same _ (by simp)) known
  refine wp_ite (fun _ => trivial) fun within => ?_
  refine wp_sql guards h fun c h seen view passed refunds counted => ?_
  split
  · trivial
  rename_i added
  obtain ⟨absent, positive, wrote, locked⟩ := insertRefund_added passed counted added
  rw [show seen.refunds = c.db.refunds from view ▸ seen_refunds h.rel] at absent
  set row := refundRow payload eventId
  -- The key of the refund is locked too, and stays free.
  let need : List Lock := [.row .payments payload.paymentId, .row .refunds payload.refundId]
  let known (db : Db) : Prop :=
    paymentKnown payload.paymentId payment refunded db ∧ db.refunds.get? payload.refundId = none
  have guards : Guards (D := database .exact) paymentAgree need known := by
    intro db db' same known
    have key : paymentAgree (.row .refunds payload.refundId) db db' := same _ (by simp [need])
    exact ⟨paymentKnown_guarded (same _ (by simp [need])) known.1, key.trans known.2⟩
  have h : Knows [.refunds payload.refundId row] need known c
      (ws ++ (Stmt.insertRefund payload.refundId row).writes .exact seen)
      (ls ++ (Stmt.insertRefund payload.refundId row).locks seen) := by
    refine ⟨h.inv, ?_, ?_, h.known, absent⟩
    · rw [List.filter_append, h.rel, wrote]
      rfl
    · simp only [need, List.forall_mem_cons]
      exact ⟨List.mem_append_left _ (h.need _ (by simp)), List.mem_append_right _ locked, by simp⟩
  refine wp_sql guards h fun c h seen view _ _ _ => ?_
  have updated : ∀ status, (Stmt.updatePayment payload.paymentId status).writes .exact seen =
      [.payments payload.paymentId { payment with status }] := by
    intro status
    have same : seen.payments = c.db.payments := view ▸ seen_payments h.rel
    simp [Stmt.writes, same, h.known.1.1]
  refine wp_settled (Writes.irrelevant (T := [.orders])
    (.bind (.update rfl (by simp)) fun _ => .pure _) (by decide)) ?_
  refine ⟨[.refunds payload.refundId row, .payments payload.paymentId { payment with
    status := statusAfter (refunded + payload.amount.value) payment.amount }], need, known, guards,
    ⟨h.inv, ?_, fun l mem => List.mem_append_left _ (h.need l mem), h.known⟩, ?_⟩
  · rw [List.filter_append, h.rel, updated]
    rfl
  · intro c' ws' inv known only _
    have payments := seen_payments (c := c') only
    have refunds := seen_refunds (c := c') only
    obtain ⟨⟨found, sum⟩, absent⟩ := known
    subst sum
    refine ⟨RefundsBalanced.insertRefund inv absent found successful agree positive
      (not_lt.mp within) refunds payments, fun l free => ?_⟩
    simp only [need, List.mem_cons, List.not_mem_nil, or_false, not_or] at free
    exact paymentAgree_of_refund absent refunds payments free.1 free.2

theorem insertRefund_settled {payload : RefundRequestedPayload} {eventId : UUID}
    (h : Knows [] [] (fun _ => True) c ws ls) :
    paymentsWp (insertRefund .exact payload eventId) (fun _ => PaymentsSettled call) c ws ls := by
  refine wp_sql nothing_guarded h fun c h seen view _ fetched answered => ?_
  split
  · trivial
  rename_i payment
  refine wp_ite (fun _ => trivial) fun status => wp_ite (fun _ => trivial) fun agree => ?_
  push Not at agree
  have successful : payment.status ≠ .failed := fun failed => status (by simp [failed])
  have present : seen.payments.get? payload.paymentId = some payment := answered.symm
  have found : c.db.payments.get? payload.paymentId = some payment := by
    rw [← present, show seen.payments = c.db.payments from view ▸ seen_payments h.rel]
  have locked : Knows [] [.row .payments payload.paymentId]
      (paymentKnown payload.paymentId payment (c.db.refunded payload.paymentId)) c
      (ws ++ (Stmt.lockPayment payload.paymentId).writes .exact seen)
      (ls ++ (Stmt.lockPayment payload.paymentId).locks seen) := by
    have h := h.skip (W := (Stmt.lockPayment payload.paymentId).writes .exact seen)
      (by simp [Stmt.writes]) ((Stmt.lockPayment payload.paymentId).locks seen)
    refine ⟨h.inv, h.rel, fun l mem => List.mem_append_right _ ?_, found, rfl⟩
    simpa [Stmt.locks, Stmt.lockRow, present] using mem
  generalize c.db.refunded payload.paymentId = sum at locked
  refine wp_sql (fun db db' same known => paymentKnown_guarded (same _ (by simp)) known) locked
    fun c h seen view _ refunded answered => ?_
  have summed : refunded = sum := by
    have same : seen.refunds = c.db.refunds := view ▸ seen_refunds h.rel
    rw [answered, Stmt.answer, Db.refunded, refundsOf_congr same]
    exact h.known.2
  subst summed
  exact recordRefund_settled successful ⟨agree.1.symm, agree.2.1.symm, agree.2.2.symm⟩
    (h.skip (by simp [Stmt.writes]) _)

variable (call) in
theorem applyHandler_settled (rt : Runtime) (event : EventEnvelope)
    (h : Knows [] [] (fun _ => True) c ws ls) :
    paymentsWp (applyHandler rt .exact event) (fun _ => PaymentsSettled call) c ws ls := by
  have frame {p : Sql RowCounts} {ts : List Table} (writes : Writes ts p)
      (elsewhere : ∀ t ∈ ts, paymentTables t = false) :
      paymentsWp p (fun _ => PaymentsSettled call) c ws ls :=
    wp_settled (writes.irrelevant elsewhere) (paymentsSettled_nil h)
  have writes := applyHandler_writes rt .exact event
  unfold applyHandler at writes ⊢
  unfold EventEnvelope.eventType at writes
  cases payload : event.payload with
  | paymentCompleted payload => exact insertPayment_settled (Or.inl ⟨rfl, rfl⟩) h
  | paymentFailed payload => exact insertPayment_settled (Or.inr rfl) h
  | refundRequested payload => exact insertRefund_settled h
  | _ =>
    rw [payload] at writes
    exact frame writes (by simp [handlerTables, Payload.eventType, paymentTables])

end

/-- Every transaction keeps payments and refunds balanced. -/
theorem transaction_balanced {uow : UnitOfWork} (exact_ : uow.arith = .exact) (call : PersistCall)
    (c : (database .exact).Committed PersistCall) (inv : Balanced c) :
    paymentsWp (uow.transaction call)
      (fun _ => CommitSafe (D := database .exact) Balanced paymentAgree call) c [] [] := by
  have weaken : ∀ (_ : PersistenceResult) c ws ls, PaymentsSettled call c ws ls →
      CommitSafe (D := database .exact) Balanced paymentAgree call c ws ls :=
    fun _ _ _ _ settled => settled.commitSafe
  refine wp_mono ?_ weaken
  unfold UnitOfWork.transaction
  rw [exact_]
  have start : Knows [] [] (fun _ => True) c [] [] := ⟨inv, rfl, by simp, trivial⟩
  refine wp_then (wp_frame ((insertIdentity_writes _ _ _ _ _).irrelevant (by decide))
    nothing_guarded start) fun _ c ws ls h => ?_
  refine wp_then (applyHandler_settled call _ _ h) fun counts c ws ls settled => ?_
  refine wp_ite (fun _ => ?_) fun _ => settled
  exact wp_settled ((fraudStage_writes uow call _).irrelevant (by decide)) settled

/-- In every committed state of every interleaving of transactions no payment is
refunded beyond its amount, and its status says how far it is refunded. -/
theorem refunds_balanced {ι : Type} [DecidableEq ι] {uow : UnitOfWork}
    (exact_ : uow.arith = .exact) {db : Db} (start : RefundsBalanced db)
    {acts : List (ι × Act PersistCall)} {st : (database .exact).Store ι PersistCall PyException _}
    (ran : (machine uow.transaction).run { committed := ⟨db, []⟩ } acts = some st) :
    RefundsBalanced st.committed.db := by
  have inv : Balanced ⟨db, []⟩ := start
  exact run_inv paymentAgree_guard (fun _ call _ => transaction_balanced exact_ call) inv ran

/-! ### Two refunds racing for one payment -/

section

/-- A unit of work without fraud engine. -/
def plainUow : UnitOfWork where
  rt := { canonicalJson := fun event => event.eventId.str, sha256Hex := id, uuid5 := fun ns _ => ns }
  arith := .exact
  fraudConfig := { engineEnabled := false }
  rules := []

def plainCall (n : Nat) (payload : Payload) : PersistCall where
  event :=
    { eventId := .ofNat n, eventVersion := 1, eventTime := 0, producedAt := 0, source := "test"
      correlationId := .ofNat 0, payload }
  message := ⟨"commerce.events", 0, n, none, none, none, []⟩
  processorInstanceId := "p"
  now := 0

def plainAddress : IpAddress := { text := "192.0.2.1" }

/-- An order of 100, and a payment of it. -/
def plainDb : Db :=
  { processedEvents := Dict.empty.set (.ofNat 6)
      ⟨.paymentCompleted, 1, .ofNat 0, "test", 0, 0, "commerce.events", 0, 6, none, "", "", "p"⟩
    customers := Dict.empty.set (.ofNat 1) ⟨"h", .normal, "TR", 0, .ofNat 6, .ofNat 6⟩
    orders := Dict.empty.set (.ofNat 2)
      ⟨.ofNat 1, .ofNat 3, .ofNat 4, .paid, 100, 0, 100, .eur, 1, "TR", "TR", .ofNat 6, .ofNat 6, 0⟩
    payments := Dict.empty.set (.ofNat 5)
      ⟨.ofNat 2, .ofNat 1, .completed, 100, .eur, .creditCard, none, "d", plainAddress,
        "TR", .ofNat 6, 0⟩ }

def plainRefund (n : Nat) : PersistCall :=
  plainCall n (.refundRequested
    ⟨.ofNat n, .ofNat 5, .ofNat 2, .ofNat 1, { coefficient := 60 }, .eur, "r", 0⟩)

/-- Session 0 locks the payment first; session 1 waits for it and then sees its refund. -/
def race : List (Nat × Act PersistCall) :=
  [(0, .begin (plainRefund 10)), (1, .begin (plainRefund 11))] ++ List.replicate 4 (0, .statement) ++
    List.replicate 3 (1, .statement) ++ List.replicate 4 (0, .statement) ++ [(0, .commit)] ++
    List.replicate 2 (1, .statement)

theorem plainDb_balanced : RefundsBalanced plainDb :=
  refundsBalanced_empty.insertPayment rfl (by decide) (Or.inl ⟨rfl, rfl⟩) rfl rfl

/-- Only one of the two refunds of 60 is committed. -/
theorem refunds_balanced_race :
    ∃ st : (database .exact).Store Nat PersistCall PyException PersistenceResult,
      (machine plainUow.transaction).run { committed := ⟨plainDb, []⟩ } race = some st ∧
      RefundsBalanced st.committed.db ∧ st.committed.db.refunded (.ofNat 5) = 60 := by
  let M : Machine ((database .exact).Store Nat PersistCall PyException PersistenceResult) _ :=
    machine plainUow.transaction
  have sum : (M.run { committed := ⟨plainDb, []⟩ } race).map
      (fun st => st.committed.db.refunded (.ofNat 5)) = some 60 := by decide +kernel
  obtain ⟨st, ran, refunded⟩ := Option.map_eq_some_iff.mp sum
  exact ⟨st, ran, refunds_balanced rfl plainDb_balanced ran, refunded⟩

end

end CommercePlatform.Persistence
