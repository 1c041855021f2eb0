import CommercePlatform.Persistence.UnitOfWork
import CommercePlatform.Persistence.Frame

/-!
What the body of a transaction can raise.

The repositories raise `MissingBusinessDependencyError` and
`PermanentDatabaseIntegrityError`, and their decimal arithmetic `decimal.Overflow`. The
fraud stage adds the errors of its context and of the engine, and the `OverflowError` of
an instant before the year 1. Only `insert_identity` raises `AlreadyPersistedEvent`.
-/

namespace CommercePlatform.Persistence

open Contract Fraud

/-- Every exception of the body satisfies `P`. -/
abbrev Raises {α : Type} (P : PyException → Prop) (p : Sql α) : Prop := p.Throws P

namespace Raises

variable {α β : Type} {P : PyException → Prop}

theorem query (s : Stmt) : Raises P (sql s) := fun _ => trivial

theorem pure (a : α) : Raises P (Pure.pure a : Sql α) := trivial

theorem raise {cls : ErrorClass} {message : String} (allowed : P (.raised cls message)) :
    Raises P (Persistence.raise cls message : Sql α) := allowed

theorem compute {r : Except PyException α} (allowed : ∀ e, r = .error e → P e) :
    Raises P (Persistence.compute r) := by
  cases r with
  | ok a => trivial
  | error e => exact allowed e rfl

theorem bind {p : Sql α} {f : α → Sql β} (first : Raises P p) (rest : ∀ a, Raises P (f a)) :
    Raises P (p >>= f) :=
  Prog.Throws.bind first rest

theorem ite {c : Prop} [Decidable c] {p q : Sql α} (then_ : Raises P p) (else_ : Raises P q) :
    Raises P (if c then p else q) := by
  split
  · exact then_
  · exact else_

end Raises

/-! ### The handlers -/

/-- The errors of the repositories. -/
inductive HandlerError : PyException → Prop
  | missing (message : String) : HandlerError (.raised .missingBusinessDependencyError message)
  | integrity (message : String) : HandlerError (.raised .permanentDatabaseIntegrityError message)
  | overflow : HandlerError .decimalOverflow

theorem orOverflow_error {r : Option Rat} {e : PyException}
    (raised : DecimalContext.orOverflow r = .error e) : e = .decimalOverflow := by
  cases r with
  | some _ => cases raised
  | none => cases raised; rfl

section

variable (rt : Runtime) (arith : Arithmetic) (eventId : UUID)

theorem arithmetic_raises (r : Option Rat) :
    Raises HandlerError (compute (DecimalContext.orOverflow r)) :=
  .compute fun _ raised => orOverflow_error raised ▸ .overflow

theorem registerCustomer_raises (payload : UserRegisteredPayload) :
    Raises HandlerError (registerCustomer payload eventId) := by
  refine .bind (.query _) fun existing => ?_
  split
  · exact .ite (.raise (.integrity _)) (.bind (.query _) fun _ => .pure _)
  · exact .bind (.query _) fun _ => .pure _

theorem requireCustomer_raises (customerId : UUID) :
    Raises HandlerError (requireCustomer customerId) :=
  .bind (.query _) fun _ => .ite (.pure _) (.raise (.missing _))

theorem requireSession_raises (sessionId : UUID) :
    Raises HandlerError (requireSession sessionId) :=
  .bind (.query _) fun _ => .ite (.pure _) (.raise (.missing _))

theorem insertSession_raises (payload : SessionStartedPayload) :
    Raises HandlerError (insertSession payload eventId) := by
  refine .bind (requireCustomer_raises _) fun _ => .bind (.query _) fun existing => ?_
  split
  · exact .ite (.raise (.integrity _)) (.pure _)
  · exact .bind (.query _) fun _ => .pure _

theorem insertProductView_raises (payload : ProductViewedPayload) (viewedAt : Instant) :
    Raises HandlerError (insertProductView payload eventId viewedAt) :=
  .bind (requireCustomer_raises _) fun _ => .bind (requireSession_raises _) fun _ => .query _

theorem addItem_raises (payload : AddedToCartPayload) :
    Raises HandlerError (addItem arith payload eventId) :=
  .bind (requireCustomer_raises _) fun _ => .bind (requireSession_raises _) fun _ =>
    .bind (arithmetic_raises _) fun _ => .bind (.query _) fun _ => .ite (.raise (.integrity _))
      (.bind (.query _) fun _ => .bind (.query _) fun _ => .pure _)

theorem checkout_raises (payload : CheckoutStartedPayload) :
    Raises HandlerError (checkout payload eventId) := by
  refine .bind (.query _) fun row => ?_
  split
  · exact .raise (.missing _)
  · exact .ite (.raise (.integrity _)) (.query _)

theorem insertOrder_raises (payload : OrderCreatedPayload) :
    Raises HandlerError (insertOrder payload eventId) := by
  refine .bind (.query _) fun row => ?_
  split
  · exact .raise (.missing _)
  · exact .ite (.raise (.integrity _)) (.bind (.query _) fun _ => .ite (.raise (.integrity _))
      (.bind (.query _) fun _ => .pure _))

theorem insertPayment_raises (paymentId : UUID) (row : Payment) :
    Raises HandlerError (insertPayment paymentId row) := by
  refine .bind (.query _) fun order => ?_
  split
  · exact .raise (.missing _)
  · exact .ite (.raise (.integrity _)) (.bind (.query _) fun _ => .ite (.raise (.integrity _))
      (.ite (.bind (.query _) fun _ => .pure _) (.pure _)))

theorem recordRefund_raises (payload : RefundRequestedPayload) (paid refunded : Rat) :
    Raises HandlerError (recordRefund arith payload eventId paid refunded) :=
  .bind (arithmetic_raises _) fun _ => .ite (.raise (.integrity _)) (.bind (.query _) fun _ =>
    .ite (.raise (.integrity _)) (.bind (arithmetic_raises _) fun _ => .bind (.query _) fun _ =>
      .bind (.query _) fun _ => .pure _))

theorem insertRefund_raises (payload : RefundRequestedPayload) :
    Raises HandlerError (insertRefund arith payload eventId) := by
  refine .bind (.query _) fun payment => ?_
  split
  · exact .raise (.missing _)
  · exact .ite (.raise (.integrity _)) (.ite (.raise (.integrity _)) (.bind (.query _) fun _ =>
      recordRefund_raises _ _ _ _ _))

theorem applyHandler_raises (event : EventEnvelope) :
    Raises HandlerError (applyHandler rt arith event) := by
  unfold applyHandler
  cases event.payload with
  | userRegistered payload => exact .bind (registerCustomer_raises _ payload) fun _ => .pure _
  | sessionStarted payload => exact .bind (insertSession_raises _ payload) fun _ => .pure _
  | productViewed payload => exact .bind (insertProductView_raises _ payload _) fun _ => .pure _
  | addedToCart payload => exact addItem_raises arith _ payload
  | checkoutStarted payload => exact .bind (checkout_raises _ payload) fun _ => .pure _
  | orderCreated payload => exact insertOrder_raises _ payload
  | paymentCompleted payload => exact insertPayment_raises _ _
  | paymentFailed payload => exact insertPayment_raises _ _
  | refundRequested payload => exact insertRefund_raises arith _ payload
  | fraudAlertCreated payload => exact .bind (.query _) fun _ => .pure _

end

/-! ### The fraud stage -/

/-- The errors of the fraud stage. -/
inductive StageError : PyException → Prop
  | context (message : String) : StageError (.raised .fraudContextDependencyError message)
  | rule (message : String) : StageError (.raised .permanentProcessingError message)
  | configuration {e : ProcessorError} : e.isInstance .fraudRuleConfigurationError = true →
      StageError (.processor e)
  | integrity (message : String) : StageError (.raised .fraudEvaluationIntegrityError message)
  | negativeScore : StageError .valueError
  | beforeYearOne : StageError .overflowError
  | overflow : StageError .decimalOverflow

theorem subtract_error {instant : Instant} {microseconds : Int} {e : PyException}
    (raised : instant.subtract microseconds = .error e) : e = .overflowError := by
  unfold Instant.subtract at raised
  split at raised
  · cases raised
  · cases raised; rfl

theorem sumDecimals_error {arith : Arithmetic} {amounts : List Rat} {e : PyException}
    (raised : sumDecimals arith amounts = .error e) : e = .decimalOverflow := by
  have run : ∀ (amounts : List Rat) start, amounts.foldlM arith.add start = .error e →
      e = .decimalOverflow := by
    intro amounts
    induction amounts with
    | nil => intro start raised; cases raised
    | cons a amounts ih =>
      intro start raised
      rw [List.foldlM_cons] at raised
      cases added : arith.add start a with
      | ok sum => rw [added] at raised; exact ih sum raised
      | error e' =>
        rw [added] at raised
        cases raised
        exact orOverflow_error added
  exact run amounts 0 raised

/-- A failing step of a chain of computations. -/
theorem bind_error {α β : Type} {x : Except PyException α} {f : α → Except PyException β}
    {e : PyException} (raised : (x >>= f) = .error e) :
    x = .error e ∨ ∃ a, x = .ok a ∧ f a = .error e := by
  cases x with
  | error e' =>
    have same : Except.error e' = (Except.error e : Except PyException β) := raised
    cases same
    exact Or.inl rfl
  | ok a => exact Or.inr ⟨a, rfl, raised⟩

theorem contextOf_error {arith : Arithmetic} {config : FraudConfig} {event : EventEnvelope}
    {customerId : UUID} {history : History} {e : PyException}
    (raised : contextOf arith config event customerId history = .error e) : StageError e := by
  unfold contextOf at raised
  rcases bind_error raised with average | ⟨_, -, raised⟩
  · unfold historicalAverage at average
    split at average
    · cases average
    · rcases bind_error average with total | ⟨total, -, average⟩
      · exact sumDecimals_error total ▸ .overflow
      · rcases bind_error average with divided | ⟨_, -, done⟩
        · exact orOverflow_error divided ▸ .overflow
        · cases done
  rcases bind_error raised with start | ⟨_, -, raised⟩
  · exact subtract_error start ▸ .beforeYearOne
  rcases bind_error raised with start | ⟨_, -, raised⟩
  · exact subtract_error start ▸ .beforeYearOne
  rcases bind_error raised with start | ⟨_, -, raised⟩
  · exact subtract_error start ▸ .beforeYearOne
  rcases bind_error raised with spend | ⟨_, -, raised⟩
  · exact sumDecimals_error spend ▸ .overflow
  · cases raised

theorem mapM_error {α β : Type} {f : α → Except PyException β} {l : List α} {e : PyException}
    (raised : l.mapM f = .error e) : ∃ a ∈ l, f a = .error e := by
  induction l with
  | nil => cases raised
  | cons a l ih =>
    rw [List.mapM_cons] at raised
    rcases bind_error raised with first | ⟨_, -, raised⟩
    · exact ⟨a, List.mem_cons_self, first⟩
    · rcases bind_error raised with rest | ⟨_, -, raised⟩
      · obtain ⟨b, mem, failed⟩ := ih rest
        exact ⟨b, List.mem_cons_of_mem _ mem, failed⟩
      · cases raised

theorem apply_error {rule : FraudRule} {context : FraudContext} {e : PyException}
    (raised : rule.apply context = .error e) : StageError e := by
  unfold FraudRule.apply at raised
  split at raised
  · split at raised
    · cases raised; exact .configuration ‹_›
    · cases raised; exact .rule _
  · cases raised; exact .rule _
  · split at raised
    · cases raised; exact .configuration rfl
    · cases raised

theorem evaluate_error {rt : Runtime} {config : FraudConfig} {rules : List FraudRule}
    {context : FraudContext} {e : PyException}
    (raised : evaluate rt config rules context = .error e) : StageError e := by
  unfold evaluate at raised
  rcases bind_error raised with results | ⟨results, -, raised⟩
  · obtain ⟨rule, -, failed⟩ := mapM_error results
    exact apply_error failed
  rcases bind_error raised with aggregated | ⟨_, -, raised⟩
  · unfold aggregate at aggregated
    split at aggregated
    · cases aggregated; exact .negativeScore
    · cases aggregated
  · cases raised

section

variable (rt : Runtime) (arith : Arithmetic)

theorem build_raises (config : FraudConfig) (event : EventEnvelope) :
    Raises StageError (build arith config event) := by
  unfold build
  split
  · exact .raise (.context _)
  · rename_i customerId _
    refine .bind (.compute fun _ raised => subtract_error raised ▸ .beforeYearOne) fun lookback =>
      .bind ?_ fun history => .compute fun _ raised => contextOf_error raised
    have order : Raises StageError (customerAndOrder customerId event.payload.orderId) := by
      refine .bind (.query _) fun row => ?_
      split
      · exact .raise (.context _)
      · exact .pure _
    have session : Raises StageError (contextSession event.payload) := by
      unfold contextSession
      split
      · exact .pure _
      · split
        · exact .query _
        · exact .pure _
    have facts : Raises StageError (refundFacts event.payload.paymentId event.eventTime) := by
      unfold refundFacts
      split
      · exact .pure _
      · refine .bind (.query _) fun row => ?_
        split <;> exact .pure _
    exact .bind order fun _ => .bind session fun _ => .bind (.query _) fun _ =>
      .bind (.query _) fun _ => .bind (.query _) fun _ => .bind (.query _) fun _ =>
      .bind (.query _) fun _ => .bind (.query _) fun _ => .bind facts fun _ => .pure _

theorem persistEvaluation_raises (config : FraudConfig) (evaluation : FraudEvaluation)
    (event : EventEnvelope) (now : Instant) :
    Raises StageError (persistEvaluation rt config evaluation event now) := by
  refine .bind (.query _) fun existing => ?_
  split
  · split
    · exact .pure _
    · exact .raise (.integrity _)
  · refine .bind (.query _) fun _ => ?_
    split
    · exact .pure _
    · refine .bind (.query _) fun _ => ?_
      split
      · exact .bind (.query _) fun _ => .pure _
      · exact .pure _

theorem fraudStage_raises (uow : UnitOfWork) (call : PersistCall) (rows : Dict Table Nat) :
    Raises StageError (uow.fraudStage call rows) :=
  .bind (build_raises _ _ _) fun _ => .bind (.compute fun _ raised => evaluate_error raised) fun _ =>
    .bind (persistEvaluation_raises _ _ _ _ _) fun _ => .pure _

end

end CommercePlatform.Persistence
