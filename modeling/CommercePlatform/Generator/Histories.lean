import CommercePlatform.Generator.Lifecycle

/-!
What a life refers to.

Every identifier that an event refers to is introduced by an earlier event of the same life,
and so are the order of a payment, the checkout of an order and the payment of a refund. The
invariant is `Grounded`: what the stage of a life names has happened.
-/

namespace CommercePlatform.Generator

open Contract

/-! ### Identifiers -/

/-- The identifiers that an event brings into the life of its customer. -/
def introduces : Payload → List UUID
  | .userRegistered p => [p.customerId]
  | .sessionStarted p => [p.sessionId, p.deviceId]
  | .addedToCart p => [p.cartId]
  | .orderCreated p => [p.orderId]
  | .paymentCompleted p => [p.paymentId]
  | .paymentFailed p => [p.paymentId]
  | .refundRequested p => [p.refundId]
  | _ => []

/-- The identifiers of its customer's life that an event refers to. Products are of the
catalogue. -/
def refers : Payload → List UUID
  | .sessionStarted p => [p.customerId]
  | .productViewed p => [p.customerId, p.sessionId]
  | .addedToCart p => [p.customerId, p.sessionId]
  | .checkoutStarted p => [p.customerId, p.sessionId, p.cartId]
  | .orderCreated p => [p.customerId, p.sessionId, p.cartId]
  | .paymentCompleted p => [p.customerId, p.orderId, p.deviceId]
  | .paymentFailed p => [p.customerId, p.orderId, p.deviceId]
  | .refundRequested p => [p.customerId, p.orderId, p.paymentId]
  | _ => []

/-- An event introduces the identifier. -/
def Introduced (past : List EventEnvelope) (id : UUID) : Prop :=
  ∃ event ∈ past, id ∈ introduces event.payload

/-- An event with the payload is there. -/
def Happened (past : List EventEnvelope) (payload : Payload) : Prop :=
  ∃ event ∈ past, event.payload = payload

theorem Introduced.mono {past past' : List EventEnvelope} {id : UUID} (h : Introduced past id)
    (sub : past ⊆ past') : Introduced past' id := by
  obtain ⟨event, mem, here⟩ := h
  exact ⟨event, sub mem, here⟩

theorem Happened.introduced {past : List EventEnvelope} {payload : Payload} {id : UUID}
    (h : Happened past payload) (mem : id ∈ introduces payload) : Introduced past id := by
  obtain ⟨event, held, rfl⟩ := h
  exact ⟨event, held, mem⟩

/-! ### The invariant -/

/-- What the stage names has happened. -/
def Grounded (past : List EventEnvelope) : Stage → Prop
  | .unregistered | .registered | .refunded => True
  | .browsing sessionId => Introduced past sessionId
  | .carted cart => Introduced past cart.sessionId ∧ Introduced past cart.cartId
  | .checkedOut checkout =>
    Introduced past checkout.sessionId ∧ Introduced past checkout.cartId ∧
      Happened past (.checkoutStarted checkout)
  | .ordered order => Happened past (.orderCreated order)
  | .paid order payment =>
    Happened past (.orderCreated order) ∧ Happened past (.paymentCompleted payment) ∧
      payment.orderId = order.orderId ∧ payment.amount = order.totalAmount

theorem Happened.mono {past past' : List EventEnvelope} {payload : Payload}
    (h : Happened past payload) (sub : past ⊆ past') : Happened past' payload := by
  obtain ⟨event, mem, here⟩ := h
  exact ⟨event, sub mem, here⟩

theorem Grounded.step {past : List EventEnvelope} {event : EventEnvelope} {stage next : Stage}
    (h : Grounded past stage) (follows : Follows stage event.payload next) :
    Grounded (past ++ [event]) next := by
  have sub : past ⊆ past ++ [event] := List.subset_append_left _ _
  have last : event ∈ past ++ [event] := List.mem_append_right _ (List.mem_singleton_self _)
  have here : Happened (past ++ [event]) event.payload := ⟨event, last, rfl⟩
  revert here
  generalize event.payload = payload at follows
  intro here
  cases follows with
  | register p => trivial
  | visit p known => exact here.introduced List.mem_cons_self
  | view p session price stock => exact Introduced.mono h sub
  | add p session price line some_ few =>
    rw [Grounded, session]
    exact ⟨Introduced.mono h sub, here.introduced List.mem_cons_self⟩
  | checkout p checks =>
    rw [Grounded, checks.sessionId, checks.cartId]
    exact ⟨h.1.mono sub, h.2.mono sub, here⟩
  | order p orders => exact here
  | fail p orderId amount currency => exact Happened.mono h sub
  | pay p orderId amount currency => exact ⟨Happened.mono h sub, here, orderId, amount⟩
  | refund p refunds => trivial

theorem Lives.grounded {past events : List EventEnvelope} {stage last : Stage}
    (lives : Lives stage events last) (h : Grounded past stage) : Grounded (past ++ events) last := by
  induction lives generalizing past with
  | nil stage =>
    rw [List.append_nil]
    exact h
  | cons first rest ih =>
    rw [List.append_cons]
    exact ih (h.step first)

/-- Where an event of a life stands. -/
theorem Lives.split {before after : List EventEnvelope} {event : EventEnvelope} {stage last : Stage}
    (lives : Lives stage (before ++ event :: after) last) :
    ∃ middle next, Lives stage before middle ∧ Follows middle event.payload next ∧
      Lives next after last := by
  induction before generalizing stage with
  | nil =>
    cases lives with
    | cons first rest => exact ⟨_, _, .nil _, first, rest⟩
  | cons head before ih =>
    cases lives with
    | cons first rest =>
      obtain ⟨middle, next, early, follows, late⟩ := ih rest
      exact ⟨middle, next, .cons first early, follows, late⟩

/-- Whoever is registered has a registration. -/
theorem Lives.registration {events : List EventEnvelope} {last : Stage}
    (lives : Lives .unregistered events last) (known : last ≠ .unregistered) :
    ∃ first rest p, events = first :: rest ∧ first.payload = .userRegistered p ∧
      Lives .registered rest last := by
  cases lives with
  | nil => exact absurd rfl known
  | cons first rest =>
    rename_i event events
    revert first
    generalize here : event.payload = payload
    intro first
    cases first with
    | register p => exact ⟨event, events, p, rfl, here, rest⟩
    | visit p known => exact absurd rfl known

/-- The registration is not repeated. -/
theorem Lives.once {stage last : Stage} {events : List EventEnvelope}
    (lives : Lives stage events last) (known : stage ≠ .unregistered) :
    ∀ event ∈ events, event.eventType ≠ .userRegistered := by
  induction lives with
  | nil stage => simp
  | cons first rest ih =>
    intro event mem
    rcases List.mem_cons.mp mem with rfl | late
    · rw [EventEnvelope.eventType]
      revert first
      generalize event.payload = payload
      intro first
      cases first with
      | register p => exact absurd rfl known
      | _ => exact fun impossible => by cases impossible
    · exact ih first.registered event late

/-- What an event refers to, the device of a payment apart, has been introduced. -/
theorem Grounded.refers {past : List EventEnvelope} {stage next : Stage} {payload : Payload} {c : UUID}
    (h : Grounded past stage) (follows : Follows stage payload next)
    (belongs : payload.customerId = some c)
    (registered : stage ≠ .unregistered → Introduced past c) :
    ∀ id ∈ refers payload, (∃ p, payload = .paymentCompleted p ∧ p.deviceId = id) ∨
      (∃ p, payload = .paymentFailed p ∧ p.deviceId = id) ∨ Introduced past id := by
  have introduced : stage ≠ .unregistered → ∀ id, payload.customerId = some id →
      Introduced past id := by
    intro known id same
    rw [← Option.some.inj (belongs.symm.trans same)]
    exact registered known
  cases follows with
  | register p => simp [Generator.refers]
  | visit p known =>
    intro id mem
    rw [List.mem_singleton.mp mem]
    exact .inr (.inr (introduced known _ rfl))
  | view p session price stock =>
    intro id mem
    simp only [Generator.refers, List.mem_cons, List.not_mem_nil, or_false] at mem
    rcases mem with rfl | rfl
    · exact .inr (.inr (introduced Stage.noConfusion _ rfl))
    · exact .inr (.inr (session ▸ h))
  | add p session price line some_ few =>
    intro id mem
    simp only [Generator.refers, List.mem_cons, List.not_mem_nil, or_false] at mem
    rcases mem with rfl | rfl
    · exact .inr (.inr (introduced Stage.noConfusion _ rfl))
    · exact .inr (.inr (session ▸ h))
  | checkout p checks =>
    intro id mem
    simp only [Generator.refers, List.mem_cons, List.not_mem_nil, or_false] at mem
    rcases mem with rfl | rfl | rfl
    · exact .inr (.inr (introduced Stage.noConfusion _ rfl))
    · exact .inr (.inr (checks.sessionId ▸ h.1))
    · exact .inr (.inr (checks.cartId ▸ h.2))
  | order p orders =>
    intro id mem
    simp only [Generator.refers, List.mem_cons, List.not_mem_nil, or_false] at mem
    rcases mem with rfl | rfl | rfl
    · exact .inr (.inr (introduced Stage.noConfusion _ rfl))
    · exact .inr (.inr (orders.sessionId ▸ h.1))
    · exact .inr (.inr (orders.cartId ▸ h.2.1))
  | fail p orderId amount currency =>
    intro id mem
    simp only [Generator.refers, List.mem_cons, List.not_mem_nil, or_false] at mem
    rcases mem with rfl | rfl | rfl
    · exact .inr (.inr (introduced Stage.noConfusion _ rfl))
    · exact .inr (.inr (Happened.introduced h (by rw [orderId]; exact List.mem_singleton_self _)))
    · exact .inr (.inl ⟨p, rfl, rfl⟩)
  | pay p orderId amount currency =>
    intro id mem
    simp only [Generator.refers, List.mem_cons, List.not_mem_nil, or_false] at mem
    rcases mem with rfl | rfl | rfl
    · exact .inr (.inr (introduced Stage.noConfusion _ rfl))
    · exact .inr (.inr (Happened.introduced h (by rw [orderId]; exact List.mem_singleton_self _)))
    · exact .inl ⟨p, rfl, rfl⟩
  | refund p refunds =>
    intro id mem
    simp only [Generator.refers, List.mem_cons, List.not_mem_nil, or_false] at mem
    rcases mem with rfl | rfl | rfl
    · exact .inr (.inr (introduced Stage.noConfusion _ rfl))
    · exact .inr (.inr (h.1.introduced (by rw [refunds.orderId]; exact List.mem_singleton_self _)))
    · exact .inr (.inr (h.2.1.introduced
        (by rw [refunds.paymentId]; exact List.mem_singleton_self _)))

end CommercePlatform.Generator
