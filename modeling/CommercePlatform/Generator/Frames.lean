import CommercePlatform.Generator.Journey

/-!
What the code of the generator leaves alone.

A `Frame` is a relation between worlds that does not see the draws of the RNG and the readings
of the clock. An `IdFrame` does not see the drawn UUIDs either, a `ClockFrame` not the logical
clock, and a `PoolFrame` sees only the customers and the flag of a seeded takeover, which
`choosePersona` alone sets. Every piece of `build` before the commit respects the frames that do
not see what it changes, whether it returns or raises.
-/

namespace CommercePlatform.Generator

open Contract Stateful

/-- The code relates the world before to the world it returns or raises with. -/
abbrev Respects {α : Type} (R : World → World → Prop) (x : Gen α) : Prop :=
  Framed Raised.world R x

structure Frame (R : World → World → Prop) : Prop where
  refl : ∀ w, R w w
  trans : ∀ w w' w'', R w w' → R w' w'' → R w w''
  draws : ∀ w n, R w { w with draws := n }
  readings : ∀ w n, R w { w with readings := n }

structure IdFrame (R : World → World → Prop) : Prop extends Frame R where
  uuids : ∀ w, R w { w with drawnUuids := w.drawnUuids + 1 }

structure ClockFrame (R : World → World → Prop) : Prop extends Frame R where
  cursor : ∀ w t, R w { w with cursor := t }

structure PoolFrame (R : World → World → Prop) : Prop extends IdFrame R, ClockFrame R

/-- The relation does not see the flag of a seeded takeover. -/
def SeedFree (R : World → World → Prop) : Prop := ∀ w b, R w { w with seedingTakeover := b }

variable {α β : Type} {R : World → World → Prop} {rt : Runtime} {source : Source}
  {config : GeneratorConfig}

namespace Frame

variable (frame : Frame R)

include frame

theorem pure (a : α) : Respects R (Pure.pure a) := Framed.pure frame.refl a

theorem bind {x : Gen α} {f : α → Gen β} (first : Respects R x) (rest : ∀ a, Respects R (f a)) :
    Respects R (x >>= f) :=
  Framed.bind frame.trans first rest

theorem raiseError (e : GeneratorError) : Respects R (raiseError e : Gen α) where
  returns w a w' impossible := by cases impossible
  raises w raised same := by
    cases same
    exact frame.refl w

theorem get : Respects R (MonadState.get : Gen World) := Framed.get frame.refl

/-! ### Draws -/

theorem draw : Respects R draw :=
  frame.bind frame.get fun _ =>
    frame.bind (Framed.modify fun w => frame.draws w (w.draws + 1)) fun _ => frame.pure _

theorem chance (probability : Rat) : Respects R (chance source probability) :=
  frame.bind frame.draw fun _ => frame.pure _

theorem randint (low high : Nat) : Respects R (randint source low high) :=
  .ite (frame.raiseError _) (frame.bind frame.draw fun _ => frame.pure _)

theorem choice (population : List α) : Respects R (choice source population) := by
  refine frame.bind frame.draw fun i => ?_
  split
  · exact frame.pure _
  · exact frame.raiseError _

theorem choices (weights : List (α × PyFloat)) : Respects R (choices source weights) := by
  unfold Generator.choices
  split
  · exact frame.raiseError _
  · refine .ite (frame.raiseError _) (frame.bind frame.draw fun i => ?_)
    split
    · exact frame.pure _
    · exact frame.raiseError _

theorem ipAddress : Respects R (ipAddress source) :=
  frame.bind (frame.randint 1 254) fun _ => frame.pure _

theorem lastOf (xs : List α) : Respects R (lastOf xs) := by
  unfold Generator.lastOf
  split
  · exact frame.pure _
  · exact frame.raiseError _

theorem probability (profile : PersonaProfile) (branch : Branch) :
    Respects R (probability config profile branch) :=
  frame.bind frame.get fun _ => frame.pure _

theorem awareNow : Respects R (awareNow source) :=
  frame.bind frame.get fun _ =>
    frame.bind (Framed.modify fun w => frame.readings w (w.readings + 1)) fun _ => frame.pure _

theorem later (instant : Instant) (delay : Int) : Respects R (later instant delay) :=
  .ite (frame.pure _) (frame.raiseError _)

/-! ### The customer -/

theorem candidate (p : CustomerState → Bool) : Respects R (candidate source p) := by
  refine frame.bind frame.get fun _ => .ite (frame.pure _) ?_
  exact frame.bind (frame.choice _) fun _ => frame.pure _

theorem takeoverCandidate : Respects R (takeoverCandidate source) :=
  frame.bind (frame.candidate _) fun _ => frame.pure _

theorem drawPersona : Respects R (drawPersona source config) := by
  unfold Generator.drawPersona
  split
  · exact frame.raiseError _
  · refine frame.bind (frame.choices _) fun selected => .ite ?_ (frame.pure _)
    exact frame.bind frame.takeoverCandidate fun _ => frame.pure _

theorem choosePersona (seeding : SeedFree R) : Respects R (choosePersona source config) := by
  unfold Generator.choosePersona
  split
  · refine frame.bind frame.takeoverCandidate fun _ => .ite ?_ (frame.pure _)
    exact frame.bind (Framed.modify fun w => seeding w true) fun _ => frame.pure _
  · exact frame.pure _
  · exact .ite (frame.pure _) frame.drawPersona

theorem preferNew : Respects R (preferNew source config) :=
  frame.bind frame.get fun _ => .ite (frame.chance _) (frame.pure _)

theorem sessionDevice (persona : CustomerPersona) : Respects R (sessionDevice source persona) :=
  .ite (frame.pure _) (frame.choice _)

/-! ### Products -/

theorem freshProduct (customer : CustomerState) (profile : PersonaProfile)
    (ranked products : List Product) :
    Respects R (freshProduct source customer profile ranked products) := by
  refine .ite ?_ (frame.choice _)
  split
  · exact frame.pure _
  · exact frame.raiseError _

theorem nextProduct (customer : CustomerState) (profile : PersonaProfile)
    (ranked products : List Product) :
    Respects R (nextProduct source customer profile ranked products) := by
  unfold Generator.nextProduct
  split
  · refine .ite ?_ (frame.freshProduct _ _ _ _)
    exact frame.bind (frame.chance _) fun _ => .ite (frame.pure _) (frame.freshProduct _ _ _ _)
  · exact frame.freshProduct _ _ _ _

theorem moreProducts (customer : CustomerState) (profile : PersonaProfile) (ranked : List Product)
    (n : Nat) (products : List Product) :
    Respects R (moreProducts source customer profile ranked n products) := by
  induction n generalizing products with
  | zero => exact frame.pure _
  | succ n ih => exact frame.bind (frame.nextProduct _ _ _ _) fun _ => ih _

theorem viewProducts (customer : CustomerState) (profile : PersonaProfile) :
    Respects R (viewProducts source config customer profile) :=
  frame.bind (frame.randint _ _) fun _ => frame.moreProducts _ _ _ _ _

theorem bestProduct (beats : Product → Product → Bool) (products : List Product) :
    Respects R (bestProduct beats products) := by
  unfold Generator.bestProduct
  split
  · exact frame.pure _
  · exact frame.raiseError _

theorem cartProduct (visit : Visit) : Respects R (cartProduct source visit) :=
  .ite (frame.bestProduct _ _) (.ite (frame.bestProduct _ _) (frame.choice _))

theorem discountFor (visit : Visit) (subtotal : Decimal) :
    Respects R (discountFor source visit subtotal) :=
  frame.bind (frame.chance _) fun _ => frame.pure _

theorem checksOut (visit : Visit) (basket : Basket) :
    Respects R (checksOut source config visit basket) :=
  frame.bind (frame.probability _ _) fun _ => frame.chance _

end Frame

namespace IdFrame

variable (frame : IdFrame R)

include frame

theorem newUuid : Respects R (newUuid source) :=
  frame.bind frame.get fun _ =>
    frame.bind (Framed.modify frame.uuids) fun _ => frame.pure _

theorem createCustomer (size : Nat) (persona : CustomerPersona) (timestamp : Instant) :
    Respects R (createCustomer source size persona timestamp) := by
  refine frame.bind frame.get fun _ => .ite (frame.raiseError _) ?_
  refine frame.bind frame.newUuid fun _ => frame.bind frame.newUuid fun _ => ?_
  exact frame.bind frame.ipAddress fun _ => frame.pure _

theorem newCustomer (persona : CustomerPersona) : Respects R (newCustomer source config persona) :=
  frame.bind frame.awareNow fun _ => frame.bind (frame.createCustomer _ _ _) fun _ => frame.pure _

theorem selectByPersona (persona : CustomerPersona) :
    Respects R (selectByPersona source config persona) := by
  refine frame.bind (frame.candidate _) fun found => ?_
  cases found with
  | none => exact frame.newCustomer _
  | some customer =>
    refine .ite (frame.bind frame.preferNew fun _ => ?_) (frame.newCustomer _)
    exact .ite (frame.newCustomer _) (frame.pure _)

theorem selectCustomer (persona : CustomerPersona) :
    Respects R (selectCustomer source config persona) := by
  refine .ite (frame.bind frame.takeoverCandidate fun found => ?_) (frame.selectByPersona _)
  cases found with
  | none => exact frame.selectByPersona _
  | some customer => exact frame.pure _

theorem envelope (correlationId : UUID) (payload : Payload) (timestamp : Instant) :
    Respects R (envelope source correlationId payload timestamp) :=
  frame.bind frame.newUuid fun _ => frame.pure _

theorem deviceFor (customer : CustomerState) (profile : PersonaProfile) :
    Respects R (deviceFor source customer profile) := by
  refine frame.bind (frame.chance _) fun changed => .ite ?_ ?_
  · refine frame.bind frame.newUuid fun _ => ?_
    exact frame.bind frame.ipAddress fun _ => frame.pure _
  · refine frame.bind (frame.lastOf _) fun _ => ?_
    exact frame.bind (frame.lastOf _) fun _ => frame.pure _

theorem identityForSession (customer : CustomerState) (profile : PersonaProfile) :
    Respects R (identityForSession source customer profile) := by
  refine frame.bind (frame.deviceFor _ _) fun _ => frame.bind (frame.chance _) fun _ => ?_
  exact .ite (frame.bind (frame.choice _) fun _ => frame.pure _) (frame.pure _)

theorem cartFor (visit : Visit) : Respects R (cartFor source visit) := by
  unfold Generator.cartFor
  split
  · exact .ite (frame.pure _) frame.newUuid
  · exact frame.newUuid

end IdFrame

namespace ClockFrame

variable (frame : ClockFrame R)

include frame

theorem nextTimestamp (delay : Int) : Respects R (nextTimestamp delay) := by
  refine frame.bind frame.get fun _ => frame.bind (frame.later _ _) fun cursor => ?_
  exact frame.bind (Framed.modify fun w => frame.cursor w cursor) fun _ => frame.pure _

theorem startLogicalTime (customer : CustomerState) (profile : PersonaProfile) (returning : Bool) :
    Respects R (startLogicalTime source customer profile returning) := by
  have moved : ∀ cursor : Instant, Respects R (modify fun w => { w with cursor } : Gen PUnit) :=
    fun cursor => Framed.modify fun w => frame.cursor w cursor
  refine frame.bind frame.awareNow fun now => ?_
  split
  · exact .ite (frame.bind (frame.later _ _) fun due => moved _) (moved _)
  · exact moved _

end ClockFrame

namespace PoolFrame

variable (frame : PoolFrame R)

include frame

theorem register (selection : Selection) (correlationId : UUID) :
    Respects R (register rt source selection correlationId) := by
  refine .ite (frame.pure _) (frame.bind (frame.toClockFrame.nextTimestamp _) fun _ => ?_)
  exact frame.bind (frame.envelope _ _ _) fun _ => frame.pure _

theorem startSession (identity : Identity) (profile : PersonaProfile)
    (correlationId sessionId : UUID) :
    Respects R (startSession source identity profile correlationId sessionId) := by
  refine frame.bind (frame.toClockFrame.nextTimestamp _) fun _ => ?_
  exact frame.bind (frame.sessionDevice _) fun _ => frame.envelope _ _ _

theorem showProducts (customer : CustomerState) (profile : PersonaProfile)
    (correlationId sessionId : UUID) (products : List Product) :
    Respects R (showProducts source customer profile correlationId sessionId products) := by
  induction products with
  | nil => exact frame.pure _
  | cons product products ih =>
    refine frame.bind (frame.toClockFrame.nextTimestamp _) fun _ => ?_
    exact frame.bind (frame.envelope _ _ _) fun _ => frame.bind ih fun _ => frame.pure _

theorem browse (seeding : SeedFree R) : Respects R (browse rt source config) := by
  refine frame.bind (Framed.modify fun w => seeding w false) fun _ => ?_
  refine frame.bind (frame.choosePersona seeding) fun _ => frame.bind (frame.selectCustomer _) fun _ => ?_
  refine frame.bind (frame.toClockFrame.startLogicalTime _ _ _) fun _ => frame.bind frame.newUuid fun _ => ?_
  refine frame.bind (frame.register _ _) fun _ => ?_
  refine frame.bind (frame.identityForSession _ _) fun _ => frame.bind frame.newUuid fun _ => ?_
  refine frame.bind (frame.startSession _ _ _ _) fun _ => ?_
  refine frame.bind (frame.viewProducts _ _) fun _ => ?_
  refine frame.bind (frame.showProducts _ _ _ _ _) fun _ => ?_
  exact frame.bind (frame.probability _ _) fun _ => frame.bind (frame.chance _) fun _ => frame.pure _

theorem fillBasket (visit : Visit) : Respects R (fillBasket source visit) := by
  refine frame.bind (frame.cartProduct _) fun _ => frame.bind (frame.randint _ _) fun _ => ?_
  refine frame.bind (frame.cartFor _) fun _ => frame.bind (frame.toClockFrame.nextTimestamp _) fun _ => ?_
  refine frame.bind (frame.envelope _ _ _) fun _ => ?_
  exact frame.bind (frame.discountFor _ _) fun _ => frame.pure _

theorem startCheckout (visit : Visit) (basket : Basket) :
    Respects R (startCheckout source visit basket) :=
  frame.bind (frame.toClockFrame.nextTimestamp _) fun _ => frame.envelope _ _ _

theorem createOrder (visit : Visit) (basket : Basket) (orderId : UUID) :
    Respects R (createOrder source visit basket orderId) :=
  frame.bind (frame.toClockFrame.nextTimestamp _) fun _ => frame.envelope _ _ _

theorem payments (visit : Visit) (orderId : UUID) (total : Decimal) (n : Nat) :
    Respects R (payments source config visit orderId total n) := by
  induction n with
  | zero => exact frame.pure _
  | succ n ih =>
    refine frame.bind frame.newUuid fun _ => frame.bind (frame.toClockFrame.nextTimestamp _) fun _ => ?_
    refine frame.bind (frame.probability _ _) fun _ => frame.bind (frame.chance _) fun _ => ?_
    refine .ite ?_ ?_
    · refine frame.bind (frame.choice _) fun _ => ?_
      exact frame.bind (frame.envelope _ _ _) fun _ => frame.pure _
    · refine frame.bind (frame.choice _) fun _ => frame.bind (frame.choice _) fun _ => ?_
      refine frame.bind (frame.envelope _ _ _) fun _ => frame.bind (frame.chance _) fun _ => ?_
      exact .ite (frame.bind ih fun _ => frame.pure _) (frame.pure _)

theorem refundFor (visit : Visit) (orderId : UUID) (total : Decimal) (successful : Option UUID) :
    Respects R (refundFor source config visit orderId total successful) := by
  unfold Generator.refundFor
  split
  · exact frame.pure _
  · refine frame.bind (frame.probability _ _) fun _ => frame.bind (frame.chance _) fun _ => ?_
    refine .ite (frame.bind ?_ fun _ => frame.pure _) (frame.pure _)
    refine frame.bind (frame.toClockFrame.nextTimestamp _) fun _ => frame.bind frame.newUuid fun _ => ?_
    exact frame.envelope _ _ _

end PoolFrame

end CommercePlatform.Generator
