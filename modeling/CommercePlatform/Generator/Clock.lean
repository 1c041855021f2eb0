import CommercePlatform.Generator.Causality

/-!
The logical clock of a journey.

`Ticks` says of a piece of `build` that the clock has not moved back and that the times of
its events lie, in order, between the clock before and the clock after. A journey starts at
or after the last activity of its customer, and the committed customer's last activity is
its last event.
-/

namespace CommercePlatform.Generator

open Contract Stateful

/-! ### The clock stands still -/

def Still (w w' : World) : Prop := w'.customers = w.customers ∧ w'.cursor = w.cursor

theorem Still.refl (w : World) : Still w w := ⟨rfl, rfl⟩

theorem Still.trans {w w' w'' : World} (first : Still w w') (second : Still w' w'') :
    Still w w'' :=
  ⟨second.1.trans first.1, second.2.trans first.2⟩

theorem stillFrame : IdFrame Still where
  refl := Still.refl
  trans _ _ _ := Still.trans
  draws _ _ := ⟨rfl, rfl⟩
  readings _ _ := ⟨rfl, rfl⟩
  uuids _ := ⟨rfl, rfl⟩

section

variable {rt : Runtime} {source : Source} {config : GeneratorConfig} {w w' w'' : World}

theorem still_of {α : Type} {x : Gen α} (respects : Respects Still x) {a : α}
    (ran : x w = .ok (a, w')) : Still w w' :=
  respects.returns w a w' ran

/-- `_next_timestamp`, when it does not overflow. -/
theorem nextTimestamp_ok {delay : Int} {timestamp : Instant}
    (ran : nextTimestamp delay w = .ok (timestamp, w')) :
    timestamp = w.cursor + delay ∧ w'.customers = w.customers ∧ w'.cursor = timestamp := by
  obtain ⟨world, u, read, rest⟩ := bind_ok.mp ran
  obtain ⟨rfl, rfl⟩ := get_ok.mp read
  obtain ⟨cursor, v, moved, rest⟩ := bind_ok.mp rest
  obtain ⟨_, v', set, returned⟩ := bind_ok.mp rest
  obtain rfl := modify_ok.mp set
  obtain ⟨rfl, rfl⟩ := pure_ok.mp returned
  unfold later at moved
  split at moved
  · obtain ⟨rfl, rfl⟩ := pure_ok.mp moved
    exact ⟨rfl, rfl, rfl⟩
  · exact (raiseError_ok moved).elim

/-! ### Events in order -/

structure Ticks (w w' : World) (events : List EventEnvelope) : Prop where
  forwards : w.cursor ≤ w'.cursor
  sorted : events.Pairwise fun a b => a.eventTime ≤ b.eventTime
  within : ∀ event ∈ events, w.cursor ≤ event.eventTime ∧ event.eventTime ≤ w'.cursor

namespace Ticks

theorem still (h : Still w w') : Ticks w w' [] where
  forwards := h.2.ge
  sorted := List.Pairwise.nil
  within := by simp

theorem trans {events events' : List EventEnvelope} (first : Ticks w w' events)
    (second : Ticks w' w'' events') : Ticks w w'' (events ++ events') where
  forwards := first.forwards.trans second.forwards
  sorted := by
    refine List.pairwise_append.mpr ⟨first.sorted, second.sorted, ?_⟩
    intro a early b late
    exact (first.within a early).2.trans (second.within b late).1
  within := by
    intro event mem
    rcases List.mem_append.mp mem with early | late
    · obtain ⟨low, high⟩ := first.within event early
      exact ⟨low, high.trans second.forwards⟩
    · obtain ⟨low, high⟩ := second.within event late
      exact ⟨first.forwards.trans low, high⟩

theorem after {events : List EventEnvelope} (h : Still w w') (ticks : Ticks w' w'' events) :
    Ticks w w'' events :=
  (Ticks.still h).trans ticks

theorem before {events : List EventEnvelope} (ticks : Ticks w w' events) (h : Still w' w'') :
    Ticks w w'' events := by
  have whole := ticks.trans (Ticks.still h)
  rwa [List.append_nil] at whole

/-- One event at the next timestamp. -/
theorem event {u v : World} {delay : Int} {timestamp : Instant} {correlationId : UUID}
    {payload : Payload} {event : EventEnvelope} (nonneg : 0 ≤ delay)
    (ticked : nextTimestamp delay w = .ok (timestamp, u)) (between : Still u v)
    (made : envelope source correlationId payload timestamp v = .ok (event, w')) :
    Ticks w w' [event] := by
  obtain ⟨time, -, cursor⟩ := nextTimestamp_ok ticked
  obtain ⟨-, -, eventTime⟩ := envelope_draws made
  have quiet := between.trans (still_of (stillFrame.envelope _ _ _) made)
  have here : w'.cursor = event.eventTime := by rw [quiet.2, cursor, eventTime]
  have low : w.cursor ≤ event.eventTime := by
    rw [eventTime, time]
    exact Int.le_add_of_nonneg_right nonneg
  refine ⟨?_, List.pairwise_singleton _ _, ?_⟩
  · rw [here]
    exact low
  · intro other mem
    rw [List.mem_singleton.mp mem]
    exact ⟨low, here.ge⟩

end Ticks

theorem actionDelay_nonneg (persona : CustomerPersona) :
    0 ≤ (strategyFor persona).profile.actionDelay := by
  cases persona <;> decide

theorem returnDelay_nonneg (persona : CustomerPersona) :
    0 ≤ (strategyFor persona).profile.returnDelay := by
  cases persona <;> decide

theorem register_ticks {selection : Selection} {correlationId : UUID} {events : List EventEnvelope}
    (ran : register rt source selection correlationId w = .ok (events, w')) :
    Ticks w w' events := by
  unfold register at ran
  split at ran
  · obtain ⟨rfl, rfl⟩ := pure_ok.mp ran
    exact .still (Still.refl _)
  · obtain ⟨timestamp, u, ticked, ran⟩ := bind_ok.mp ran
    obtain ⟨event, v, made, returned⟩ := bind_ok.mp ran
    obtain ⟨rfl, rfl⟩ := pure_ok.mp returned
    exact .event le_rfl ticked (Still.refl _) made

theorem startSession_ticks {identity : Identity} {profile : PersonaProfile}
    {correlationId sessionId : UUID} {event : EventEnvelope} (nonneg : 0 ≤ profile.actionDelay)
    (ran : startSession source identity profile correlationId sessionId w = .ok (event, w')) :
    Ticks w w' [event] := by
  obtain ⟨timestamp, u, ticked, ran⟩ := bind_ok.mp ran
  obtain ⟨device, v, chosen, made⟩ := bind_ok.mp ran
  exact .event nonneg ticked (still_of (stillFrame.sessionDevice _) chosen) made

theorem showProducts_ticks {customer : CustomerState} {profile : PersonaProfile}
    {correlationId sessionId : UUID} {products : List Product} {events : List EventEnvelope}
    (nonneg : 0 ≤ profile.actionDelay)
    (ran : showProducts source customer profile correlationId sessionId products w =
      .ok (events, w')) : Ticks w w' events := by
  induction products generalizing w events with
  | nil =>
    obtain ⟨rfl, rfl⟩ := pure_ok.mp ran
    exact .still (Still.refl _)
  | cons product products ih =>
    obtain ⟨timestamp, u, ticked, ran⟩ := bind_ok.mp ran
    obtain ⟨event, v, made, ran⟩ := bind_ok.mp ran
    obtain ⟨more, v', shown, returned⟩ := bind_ok.mp ran
    obtain ⟨rfl, rfl⟩ := pure_ok.mp returned
    exact (Ticks.event nonneg ticked (Still.refl _) made).trans (ih shown)

theorem fillBasket_ticks {visit : Visit} {basket : Basket} (nonneg : 0 ≤ visit.profile.actionDelay)
    (ran : fillBasket source visit w = .ok (basket, w')) : Ticks w w' [basket.event] := by
  obtain ⟨product, w₁, chosen, ran⟩ := bind_ok.mp ran
  obtain ⟨n, w₂, counted, ran⟩ := bind_ok.mp ran
  obtain ⟨cartId, w₃, assigned, ran⟩ := bind_ok.mp ran
  obtain ⟨timestamp, w₄, ticked, ran⟩ := bind_ok.mp ran
  obtain ⟨event, w₅, made, ran⟩ := bind_ok.mp ran
  obtain ⟨discount, w₆, granted, returned⟩ := bind_ok.mp ran
  obtain ⟨rfl, rfl⟩ := pure_ok.mp returned
  have before := ((still_of (stillFrame.cartProduct _) chosen).trans
    (still_of (stillFrame.randint _ _) counted)).trans (still_of (stillFrame.cartFor _) assigned)
  have ticks := Ticks.event nonneg ticked (Still.refl _) made
  exact (ticks.after before).before (still_of (stillFrame.discountFor _ _) granted)

theorem startCheckout_ticks {visit : Visit} {basket : Basket} {event : EventEnvelope}
    (nonneg : 0 ≤ visit.profile.actionDelay)
    (ran : startCheckout source visit basket w = .ok (event, w')) : Ticks w w' [event] := by
  obtain ⟨timestamp, u, ticked, made⟩ := bind_ok.mp ran
  exact .event nonneg ticked (Still.refl _) made

theorem createOrder_ticks {visit : Visit} {basket : Basket} {orderId : UUID} {event : EventEnvelope}
    (nonneg : 0 ≤ visit.profile.actionDelay)
    (ran : createOrder source visit basket orderId w = .ok (event, w')) : Ticks w w' [event] := by
  obtain ⟨timestamp, u, ticked, made⟩ := bind_ok.mp ran
  exact .event nonneg ticked (Still.refl _) made

theorem payments_ticks {visit : Visit} {orderId : UUID} {total : Decimal} {n : Nat}
    {paid : Payments} (nonneg : 0 ≤ visit.profile.actionDelay)
    (ran : payments source config visit orderId total n w = .ok (paid, w')) :
    Ticks w w' paid.events := by
  induction n generalizing w paid with
  | zero =>
    obtain ⟨rfl, rfl⟩ := pure_ok.mp ran
    exact .still (Still.refl _)
  | succ n ih =>
    obtain ⟨paymentId, w₁, drawn, ran⟩ := bind_ok.mp ran
    obtain ⟨timestamp, w₂, ticked, ran⟩ := bind_ok.mp ran
    obtain ⟨paying, w₃, asked, ran⟩ := bind_ok.mp ran
    obtain ⟨success, w₄, decided, ran⟩ := bind_ok.mp ran
    have before := still_of stillFrame.newUuid drawn
    have deciding := (still_of (stillFrame.probability _ _) asked).trans
      (still_of (stillFrame.chance _) decided)
    split at ran
    · obtain ⟨method, w₅, chosen, ran⟩ := bind_ok.mp ran
      obtain ⟨event, w₆, made, returned⟩ := bind_ok.mp ran
      obtain ⟨rfl, rfl⟩ := pure_ok.mp returned
      have between := deciding.trans (still_of (stillFrame.choice _) chosen)
      exact (Ticks.event nonneg ticked between made).after before
    · obtain ⟨method, w₅, chosen, ran⟩ := bind_ok.mp ran
      obtain ⟨reason, w₆, chosen', ran⟩ := bind_ok.mp ran
      obtain ⟨event, w₇, made, ran⟩ := bind_ok.mp ran
      obtain ⟨again, w₈, retried, ran⟩ := bind_ok.mp ran
      have between := (deciding.trans (still_of (stillFrame.choice _) chosen)).trans
        (still_of (stillFrame.choice _) chosen')
      have failed := ((Ticks.event nonneg ticked between made).after before).before
        (still_of (stillFrame.chance _) retried)
      split at ran
      · obtain ⟨rest, w₉, more, returned⟩ := bind_ok.mp ran
        obtain ⟨rfl, rfl⟩ := pure_ok.mp returned
        exact failed.trans (ih more)
      · obtain ⟨rfl, rfl⟩ := pure_ok.mp ran
        exact failed

theorem refundFor_ticks {visit : Visit} {orderId : UUID} {total : Decimal}
    {successful : Option UUID} {events : List EventEnvelope}
    (nonneg : 0 ≤ visit.profile.actionDelay)
    (ran : refundFor source config visit orderId total successful w = .ok (events, w')) :
    Ticks w w' events := by
  cases successful with
  | none =>
    obtain ⟨rfl, rfl⟩ := pure_ok.mp ran
    exact .still (Still.refl _)
  | some paymentId =>
    obtain ⟨refunding, w₁, asked, ran⟩ := bind_ok.mp ran
    obtain ⟨refunded, w₂, decided, ran⟩ := bind_ok.mp ran
    have before := (still_of (stillFrame.probability _ _) asked).trans
      (still_of (stillFrame.chance _) decided)
    split at ran
    · obtain ⟨event, w₃, requested, returned⟩ := bind_ok.mp ran
      obtain ⟨rfl, rfl⟩ := pure_ok.mp returned
      obtain ⟨timestamp, w₄, ticked, ran⟩ := bind_ok.mp requested
      obtain ⟨refundId, w₅, drawn, made⟩ := bind_ok.mp ran
      exact (Ticks.event nonneg ticked (still_of stillFrame.newUuid drawn) made).after before
    · obtain ⟨rfl, rfl⟩ := pure_ok.mp ran
      exact .still before

end

end CommercePlatform.Generator
