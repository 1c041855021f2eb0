import CommercePlatform.Idempotency.Store

/-!
Safety of the lease protocol.

`next_cases` lists what one step can do to the entry of an event; every property
of whole runs is an induction over it. A worker is identified with its token, so
a stale worker is one whose entry has been replaced since: its `complete` and
`release` change nothing (`complete_stale`, `release_stale`), and a `complete`
that succeeds proves that the entry of its own `reserve` was never gone
(`processing_origin`).
-/

namespace CommercePlatform.Idempotency

namespace Workers

variable {ω : Type} (ws : Workers ω)

/-! ### One step -/

/-- The entry that `worker`'s reservation writes. -/
def entryOf (worker : ω) (message : ConsumedMessage) (now : Instant) : Slot :=
  (ws.config worker).processingSlot (ws.token worker) message now

@[simp] theorem entryOf_heldBy (w : ω) (message : ConsumedMessage) (now : Instant) :
    (ws.entryOf w message now).heldBy (ws.token w) = true := by
  simp [entryOf, Config.processingSlot, Slot.heldBy]

/-- `worker` holds the lease on the event. -/
def Holds (s : Store) (worker : ω) (e : UUID) : Prop :=
  ∃ slot, s.get? (ws.keyFor e) = some slot ∧ slot.heldBy (ws.token worker) = true

/-- The step ends the processing entry of the event: the key expires, or the
holder's `complete` or `release` is executed. -/
inductive Ends (s : Store) (e : UUID) : Op ω → Prop where
  | expired : Ends s e (.expire (ws.keyFor e))
  | completed {w : ω} {link : Link} {now : Instant} :
      ws.Holds s w e → link ≠ .unreached → Ends s e (.complete w link e now)
  | released {w : ω} {link : Link} :
      ws.Holds s w e → link ≠ .unreached → Ends s e (.release w link e)

/-- What one step does to the entry of an event. -/
inductive Change (s : Store) (e : UUID) (op : Op ω) : Option Slot → Prop where
  | kept : Change s e op (s.get? (ws.keyFor e))
  | reserved {w : ω} {link : Link} {message : ConsumedMessage} {now : Instant} :
      op = .reserve w link e message now → s.get? (ws.keyFor e) = none →
      Change s e op (some (ws.entryOf w message now))
  | completed {w : ω} {link : Link} {now : Instant} :
      op = .complete w link e now → ws.Holds s w e → link ≠ .unreached →
      Change s e op (some ((ws.config w).completedSlot now))
  | released {w : ω} {link : Link} :
      op = .release w link e → ws.Holds s w e → link ≠ .unreached → Change s e op none
  | expired : op = .expire (ws.keyFor e) → Change s e op none

theorem reserveScript_get? (s : Store) (key k : String) (value : Value) (ttl : Nat) :
    (reserveScript s key value ttl).1.get? k =
      if k = key ∧ s.get? key = none then some ⟨value, ttl⟩ else s.get? k := by
  unfold reserveScript
  cases current : s.get? key with
  | none => by_cases hk : k = key <;> simp [hk, Dict.get?_set]
  | some slot => cases hv : slot.value <;> simp [hv]

theorem completeScript_get? (s : Store) (key token k : String) (value : Value) (ttl : Nat) :
    (completeScript s key token value ttl).1.get? k =
      if k = key ∧ ∃ slot, s.get? key = some slot ∧ slot.heldBy token = true
      then some ⟨value, ttl⟩ else s.get? k := by
  unfold completeScript
  cases current : s.get? key with
  | none => simp
  | some slot =>
    cases held : slot.heldBy token <;> by_cases hk : k = key <;> simp [held, hk, Dict.get?_set]

theorem releaseScript_get? (s : Store) (key token k : String) :
    (releaseScript s key token).1.get? k =
      if k = key ∧ ∃ slot, s.get? key = some slot ∧ slot.heldBy token = true
      then none else s.get? k := by
  unfold releaseScript
  cases current : s.get? key with
  | none => simp
  | some slot =>
    cases held : slot.heldBy token <;> by_cases hk : k = key <;> simp [held, hk, Dict.get?_erase]

theorem eval_fst {α : Type} (link : Link) (failure : String) (s : Store) (ran : Store × α) :
    (link.eval failure s ran).1 = if link = .unreached then s else ran.1 := by
  cases link <;> rfl

theorem next_reserve (s : Store) (w : ω) (link : Link) (e : UUID) (m : ConsumedMessage)
    (now : Instant) : ws.next s (.reserve w link e m now) = if link = .unreached then s else
      (reserveScript s (ws.keyFor e) (ws.entryOf w m now).value (ws.entryOf w m now).ex).1 := by
  simp only [next, Config.reserve, eval_fst, config_keyFor]
  rfl

theorem next_complete (s : Store) (w : ω) (link : Link) (e : UUID) (now : Instant) :
    ws.next s (.complete w link e now) = if link = .unreached then s else
      (completeScript s (ws.keyFor e) (ws.token w) ((ws.config w).completedSlot now).value
        ((ws.config w).completedSlot now).ex).1 := by
  simp only [next, Config.complete, eval_fst, config_keyFor]

theorem next_release (s : Store) (w : ω) (link : Link) (e : UUID) :
    ws.next s (.release w link e) = if link = .unreached then s else
      (releaseScript s (ws.keyFor e) (ws.token w)).1 := by
  simp only [next, Config.release, eval_fst, config_keyFor]

/-- The step lemma: the entry of an event is kept, or it changes in one of four ways. -/
theorem next_cases (s : Store) (op : Op ω) (e : UUID) :
    ws.Change s e op ((ws.next s op).get? (ws.keyFor e)) := by
  -- Every script leaves the other keys alone, so only a step on `e` itself matters.
  have other : ∀ e', ws.keyFor e = ws.keyFor e' → e = e' := fun e' eq =>
    by_contra fun ne => ws.keyFor_ne ne eq
  cases op with
  | reserve w link e' m now =>
    rw [next_reserve]
    split
    · exact .kept
    · rw [reserveScript_get?]
      split
      · rename_i fresh
        obtain rfl := other e' fresh.1
        exact .reserved rfl fresh.2
      · exact .kept
  | complete w link e' now =>
    rw [next_complete]
    split
    · exact .kept
    · rename_i reached
      rw [completeScript_get?]
      split
      · rename_i held
        obtain rfl := other e' held.1
        exact .completed rfl held.2 reached
      · exact .kept
  | release w link e' =>
    rw [next_release]
    split
    · exact .kept
    · rename_i reached
      rw [releaseScript_get?]
      split
      · rename_i held
        obtain rfl := other e' held.1
        exact .released rfl held.2 reached
      · exact .kept
  | expire key =>
    simp only [next, Dict.get?_erase]
    split
    · rename_i same
      exact .expired (by rw [same])
    · exact .kept

/-! ### Exclusion -/

/-- A processing entry stays until a step ends it. -/
theorem next_processing {s : Store} {op : Op ω} {e : UUID} {slot : Slot}
    (present : s.get? (ws.keyFor e) = some slot) (going : ¬ ws.Ends s e op) :
    (ws.next s op).get? (ws.keyFor e) = some slot := by
  have change := ws.next_cases s op e
  generalize (ws.next s op).get? (ws.keyFor e) = entry at change
  cases change with
  | kept => exact present
  | reserved _ absent => simp [absent] at present
  | completed hop holds reached => exact absurd (hop ▸ .completed holds reached) going
  | released hop holds reached => exact absurd (hop ▸ .released holds reached) going
  | expired hop => exact absurd (hop ▸ .expired) going

/-- Either an entry is still there after a run, or some step of the run ended it. -/
theorem after_processing {s : Store} {e : UUID} {slot : Slot} (ops : List (Op ω))
    (present : s.get? (ws.keyFor e) = some slot) :
    (ws.after s ops).get? (ws.keyFor e) = some slot ∨
      ∃ before op behind, ops = before ++ op :: behind ∧ ws.Ends (ws.after s before) e op := by
  induction ops generalizing s with
  | nil => exact .inl present
  | cons op ops ih =>
    by_cases ends : ws.Ends s e op
    · exact .inr ⟨[], op, ops, rfl, ends⟩
    · rcases ih (ws.next_processing present ends) with kept | ⟨before, op', behind, rfl, ended⟩
      · exact .inl kept
      · exact .inr ⟨op :: before, op', behind, rfl, ended⟩

/-- `reserve` answers RESERVED exactly when no entry was there, and then it has
written its own. -/
theorem reserve_reserved {s : Store} {w : ω} {link : Link} {e : UUID} {m : ConsumedMessage}
    {now : Instant} {r : Reservation}
    (answer : ((ws.config w).reserve link s e (ws.token w) m now).2 = .ok r)
    (reserved : r.state = .reserved) :
    s.get? (ws.keyFor e) = none ∧
      (ws.next s (.reserve w link e m now)).get? (ws.keyFor e) = some (ws.entryOf w m now) := by
  cases link with
  | replyLost | unreached => simp [Config.reserve, Link.eval, Except.map] at answer
  | answered =>
    rw [next_reserve, if_neg (by decide), reserveScript_get?]
    cases current : s.get? (ws.keyFor e) with
    | none => simp
    | some slot =>
      -- With an entry there the script answers completed or processing.
      simp only [Config.reserve, Link.eval, Except.map, config_keyFor, reserveScript, current]
        at answer
      split at answer <;> cases answer <;> cases reserved

/-! ### Ownership of a completion -/

/-- Every processing entry was written by a reservation since which it has been
present, unchanged. -/
theorem processing_origin {ops : List (Op ω)} {e : UUID} {slot : Slot} {w : ω}
    (distinct : Function.Injective ws.token)
    (present : (ws.after ∅ ops).get? (ws.keyFor e) = some slot)
    (held : slot.heldBy (ws.token w) = true) :
    ∃ before link m now mid, ops = before ++ .reserve w link e m now :: mid ∧
      (ws.after ∅ before).get? (ws.keyFor e) = none ∧
      ∀ part, part <+: mid →
        (ws.after ∅ (before ++ .reserve w link e m now :: part)).get? (ws.keyFor e) =
          some (ws.entryOf w m now) := by
  induction ops using List.reverseRecOn with
  | nil => simp at present
  | append_singleton ops op ih =>
    have last : ws.after ∅ (ops ++ [op]) = ws.next (ws.after ∅ ops) op := by
      simp [after_append]
    rw [last] at present
    have change := ws.next_cases (ws.after ∅ ops) op e
    rw [present] at change
    generalize hentry : some slot = entry at change
    cases change with
    | kept =>
      obtain ⟨before, link, m, now, mid, rfl, absent, stays⟩ := ih hentry.symm
      refine ⟨before, link, m, now, mid ++ [op], by simp, absent, ?_⟩
      intro part isPart
      rcases List.prefix_concat_iff.mp isPart with rfl | isPart
      · -- The whole of `mid ++ [op]`: the entry is the one present now.
        have whole := stays mid (List.prefix_refl mid)
        rw [whole, Option.some.injEq] at hentry
        rw [← hentry, ← present, ← last]
        simp
      · exact stays part isPart
    | @reserved w' link m now hop absent =>
      obtain rfl : slot = ws.entryOf w' m now := Option.some.inj hentry
      have : ws.token w' = ws.token w := by
        simpa [entryOf, Config.processingSlot, Slot.heldBy] using held
      obtain rfl := distinct this
      refine ⟨ops, link, m, now, [], by rw [hop], absent, ?_⟩
      intro part isPart
      rw [List.prefix_nil.mp isPart, ← hop, last, present]
    | completed _ _ _ =>
      obtain rfl := Option.some.inj hentry
      simp [Config.completedSlot, Slot.heldBy] at held
    | released | expired => cases hentry

theorem complete_true {s : Store} {w : ω} {link : Link} {e : UUID} {now : Instant}
    (answer : ((ws.config w).complete link s e (ws.token w) now).2 = .ok true) :
    ws.Holds s w e := by
  cases link with
  | replyLost | unreached => simp [Config.complete, Link.eval] at answer
  | answered =>
    simp only [Config.complete, Link.eval, config_keyFor, completeScript] at answer
    split at answer
    · cases answer
    · rename_i slot present
      split at answer
      · rename_i held
        exact ⟨slot, present, held⟩
      · cases answer

/-! ### Stale workers -/

theorem completeScript_stale {s : Store} {key token : String} (value : Value) (ttl : Nat)
    (stale : ∀ slot, s.get? key = some slot → slot.heldBy token = false) :
    completeScript s key token value ttl = (s, false) := by
  unfold completeScript
  cases current : s.get? key with
  | none => rfl
  | some slot => simp [stale slot current]

theorem releaseScript_stale {s : Store} {key token : String}
    (stale : ∀ slot, s.get? key = some slot → slot.heldBy token = false) :
    releaseScript s key token = (s, false) := by
  unfold releaseScript
  cases current : s.get? key with
  | none => rfl
  | some slot => simp [stale slot current]

theorem not_holds {s : Store} {w : ω} {e : UUID} (stale : ¬ ws.Holds s w e) (slot : Slot)
    (present : s.get? (ws.keyFor e) = some slot) : slot.heldBy (ws.token w) = false := by
  cases held : slot.heldBy (ws.token w) with
  | false => rfl
  | true => exact absurd ⟨slot, present, held⟩ stale

/-- A `complete` by anyone but the holder leaves the whole keyspace as it was. -/
theorem complete_stale {s : Store} {w : ω} {e : UUID} (stale : ¬ ws.Holds s w e) (link : Link)
    (now : Instant) : ws.next s (.complete w link e now) = s := by
  rw [next_complete, completeScript_stale _ _ (ws.not_holds stale)]
  split <;> rfl

/-- A `release` by anyone but the holder leaves the whole keyspace as it was. -/
theorem release_stale {s : Store} {w : ω} {e : UUID} (stale : ¬ ws.Holds s w e) (link : Link) :
    ws.next s (.release w link e) = s := by
  rw [next_release, releaseScript_stale (ws.not_holds stale)]
  split <;> rfl

/-! ### Completed entries and other events -/

/-- Only expiry ends an entry that no token holds. -/
theorem Ends.of_completed {s : Store} {e : UUID} {op : Op ω} {slot : Slot} (ends : ws.Ends s e op)
    (present : s.get? (ws.keyFor e) = some slot) (done : ∀ token, slot.heldBy token = false) :
    op = .expire (ws.keyFor e) := by
  cases ends with
  | expired => rfl
  | completed holds _ | released holds _ =>
    obtain ⟨slot', present', held⟩ := holds
    rw [present] at present'
    cases present'
    simp [done] at held

/-- A completed entry stays until its key expires. -/
theorem after_completed {s : Store} {e : UUID} {slot : Slot} (ops : List (Op ω))
    (present : s.get? (ws.keyFor e) = some slot) (done : ∀ token, slot.heldBy token = false)
    (unexpired : Op.expire (ws.keyFor e) ∉ ops) :
    (ws.after s ops).get? (ws.keyFor e) = some slot := by
  induction ops generalizing s with
  | nil => exact present
  | cons op ops ih =>
    simp only [List.mem_cons, not_or] at unexpired
    have going : ¬ ws.Ends s e op := fun ends =>
      unexpired.1 (ends.of_completed ws present done).symm
    exact ih (ws.next_processing present going) unexpired.2

/-- The event a step is about; expiry names a key. -/
def Op.eventId {ω : Type} : Op ω → Option UUID
  | .reserve _ _ e _ _ | .complete _ _ e _ | .release _ _ e => some e
  | .expire _ => none

/-- A call on one event leaves the entry of every other event alone. -/
theorem next_isolated (s : Store) {op : Op ω} {e e' : UUID} (about : Op.eventId op = some e)
    (other : e' ≠ e) : (ws.next s op).get? (ws.keyFor e') = s.get? (ws.keyFor e') := by
  have change := ws.next_cases s op e'
  generalize (ws.next s op).get? (ws.keyFor e') = entry at change
  cases change with
  | kept => rfl
  | reserved hop | completed hop | released hop =>
    rw [hop] at about
    exact absurd (Option.some.inj about) other
  | expired hop => rw [hop] at about; cases about

/-- What the lease protocol guarantees, for any number of workers and any
interleaving of their calls with expiries. -/
structure LeaseSafe : Prop where
  /-- Between two reservations of an event that answer RESERVED, a step ended the
  first one's entry: expiry, or the holder's `complete` or `release`. -/
  exclusive : ∀ (s : Store) (e : UUID) (w w' : ω) (link link' : Link) (m m' : ConsumedMessage)
    (now now' : Instant) (mid : List (Op ω)) (r r' : Reservation),
    ((ws.config w).reserve link s e (ws.token w) m now).2 = .ok r → r.state = .reserved →
    ((ws.config w').reserve link' (ws.after s (.reserve w link e m now :: mid)) e
      (ws.token w') m' now').2 = .ok r' → r'.state = .reserved →
    ∃ before op behind, mid = before ++ op :: behind ∧
      ws.Ends (ws.after s (.reserve w link e m now :: before)) e op
  /-- A `complete` that returns True follows a reservation of the same worker whose
  entry has been present, unchanged, in every state since. -/
  owned : ∀ (ops : List (Op ω)) (w : ω) (link : Link) (e : UUID) (now : Instant),
    ((ws.config w).complete link (ws.after ∅ ops) e (ws.token w) now).2 = .ok true →
    ∃ before link' m seen mid, ops = before ++ .reserve w link' e m seen :: mid ∧
      (ws.after ∅ before).get? (ws.keyFor e) = none ∧
      ∀ part, part <+: mid →
        (ws.after ∅ (before ++ .reserve w link' e m seen :: part)).get? (ws.keyFor e) =
          some (ws.entryOf w m seen)
  /-- A `complete` or `release` by a worker that does not hold the entry leaves the
  whole keyspace as it was. -/
  stale : ∀ (s : Store) (w : ω) (e : UUID) (link : Link) (now : Instant), ¬ ws.Holds s w e →
    ws.next s (.complete w link e now) = s ∧ ws.next s (.release w link e) = s
  /-- A completed entry disappears only by expiry or eviction. -/
  completed : ∀ (s : Store) (e : UUID) (group : String) (at_ : Instant) (ex : Nat)
    (ops : List (Op ω)), s.get? (ws.keyFor e) = some ⟨.completed group at_, ex⟩ →
    Op.expire (ws.keyFor e) ∉ ops →
    (ws.after s ops).get? (ws.keyFor e) = some ⟨.completed group at_, ex⟩
  /-- A call on one event never touches the entry of another. -/
  isolated : ∀ (s : Store) (op : Op ω) (e e' : UUID), Op.eventId op = some e → e' ≠ e →
    (ws.next s op).get? (ws.keyFor e') = s.get? (ws.keyFor e')

/-- **Lease safety.** Workers with pairwise distinct tokens exclude each other. -/
theorem lease_safe (distinct : Function.Injective ws.token) : ws.LeaseSafe where
  exclusive := by
    intro s e w w' link link' m m' now now' mid r r' answer reserved answer' reserved'
    obtain ⟨-, written⟩ := ws.reserve_reserved answer reserved
    obtain ⟨absent, -⟩ := ws.reserve_reserved answer' reserved'
    rcases ws.after_processing mid written with kept | ended
    · rw [after_cons, kept] at absent
      cases absent
    · exact ended
  owned := by
    intro ops w link e now answer
    obtain ⟨slot, present, held⟩ := ws.complete_true answer
    exact ws.processing_origin distinct present held
  stale := fun s w e link now stale => ⟨ws.complete_stale stale link now, ws.release_stale stale link⟩
  completed := fun s e group at_ ex ops present unexpired =>
    ws.after_completed ops present (fun _ => rfl) unexpired
  isolated := fun s op e e' about other => ws.next_isolated s about other

/-- One worker for every UUID, its token being that UUID's text. -/
def uuidWorkers : Workers UUID where
  token := UUID.str
  config _ := ⟨"commerce-event-processor-v1", "commerce:processor:v1:event", 60, 604800⟩
  keyPrefix := "commerce:processor:v1:event"
  shared _ := rfl

theorem lease_safe_uuidWorkers : uuidWorkers.LeaseSafe :=
  uuidWorkers.lease_safe UUID.str_injective

end Workers

end CommercePlatform.Idempotency
