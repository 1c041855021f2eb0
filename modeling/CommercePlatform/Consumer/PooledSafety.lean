import CommercePlatform.Consumer.Pooled

/-!
What the pooled consumer commits.

A record is pending until some worker finishes it. The tracker of every process
stays secure for that notion (`Offset.Tracker.Secure`) as long as no completion is
drained into a partition the tracker knows nothing about while an earlier
delivered record is unfinished (`NoStaleBootstrap`). That happens after a
revocation and a re-assignment inside one `poll`: `on_revoke` drops the
partition's state, `on_assign` lifts the guard of `commit_terminal`, and a
completion that was already queued becomes the partition's new anchor.
-/

namespace CommercePlatform.Consumer.Pooled

open Offset

variable {π : Type} [DecidableEq π] {config : Config} {log : Log}

/-- The record at this offset exists and no worker has finished it. -/
def Pending (log : Log) (finished : List (PartitionKey × Int)) (k : PartitionKey) (o : Int) : Prop :=
  (log.record k o).isSome ∧ (k, o) ∉ finished

/-- The message is on its way from `poll` to a worker's outcome. -/
def Process.InFlight (x : Process) (m : ConsumedMessage) : Prop :=
  x.pc = .putting m ∨ some m ∈ x.workQueue ∨ ∃ i, x.workers i = .busy m

/-- What holds of one process. -/
structure Process.Sound (pending : PartitionKey → Int → Prop) (delivered : List (PartitionKey × Int))
    (x : Process) : Prop where
  tracker : x.consumer.tracker.Secure pending
  inFlight : ∀ m, x.InFlight m → (messageKey m, m.offset) ∈ delivered
  queued : ∀ m ∈ x.commitQueue, (messageKey m, m.offset) ∈ delivered ∧
    ¬ pending (messageKey m) m.offset
  passed : ∀ k ∈ x.owned, ∀ o, pending k o → o < x.position k → (k, o) ∈ delivered
  unanchored : ∀ k ∈ x.owned, x.consumer.tracker.partitions.get? k = none →
    Covered (pending k) (x.position k)

/-- What holds of the whole group. -/
structure Sound (log : Log) (s : State π) : Prop where
  committed : ∀ k, Covered (Pending log s.finished k) (s.committed k)
  held : ∀ k o, (k, o) ∈ s.delivered → (log.record k o).isSome
  reached : ∀ k o o', (k, o) ∈ s.delivered → Pending log s.finished k o' → o' < o → (k, o') ∈ s.delivered
  process : ∀ p, (s.process p).Sound (Pending log s.finished) s.delivered

theorem Process.Sound.mono {pending pending' : PartitionKey → Int → Prop}
    {delivered delivered' : List (PartitionKey × Int)} {x : Process}
    (sound : x.Sound pending delivered) (fewer : ∀ k o, pending' k o → pending k o)
    (more : delivered ⊆ delivered') : x.Sound pending' delivered' where
  tracker := sound.tracker.mono fewer
  inFlight := fun m h => more (sound.inFlight m h)
  queued := fun m h => ⟨more (sound.queued m h).1, fun h' => (sound.queued m h).2 (fewer _ _ h')⟩
  passed := fun k owned o h below => more (sound.passed k owned o (fewer k o h) below)
  unanchored := fun k owned h => (sound.unanchored k owned h).mono (fewer k)

/-- A step that leaves alone what the invariant reads. -/
theorem Process.Sound.quiet {pending : PartitionKey → Int → Prop}
    {delivered : List (PartitionKey × Int)} {x y : Process} (sound : x.Sound pending delivered)
    (consumer : y.consumer = x.consumer) (owned : y.owned = x.owned)
    (position : y.position = x.position) (queue : y.commitQueue = x.commitQueue)
    (flight : ∀ m, y.InFlight m → x.InFlight m) : y.Sound pending delivered := by
  obtain ⟨h₁, h₂, h₃, h₄, h₅⟩ := sound
  refine ⟨consumer ▸ h₁, fun m h => h₂ m (flight m h), queue ▸ h₃, ?_, ?_⟩
  · rw [owned, position]; exact h₄
  · rw [owned, position, consumer]; exact h₅

/-- A call of the consumer that forgets no partition. -/
theorem Process.Sound.call {pending : PartitionKey → Int → Prop}
    {delivered : List (PartitionKey × Int)} {x y : Process} {call : Call}
    (sound : x.Sound pending delivered) (secure : call.Secure pending)
    (tracked : ∀ k, call.consumer.tracker.partitions.get? k = none →
      x.consumer.tracker.partitions.get? k = none)
    (consumer : y.consumer = call.consumer) (owned : y.owned = x.owned)
    (position : y.position = x.position) (queue : y.commitQueue ⊆ x.commitQueue)
    (flight : ∀ m, y.InFlight m → x.InFlight m) : y.Sound pending delivered := by
  obtain ⟨-, h₂, h₃, h₄, h₅⟩ := sound
  refine ⟨consumer ▸ secure.tracker, fun m h => h₂ m (flight m h), fun m h => h₃ m (queue h), ?_, ?_⟩
  · rw [owned, position]; exact h₄
  · rw [owned, position, consumer]
    exact fun k hk none => h₅ k hk (tracked k none)

/-- A step that only moves one process. -/
theorem Sound.set {s : State π} (sound : Sound log s) {p : π} {x : Process}
    (moved : x.Sound (Pending log s.finished) s.delivered) : Sound log (s.set p x) where
  committed := sound.committed
  held := sound.held
  reached := sound.reached
  process := by
    refine (Function.forall_update_iff _ fun _ => Process.Sound _ _).mpr ⟨moved, fun q _ => ?_⟩
    exact sound.process q

/-- A call of the consumer that gives back covered commits. -/
theorem Sound.commit {s : State π} (sound : Sound log s) {p : π} {x : Process} {reply : CommitReply}
    {call : Call} (moved : { x with consumer := call.consumer }.Sound (Pending log s.finished) s.delivered)
    (covered : ∀ k n, call.commits.get? k = some n → Covered (Pending log s.finished k) n) :
    Sound log (s.commit p x reply call).1 :=
  ⟨CommitReply.store_covered sound.committed covered, sound.held, sound.reached,
    (sound.set moved).process⟩

/-! ### The steps that involve the tracker -/

theorem sound_assign {s : State π} (sound : Sound log s) (p : π) (keys : List PartitionKey) :
    Sound log (s.set p { s.process p with
      consumer := (s.process p).consumer.onAssign keys
      owned := (s.process p).owned ++ keys
      position := fun k => if k ∈ keys then s.committed k else (s.process p).position k }) := by
  have x := sound.process p
  refine sound.set ⟨x.tracker, x.inFlight, x.queued, ?_, ?_⟩
  · intro k owned o pending below
    simp only at below
    split at below
    · exact absurd (sound.committed k o pending) (not_le.mpr below)
    · rename_i other
      exact x.passed k ((List.mem_append.mp owned).resolve_right other) o pending below
  · intro k owned none
    simp only
    split
    · exact sound.committed k
    · rename_i other
      exact x.unanchored k ((List.mem_append.mp owned).resolve_right other) none

theorem sound_revoke {s : State π} (sound : Sound log s) (p : π) (keys : List PartitionKey)
    (reply : CommitReply) :
    Sound log (s.commit p
      { s.process p with owned := (s.process p).owned.filter fun k => decide (k ∉ keys) } reply
      ((s.process p).consumer.onRevoke keys reply)).1 := by
  have x := sound.process p
  have call := EventConsumer.onRevoke_secure x.tracker keys reply
  refine sound.commit ⟨call.tracker, x.inFlight, x.queued, ?_, ?_⟩ call.commits
  · intro k owned
    exact x.passed k (List.mem_filter.mp owned).1
  · intro k owned none
    obtain ⟨owned, other⟩ := List.mem_filter.mp owned
    exact x.unanchored k owned (EventConsumer.onRevoke_tracked (of_decide_eq_true other) none)

theorem sound_pollMessage {s : State π} (sound : Sound log s) {p : π} {k : PartitionKey}
    {offset : Int} {record : Record} (found : log.record k offset = some record)
    (owned : k ∈ (s.process p).owned)
    (next : log.next k ((s.process p).position k) offset = true) :
    Sound log { s.set p { s.process p with
        pc := .putting (record.message k offset)
        position := Function.update (s.process p).position k (offset + 1)
        consumer := (s.process p).consumer.observeDispatched (record.message k offset) } with
      delivered := (k, offset) :: s.delivered } := by
  have x := sound.process p
  -- Whatever lies below the record and is pending has been delivered before.
  have below : ∀ o, Pending log s.finished k o → o < offset → (k, o) ∈ s.delivered := by
    intro o pending less
    by_cases passed : o < (s.process p).position k
    · exact x.passed k owned o pending passed
    · have := Log.next_least next pending.1 (not_lt.mp passed)
      omega
  have anchored : (s.process p).consumer.tracker.partitions.get? k = none →
      Covered (Pending log s.finished k) offset := by
    intro none o pending
    exact Log.next_least next pending.1 (x.unanchored k owned none o pending)
  have grown : s.delivered ⊆ (k, offset) :: s.delivered := List.subset_cons_self ..
  have moved : Process.Sound (Pending log s.finished) ((k, offset) :: s.delivered)
      { s.process p with
        pc := .putting (record.message k offset)
        position := Function.update (s.process p).position k (offset + 1)
        consumer := (s.process p).consumer.observeDispatched (record.message k offset) } := by
    refine ⟨Tracker.observe_secure x.tracker anchored, ?_, ?_, ?_, ?_⟩
    · rintro m (putting | inFlight)
      · obtain rfl : record.message k offset = m := by injection putting
        exact List.mem_cons_self
      · exact grown (x.inFlight m (.inr inFlight))
    · exact fun m mem => ⟨grown (x.queued m mem).1, (x.queued m mem).2⟩
    · intro k' owned' o pending less
      by_cases same : k' = k
      · subst same
        simp only [Function.update_self] at less
        rcases lt_or_eq_of_le (Int.lt_add_one_iff.mp less) with less | rfl
        · exact grown (below o pending less)
        · exact List.mem_cons_self
      · simp only [Function.update_of_ne same] at less
        exact grown (x.passed k' owned' o pending less)
    · intro k' owned' none
      by_cases same : k' = k
      · subst same
        simp [EventConsumer.observeDispatched, Tracker.observe] at none
      · simp only [EventConsumer.observeDispatched, Tracker.observe, messageKey_message,
          Dict.get?_set, if_neg same] at none
        simpa [Function.update_of_ne same] using x.unanchored k' owned' none
  refine ⟨sound.committed, ?_, ?_, ?_⟩
  · intro k' o mem
    rcases List.mem_cons.mp mem with eq | mem
    · cases eq; simp [found]
    · exact sound.held k' o mem
  · intro k' o o' mem pending less
    rcases List.mem_cons.mp mem with eq | mem
    · cases eq; exact grown (below o' pending less)
    · exact grown (sound.reached k' o o' mem pending less)
  · refine (Function.forall_update_iff _ fun _ => Process.Sound _ _).mpr ⟨moved, fun q _ => ?_⟩
    exact (sound.process q).mono (fun _ _ h => h) grown

/-- A worker ends `process`; a terminal outcome finishes the record. -/
theorem sound_finish {s : State π} (sound : Sound log s) {p : π} {i : Nat} {m : ConsumedMessage}
    (busy : (s.process p).workers i = .busy m) (queued : Bool) (raised : Option String) :
    Sound log { s.set p { s.process p with
        workers := Function.update (s.process p).workers i .waiting
        commitQueue := if queued then (s.process p).commitQueue ++ [m] else (s.process p).commitQueue
        errors := (s.process p).errors ++ raised.toList } with
      finished := if queued then (messageKey m, m.offset) :: s.finished else s.finished } := by
  have x := sound.process p
  set finished := if queued then (messageKey m, m.offset) :: s.finished else s.finished with hf
  have fewer : ∀ k o, Pending log finished k o → Pending log s.finished k o := by
    intro k o pending
    refine ⟨pending.1, fun old => pending.2 ?_⟩
    rw [hf]
    split
    · exact List.mem_cons_of_mem _ old
    · exact old
  have y := x.mono fewer (List.Subset.refl _)
  refine ⟨fun k => (sound.committed k).mono (fewer k), sound.held,
    fun k o o' mem pending => sound.reached k o o' mem (fewer k o' pending), ?_⟩
  refine (Function.forall_update_iff _ fun _ => Process.Sound _ _).mpr
    ⟨⟨y.tracker, ?_, ?_, y.passed, y.unanchored⟩,
      fun q _ => (sound.process q).mono fewer (List.Subset.refl _)⟩
  · rintro m' (putting | waiting | ⟨j, other⟩)
    · exact x.inFlight m' (.inl putting)
    · exact x.inFlight m' (.inr (.inl waiting))
    · by_cases same : j = i
      · subst same; simp at other
      · simp only [Function.update_of_ne same] at other
        exact x.inFlight m' (.inr (.inr ⟨j, other⟩))
  · intro m' mem
    cases queued with
    | false => exact y.queued m' mem
    | true =>
      rcases List.mem_append.mp mem with old | new
      · exact y.queued m' old
      · obtain rfl := List.mem_singleton.mp new
        exact ⟨x.inFlight m' (.inr (.inr ⟨i, busy⟩)), fun pending => pending.2 (by simp [hf])⟩

/-! ### Completions of an earlier assignment -/

/-- When a completion is drained into a partition that is not revoked and that the
tracker holds nothing about, no delivered record below it is unfinished. -/
def noStaleBootstrap (s : State π) (a : π × Act) : Bool :=
  match a.2, (s.process a.1).commitQueue with
  | .drain _, m :: _ =>
    let c := (s.process a.1).consumer
    decide (messageKey m ∈ c.revoked) || (c.tracker.partitions.get? (messageKey m)).isSome ||
      decide (∀ d ∈ s.delivered, d.1 = messageKey m → d ∉ s.finished → m.offset ≤ d.2)
  | _, _ => true

omit [DecidableEq π] in
theorem commitTerminal_drain_secure {s : State π} (sound : Sound log s) {p : π} {m : ConsumedMessage}
    {rest : List ConsumedMessage} (queue : (s.process p).commitQueue = m :: rest)
    {reply : CommitReply} (fresh : noStaleBootstrap s (p, .drain reply) = true) :
    ((s.process p).consumer.commitTerminal m reply).Secure (Pending log s.finished) := by
  have x := sound.process p
  obtain ⟨delivered, done⟩ := x.queued m (by simp [queue])
  refine EventConsumer.commitTerminal_secure x.tracker reply done ?_
  intro current none o pending
  simp only [noStaleBootstrap, queue, none, Option.isSome_none, Bool.or_false, Bool.or_eq_true,
    decide_eq_true_eq] at fresh
  by_contra below
  have earlier := sound.reached _ _ o delivered pending (not_le.mp below)
  exact below ((fresh.resolve_left current) _ earlier rfl pending.2)

/-! ### Every step -/

/-- A step that meets `noStaleBootstrap` keeps the invariant, and whatever it commits
is covered. -/
theorem step_sound {s t : State π} {p : π} {a : Act} {commits : Dict PartitionKey Int}
    (sound : Sound log s) (fresh : noStaleBootstrap s (p, a) = true)
    (stepped : step config log s p a = some (t, commits)) :
    Sound log t ∧ ∀ k n, commits.get? k = some n → Covered (Pending log s.finished k) n := by
  have x := sound.process p
  -- Steps that do not reach the consumer commit nothing.
  have quiet : ∀ y : Process, (s.set p y, (∅ : Dict PartitionKey Int)) = (t, commits) →
      y.consumer = (s.process p).consumer → y.owned = (s.process p).owned →
      y.position = (s.process p).position → y.commitQueue = (s.process p).commitQueue →
      (∀ m, y.InFlight m → (s.process p).InFlight m) →
      Sound log t ∧ ∀ k n, commits.get? k = some n → Covered (Pending log s.finished k) n := by
    intro y eq h₁ h₂ h₃ h₄ h₅
    cases eq
    exact ⟨sound.set (x.quiet h₁ h₂ h₃ h₄ h₅), by simp⟩
  have sameFlight : ∀ {pc : Pc} {y : Process}, y.pc = pc → (∀ m, pc ≠ .putting m) →
      y.workQueue = (s.process p).workQueue → y.workers = (s.process p).workers →
      ∀ m, y.InFlight m → (s.process p).InFlight m := by
    intro pc y hpc other queue workers m flight
    rcases flight with putting | flight
    · exact absurd (hpc ▸ putting) (other m)
    · exact .inr (by rwa [queue, workers] at flight)
  cases a with
  | enter | leave | pollNone | pollError | close =>
    simp only [step, Option.ite_none_right_eq_some, Option.some.injEq] at stepped
    exact quiet _ stepped.2 rfl rfl rfl rfl (sameFlight rfl (by simp) rfl rfl)
  | raiseError =>
    simp only [step] at stepped
    split at stepped
    · simp only [Option.ite_none_right_eq_some, Option.some.injEq] at stepped
      exact quiet _ stepped.2 rfl rfl rfl rfl (sameFlight rfl (by simp) rfl rfl)
    · cases stepped
  | assign keys =>
    simp only [step, Option.ite_none_right_eq_some, Option.some.injEq] at stepped
    cases stepped.2
    exact ⟨sound_assign sound p keys, by simp⟩
  | revoke keys reply =>
    simp only [step, Option.ite_none_right_eq_some, Option.some.injEq] at stepped
    cases stepped.2
    exact ⟨sound_revoke sound p keys reply, (EventConsumer.onRevoke_secure x.tracker keys reply).commits⟩
  | pollMessage k offset =>
    simp only [step] at stepped
    split at stepped
    · rename_i record found
      simp only [Option.ite_none_right_eq_some, Option.some.injEq] at stepped
      cases stepped.2
      exact ⟨sound_pollMessage sound found stepped.1.2.1 stepped.1.2.2, by simp⟩
    · cases stepped
  | flushIdle reply =>
    simp only [step, Option.ite_none_right_eq_some, Option.some.injEq] at stepped
    cases stepped.2
    have call := EventConsumer.maybeFlushIdle_secure x.tracker reply
    refine ⟨sound.commit (x.call call (fun _ => EventConsumer.maybeFlushIdle_tracked) rfl rfl rfl
      (List.Subset.refl _) (sameFlight rfl ?_ rfl rfl)) call.commits, call.commits⟩
    intro m
    split <;> simp
  | put =>
    simp only [step] at stepped
    split at stepped
    · rename_i m putting
      simp only [Option.ite_none_right_eq_some, Option.some.injEq] at stepped
      refine quiet _ stepped.2 rfl rfl rfl rfl ?_
      rintro m' (absurd | waiting | busy)
      · cases absurd
      · rcases List.mem_append.mp waiting with waiting | new
        · exact .inr (.inl waiting)
        · obtain rfl : m' = m := Option.some.inj (List.mem_singleton.mp new)
          exact .inl putting
      · exact .inr (.inr busy)
    · cases stepped
  | drain reply =>
    simp only [step] at stepped
    split at stepped
    · rename_i m rest queue
      simp only [Option.ite_none_right_eq_some, Option.some.injEq] at stepped
      obtain ⟨at_, eq⟩ := stepped
      cases eq
      have call := commitTerminal_drain_secure sound queue fresh
      refine ⟨sound.commit (x.call call (fun _ => EventConsumer.commitTerminal_tracked) rfl rfl rfl
        (by simp [queue]) (sameFlight rfl ?_ rfl rfl)) call.commits, call.commits⟩
      intro m'
      split
      · simp
      · rcases at_ with h | h | h <;> rw [h] <;> simp
    · cases stepped
  | drained =>
    simp only [step] at stepped
    split at stepped
    · exact quiet _ (Option.some.inj stepped) rfl rfl rfl rfl (sameFlight rfl (by simp) rfl rfl)
    · simp only [Option.ite_none_right_eq_some, Option.some.injEq] at stepped
      exact quiet _ stepped.2 rfl rfl rfl rfl (sameFlight rfl (by simp) rfl rfl)
  | putStop =>
    simp only [step] at stepped
    split at stepped
    · simp only [Option.ite_none_right_eq_some, Option.some.injEq] at stepped
      refine quiet _ stepped.2 rfl rfl rfl rfl ?_
      rintro m' (absurd | waiting | busy)
      · cases absurd
      · exact .inr (.inl (by simpa using waiting))
      · exact .inr (.inr busy)
    · exact quiet _ (Option.some.inj stepped) rfl rfl rfl rfl (sameFlight rfl (by simp) rfl rfl)
    · cases stepped
  | joined =>
    simp only [step, Option.ite_none_right_eq_some, Option.some.injEq] at stepped
    exact quiet _ stepped.2 rfl rfl rfl rfl (sameFlight rfl (by simp) rfl rfl)
  | take i =>
    simp only [step] at stepped
    split at stepped
    · rename_i item rest queue
      simp only [Option.ite_none_right_eq_some, Option.some.injEq] at stepped
      refine quiet _ stepped.2 rfl rfl rfl rfl ?_
      rintro m' (putting | waiting | ⟨j, busy⟩)
      · exact .inl putting
      · exact .inr (.inl (by rw [queue]; exact List.mem_cons_of_mem _ waiting))
      · by_cases same : j = i
        · subst same
          simp only [Function.update_self] at busy
          cases item with
          | none => cases busy
          | some m =>
            obtain rfl : m = m' := by injection busy
            exact .inr (.inl (by rw [queue]; exact List.mem_cons_self))
        · simp only [Function.update_of_ne same] at busy
          exact .inr (.inr ⟨j, busy⟩)
    · cases stepped
  | finish i queued raised =>
    simp only [step] at stepped
    split at stepped
    · rename_i m busy
      cases stepped
      exact ⟨sound_finish sound busy queued raised, by simp⟩
    · cases stepped
  | flushPending reply =>
    simp only [step, Option.ite_none_right_eq_some, Option.some.injEq] at stepped
    cases stepped.2
    have call := EventConsumer.flushPending_secure x.tracker reply
    exact ⟨sound.commit (x.call call (fun _ => EventConsumer.flushPending_tracked) rfl rfl rfl
      (List.Subset.refl _) (sameFlight rfl (by simp) rfl rfl)) call.commits, call.commits⟩
  | crash now =>
    simp only [step, Option.some.injEq] at stepped
    cases stepped
    refine ⟨sound.set ⟨fun _ _ => by simp [newConsumer], ?_, by simp, by simp, by simp⟩, by simp⟩
    rintro m (putting | waiting | ⟨i, busy⟩)
    · cases putting
    · cases waiting
    · cases busy

omit [DecidableEq π] in
theorem sound_init : Sound log (init config log : State π) where
  committed := fun k o pending => log.from_start k o pending.1
  held := by simp [init]
  reached := by simp [init]
  process := by
    intro p
    refine ⟨fun _ _ => by simp [init, newConsumer], ?_, by simp [init], by simp [init],
      by simp [init]⟩
    rintro m (putting | waiting | ⟨i, busy⟩)
    · cases putting
    · cases waiting
    · cases busy

/-- Every state of a run without stale bootstraps is sound. -/
theorem run_sound {s : State π} {as : List (π × Act)}
    (met : (machine config log).Along (fun s a => noStaleBootstrap s a = true) (init config log) as)
    (ran : (machine config log).run (init config log) as = some s) : Sound log s := by
  have keep : ∀ (s : State π) a t, Sound log s → noStaleBootstrap s a = true →
      (machine config log).step s a = some t → Sound log t := by
    rintro s ⟨p, a⟩ t sound fresh stepped
    obtain ⟨⟨t', commits⟩, moved, rfl⟩ := Option.map_eq_some_iff.mp stepped
    exact (step_sound sound fresh moved).1
  exact (machine config log).invariant_along keep sound_init met ran

/-- What process `p` commits in this step is at most the offset of every delivered
record of the partition that has not reached a terminal outcome. -/
def CommitsFinished (config : Config) (log : Log) (s : State π) (p : π) (a : Act) : Prop :=
  ∀ t commits, step config log s p a = some (t, commits) →
    ∀ k n, commits.get? k = some n → ∀ o, (k, o) ∈ s.delivered → (k, o) ∉ s.finished → n ≤ o

/-- **Pooled commits.** In every run of any number of pooled processes in which no
completion of an earlier assignment anchors a partition past unfinished records,
no process ever commits past a delivered record that is unfinished. -/
theorem pooled_commits_finished (config : Config) (log : Log) (as : List (π × Act)) (p : π) (a : Act)
    (s : State π)
    (met : (machine config log).Along (fun s a => noStaleBootstrap s a = true) (init config log)
      (as ++ [(p, a)]))
    (ran : (machine config log).run (init config log) as = some s) :
    CommitsFinished config log s p a := by
  have sound := run_sound ((machine config log).along_left met) ran
  have fresh := ((machine config log).along_append met ran).1
  intro t commits stepped k n committed o delivered unfinished
  exact (step_sound sound fresh stepped).2 k n committed o ⟨sound.held k o delivered, unfinished⟩

/-! ### A stale completion -/

/-- One partition that holds the offsets 10 and 11. -/
def twoRecords : Log where
  start := fun _ => 10
  record := fun k o => if k = ("commerce.events", 0) ∧ (o = 10 ∨ o = 11) then
    some ⟨none, none, none, []⟩ else none
  from_start := by
    intro k o held
    split at held
    · rename_i here; omega
    · cases held

/-- The default batching, with two workers. -/
def twoWorkers : Config where
  workerPoolSize := 2
  offsetCommitBatchSize := 50
  offsetCommitIntervalSeconds := 1 / 10

/-- Both records are dispatched in order. -/
def dispatchBoth : List Act :=
  [.enter, .assign [("commerce.events", 0)], .pollMessage ("commerce.events", 0) 10, .put, .drained,
    .enter, .pollMessage ("commerce.events", 0) 11, .put, .drained, .take 0, .take 1]

/-- Worker 1 finishes offset 11; the partition is revoked and assigned again inside
`poll`, and then the commit queue is drained. -/
def staleCompletion : List Act :=
  dispatchBoth ++ [.finish 1 true none, .enter, .revoke [("commerce.events", 0)] {},
    .assign [("commerce.events", 0)], .pollNone, .flushIdle { now := 1 }]

/-- What draining the queue after `acts` hands to `commit_fn` for the partition, and
whether offset 10 has been delivered and finished by then. -/
def drainAfter (acts : List Act) : Option (Option Int × Bool × Bool) :=
  ((machine twoWorkers twoRecords).run (init twoWorkers twoRecords) (acts.map (Prod.mk ()))).bind
    fun s => (step twoWorkers twoRecords s () (.drain { now := 1 })).map fun r =>
      (r.2.get? ("commerce.events", 0), decide ((("commerce.events", 0), 10) ∈ s.delivered),
        decide ((("commerce.events", 0), 10) ∈ s.finished))

/-- Offset 12 is committed while the record at offset 10 is still being processed. -/
theorem not_pooled_commits_finished :
    ¬ ∀ (as : List (Unit × Act)) (s : State Unit) (a : Act),
      (machine twoWorkers twoRecords).run (init twoWorkers twoRecords) as = some s →
      CommitsFinished twoWorkers twoRecords s () a := by
  intro safe
  have drained : drainAfter staleCompletion = some (some 12, true, false) := by decide +kernel
  obtain ⟨s, ran, stepped⟩ := Option.bind_eq_some_iff.mp drained
  obtain ⟨⟨t, commits⟩, stepped, eq⟩ := Option.map_eq_some_iff.mp stepped
  simp only [Prod.mk.injEq, decide_eq_true_eq, decide_eq_false_iff_not] at eq
  obtain ⟨committed, delivered, unfinished⟩ := eq
  have bound := safe _ s _ ran t commits stepped _ 12 committed 10 delivered unfinished
  omega

/-- Worker 1 finishes offset 11 and the completion is drained in the same assignment. -/
def sameAssignment : List Act :=
  dispatchBoth ++ [.finish 1 true none, .enter, .pollNone, .flushIdle {}]

theorem pooled_commits_finished_sameAssignment :
    ∃ s : State Unit, (machine twoWorkers twoRecords).run (init twoWorkers twoRecords)
        (sameAssignment.map (Prod.mk ())) = some s ∧
      CommitsFinished twoWorkers twoRecords s () (.drain { now := 1 }) := by
  obtain ⟨s, ran⟩ := Option.isSome_iff_exists.mp (show ((machine twoWorkers twoRecords).run
    (init twoWorkers twoRecords) (sameAssignment.map (Prod.mk ()))).isSome = true by decide +kernel)
  exact ⟨s, ran, pooled_commits_finished _ _ _ _ _ s (by decide +kernel) ran⟩

end CommercePlatform.Consumer.Pooled
