import CommercePlatform.Models
import CommercePlatform.Offset.Commits
import CommercePlatform.Offset.Coverage

/-!
The Kafka consumer (`consumer.py`, `KafkaEventConsumer`) and the part of Kafka it
relies on.

A `Log` is what a topic holds for the group: the records of each partition from
the group's starting position on, with any gaps. Every call that may commit takes
a `CommitReply`, the environment's side of it: the clock, whether the client's
`commit` returns, and which partitions the broker stored although it raised.
-/

namespace CommercePlatform.Consumer

open Offset

def messageKey (m : ConsumedMessage) : PartitionKey := (m.topic, m.partition)

/-- The content of a Kafka record. -/
structure Record where
  timestamp : Option Instant
  key : Option (List UInt8)
  value : Option (List UInt8)
  headers : KafkaHeaders

/-- The records of every partition from the group's starting position on. -/
structure Log where
  start : PartitionKey → Int
  record : PartitionKey → Int → Option Record
  from_start : ∀ k o, (record k o).isSome → start k ≤ o

/-- The message `poll` builds from a record. -/
def Record.message (r : Record) (k : PartitionKey) (o : Int) : ConsumedMessage :=
  ⟨k.1, k.2, o, r.timestamp, r.key, r.value, r.headers⟩

@[simp] theorem messageKey_message (r : Record) (k : PartitionKey) (o : Int) :
    messageKey (r.message k o) = k := rfl

/-- `o` is the first offset from `position` on that holds a record. -/
def Log.next (log : Log) (k : PartitionKey) (position o : Int) : Bool :=
  decide (position ≤ o) && (log.record k o).isSome &&
    decide (∀ i < (o - position).toNat, (log.record k (position + i)).isNone)

theorem Log.next_least {log : Log} {k : PartitionKey} {position o o' : Int}
    (next : log.next k position o = true) (held : (log.record k o').isSome)
    (beyond : position ≤ o') : o ≤ o' := by
  simp only [Log.next, Bool.and_eq_true, decide_eq_true_eq] at next
  by_contra below
  have empty := next.2 (o' - position).toNat (by omega)
  rw [show position + ((o' - position).toNat : Int) = o' by omega, Option.isNone_iff_eq_none] at empty
  rw [empty] at held
  cases held

/-- How one attempt to commit ends. -/
structure CommitReply where
  now : Rat := 0
  after : Rat := 0
  ok : Bool := true
  stored : List PartitionKey := []

/-- The group's committed offsets after a call of `client.commit`. -/
def CommitReply.store (reply : CommitReply) (committed : PartitionKey → Int)
    (commits : Dict PartitionKey Int) (k : PartitionKey) : Int :=
  match commits.get? k with
  | some n => if reply.ok || decide (k ∈ reply.stored) then n else committed k
  | none => committed k

/-- `KafkaEventConsumer`: the tracker, and the partitions revoked since they were
last assigned. -/
structure EventConsumer where
  tracker : Tracker
  revoked : List PartitionKey := []

/-- A call of the consumer: the mapping handed to `client.commit`, whether the call
raised, and the consumer left behind. -/
structure Call where
  commits : Dict PartitionKey Int := ∅
  raised : Bool := false
  consumer : EventConsumer

namespace EventConsumer

def onAssign (c : EventConsumer) (keys : List PartitionKey) : EventConsumer :=
  { c with revoked := c.revoked.filter fun k => decide (k ∉ keys) }

/-- `on_revoke`: the flush may fail, the partitions are dropped either way. -/
def onRevoke (c : EventConsumer) (keys : List PartitionKey) (reply : CommitReply) : Call :=
  let flushed := c.tracker.flushPartitions keys reply.ok reply.after
  { commits := flushed.commits
    consumer :=
      { tracker := keys.foldl Tracker.dropPartition flushed.tracker
        revoked := c.revoked ++ keys } }

/-- `commit_terminal`; it raises without touching the tracker when the partition was
revoked. -/
def commitTerminal (c : EventConsumer) (m : ConsumedMessage) (reply : CommitReply) : Call :=
  if messageKey m ∈ c.revoked then { raised := true, consumer := c }
  else
    let marked := c.tracker.markTerminal (messageKey m) m.offset
    let flushed := marked.maybeFlush reply.now reply.ok reply.after
    { commits := flushed.commits, raised := flushed.raised
      consumer := { c with tracker := flushed.tracker } }

def observeDispatched (c : EventConsumer) (m : ConsumedMessage) : EventConsumer :=
  { c with tracker := c.tracker.observe (messageKey m) m.offset }

def maybeFlushIdle (c : EventConsumer) (reply : CommitReply) : Call :=
  let flushed := c.tracker.maybeFlush reply.now reply.ok reply.after
  { commits := flushed.commits, raised := flushed.raised
    consumer := { c with tracker := flushed.tracker } }

def flushPending (c : EventConsumer) (reply : CommitReply) : Call :=
  let flushed := c.tracker.flushAll reply.ok reply.after
  { commits := flushed.commits, raised := flushed.raised
    consumer := { c with tracker := flushed.tracker } }

end EventConsumer

/-! ### Calls of a secure consumer -/

/-- What a call must give back: a secure tracker and covered commits. -/
structure Call.Secure (pending : PartitionKey → Int → Prop) (call : Call) : Prop where
  tracker : call.consumer.tracker.Secure pending
  commits : ∀ k n, call.commits.get? k = some n → Covered (pending k) n

namespace EventConsumer

variable {pending : PartitionKey → Int → Prop} {c : EventConsumer}

theorem dropPartition_foldl_secure {t : Tracker} (secure : t.Secure pending)
    (keys : List PartitionKey) : (keys.foldl Tracker.dropPartition t).Secure pending := by
  induction keys generalizing t with
  | nil => exact secure
  | cons k keys ih => exact ih (Tracker.dropPartition_secure secure k)

theorem onRevoke_secure (secure : c.tracker.Secure pending) (keys : List PartitionKey)
    (reply : CommitReply) : (c.onRevoke keys reply).Secure pending :=
  ⟨dropPartition_foldl_secure (Tracker.flush_secure secure _ _ _) keys,
    fun _ _ => Tracker.flush_covered secure⟩

theorem maybeFlushIdle_secure (secure : c.tracker.Secure pending) (reply : CommitReply) :
    (c.maybeFlushIdle reply).Secure pending :=
  ⟨Tracker.maybeFlush_secure secure _ _ _, fun _ _ => Tracker.maybeFlush_covered secure⟩

theorem flushPending_secure (secure : c.tracker.Secure pending) (reply : CommitReply) :
    (c.flushPending reply).Secure pending :=
  ⟨Tracker.flush_secure secure _ _ _, fun _ _ => Tracker.flush_covered secure⟩

/-- A finished record may be handed to `commit_terminal` when its partition is
tracked, or covered up to it. -/
theorem commitTerminal_secure (secure : c.tracker.Secure pending) {m : ConsumedMessage}
    (reply : CommitReply) (done : ¬ pending (messageKey m) m.offset)
    (anchored : messageKey m ∉ c.revoked → c.tracker.partitions.get? (messageKey m) = none →
      Covered (pending (messageKey m)) m.offset) :
    (c.commitTerminal m reply).Secure pending := by
  unfold commitTerminal
  split
  · exact ⟨secure, by simp⟩
  · rename_i current
    have marked := Tracker.markTerminal_secure secure done (anchored current)
    exact ⟨Tracker.maybeFlush_secure marked _ _ _, fun _ _ => Tracker.maybeFlush_covered marked⟩

/-! Only `on_revoke` forgets a partition. -/

theorem maybeFlushIdle_tracked {reply : CommitReply} {k : PartitionKey}
    (gone : (c.maybeFlushIdle reply).consumer.tracker.partitions.get? k = none) :
    c.tracker.partitions.get? k = none :=
  (Tracker.maybeFlush_sameMarks ..).none_iff.mp gone

theorem flushPending_tracked {reply : CommitReply} {k : PartitionKey}
    (gone : (c.flushPending reply).consumer.tracker.partitions.get? k = none) :
    c.tracker.partitions.get? k = none :=
  (Tracker.flush_sameMarks ..).none_iff.mp gone

theorem commitTerminal_tracked {m : ConsumedMessage} {reply : CommitReply} {k : PartitionKey}
    (gone : (c.commitTerminal m reply).consumer.tracker.partitions.get? k = none) :
    c.tracker.partitions.get? k = none := by
  unfold commitTerminal at gone
  split at gone
  · exact gone
  · have marked := (Tracker.maybeFlush_sameMarks ..).none_iff.mp gone
    simp only [Tracker.markTerminal, Dict.get?_set] at marked
    split at marked
    · cases marked
    · exact marked

theorem dropPartition_foldl_get? (keys : List PartitionKey) (t : Tracker) (k : PartitionKey) :
    (keys.foldl Tracker.dropPartition t).partitions.get? k =
      if k ∈ keys then none else t.partitions.get? k := by
  induction keys generalizing t with
  | nil => simp
  | cons key keys ih =>
    rw [List.foldl_cons, ih, Tracker.dropPartition, Dict.get?_erase]
    by_cases same : k = key <;> by_cases later : k ∈ keys <;> simp [same, later]

/-- What a revocation does: the partitions are forgotten, the others are as before, and
only the revoked ones are committed. -/
structure Revokes (before : EventConsumer) (keys : List PartitionKey) (call : Call) : Prop where
  forgotten : ∀ k ∈ keys, call.consumer.tracker.partitions.get? k = none
  others : ∀ k ∉ keys,
    call.consumer.tracker.partitions.get? k = before.tracker.partitions.get? k
  commits : ∀ k n, call.commits.get? k = some n → k ∈ keys

theorem onRevoke_revokes (c : EventConsumer) (keys : List PartitionKey) (reply : CommitReply) :
    Revokes c keys (c.onRevoke keys reply) := by
  refine ⟨fun k mem => ?_, fun k other => ?_, fun k n commits => ?_⟩
  · simp [onRevoke, dropPartition_foldl_get?, mem]
  · simp only [onRevoke, dropPartition_foldl_get?, other, if_false]
    exact (Tracker.flushPartitions_other other).1
  · by_contra other
    have none_ : (c.tracker.flushPartitions keys reply.ok reply.after).commits.get? k = none :=
      (Tracker.flushPartitions_other other).2
    rw [onRevoke, none_] at commits
    cases commits

theorem onRevoke_tracked {keys : List PartitionKey} {reply : CommitReply} {k : PartitionKey}
    (other : k ∉ keys)
    (gone : (c.onRevoke keys reply).consumer.tracker.partitions.get? k = none) :
    c.tracker.partitions.get? k = none := by
  rw [(onRevoke_revokes c keys reply).others k other] at gone
  exact gone

end EventConsumer

/-- Covered commits keep the committed offsets covered, whatever the broker stores. -/
theorem CommitReply.store_covered {pending : PartitionKey → Int → Prop} {reply : CommitReply}
    {committed : PartitionKey → Int} {commits : Dict PartitionKey Int}
    (before : ∀ k, Covered (pending k) (committed k))
    (covered : ∀ k n, commits.get? k = some n → Covered (pending k) n) (k : PartitionKey) :
    Covered (pending k) (reply.store committed commits k) := by
  unfold CommitReply.store
  split
  · rename_i n found
    split
    · exact covered k n found
    · exact before k
  · exact before k

/-! ### Commits over a run -/

/-- For every sequence of calls on a new tracker: the offsets committed for a partition
since it was last dropped strictly increase; a call whose commit raises leaves the
tracker as it was, and until the partition is committed or dropped every flush of it
commits at least what that call wanted to; and a revocation forgets the revoked
partitions, commits no other and changes no other. -/
theorem tracker_commits (t : Tracker) (new : t.partitions = ∅) (ops : List Op) :
    (∀ key, (t.committedSince key ops).Pairwise (· < ·)) ∧
    (∀ op, ((t.exec ops).apply op).raised = true →
      ((t.exec ops).apply op).tracker = t.exec ops ∧
      ∀ key n, ((t.exec ops).apply op).commits.get? key = some n →
        ∀ between, (t.exec ops).Withhold key between →
          ∀ only, Tracker.inScope only key = true → ∀ commitOk now,
            ∃ m, (((t.exec ops).exec between).flush only commitOk now).commits.get? key = some m ∧
              n ≤ m) ∧
    ∀ c : EventConsumer, c.tracker = t.exec ops → ∀ keys reply,
      EventConsumer.Revokes c keys (c.onRevoke keys reply) := by
  refine ⟨fun key => Tracker.committedSince_increasing new ops key, fun op raised => ?_,
    fun c _ keys reply => EventConsumer.onRevoke_revokes c keys reply⟩
  refine ⟨Tracker.apply_raised raised, fun key n wanted between withheld only scope commitOk now => ?_⟩
  have owed := Tracker.owed_of_wanted (Tracker.sound_exec new ops key) wanted
  obtain ⟨m, commits, le⟩ := (owed.exec withheld).flush scope commitOk now
  exact ⟨m, commits, by omega⟩

/-- Offsets 1 and 2: the first is committed, the commit of the second fails. -/
theorem tracker_commits_failing :
    let t : Tracker := { batchSize := 9, intervalSeconds := 5, lastFlushAt := 0 }
    let ops : List Op :=
      [.markTerminal ("raw.orders", 0) 1, .flushAll true 1, .markTerminal ("raw.orders", 0) 2]
    t.committedSince ("raw.orders", 0) ops = [2] ∧
      ((t.exec ops).apply (.flushAll false 2)).raised = true ∧
      ∃ m, (((t.exec ops).exec [.markTerminal ("raw.orders", 0) 3]).flush none true 3).commits.get?
        ("raw.orders", 0) = some m ∧ 3 ≤ m := by
  intro t ops
  have raised : ((t.exec ops).apply (.flushAll false 2)).raised = true := by decide
  refine ⟨by decide, raised, ?_⟩
  refine ((tracker_commits t rfl ops).2.1 (.flushAll false 2) raised).2 ("raw.orders", 0) 3 (by decide)
    _ ?_ none rfl true 3
  intro pre op post split
  obtain ⟨rfl, rfl, rfl⟩ : pre = [] ∧ op = .markTerminal ("raw.orders", 0) 3 ∧ post = [] := by
    cases pre with
    | nil => simpa [eq_comm] using split
    | cons _ pre => cases pre <;> simp at split
  exact ⟨by simp, by decide⟩

end CommercePlatform.Consumer
