import CommercePlatform.Consumer.EventConsumer

/-!
No stalled commit.

`maybe_flush` returns at once while `_records_since_flush` is zero. That counter is
global: only a mark raises it, and only a flush of every partition that did not raise
resets it. So it is positive as long as some partition has a safe offset that was not
committed, and an idle consumer still commits it once the interval has passed.
-/

namespace CommercePlatform.Offset.Tracker

/-- The partition has a safe offset different from its committed offset. -/
def Unflushed (t : Tracker) (key : PartitionKey) : Prop :=
  ∃ safe, t.safeAt key = some safe ∧ t.committedAt key ≠ some safe

/-- The counter that guards `maybe_flush` is positive while a partition is unflushed. -/
def Counted (t : Tracker) : Prop := ∀ key, t.Unflushed key → 1 ≤ t.recordsSinceFlush

theorem SameMarks.safeAt_eq {t t' : Tracker} {key : PartitionKey}
    (same : SameMarks (t.partitions.get? key) (t'.partitions.get? key)) :
    t'.safeAt key = t.safeAt key := by
  unfold safeAt
  cases before : t.partitions.get? key with
  | none => rw [same.none_iff.mpr before]
  | some st =>
    obtain ⟨st', after, safe, -⟩ := same.some_of st before
    rw [after]
    exact safe

theorem pendingCommits_unflushed {t : Tracker} {only : Option (List PartitionKey)}
    {key : PartitionKey} (scope : inScope only key = true) (unflushed : t.Unflushed key) :
    ∃ safe, t.safeAt key = some safe ∧ (t.pendingCommits only).get? key = some (safe + 1) := by
  obtain ⟨safe, known, fresh⟩ := unflushed
  refine ⟨safe, known, pendingCommits_get?.mpr ⟨scope, ?_, ?_⟩⟩
  · simpa using known
  · simpa using fresh

/-- A flush that does not raise leaves no partition of its scope unflushed. -/
theorem flush_unflushed {t : Tracker} {only : Option (List PartitionKey)} {commitOk : Bool}
    {now : Rat} {key : PartitionKey}
    (after : (t.flush only commitOk now).tracker.Unflushed key) :
    t.Unflushed key ∧
      ((t.flush only commitOk now).raised = false → inScope only key = false) := by
  obtain ⟨safe, known, fresh⟩ := after
  rw [SameMarks.safeAt_eq (flush_sameMarks t only commitOk now key)] at known
  rw [flush_committedAt] at fresh
  have unflushed : t.Unflushed key := by
    refine ⟨safe, known, fun committed => fresh ?_⟩
    cases stored : (t.flush only commitOk now).stored key with
    | none => simpa [stored] using committed
    | some n =>
      have wanted : (t.pendingCommits only).get? key = some n := by
        unfold FlushResult.stored at stored
        split at stored
        · cases stored
        · exact flush_commits_eq t only commitOk now ▸ stored
      have known' := (pendingCommits_get?.mp wanted).2.1
      rw [known] at known'
      simpa [stored] using known'.symm
  refine ⟨unflushed, fun quiet => ?_⟩
  by_contra scope
  rw [Bool.not_eq_false] at scope
  obtain ⟨safe', known', wanted⟩ := pendingCommits_unflushed scope unflushed
  obtain rfl := Option.some.inj (known.symm.trans known')
  apply fresh
  simp [FlushResult.stored, quiet, flush_commits_eq, wanted]

/-- The counter is reset by a flush of every partition only, and only when it does not
raise. -/
theorem flush_recordsSinceFlush (t : Tracker) (only : Option (List PartitionKey)) (commitOk : Bool)
    (now : Rat) :
    (t.flush only commitOk now).tracker.recordsSinceFlush = t.recordsSinceFlush ∨
      only = none ∧ (t.flush only commitOk now).raised = false := by
  unfold flush
  simp only
  cases only with
  | some keys =>
    split
    · exact Or.inl rfl
    · split <;> exact Or.inl rfl
  | none =>
    split
    · exact Or.inr ⟨rfl, rfl⟩
    · split
      · exact Or.inr ⟨rfl, rfl⟩
      · exact Or.inl rfl

theorem Counted.flush {t : Tracker} (counted : t.Counted) (only : Option (List PartitionKey))
    (commitOk : Bool) (now : Rat) : (t.flush only commitOk now).tracker.Counted := by
  intro key after
  obtain ⟨before, scope⟩ := flush_unflushed after
  rcases flush_recordsSinceFlush t only commitOk now with same | ⟨rfl, quiet⟩
  · rw [same]
    exact counted key before
  · exact absurd (scope quiet) (by simp [inScope])

/-- Every call keeps the counter positive while a partition is unflushed. -/
theorem Counted.apply {t : Tracker} (counted : t.Counted) (op : Op) :
    (t.apply op).tracker.Counted := by
  cases op with
  | observe key' offset =>
    intro key after
    refine counted key ?_
    simp only [Tracker.apply, Unflushed, safeAt, committedAt, Tracker.observe, Dict.get?_set] at after
    by_cases same : key = key'
    · subst same
      cases present : t.partitions.get? key with
      | none => simp [stateOf, present, PartitionState.observe_marks] at after
      | some st =>
        simpa [stateOf, present, PartitionState.observe_marks, Unflushed, safeAt, committedAt]
          using after
    · simpa [same, Unflushed, safeAt, committedAt] using after
  | markTerminal key' offset =>
    intro key after
    exact Nat.le_add_left 1 t.recordsSinceFlush
  | dropPartition key' =>
    intro key after
    refine counted key ?_
    simp only [Tracker.apply, Unflushed, safeAt, committedAt, Tracker.dropPartition,
      Dict.get?_erase] at after
    by_cases same : key = key'
    · simp [same] at after
    · simpa [same, Unflushed, safeAt, committedAt] using after
  | flushAll commitOk after => exact counted.flush none commitOk after
  | flushPartitions keys commitOk after => exact counted.flush (some keys) commitOk after
  | maybeFlush now commitOk after =>
    simp only [Tracker.apply]
    rcases maybeFlush_cases t now commitOk after with nothing | fired
    · rw [nothing]
      exact counted
    · rw [fired]
      exact counted.flush none commitOk after

theorem counted_exec {t : Tracker} (new : t.partitions = ∅) (ops : List Op) :
    (t.exec ops).Counted := by
  induction ops using List.reverseRecOn with
  | nil =>
    intro key unflushed
    simp [Unflushed, safeAt, new] at unflushed
  | append_singleton ops op ih =>
    rw [exec_concat]
    exact ih.apply op

/-- A counted tracker that holds an unflushed partition flushes when the interval has
elapsed, and commits every unflushed partition. -/
theorem Counted.maybeFlush_commits {t : Tracker} (counted : t.Counted) {now : Rat}
    (elapsed : t.intervalSeconds ≤ now - t.lastFlushAt) (commitOk : Bool) (after : Rat)
    {key : PartitionKey} (unflushed : t.Unflushed key) :
    ∃ safe, t.safeAt key = some safe ∧
      (t.maybeFlush now commitOk after).commits.get? key = some (safe + 1) := by
  have positive := counted key unflushed
  have fired : t.maybeFlush now commitOk after = t.flush none commitOk after := by
    unfold Tracker.maybeFlush
    rw [if_neg (by omega), if_pos elapsed, ite_self]
  rw [fired, flush_commits_eq]
  exact pendingCommits_unflushed rfl unflushed

end CommercePlatform.Offset.Tracker

namespace CommercePlatform.Consumer

open Offset

/-- In every reachable state of a tracker that holds an unflushed partition, the record
counter is positive; and once the interval has elapsed since the last flush, `maybe_flush`,
also when it is called by `maybe_flush_idle`, hands every unflushed partition to
`commit_fn`. -/
theorem no_stalled_commit (t : Tracker) (new : t.partitions = ∅) (ops : List Op)
    (stalled : ∃ key, (t.exec ops).Unflushed key) :
    1 ≤ (t.exec ops).recordsSinceFlush ∧
      ∀ reply : CommitReply,
        (t.exec ops).intervalSeconds ≤ reply.now - (t.exec ops).lastFlushAt →
        ∀ key, (t.exec ops).Unflushed key → ∃ safe, (t.exec ops).safeAt key = some safe ∧
          ((t.exec ops).maybeFlush reply.now reply.ok reply.after).commits.get? key =
            some (safe + 1) ∧
          ∀ c : EventConsumer, c.tracker = t.exec ops →
            (c.maybeFlushIdle reply).commits.get? key = some (safe + 1) := by
  have counted := Tracker.counted_exec new ops
  constructor
  · obtain ⟨key, unflushed⟩ := stalled
    exact counted key unflushed
  · intro reply elapsed key unflushed
    obtain ⟨safe, known, commits⟩ := counted.maybeFlush_commits elapsed reply.ok reply.after unflushed
    refine ⟨safe, known, commits, ?_⟩
    intro c same
    rw [EventConsumer.maybeFlushIdle, same]
    exact commits

/-- The scoped flush of offset 1 fails, then one of another partition succeeds: offset 1 is
still committed once the interval has elapsed. -/
theorem no_stalled_commit_scoped :
    let t : Tracker := { batchSize := 9, intervalSeconds := 5, lastFlushAt := 0 }
    let ops : List Op :=
      [.markTerminal ("raw.orders", 0) 1, .flushPartitions [("raw.orders", 0)] false 1,
        .markTerminal ("raw.orders", 1) 7, .flushPartitions [("raw.orders", 1)] true 2]
    1 ≤ (t.exec ops).recordsSinceFlush ∧
      ((t.exec ops).maybeFlush 6 true 6).commits.get? ("raw.orders", 0) = some 2 := by
  intro t ops
  have unflushed : (t.exec ops).Unflushed ("raw.orders", 0) := ⟨1, by decide, by decide⟩
  obtain ⟨counted, commits⟩ := no_stalled_commit t rfl ops ⟨_, unflushed⟩
  obtain ⟨safe, known, committed, -⟩ := commits ⟨6, 6, true, []⟩ (by decide +kernel) _ unflushed
  have one : (t.exec ops).safeAt ("raw.orders", 0) = some 1 := by decide
  rw [one] at known
  obtain rfl := Option.some.inj known
  exact ⟨counted, committed⟩

end CommercePlatform.Consumer
