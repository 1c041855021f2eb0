import Mathlib.Data.Rat.Defs
import Mathlib.Algebra.Order.Ring.Rat
import CommercePlatform.Lib.Dict
import CommercePlatform.Offset.PartitionState

/-!
The batched offset commit tracker (`offset_tracker.py`, `OffsetCommitTracker`).

Every operation is a total function of the tracker, of what the clock reads and
of whether `commit_fn` returns or raises; `FlushResult` also carries the mapping
that was handed to `commit_fn`. Metrics and log lines are not modelled.

`exec` runs a list of operations. `epoch k ops` is the part of that list which
concerns partition `k` since it was last dropped, and `Fits` relates the two: the
state kept for `k` is the state `Tracks` describes for the offsets marked in the
epoch.
-/

namespace CommercePlatform.Offset

/-- `(topic, partition)`. -/
abbrev PartitionKey := String × Int

instance lawfulBEq_partitionKey : LawfulBEq PartitionKey := inferInstance

/-- `OffsetCommitTracker`: its settings and its mutable fields. -/
structure Tracker where
  batchSize : Nat
  intervalSeconds : Rat
  partitions : Dict PartitionKey PartitionState := ∅
  recordsSinceFlush : Nat := 0
  lastFlushAt : Rat

/-- A tracker after one call: the mapping passed to `commit_fn` (empty when it was
not called), whether the call raised, and the tracker left behind. -/
structure FlushResult where
  commits : Dict PartitionKey Int := ∅
  raised : Bool := false
  tracker : Tracker

namespace Tracker

/-- `self._partitions.setdefault(key, _PartitionState())`. -/
def stateOf (t : Tracker) (key : PartitionKey) : PartitionState :=
  (t.partitions.get? key).getD {}

def markTerminal (t : Tracker) (key : PartitionKey) (offset : Int) : Tracker :=
  { t with
    partitions := t.partitions.set key ((t.stateOf key).markTerminal offset)
    recordsSinceFlush := t.recordsSinceFlush + 1 }

def observe (t : Tracker) (key : PartitionKey) (offset : Int) : Tracker :=
  { t with partitions := t.partitions.set key ((t.stateOf key).observe offset) }

def dropPartition (t : Tracker) (key : PartitionKey) : Tracker :=
  { t with partitions := t.partitions.erase key }

def resetCounters (t : Tracker) (now : Rat) : Tracker :=
  { t with recordsSinceFlush := 0, lastFlushAt := now }

/-- The partitions a flush looks at: all of them, or those of `only`. -/
def inScope (only : Option (List PartitionKey)) (key : PartitionKey) : Bool :=
  match only with
  | none => true
  | some keys => decide (key ∈ keys)

/-- The mapping `_flush` builds: the next offset of every partition in scope whose
safe offset is not the committed one. -/
def pendingCommits (t : Tracker) (only : Option (List PartitionKey)) : Dict PartitionKey Int :=
  t.partitions.filterMap fun key st =>
    if inScope only key && st.hasUncommittedSafeOffset then st.safeOffset.map (· + 1) else none

/-- The loop over `commits.items()` after a successful commit. -/
def recordCommitted (t : Tracker) (commits : Dict PartitionKey Int) : Tracker :=
  { t with partitions := t.partitions.mapValues fun key st =>
      match commits.get? key with
      | some nextOffset =>
          { st with committedOffset := some (nextOffset - 1), recordsSinceCommit := 0 }
      | none => st }

/-- `_flush`. `commitOk` says whether `commit_fn` returns; `now` is the clock when
the counters are reset, which only an unscoped flush does. -/
def flush (t : Tracker) (only : Option (List PartitionKey)) (commitOk : Bool) (now : Rat) :
    FlushResult :=
  let commits := t.pendingCommits only
  let finish (t : Tracker) := if only.isNone then t.resetCounters now else t
  if commits.entries.isEmpty then { tracker := finish t }
  else if commitOk then { commits := commits, tracker := finish (t.recordCommitted commits) }
  else { commits := commits, raised := true, tracker := t }

/-- `maybe_flush`; `now` is the reading compared with the interval. -/
def maybeFlush (t : Tracker) (now : Rat) (commitOk : Bool) (after : Rat) : FlushResult :=
  if t.recordsSinceFlush = 0 then { tracker := t }
  else if t.batchSize ≤ t.recordsSinceFlush then t.flush none commitOk after
  else if t.intervalSeconds ≤ now - t.lastFlushAt then t.flush none commitOk after
  else { tracker := t }

def flushAll (t : Tracker) (commitOk : Bool) (after : Rat) : FlushResult :=
  t.flush none commitOk after

def flushPartitions (t : Tracker) (keys : List PartitionKey) (commitOk : Bool) (after : Rat) :
    FlushResult :=
  t.flush (some keys) commitOk after

end Tracker

/-! ### Sequences of operations -/

/-- One public call on the tracker, with what its environment answers. -/
inductive Op where
  | observe (key : PartitionKey) (offset : Int)
  | markTerminal (key : PartitionKey) (offset : Int)
  | maybeFlush (now : Rat) (commitOk : Bool) (after : Rat)
  | flushAll (commitOk : Bool) (after : Rat)
  | flushPartitions (keys : List PartitionKey) (commitOk : Bool) (after : Rat)
  | dropPartition (key : PartitionKey)

namespace Tracker

def apply (t : Tracker) : Op → FlushResult
  | .observe key offset => { tracker := t.observe key offset }
  | .markTerminal key offset => { tracker := t.markTerminal key offset }
  | .maybeFlush now commitOk after => t.maybeFlush now commitOk after
  | .flushAll commitOk after => t.flushAll commitOk after
  | .flushPartitions keys commitOk after => t.flushPartitions keys commitOk after
  | .dropPartition key => { tracker := t.dropPartition key }

def exec (t : Tracker) (ops : List Op) : Tracker := ops.foldl (fun t op => (t.apply op).tracker) t

@[simp] theorem exec_nil (t : Tracker) : t.exec [] = t := rfl

theorem exec_concat (t : Tracker) (ops : List Op) (op : Op) :
    t.exec (ops ++ [op]) = ((t.exec ops).apply op).tracker := by
  simp [exec]

/-! ### What one call does to one partition -/

/-- The state of a partition after a flush is the state before it up to its commit
bookkeeping, and a partition is tracked after it iff it was before. -/
structure SameMarks (before after : Option PartitionState) : Prop where
  none_iff : after = none ↔ before = none
  some_of : ∀ st, before = some st → ∃ st', after = some st' ∧
    st'.safeOffset = st.safeOffset ∧ st'.pendingHeap = st.pendingHeap ∧
    st'.pendingSeen = st.pendingSeen ∧ st'.dispatchFloor = st.dispatchFloor

theorem SameMarks.refl (st : Option PartitionState) : SameMarks st st :=
  ⟨Iff.rfl, fun st h => ⟨st, h, rfl, rfl, rfl, rfl⟩⟩

theorem recordCommitted_sameMarks (t : Tracker) (commits : Dict PartitionKey Int)
    (key : PartitionKey) :
    SameMarks (t.partitions.get? key) ((t.recordCommitted commits).partitions.get? key) := by
  simp only [recordCommitted, Dict.get?_mapValues]
  refine ⟨by simp, ?_⟩
  intro st h
  refine ⟨_, by rw [h]; rfl, ?_⟩
  split <;> exact ⟨rfl, rfl, rfl, rfl⟩

theorem flush_sameMarks (t : Tracker) (only : Option (List PartitionKey)) (commitOk : Bool)
    (now : Rat) (key : PartitionKey) :
    SameMarks (t.partitions.get? key)
      ((t.flush only commitOk now).tracker.partitions.get? key) := by
  unfold flush
  simp only
  split
  · split <;> exact .refl _
  · split
    · split <;> exact recordCommitted_sameMarks t _ key
    · exact .refl _

theorem maybeFlush_sameMarks (t : Tracker) (now : Rat) (commitOk : Bool) (after : Rat)
    (key : PartitionKey) :
    SameMarks (t.partitions.get? key)
      ((t.maybeFlush now commitOk after).tracker.partitions.get? key) := by
  unfold maybeFlush
  split
  · exact .refl _
  · split
    · exact flush_sameMarks ..
    · split
      · exact flush_sameMarks ..
      · exact .refl _

/-- A flush hands to `commit_fn` the successor of the partition's safe offset. -/
theorem flush_commits {t : Tracker} {only : Option (List PartitionKey)} {commitOk : Bool}
    {now : Rat} {key : PartitionKey} {nextOffset : Int}
    (h : (t.flush only commitOk now).commits.get? key = some nextOffset) :
    inScope only key = true ∧ ∃ st safe, t.partitions.get? key = some st ∧
      st.safeOffset = some safe ∧ nextOffset = safe + 1 := by
  have pending : (t.pendingCommits only).get? key = some nextOffset := by
    unfold flush at h
    simp only at h
    split at h
    · simp at h
    · split at h <;> exact h
  simp only [pendingCommits, Dict.get?_filterMap, Option.bind_eq_some_iff] at pending
  obtain ⟨st, hst, hnext⟩ := pending
  split at hnext
  · rename_i hscope
    obtain ⟨safe, hsafe, rfl⟩ := Option.map_eq_some_iff.mp hnext
    exact ⟨(Bool.and_eq_true _ _ ▸ hscope).1, st, safe, hst, hsafe, rfl⟩
  · cases hnext

theorem maybeFlush_commits {t : Tracker} {now : Rat} {commitOk : Bool} {after : Rat}
    {key : PartitionKey} {nextOffset : Int}
    (h : (t.maybeFlush now commitOk after).commits.get? key = some nextOffset) :
    ∃ st safe, t.partitions.get? key = some st ∧ st.safeOffset = some safe ∧
      nextOffset = safe + 1 := by
  unfold maybeFlush at h
  split at h
  · simp at h
  · split at h
    · exact (flush_commits h).2
    · split at h
      · exact (flush_commits h).2
      · simp at h

/-- Whatever a call passes to `commit_fn` for a partition is `safe_offset + 1`. -/
theorem apply_commits {t : Tracker} {op : Op} {key : PartitionKey} {nextOffset : Int}
    (h : (t.apply op).commits.get? key = some nextOffset) :
    ∃ st safe, t.partitions.get? key = some st ∧ st.safeOffset = some safe ∧
      nextOffset = safe + 1 := by
  cases op with
  | observe | markTerminal | dropPartition => simp [apply] at h
  | maybeFlush => exact maybeFlush_commits h
  | flushAll => exact (flush_commits h).2
  | flushPartitions => exact (flush_commits h).2

end Tracker

/-! ### Epochs -/

/-- What happened to one partition since it was last dropped: the offsets observed,
in order, and the set of offsets marked. -/
structure Epoch where
  observed : List Int := []
  marked : Finset Int := ∅

def Epoch.step (key : PartitionKey) (e : Epoch) : Op → Epoch
  | .observe key' offset => if key' = key then { e with observed := e.observed ++ [offset] } else e
  | .markTerminal key' offset => if key' = key then { e with marked := insert offset e.marked } else e
  | .dropPartition key' => if key' = key then {} else e
  | _ => e

/-- The current epoch of partition `key` after `ops`. -/
def epoch (key : PartitionKey) (ops : List Op) : Epoch := ops.foldl (Epoch.step key) {}

theorem epoch_concat (key : PartitionKey) (ops : List Op) (op : Op) :
    epoch key (ops ++ [op]) = (epoch key ops).step key op := by
  simp [epoch]

/-- Every offset is observed, in its partition's current epoch, before it is marked. -/
def Disciplined (ops : List Op) : Prop :=
  ∀ pre post key offset, ops = pre ++ Op.markTerminal key offset :: post →
    offset ∈ (epoch key pre).observed

theorem disciplined_nil : Disciplined [] := by
  intro pre post key offset eq
  simp at eq

theorem Disciplined.concat {ops : List Op} (h : Disciplined ops) (op : Op)
    (last : ∀ key offset, op = .markTerminal key offset → offset ∈ (epoch key ops).observed) :
    Disciplined (ops ++ [op]) := by
  intro pre post key offset eq
  rcases List.eq_nil_or_concat post with rfl | ⟨post, op', rfl⟩
  · obtain ⟨rfl, hop⟩ := List.append_inj' eq rfl
    exact last key offset (List.singleton_inj.mp hop)
  · have eq' : ops ++ [op] = (pre ++ Op.markTerminal key offset :: post) ++ [op'] := by simp [eq]
    exact h pre post key offset (List.append_inj' eq' rfl).1

/-- The state kept for a partition fits its epoch: untracked before the first
observation, then anchored at the first observed offset. -/
def Fits (e : Epoch) (st : Option PartitionState) : Prop :=
  match e.observed with
  | [] => e.marked = ∅ ∧ st = none
  | first :: _ => ∃ s, st = some s ∧ s.dispatchFloor = some (first - 1) ∧
      if e.marked = ∅ then s.Unmarked else s.Tracks first e.marked

theorem Fits.congr {e : Epoch} {st st' : Option PartitionState} (h : Fits e st)
    (same : Tracker.SameMarks st st') : Fits e st' := by
  unfold Fits at h ⊢
  split
  · rename_i hobs
    simp only [hobs] at h
    exact ⟨h.1, same.none_iff.mpr h.2⟩
  · rename_i first rest hobs
    simp only [hobs] at h
    obtain ⟨s, rfl, hfloor, hmarks⟩ := h
    obtain ⟨s', rfl, hsafe, hheap, hseen, hfl⟩ := same.some_of s rfl
    refine ⟨s', rfl, hfl.trans hfloor, ?_⟩
    split
    · rename_i hempty
      rw [if_pos hempty] at hmarks
      exact hmarks.congr hsafe hheap hseen
    · rename_i hne
      rw [if_neg hne] at hmarks
      exact hmarks.congr hsafe hheap hseen

end CommercePlatform.Offset
