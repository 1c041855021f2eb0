import CommercePlatform.Offset.Commits
import CommercePlatform.Offset.Exactness

/-!
Progress of the committed offset.

Once every delivered offset of a partition is marked, the tracker should be done with
it: nothing is parked in the heap and a flush commits the offset after the last one.
The tracker moves from an offset to its successor only, while Kafka leaves offsets out
(compaction, transaction markers, a reset after retention). `progress_iff` shows that
the tracker is done exactly when the delivered offsets are consecutive.
-/

namespace CommercePlatform.Offset

open Tracker

/-! ### Consecutive offsets -/

/-- Each offset is the successor of the one before it. -/
def Consecutive (offsets : List Int) : Prop := offsets.IsChain fun a b => b = a + 1

theorem Consecutive.mem_between {first : Int} {rest : List Int} (h : Consecutive (first :: rest))
    {last o : Int} (ends : (first :: rest).getLast? = some last) (low : first ≤ o) (high : o ≤ last) :
    o ∈ first :: rest := by
  induction rest generalizing first with
  | nil =>
    obtain rfl : first = last := by simpa using ends
    simp [le_antisymm high low]
  | cons next rest ih =>
    obtain ⟨rfl, chain⟩ := List.isChain_cons_cons.mp h
    by_cases same : o = first
    · simp [same]
    · exact List.mem_cons_of_mem _ (ih chain (by simpa using ends) (by omega))

/-- In an increasing list, offsets whose successor occurs unless they are last. -/
theorem consecutive_of_closed {offsets : List Int} (increasing : offsets.Pairwise (· < ·))
    (closed : ∀ a ∈ offsets, ∀ b ∈ offsets, a < b → a + 1 ∈ offsets) : Consecutive offsets := by
  induction offsets with
  | nil => exact .nil
  | cons first rest ih =>
    obtain ⟨above, restIncreasing⟩ := List.pairwise_cons.mp increasing
    have restClosed : ∀ a ∈ rest, ∀ b ∈ rest, a < b → a + 1 ∈ rest := by
      intro a ha b hb lt
      rcases List.mem_cons.mp (closed a (by simp [ha]) b (by simp [hb]) lt) with same | mem
      · have := above a ha
        omega
      · exact mem
    cases rest with
    | nil => exact .singleton _
    | cons next rest =>
      refine List.isChain_cons_cons.mpr ⟨?_, ih restIncreasing restClosed⟩
      have lt := above next (by simp)
      have mem := closed first (by simp) next (by simp) lt
      rcases List.mem_cons.mp mem with same | later
      · omega
      · rcases List.mem_cons.mp later with same | further
        · exact same.symm
        · have := (List.pairwise_cons.mp restIncreasing).1 _ further
          omega

theorem le_getLast {offsets : List Int} (increasing : offsets.Pairwise (· < ·)) {last o : Int}
    (ends : offsets.getLast? = some last) (mem : o ∈ offsets) : o ≤ last := by
  obtain ⟨front, rfl⟩ := List.getLast?_eq_some_iff.mp ends
  rcases List.mem_append.mp mem with before | same
  · exact ((List.pairwise_append.mp increasing).2.2 o before last (by simp)).le
  · exact (List.mem_singleton.mp same).le

namespace PartitionState

variable {first last : Int} {rest : List Int} {st : PartitionState}

/-- Consecutive marks leave nothing pending and everything safe. -/
theorem Tracks.done (tracks : Tracks first (first :: rest).toFinset st)
    (increasing : (first :: rest).Pairwise (· < ·)) (ends : (first :: rest).getLast? = some last)
    (consecutive : Consecutive (first :: rest)) :
    st.pendingHeap = [] ∧ st.safeOffset = some last := by
  obtain ⟨safe, known, ⟨⟨from_, free⟩, least⟩, seen⟩ := tracks.safe
  rw [List.mem_toFinset] at free
  have upper : safe + 1 ≤ last + 1 := by
    refine least ⟨?_, fun mem => ?_⟩
    · have := le_getLast increasing ends List.mem_cons_self
      omega
    · have := le_getLast increasing ends (List.mem_toFinset.mp mem)
      omega
  have lower : last < safe + 1 := by
    by_contra inside
    exact free (consecutive.mem_between ends from_ (by omega))
  obtain rfl : safe = last := by omega
  refine ⟨List.eq_nil_iff_forall_not_mem.mpr fun o mem => ?_, known⟩
  rw [← List.mem_toFinset, tracks.heap_seen, seen, Finset.mem_filter, List.mem_toFinset] at mem
  have := le_getLast increasing ends mem.1
  omega

/-- When nothing is pending, the marks are consecutive. -/
theorem Tracks.consecutive (tracks : Tracks first (first :: rest).toFinset st)
    (increasing : (first :: rest).Pairwise (· < ·)) (empty : st.pendingHeap = []) :
    Consecutive (first :: rest) := by
  obtain ⟨safe, -, ⟨-, least⟩, seen⟩ := tracks.safe
  have below : ∀ o ∈ first :: rest, o ≤ safe := by
    intro o mem
    by_contra above
    have pending : o ∈ st.pendingSeen := by
      rw [seen, Finset.mem_filter, List.mem_toFinset]
      exact ⟨mem, by omega⟩
    rw [← tracks.heap_seen, empty] at pending
    simp at pending
  refine consecutive_of_closed increasing fun a ha b hb lt => ?_
  by_contra absent
  have from_ : first ≤ a := by
    rcases List.mem_cons.mp ha with rfl | later
    · exact le_refl _
    · exact ((List.pairwise_cons.mp increasing).1 a later).le
  have := least ⟨(by omega : first ≤ a + 1), by rwa [List.mem_toFinset]⟩
  have := below b hb
  omega

end PartitionState

/-! ### Deliveries -/

/-- The offsets marked in a partition since it was last dropped, in order. -/
def marksSince (key : PartitionKey) (ops : List Op) : List Int :=
  ops.foldl (fun marks op =>
    match op with
    | .markTerminal key' offset => if key' = key then marks ++ [offset] else marks
    | .dropPartition key' => if key' = key then [] else marks
    | _ => marks) []

/-- How the offsets `delivered` of a partition have been handed to the tracker since it
was last dropped, and all been marked. -/
inductive Delivered (key : PartitionKey) (ops : List Op) (delivered : List Int) : Prop where
  /-- Each was observed at delivery and marked later, in any order. -/
  | pooled : (epoch key ops).observed = delivered →
      (epoch key ops).marked = delivered.toFinset →
      (∀ pre post offset, ops = pre ++ Op.markTerminal key offset :: post →
        offset ∈ (epoch key pre).observed) → Delivered key ops delivered
  /-- Each was marked before the next one was polled. -/
  | serial : (epoch key ops).observed = [] → marksSince key ops = delivered →
      Delivered key ops delivered

theorem marksSince_concat (key : PartitionKey) (ops : List Op) (op : Op) :
    marksSince key (ops ++ [op]) =
      match op with
      | .markTerminal key' offset =>
        if key' = key then marksSince key ops ++ [offset] else marksSince key ops
      | .dropPartition key' => if key' = key then [] else marksSince key ops
      | _ => marksSince key ops := by
  simp [marksSince]

/-- The state of a partition that was never observed, after these marks. -/
def FitsMarks (marks : List Int) (st : Option PartitionState) : Prop :=
  match marks with
  | [] => st = none
  | first :: rest => ∃ s, st = some s ∧ s.Tracks first (first :: rest).toFinset

theorem FitsMarks.congr {marks : List Int} {st st' : Option PartitionState} (h : FitsMarks marks st)
    (same : SameMarks st st') : FitsMarks marks st' := by
  cases marks with
  | nil => exact same.none_iff.mpr h
  | cons first rest =>
    obtain ⟨s, rfl, tracks⟩ := h
    obtain ⟨s', rfl, safe, heap, seen, -⟩ := same.some_of s rfl
    exact ⟨s', rfl, tracks.congr safe heap seen⟩

theorem FitsMarks.mark {marks : List Int} {t : Tracker} {key : PartitionKey}
    (h : FitsMarks marks (t.partitions.get? key)) (offset : Int) :
    FitsMarks (marks ++ [offset]) (some ((t.stateOf key).markTerminal offset)) := by
  cases marks with
  | nil =>
    have untracked : t.partitions.get? key = none := h
    have tracks := PartitionState.markTerminal_first PartitionState.Unmarked.fresh offset
    refine ⟨_, rfl, ?_⟩
    simpa [stateOf, untracked, PartitionState.bootstrap] using tracks
  | cons first rest =>
    obtain ⟨s, present, tracks⟩ := h
    have state : t.stateOf key = s := by simp [stateOf, present]
    have more : (first :: (rest ++ [offset])).toFinset = insert offset (first :: rest).toFinset := by
      ext o
      simp only [List.toFinset_cons, List.toFinset_append, Finset.mem_insert, Finset.mem_union,
        List.toFinset_nil, Finset.notMem_empty]
      tauto
    refine ⟨s.markTerminal offset, by rw [state], ?_⟩
    exact more ▸ PartitionState.markTerminal_tracks tracks

/-- Without observations the first mark anchors the partition. -/
theorem exec_fitsMarks {t : Tracker} (new : t.partitions = ∅) {ops : List Op} {key : PartitionKey}
    (unobserved : (epoch key ops).observed = []) :
    FitsMarks (marksSince key ops) ((t.exec ops).partitions.get? key) := by
  induction ops using List.reverseRecOn with
  | nil => simp [marksSince, FitsMarks, new]
  | append_singleton ops op ih =>
    rw [exec_concat, marksSince_concat]
    rw [epoch_concat] at unobserved
    cases op with
    | observe key' offset =>
      by_cases same : key' = key
      · simp [Epoch.step, same] at unobserved
      · simpa [apply, Tracker.observe, Dict.get?_set, Ne.symm same] using
          ih (by simpa [Epoch.step, same] using unobserved)
    | markTerminal key' offset =>
      by_cases same : key' = key
      · subst same
        simpa [apply, Tracker.markTerminal] using
          FitsMarks.mark (ih (by simpa [Epoch.step] using unobserved)) offset
      · simpa [apply, Tracker.markTerminal, Dict.get?_set, same, Ne.symm same] using
          ih (by simpa [Epoch.step, same] using unobserved)
    | dropPartition key' =>
      by_cases same : key' = key
      · subst same
        simp [apply, Tracker.dropPartition, FitsMarks]
      · simpa [apply, Tracker.dropPartition, Dict.get?_erase, same, Ne.symm same] using
          ih (by simpa [Epoch.step, same] using unobserved)
    | maybeFlush => exact (ih unobserved).congr (maybeFlush_sameMarks ..)
    | flushAll => exact (ih unobserved).congr (flush_sameMarks ..)
    | flushPartitions => exact (ih unobserved).congr (flush_sameMarks ..)

/-- Either way the partition is anchored at the first delivered offset. -/
theorem Delivered.tracks {t : Tracker} (new : t.partitions = ∅) {ops : List Op} {key : PartitionKey}
    {first : Int} {rest : List Int} (h : Delivered key ops (first :: rest)) :
    ∃ st, (t.exec ops).partitions.get? key = some st ∧ st.Tracks first (first :: rest).toFinset := by
  cases h with
  | pooled observed marked observedFirst =>
    obtain ⟨st, first', present, head, tracks⟩ := exec_tracks new observedFirst (by simp [marked])
    rw [observed] at head
    cases head
    exact ⟨st, present, marked ▸ tracks⟩
  | serial unobserved marks =>
    have fits := exec_fitsMarks new unobserved
    rwa [marks] at fits

/-! ### Progress -/

/-- The tracker is done with the partition: nothing is parked, and `flush_all` commits the
offset after the last delivered one unless that was committed before. -/
def Done (t : Tracker) (key : PartitionKey) (last : Int) : Prop :=
  ∃ st, t.partitions.get? key = some st ∧ st.pendingHeap = [] ∧
    (st.committedOffset ≠ some last → ∀ commitOk now,
      (t.flushAll commitOk now).commits.get? key = some (last + 1))

/-- When all delivered offsets of a partition are marked, the tracker is done with it if
and only if they are consecutive. -/
theorem progress_iff {t : Tracker} (new : t.partitions = ∅) {ops : List Op} {key : PartitionKey}
    {delivered : List Int} (handed : Delivered key ops delivered)
    (increasing : delivered.Pairwise (· < ·)) {last : Int} (ends : delivered.getLast? = some last) :
    Done (t.exec ops) key last ↔ Consecutive delivered := by
  cases delivered with
  | nil => cases ends
  | cons first rest =>
    obtain ⟨st, present, tracks⟩ := handed.tracks new
    constructor
    · rintro ⟨st', present', empty, -⟩
      cases Option.some.inj (present.symm.trans present')
      exact tracks.consecutive increasing empty
    · intro consecutive
      obtain ⟨empty, safe⟩ := tracks.done increasing ends consecutive
      refine ⟨st, present, empty, fun open_ commitOk now => ?_⟩
      rw [flushAll, flush_commits_eq, pendingCommits_get?]
      exact ⟨rfl, by simp [safeAt, present, safe], by simpa [committedAt, present] using open_⟩

theorem progress_iff_outOfOrder :
    Done (({ batchSize := 9, intervalSeconds := 5, lastFlushAt := 0 } : Tracker).exec outOfOrder)
      ("raw.orders", 0) 11 ∧ Consecutive [10, 11] := by
  have consecutive : Consecutive [10, 11] := by simp [Consecutive]
  have handed : Delivered ("raw.orders", 0) outOfOrder [10, 11] :=
    .pooled (by decide) (by decide) fun pre post => outOfOrder_disciplined pre post _
  exact ⟨(progress_iff rfl handed (by decide) rfl).mpr consecutive, consecutive⟩

/-- Offsets 10 and 12, with nothing in between: 12 stays parked and 11 is committed. -/
theorem not_progress :
    ¬ ∀ (t : Tracker) (ops : List Op) (key : PartitionKey) (delivered : List Int) (last : Int),
      t.partitions = ∅ → Delivered key ops delivered → delivered.Pairwise (· < ·) →
        delivered.getLast? = some last → Done (t.exec ops) key last := by
  intro claim
  have done := claim { batchSize := 9, intervalSeconds := 5, lastFlushAt := 0 }
    [.markTerminal ("raw.orders", 0) 10, .markTerminal ("raw.orders", 0) 12] ("raw.orders", 0)
    [10, 12] 12 rfl (.serial (by decide) (by decide)) (by decide) rfl
  obtain ⟨st, present, empty, -⟩ := done
  cases present
  revert empty
  decide

end CommercePlatform.Offset
