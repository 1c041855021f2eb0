import CommercePlatform.Offset.Tracker

/-!
Exactness of the offset tracker.

For every disciplined sequence of calls (each offset observed in its partition's
epoch before it is marked) the state kept for a partition is determined by the
first observed offset and the set of marked offsets: `safeOffset + 1` is the
least offset from the first observed one on that has not been marked.
`apply_fits` is the step, `exec_fits` the induction over the calls and
`tracker_exact` the statement about whole runs, with the value every commit
carries.
-/

namespace CommercePlatform.Offset

open Tracker

theorem fits_fresh : Fits {} none := ⟨rfl, rfl⟩

theorem stateOf_fits {e : Epoch} {t : Tracker} {key : PartitionKey}
    (h : Fits e (t.partitions.get? key)) (nothing : e.observed = []) : t.stateOf key = {} := by
  unfold Fits at h
  rw [nothing] at h
  rw [stateOf, h.2]
  rfl

/-- Observing an offset: the first one anchors the partition, the others change
nothing. -/
theorem observe_fits {e : Epoch} {t : Tracker} {key : PartitionKey}
    (h : Fits e (t.partitions.get? key)) (offset : Int) :
    Fits { e with observed := e.observed ++ [offset] } (some ((t.stateOf key).observe offset)) := by
  cases hobs : e.observed with
  | nil =>
    have fresh := stateOf_fits h hobs
    unfold Fits at h
    rw [hobs] at h
    refine ⟨_, rfl, by rw [fresh]; rfl, ?_⟩
    simp only [h.1, if_true, fresh]
    exact ⟨rfl, rfl, rfl⟩
  | cons first rest =>
    unfold Fits at h
    simp only [hobs] at h
    obtain ⟨s, hs, hfloor, hmarks⟩ := h
    refine ⟨s, ?_, hfloor, hmarks⟩
    simp [stateOf, hs, PartitionState.observe, hfloor]

/-- Marking an observed offset. -/
theorem markTerminal_fits {e : Epoch} {t : Tracker} {key : PartitionKey}
    (h : Fits e (t.partitions.get? key)) {offset : Int} (seen : offset ∈ e.observed) :
    Fits { e with marked := insert offset e.marked }
      (some ((t.stateOf key).markTerminal offset)) := by
  cases hobs : e.observed with
  | nil => simp [hobs] at seen
  | cons first rest =>
    unfold Fits at h
    simp only [hobs] at h
    obtain ⟨s, hs, hfloor, hmarks⟩ := h
    have state : t.stateOf key = s := by simp [stateOf, hs]
    have floorKept : (s.markTerminal offset).dispatchFloor = s.dispatchFloor :=
      PartitionState.markTerminal_dispatchFloor s offset
    refine ⟨_, rfl, by rw [state, floorKept, hfloor], ?_⟩
    simp only [Finset.insert_ne_empty, if_false, state]
    split at hmarks
    · rename_i none
      have anchor : s.bootstrap offset + 1 = first := by
        simp [PartitionState.bootstrap, hmarks.safe, hfloor]
      have := PartitionState.markTerminal_first hmarks offset
      rwa [anchor, show ({offset} : Finset Int) = insert offset e.marked by rw [none]; rfl] at this
    · exact PartitionState.markTerminal_tracks hmarks

/-- One call keeps every partition's state fitting its epoch. -/
theorem apply_fits {t : Tracker} {key : PartitionKey} {e : Epoch} {op : Op}
    (h : Fits e (t.partitions.get? key))
    (observedFirst : ∀ offset, op = .markTerminal key offset → offset ∈ e.observed) :
    Fits (e.step key op) ((t.apply op).tracker.partitions.get? key) := by
  cases op with
  | observe key' offset =>
    simp only [Epoch.step, apply, Tracker.observe, Dict.get?_set]
    by_cases same : key' = key
    · subst same; simpa using observe_fits h offset
    · simpa [same, Ne.symm same] using h
  | markTerminal key' offset =>
    simp only [Epoch.step, apply, Tracker.markTerminal, Dict.get?_set]
    by_cases same : key' = key
    · subst same
      simpa using markTerminal_fits h (observedFirst offset rfl)
    · simpa [same, Ne.symm same] using h
  | dropPartition key' =>
    simp only [Epoch.step, apply, Tracker.dropPartition, Dict.get?_erase]
    by_cases same : key' = key
    · subst same; simpa using fits_fresh
    · simpa [same, Ne.symm same] using h
  | maybeFlush => exact h.congr (maybeFlush_sameMarks ..)
  | flushAll => exact h.congr (flush_sameMarks ..)
  | flushPartitions => exact h.congr (flush_sameMarks ..)

/-- Calls on a new tracker that mark only observed offsets of a partition leave its state
fitting its epoch. -/
theorem exec_fits {t : Tracker} (new : t.partitions = ∅) {ops : List Op} {key : PartitionKey}
    (observedFirst : ∀ pre post offset, ops = pre ++ Op.markTerminal key offset :: post →
      offset ∈ (epoch key pre).observed) :
    Fits (epoch key ops) ((t.exec ops).partitions.get? key) := by
  induction ops using List.reverseRecOn with
  | nil => rw [exec_nil, new]; exact fits_fresh
  | append_singleton ops op ih =>
    rw [exec_concat, epoch_concat]
    refine apply_fits (ih fun pre post offset split => ?_) ?_
    · exact observedFirst pre (post ++ [op]) offset (by simp [split])
    · rintro offset rfl
      exact observedFirst ops [] offset rfl

/-- A marked partition is tracked, anchored at its first observed offset. -/
theorem exec_tracks {t : Tracker} (new : t.partitions = ∅) {ops : List Op} {key : PartitionKey}
    (observedFirst : ∀ pre post offset, ops = pre ++ Op.markTerminal key offset :: post →
      offset ∈ (epoch key pre).observed)
    (some_marked : (epoch key ops).marked.Nonempty) :
    ∃ st first, (t.exec ops).partitions.get? key = some st ∧
      (epoch key ops).observed.head? = some first ∧ st.Tracks first (epoch key ops).marked := by
  have fits := exec_fits new observedFirst
  unfold Fits at fits
  split at fits
  · exact absurd fits.1 some_marked.ne_empty
  · rename_i first rest hobs
    obtain ⟨st, hst, -, hmarks⟩ := fits
    rw [if_neg some_marked.ne_empty] at hmarks
    exact ⟨st, first, hst, by rw [hobs]; rfl, hmarks⟩

/-- **Tracker exactness.** After any disciplined sequence of calls on a new tracker
and for any partition with a marked offset: the safe offset is one below the
least offset, from the first observed one on, that the epoch has not marked;
the pending set is the marked offsets above it and the pending heap holds each of
them once; any other disciplined sequence with the same first observed offset
and the same marked offsets ends in the same state; and every value handed to
`commit_fn` during the run is the partition's safe offset plus one at that call. -/
theorem tracker_exact (t : Tracker) (new : t.partitions = ∅) (ops : List Op)
    (disc : Disciplined ops) (key : PartitionKey) :
    ((epoch key ops).marked.Nonempty →
      ∃ st first safe, (t.exec ops).partitions.get? key = some st ∧
        (epoch key ops).observed.head? = some first ∧ st.safeOffset = some safe ∧
        IsLeast {o | first ≤ o ∧ o ∉ (epoch key ops).marked} (safe + 1) ∧
        (∀ o, o ∈ st.pendingSeen ↔ o ∈ (epoch key ops).marked ∧ safe < o) ∧
        st.pendingHeap.Nodup ∧ (∀ o, o ∈ st.pendingHeap ↔ o ∈ st.pendingSeen) ∧
        ∀ (t' : Tracker) (ops' : List Op), t'.partitions = ∅ → Disciplined ops' →
          (epoch key ops').observed.head? = some first →
          (epoch key ops').marked = (epoch key ops).marked →
          ∃ st', (t'.exec ops').partitions.get? key = some st' ∧
            st'.safeOffset = st.safeOffset ∧ st'.pendingSeen = st.pendingSeen ∧
            st'.pendingHeap.Perm st.pendingHeap) ∧
    ∀ pre op post, ops = pre ++ op :: post → ∀ nextOffset,
      ((t.exec pre).apply op).commits.get? key = some nextOffset →
      ∃ st safe, (t.exec pre).partitions.get? key = some st ∧ st.safeOffset = some safe ∧
        nextOffset = safe + 1 := by
  refine ⟨fun some_marked => ?_, fun pre op post _ nextOffset h => apply_commits h⟩
  obtain ⟨st, first, hst, hfirst, htracks⟩ := exec_tracks new (fun pre post => disc pre post key) some_marked
  obtain ⟨safe, hsafe, hleast, hseen⟩ := htracks.safe
  refine ⟨st, first, safe, hst, hfirst, hsafe, hleast, ?_, htracks.heap_sorted.imp ne_of_lt, ?_, ?_⟩
  · intro o; rw [hseen, Finset.mem_filter]
  · intro o; rw [← htracks.heap_seen, List.mem_toFinset]
  · intro t' ops' new' disc' hfirst' hmarked
    obtain ⟨st', first', hst', hhead, htracks'⟩ :=
      exec_tracks new' (fun pre post => disc' pre post key) (hmarked ▸ some_marked)
    rw [hfirst', Option.some.injEq] at hhead
    subst hhead
    rw [hmarked] at htracks'
    obtain ⟨hs, hp, hh⟩ := htracks'.unique htracks
    exact ⟨st', hst', hs, hp, hh ▸ List.Perm.refl _⟩

/-- Offsets 10 and 11 of one partition, completed in the opposite order with a
commit in between. -/
def outOfOrder : List Op :=
  [.observe ("raw.orders", 0) 10, .observe ("raw.orders", 0) 11,
    .markTerminal ("raw.orders", 0) 11, .flushAll true 1, .markTerminal ("raw.orders", 0) 10]

theorem outOfOrder_disciplined : Disciplined outOfOrder := by
  have h₁ := disciplined_nil.concat (.observe ("raw.orders", 0) 10) (by simp)
  have h₂ := h₁.concat (.observe ("raw.orders", 0) 11) (by simp)
  have h₃ := h₂.concat (.markTerminal ("raw.orders", 0) 11)
    (by rintro _ _ ⟨rfl, rfl⟩; decide)
  have h₄ := h₃.concat (.flushAll true 1) (by simp)
  exact h₄.concat (.markTerminal ("raw.orders", 0) 10) (by rintro _ _ ⟨rfl, rfl⟩; decide)

theorem tracker_exact_outOfOrder :
    (epoch ("raw.orders", 0) outOfOrder).marked = {10, 11} ∧
    ∃ st safe, (({ batchSize := 1, intervalSeconds := 5, lastFlushAt := 0 } : Tracker).exec
        outOfOrder).partitions.get? ("raw.orders", 0) = some st ∧
      st.safeOffset = some safe ∧
      IsLeast {o : Int | 10 ≤ o ∧ o ∉ ({10, 11} : Finset Int)} (safe + 1) := by
  have marked : (epoch ("raw.orders", 0) outOfOrder).marked = {10, 11} := by decide
  refine ⟨marked, ?_⟩
  obtain ⟨st, first, safe, hst, hfirst, hsafe, hleast, -⟩ :=
    (tracker_exact { batchSize := 1, intervalSeconds := 5, lastFlushAt := 0 } rfl outOfOrder
      outOfOrder_disciplined ("raw.orders", 0)).1 (by rw [marked]; decide)
  obtain rfl : 10 = first := Option.some.inj hfirst
  exact ⟨st, safe, hst, hsafe, marked ▸ hleast⟩

end CommercePlatform.Offset
