import Mathlib.Data.List.Sort
import Mathlib.Data.Finset.Sort
import Mathlib.Order.Bounds.Basic
import Mathlib.Tactic.Linarith

/-!
One partition of the offset tracker (`offset_tracker.py`, `_PartitionState`).

`markTerminal` advances `safeOffset` over the marked offsets that follow it and
parks the others in `pendingHeap`/`pendingSeen`. What the state means is stated
by `Tracks first marked st`: after the offsets `marked` have been marked in a
partition anchored at `first`, `safeOffset + 1` is the least offset from `first`
on that has not been marked, and the pending offsets are the marked ones above
`safeOffset`. `markTerminal_tracks` is the step: one more mark, in any order and
any number of times, keeps the meaning.
-/

namespace CommercePlatform.Offset

/-- `heapq.heappush`. Only the smallest element of a heap is ever read, so the
heap is kept in increasing order: its head is `heap[0]`, its tail what remains
after `heappop`. -/
def heappush (heap : List Int) (offset : Int) : List Int := heap.orderedInsert (· ≤ ·) offset

/-- `_PartitionState`. -/
structure PartitionState where
  safeOffset : Option Int := none
  committedOffset : Option Int := none
  recordsSinceCommit : Nat := 0
  pendingHeap : List Int := []
  pendingSeen : Finset Int := ∅
  dispatchFloor : Option Int := none
  deriving DecidableEq

namespace PartitionState

/-- The first dispatched offset pre-seeds the bootstrap; later ones change nothing. -/
def observe (st : PartitionState) (offset : Int) : PartitionState :=
  match st.dispatchFloor with
  | none => { st with dispatchFloor := some (offset - 1) }
  | some _ => st

/-- `while pending_heap and pending_heap[0] == safe_offset + 1`, with the loop's
`safe_offset` and heap as arguments. -/
def drain (st : PartitionState) (safe : Int) : List Int → PartitionState
  | [] => { st with safeOffset := some safe, pendingHeap := [] }
  | popped :: rest =>
      if popped = safe + 1 then
        drain { st with
          pendingSeen := st.pendingSeen.erase popped
          recordsSinceCommit := st.recordsSinceCommit + 1 } popped rest
      else { st with safeOffset := some safe, pendingHeap := popped :: rest }

/-- The safe offset `mark_terminal` starts from: the current one, or on the first
mark the floor `observe` recorded, or else the predecessor of this offset. -/
def bootstrap (st : PartitionState) (offset : Int) : Int :=
  match st.safeOffset with
  | some safe => safe
  | none =>
      match st.dispatchFloor with
      | some floor => floor
      | none => offset - 1

/-- `mark_terminal` once `safe_offset` is known. -/
def markFrom (st : PartitionState) (safe offset : Int) : PartitionState :=
  if offset ≤ safe ∨ offset ∈ st.pendingSeen then { st with safeOffset := some safe }
  else drain { st with pendingSeen := insert offset st.pendingSeen } safe
    (heappush st.pendingHeap offset)

def markTerminal (st : PartitionState) (offset : Int) : PartitionState :=
  st.markFrom (st.bootstrap offset) offset

def hasUncommittedSafeOffset (st : PartitionState) : Bool :=
  st.safeOffset.isSome && decide (st.safeOffset ≠ st.committedOffset)

/-! ### What a partition state means -/

/-- The state after exactly the offsets `marked` have been marked, in some order,
in a partition whose first offset is `first`. -/
structure Tracks (first : Int) (marked : Finset Int) (st : PartitionState) : Prop where
  safe : ∃ safe, st.safeOffset = some safe ∧
    IsLeast {o | first ≤ o ∧ o ∉ marked} (safe + 1) ∧
    st.pendingSeen = marked.filter (safe < ·)
  heap_sorted : st.pendingHeap.Pairwise (· < ·)
  heap_seen : st.pendingHeap.toFinset = st.pendingSeen

/-- No offset marked yet: nothing is safe and nothing is pending. -/
structure Unmarked (st : PartitionState) : Prop where
  safe : st.safeOffset = none
  heap : st.pendingHeap = []
  seen : st.pendingSeen = ∅

theorem Unmarked.fresh : Unmarked {} := ⟨rfl, rfl, rfl⟩

theorem heappush_sorted {heap : List Int} (sorted : heap.Pairwise (· < ·)) {offset : Int}
    (absent : offset ∉ heap) : (heappush heap offset).Pairwise (· < ·) := by
  have le : (heappush heap offset).Pairwise (· ≤ ·) :=
    List.Pairwise.orderedInsert offset heap (sorted.imp le_of_lt)
  have nodup : (heappush heap offset).Nodup :=
    (List.perm_orderedInsert _ offset heap).nodup_iff.mpr
      (List.nodup_cons.mpr ⟨absent, sorted.imp ne_of_lt⟩)
  exact (List.pairwise_and_iff.mpr ⟨le, nodup⟩).imp fun ⟨h, ne⟩ => lt_of_le_of_ne h ne

theorem mem_heappush {heap : List Int} {offset o : Int} :
    o ∈ heappush heap offset ↔ o = offset ∨ o ∈ heap :=
  List.mem_orderedInsert _

/-- The drain loop stops at the first gap: every offset it passes was in the heap,
the next one is not, and exactly the passed offsets leave the heap and the set. -/
theorem drain_spec (st : PartitionState) (safe : Int) (heap : List Int)
    (sorted : heap.Pairwise (· < ·)) (above : ∀ o ∈ heap, safe < o) :
    ∃ safe', (st.drain safe heap).safeOffset = some safe' ∧ safe ≤ safe' ∧
      (∀ o, safe < o → o ≤ safe' → o ∈ heap) ∧ safe' + 1 ∉ heap ∧
      (st.drain safe heap).pendingHeap = heap.filter (safe' < ·) ∧
      ∀ o, o ∈ (st.drain safe heap).pendingSeen ↔
        o ∈ st.pendingSeen ∧ ¬ (o ∈ heap ∧ o ≤ safe') := by
  induction heap generalizing st safe with
  | nil => exact ⟨safe, by simp [drain], le_refl _, by intro o h h'; omega, by simp, by simp [drain],
      by simp [drain]⟩
  | cons popped rest ih =>
    obtain ⟨below, restSorted⟩ := List.pairwise_cons.mp sorted
    have popAbove : safe < popped := above popped (List.mem_cons_self ..)
    by_cases contiguous : popped = safe + 1
    · obtain ⟨safe', hsafe, hle, hpassed, hgap, hheap, hseen⟩ := ih
        { st with pendingSeen := st.pendingSeen.erase popped
                  recordsSinceCommit := st.recordsSinceCommit + 1 } popped restSorted below
      refine ⟨safe', by simpa [drain, contiguous] using hsafe, by omega, ?_, ?_, ?_, ?_⟩
      · intro o lo hi
        by_cases ho : o = popped
        · exact ho ▸ List.mem_cons_self ..
        · exact List.mem_cons_of_mem _ (hpassed o (by omega) hi)
      · intro hmem
        rcases List.mem_cons.mp hmem with h | h
        · omega
        · exact hgap h
      · rw [List.filter_cons_of_neg (by simpa using hle)]
        simpa [drain, contiguous] using hheap
      · intro o
        have := hseen o
        simp only [Finset.mem_erase] at this
        rw [show st.drain safe (popped :: rest) = _ from if_pos contiguous, this]
        constructor
        · rintro ⟨⟨ne, hs⟩, hn⟩
          exact ⟨hs, fun ⟨hm, hl⟩ => hn ⟨(List.mem_cons.mp hm).resolve_left ne, hl⟩⟩
        · rintro ⟨hs, hn⟩
          refine ⟨⟨fun h => hn ⟨h ▸ List.mem_cons_self .., h ▸ hle⟩, hs⟩, fun ⟨hm, hl⟩ => ?_⟩
          exact hn ⟨List.mem_cons_of_mem _ hm, hl⟩
    · -- The loop stops here: `popped` and everything after it lie above the gap.
      have far : ∀ o ∈ popped :: rest, safe + 1 < o := by
        intro o ho
        rcases List.mem_cons.mp ho with rfl | h
        · omega
        · have := below o h; omega
      refine ⟨safe, by simp [drain, contiguous], le_refl _, by intro o h h'; omega,
        fun h => lt_irrefl _ (far _ h), ?_, ?_⟩
      · rw [List.filter_eq_self.mpr fun o ho => by have := far o ho; simp; omega]
        simp [drain, contiguous]
      · intro o
        have kept : ¬ (o ∈ popped :: rest ∧ o ≤ safe) := by
          rintro ⟨hm, hl⟩
          have := far o hm
          omega
        rw [show st.drain safe (popped :: rest) = _ from if_neg contiguous]
        exact ⟨fun h => ⟨h, kept⟩, fun h => h.1⟩

theorem drain_dispatchFloor (st : PartitionState) (safe : Int) (heap : List Int) :
    (st.drain safe heap).dispatchFloor = st.dispatchFloor := by
  induction heap generalizing st safe with
  | nil => rfl
  | cons popped rest ih =>
    unfold drain
    split
    · exact ih _ _
    · rfl

/-- Marking never moves the dispatch floor. -/
theorem markTerminal_dispatchFloor (st : PartitionState) (offset : Int) :
    (st.markTerminal offset).dispatchFloor = st.dispatchFloor := by
  unfold markTerminal markFrom
  split
  · rfl
  · exact drain_dispatchFloor _ _ _

/-- The step of `Tracks`, from a state whose safe offset is already `safe`. -/
theorem markFrom_tracks {first safe offset : Int} {marked : Finset Int} {st : PartitionState}
    (tracks : Tracks first marked { st with safeOffset := some safe }) :
    Tracks first (insert offset marked) (st.markFrom safe offset) := by
  obtain ⟨⟨s, hs, ⟨⟨hfirst, hfree⟩, hleast⟩, hseen⟩, hsorted, hheap⟩ := tracks
  simp only [Option.some.injEq] at hs hseen hsorted hheap
  subst hs
  unfold markFrom
  split
  · rename_i known
    -- Already safe or already pending: neither the minimum nor the pending set moves.
    have unmoved : offset ≤ safe ∨ offset ∈ marked :=
      known.imp_right fun h => (Finset.mem_filter.mp (hseen ▸ h)).1
    refine ⟨⟨safe, rfl, ⟨⟨hfirst, ?_⟩, ?_⟩, ?_⟩, hsorted, hheap⟩
    · rw [Finset.mem_insert, not_or]
      refine ⟨fun h => ?_, hfree⟩
      rcases unmoved with hle | hin
      · omega
      · exact hfree (h ▸ hin)
    · exact fun o ho => hleast ⟨ho.1, fun h => ho.2 (Finset.mem_insert_of_mem h)⟩
    · show st.pendingSeen = _
      rw [Finset.filter_insert, hseen]
      split
      · rename_i hlt
        have hin : offset ∈ marked := unmoved.resolve_left (by omega)
        rw [Finset.insert_eq_self.mpr (Finset.mem_filter.mpr ⟨hin, hlt⟩)]
      · rfl
  · rename_i fresh
    rw [not_or, not_le] at fresh
    obtain ⟨beyond, unseen⟩ := fresh
    have memHeap : ∀ o, o ∈ st.pendingHeap ↔ o ∈ marked ∧ safe < o := by
      intro o
      rw [← List.mem_toFinset, hheap, hseen, Finset.mem_filter]
    have sorted' : (heappush st.pendingHeap offset).Pairwise (· < ·) :=
      heappush_sorted hsorted fun h => unseen (hheap ▸ List.mem_toFinset.mpr h)
    have above' : ∀ o ∈ heappush st.pendingHeap offset, safe < o := by
      intro o ho
      rcases mem_heappush.mp ho with rfl | h
      · exact beyond
      · exact ((memHeap o).mp h).2
    have memPush : ∀ o, o ∈ heappush st.pendingHeap offset ↔ o ∈ insert offset marked ∧ safe < o := by
      intro o
      rw [mem_heappush, memHeap, Finset.mem_insert]
      constructor
      · rintro (rfl | ⟨hm, hl⟩)
        · exact ⟨Or.inl rfl, beyond⟩
        · exact ⟨Or.inr hm, hl⟩
      · rintro ⟨rfl | hm, hl⟩
        · exact Or.inl rfl
        · exact Or.inr ⟨hm, hl⟩
    obtain ⟨safe', hsafe, hle, hpassed, hgap, hheap', hseen'⟩ := drain_spec
      { st with pendingSeen := insert offset st.pendingSeen } safe _ sorted' above'
    have memSeen : ∀ o, o ∈ insert offset st.pendingSeen ↔ o ∈ insert offset marked ∧ safe < o := by
      intro o
      rw [← memPush, mem_heappush, Finset.mem_insert, ← hheap, List.mem_toFinset]
    refine ⟨⟨safe', hsafe, ⟨⟨by omega, ?_⟩, ?_⟩, ?_⟩, ?_, ?_⟩
    · exact fun h => hgap ((memPush _).mpr ⟨h, by omega⟩)
    · intro o ⟨hof, hon⟩
      by_contra hlt
      rw [not_le] at hlt
      by_cases hos : o ≤ safe
      · have := hleast ⟨hof, fun h => hon (Finset.mem_insert_of_mem h)⟩
        omega
      · exact hon ((memPush o).mp (hpassed o (by omega) (by omega))).1
    · ext o
      rw [hseen', memSeen, Finset.mem_filter, memPush]
      constructor
      · rintro ⟨⟨hm, hl⟩, hn⟩
        exact ⟨hm, not_le.mp fun h => hn ⟨⟨hm, hl⟩, h⟩⟩
      · rintro ⟨hm, hl⟩
        exact ⟨⟨hm, by omega⟩, fun h => by omega⟩
    · rw [hheap']; exact sorted'.filter _
    · ext o
      rw [List.mem_toFinset, hheap', List.mem_filter, hseen', memSeen, memPush]
      simp only [decide_eq_true_eq]
      constructor
      · rintro ⟨⟨hm, hl⟩, hs⟩
        exact ⟨⟨hm, hl⟩, fun h => by omega⟩
      · rintro ⟨⟨hm, hl⟩, hn⟩
        exact ⟨⟨hm, hl⟩, not_le.mp fun h => hn ⟨⟨hm, hl⟩, h⟩⟩

/-- Marking one more offset keeps the meaning of the state. -/
theorem markTerminal_tracks {first offset : Int} {marked : Finset Int} {st : PartitionState}
    (tracks : Tracks first marked st) :
    Tracks first (insert offset marked) (st.markTerminal offset) := by
  obtain ⟨safe, hsafe, -⟩ := tracks.safe
  have known : st.bootstrap offset = safe := by simp [bootstrap, hsafe]
  rw [markTerminal, known]
  apply markFrom_tracks
  rw [show ({ st with safeOffset := some safe } : PartitionState) = st by rw [← hsafe]]
  exact tracks

/-- The first mark anchors the partition one above its bootstrap value. -/
theorem markTerminal_first {st : PartitionState} (unmarked : Unmarked st) (offset : Int) :
    Tracks (st.bootstrap offset + 1) {offset} (st.markTerminal offset) := by
  rw [show ({offset} : Finset Int) = insert offset ∅ from rfl]
  apply markFrom_tracks
  refine ⟨⟨st.bootstrap offset, rfl, ⟨⟨le_refl _, by simp⟩, fun o ho => ho.1⟩, ?_⟩, ?_, ?_⟩
  · simpa using unmarked.seen
  · simp [unmarked.heap]
  · simp [unmarked.heap, unmarked.seen]

/-- The meaning determines the safe offset and the pending offsets. -/
theorem Tracks.unique {first : Int} {marked : Finset Int} {st st' : PartitionState}
    (h : Tracks first marked st) (h' : Tracks first marked st') :
    st.safeOffset = st'.safeOffset ∧ st.pendingSeen = st'.pendingSeen ∧
      st.pendingHeap = st'.pendingHeap := by
  obtain ⟨s, hs, hleast, hseen⟩ := h.safe
  obtain ⟨s', hs', hleast', hseen'⟩ := h'.safe
  have eq : s = s' := by have := hleast.unique hleast'; omega
  subst eq
  have seenEq : st.pendingSeen = st'.pendingSeen := hseen.trans hseen'.symm
  refine ⟨hs.trans hs'.symm, seenEq, ?_⟩
  have perm : st.pendingHeap.Perm st'.pendingHeap := by
    rw [List.perm_ext_iff_of_nodup (h.heap_sorted.imp ne_of_lt) (h'.heap_sorted.imp ne_of_lt)]
    intro o
    rw [← List.mem_toFinset, ← List.mem_toFinset, h.heap_seen, h'.heap_seen, seenEq]
  exact perm.eq_of_pairwise (fun a b _ _ hab hba => absurd hab (not_lt_of_gt hba))
    h.heap_sorted h'.heap_sorted

/-- What does not read or write the bookkeeping of marks keeps the meaning. -/
theorem Tracks.congr {first : Int} {marked : Finset Int} {st st' : PartitionState}
    (h : Tracks first marked st) (safe : st'.safeOffset = st.safeOffset)
    (heap : st'.pendingHeap = st.pendingHeap) (seen : st'.pendingSeen = st.pendingSeen) :
    Tracks first marked st' := by
  obtain ⟨hsafe, hsorted, hheap⟩ := h
  exact ⟨by rw [safe, seen]; exact hsafe, by rw [heap]; exact hsorted, by rw [heap, seen]; exact hheap⟩

theorem Unmarked.congr {st st' : PartitionState} (h : Unmarked st)
    (safe : st'.safeOffset = st.safeOffset) (heap : st'.pendingHeap = st.pendingHeap)
    (seen : st'.pendingSeen = st.pendingSeen) : Unmarked st' :=
  ⟨safe.trans h.safe, heap.trans h.heap, seen.trans h.seen⟩

end PartitionState

end CommercePlatform.Offset
