import CommercePlatform.Offset.Tracker

/-!
When committing is safe.

`pending o` says that offset `o` holds a record that still has to be finished.
Committing `n` is safe when `n` is below or at every pending offset
(`Covered pending n`). A tracker is secure when every commit it can issue is
safe: each partition is anchored at a covered offset and only finished offsets
were marked in it. `flush_secure`, `markTerminal_secure` and `observe_secure` are
the steps; the pooled and the serial consumer instantiate `pending`.
-/

namespace CommercePlatform.Offset

/-- Nothing pending lies below `n`. -/
def Covered (pending : Int → Prop) (n : Int) : Prop := ∀ o, pending o → n ≤ o

theorem Covered.mono {pending pending' : Int → Prop} {n : Int} (covered : Covered pending n)
    (fewer : ∀ o, pending' o → pending o) : Covered pending' n :=
  fun o h => covered o (fewer o h)

namespace PartitionState

/-- Anchored at a covered offset, with only finished offsets marked. -/
inductive Secure (pending : Int → Prop) (st : PartitionState) : Prop where
  | unmarked {first : Int} : st.Unmarked → st.dispatchFloor = some (first - 1) →
      Covered pending first → Secure pending st
  | marked {first : Int} {marked : Finset Int} : st.Tracks first marked →
      Covered pending first → (∀ o ∈ marked, ¬ pending o) → Secure pending st

variable {pending pending' : Int → Prop} {st : PartitionState}

theorem Secure.mono (secure : Secure pending st) (fewer : ∀ o, pending' o → pending o) :
    Secure pending' st := by
  cases secure with
  | unmarked none floor covered => exact .unmarked none floor (covered.mono fewer)
  | marked tracks covered finished =>
    exact .marked tracks (covered.mono fewer) fun o mem h => finished o mem (fewer o h)

/-- What a secure partition would commit is covered. -/
theorem Secure.covered (secure : Secure pending st) {safe : Int}
    (known : st.safeOffset = some safe) : Covered pending (safe + 1) := by
  cases secure with
  | unmarked none => rw [none.safe] at known; cases known
  | @marked first marked tracks covered finished =>
    obtain ⟨safe', known', least, -⟩ := tracks.safe
    obtain rfl : safe = safe' := Option.some.inj (known.symm.trans known')
    exact fun o h => least.2 ⟨covered o h, fun mem => finished o mem h⟩

theorem Secure.markTerminal (secure : Secure pending st) {offset : Int} (done : ¬ pending offset) :
    Secure pending (st.markTerminal offset) := by
  cases secure with
  | @unmarked first none floor covered =>
    have anchor : st.bootstrap offset + 1 = first := by simp [bootstrap, none.safe, floor]
    have tracks := markTerminal_first none offset
    rw [anchor] at tracks
    exact .marked tracks covered (by simpa using done)
  | marked tracks covered finished =>
    refine .marked (markTerminal_tracks tracks) covered ?_
    intro o mem
    rcases Finset.mem_insert.mp mem with rfl | mem
    · exact done
    · exact finished o mem

/-- A partition that starts with the mark of a covered offset. -/
theorem secure_markTerminal_new {offset : Int} (done : ¬ pending offset)
    (covered : Covered pending offset) : Secure pending (({} : PartitionState).markTerminal offset) := by
  have tracks := markTerminal_first Unmarked.fresh offset
  rw [show ({} : PartitionState).bootstrap offset + 1 = offset by simp [bootstrap]] at tracks
  exact .marked tracks covered (by simpa using done)

theorem Secure.observe (secure : Secure pending st) (offset : Int) :
    Secure pending (st.observe offset) := by
  unfold PartitionState.observe
  cases floor : st.dispatchFloor with
  | some _ => exact secure
  | none =>
    cases secure with
    | unmarked _ anchored => rw [floor] at anchored; cases anchored
    | marked tracks covered finished => exact .marked (tracks.congr rfl rfl rfl) covered finished

/-- A partition that starts with the observation of a covered offset. -/
theorem secure_observe_new {offset : Int} (covered : Covered pending offset) :
    Secure pending (({} : PartitionState).observe offset) :=
  .unmarked ⟨rfl, rfl, rfl⟩ rfl covered

end PartitionState

namespace Tracker

/-- Every tracked partition is secure. -/
def Secure (pending : PartitionKey → Int → Prop) (t : Tracker) : Prop :=
  ∀ key st, t.partitions.get? key = some st → st.Secure (pending key)

variable {pending pending' : PartitionKey → Int → Prop} {t t' : Tracker}

theorem Secure.mono (secure : t.Secure pending) (fewer : ∀ key o, pending' key o → pending key o) :
    t.Secure pending' :=
  fun key st h => (secure key st h).mono (fewer key)

theorem SameMarks.secure {before after : Option PartitionState} {todo : Int → Prop}
    (same : SameMarks before after) (secure : ∀ st, before = some st → st.Secure todo) :
    ∀ st, after = some st → st.Secure todo := by
  intro st' hafter
  cases before with
  | none =>
    rw [same.none_iff.mpr rfl] at hafter
    cases hafter
  | some st =>
    obtain ⟨st'', hafter', hsafe, hheap, hseen, hfloor⟩ := same.some_of st rfl
    obtain rfl : st' = st'' := Option.some.inj (hafter.symm.trans hafter')
    cases secure st rfl with
    | unmarked none floor covered =>
      exact .unmarked (none.congr hsafe hheap hseen) (hfloor.trans floor) covered
    | marked tracks covered finished => exact .marked (tracks.congr hsafe hheap hseen) covered finished

theorem flush_secure (secure : t.Secure pending) (only : Option (List PartitionKey))
    (commitOk : Bool) (now : Rat) : (t.flush only commitOk now).tracker.Secure pending :=
  fun key => (flush_sameMarks t only commitOk now key).secure (secure key)

theorem maybeFlush_secure (secure : t.Secure pending) (now : Rat) (commitOk : Bool) (after : Rat) :
    (t.maybeFlush now commitOk after).tracker.Secure pending :=
  fun key => (maybeFlush_sameMarks t now commitOk after key).secure (secure key)

/-- Every value a flush of a secure tracker hands to `commit_fn` is covered. -/
theorem flush_covered (secure : t.Secure pending) {only : Option (List PartitionKey)}
    {commitOk : Bool} {now : Rat} {key : PartitionKey} {n : Int}
    (commits : (t.flush only commitOk now).commits.get? key = some n) :
    Covered (pending key) n := by
  obtain ⟨-, st, safe, present, known, rfl⟩ := flush_commits commits
  exact (secure key st present).covered known

theorem maybeFlush_covered (secure : t.Secure pending) {now : Rat} {commitOk : Bool} {after : Rat}
    {key : PartitionKey} {n : Int}
    (commits : (t.maybeFlush now commitOk after).commits.get? key = some n) :
    Covered (pending key) n := by
  obtain ⟨st, safe, present, known, rfl⟩ := maybeFlush_commits commits
  exact (secure key st present).covered known

/-- Marking a finished offset; an untracked partition must be covered up to it. -/
theorem markTerminal_secure (secure : t.Secure pending) {key : PartitionKey} {offset : Int}
    (done : ¬ pending key offset)
    (anchored : t.partitions.get? key = none → Covered (pending key) offset) :
    (t.markTerminal key offset).Secure pending := by
  intro key' st' present
  simp only [Tracker.markTerminal, Dict.get?_set] at present
  split at present
  · rename_i same
    subst same
    cases present
    cases before : t.partitions.get? key' with
    | none => simpa [stateOf, before] using PartitionState.secure_markTerminal_new done (anchored before)
    | some st => simpa [stateOf, before] using (secure key' st before).markTerminal done
  · exact secure key' st' present

/-- Observing a dispatched offset; an untracked partition must be covered up to it. -/
theorem observe_secure (secure : t.Secure pending) {key : PartitionKey} {offset : Int}
    (anchored : t.partitions.get? key = none → Covered (pending key) offset) :
    (t.observe key offset).Secure pending := by
  intro key' st' present
  simp only [Tracker.observe, Dict.get?_set] at present
  split at present
  · rename_i same
    subst same
    cases present
    cases before : t.partitions.get? key' with
    | none => simpa [stateOf, before] using PartitionState.secure_observe_new (anchored before)
    | some st => simpa [stateOf, before] using (secure key' st before).observe offset
  · exact secure key' st' present

theorem dropPartition_secure (secure : t.Secure pending) (key : PartitionKey) :
    (t.dropPartition key).Secure pending := by
  intro key' st present
  simp only [Tracker.dropPartition, Dict.get?_erase] at present
  split at present
  · cases present
  · exact secure key' st present

end Tracker

end CommercePlatform.Offset
