import CommercePlatform.Offset.Tracker

/-!
Commits of one partition.

The committed offset of a partition never lies above its safe offset, and a flush
commits a partition only when the two differ: so the offsets committed between two
drops increase. A flush that raises leaves the tracker as it was, and what it wanted
to commit stays owed until a commit of the partition succeeds or it is dropped.
-/

namespace CommercePlatform.Offset

namespace PartitionState

/-- The safe offset is known and not below `n`. -/
def SafeFrom (n : Int) (st : PartitionState) : Prop := ∃ safe, st.safeOffset = some safe ∧ n ≤ safe

theorem drain_safeFrom (st : PartitionState) (safe : Int) (heap : List Int) :
    SafeFrom safe (st.drain safe heap) ∧
      (st.drain safe heap).committedOffset = st.committedOffset := by
  induction heap generalizing st safe with
  | nil => exact ⟨⟨safe, rfl, le_refl _⟩, rfl⟩
  | cons popped rest ih =>
    unfold drain
    split
    · rename_i contiguous
      obtain ⟨⟨safe', known, le⟩, same⟩ := ih _ popped
      exact ⟨⟨safe', known, by omega⟩, same⟩
    · exact ⟨⟨safe, rfl, le_refl _⟩, rfl⟩

theorem markFrom_safeFrom (st : PartitionState) (safe offset : Int) :
    SafeFrom safe (st.markFrom safe offset) ∧
      (st.markFrom safe offset).committedOffset = st.committedOffset := by
  unfold markFrom
  split
  · exact ⟨⟨safe, rfl, le_refl _⟩, rfl⟩
  · exact drain_safeFrom _ safe _

theorem markTerminal_committedOffset (st : PartitionState) (offset : Int) :
    (st.markTerminal offset).committedOffset = st.committedOffset :=
  (markFrom_safeFrom st _ offset).2

/-- Marking never lowers the safe offset. -/
theorem SafeFrom.markTerminal {n : Int} {st : PartitionState} (h : SafeFrom n st) (offset : Int) :
    SafeFrom n (st.markTerminal offset) := by
  obtain ⟨safe, known, le⟩ := h
  have bootstrap : st.bootstrap offset = safe := by simp [PartitionState.bootstrap, known]
  obtain ⟨safe', known', le'⟩ := (markFrom_safeFrom st (st.bootstrap offset) offset).1
  exact ⟨safe', known', by omega⟩

theorem observe_marks (st : PartitionState) (offset : Int) :
    (st.observe offset).safeOffset = st.safeOffset ∧
      (st.observe offset).committedOffset = st.committedOffset := by
  unfold PartitionState.observe
  split <;> exact ⟨rfl, rfl⟩

end PartitionState

/-- The offset a call has committed for a partition. -/
def FlushResult.stored (r : FlushResult) (key : PartitionKey) : Option Int :=
  if r.raised then none else r.commits.get? key

namespace Tracker

/-! ### The offsets of a partition -/

def safeAt (t : Tracker) (key : PartitionKey) : Option Int :=
  (t.partitions.get? key).bind (·.safeOffset)

def committedAt (t : Tracker) (key : PartitionKey) : Option Int :=
  (t.partitions.get? key).bind (·.committedOffset)

/-- The safe offset of the partition is known and not below `n`. -/
def SafeFrom (t : Tracker) (key : PartitionKey) (n : Int) : Prop :=
  ∃ safe, t.safeAt key = some safe ∧ n ≤ safe

theorem safeFrom_iff {t : Tracker} {key : PartitionKey} {n : Int} :
    t.SafeFrom key n ↔ ∃ st, t.partitions.get? key = some st ∧ st.SafeFrom n := by
  simp only [SafeFrom, safeAt, Option.bind_eq_some_iff, PartitionState.SafeFrom]
  constructor
  · rintro ⟨safe, ⟨st, present, known⟩, le⟩
    exact ⟨st, present, safe, known, le⟩
  · rintro ⟨st, present, safe, known, le⟩
    exact ⟨safe, ⟨st, present, known⟩, le⟩

theorem SameMarks.safeFrom {t t' : Tracker} {key : PartitionKey} {n : Int}
    (same : SameMarks (t.partitions.get? key) (t'.partitions.get? key)) (h : t.SafeFrom key n) :
    t'.SafeFrom key n := by
  obtain ⟨st, present, safe, known, le⟩ := safeFrom_iff.mp h
  obtain ⟨st', present', safe', -⟩ := same.some_of st present
  exact safeFrom_iff.mpr ⟨st', present', safe, safe'.trans known, le⟩

/-! ### What a flush commits -/

/-- A flush wants to commit the partitions in its scope whose safe offset was not
committed. -/
theorem pendingCommits_get? {t : Tracker} {only : Option (List PartitionKey)} {key : PartitionKey}
    {n : Int} :
    (t.pendingCommits only).get? key = some n ↔
      inScope only key = true ∧ t.safeAt key = some (n - 1) ∧ t.committedAt key ≠ some (n - 1) := by
  simp only [pendingCommits, Dict.get?_filterMap, safeAt, committedAt]
  cases t.partitions.get? key with
  | none => simp
  | some st =>
    simp only [Option.bind_some, PartitionState.hasUncommittedSafeOffset, Bool.and_eq_true,
      decide_eq_true_eq]
    constructor
    · intro next
      split at next
      · rename_i wanted
        obtain ⟨safe, known, rfl⟩ := Option.map_eq_some_iff.mp next
        rw [known] at wanted ⊢
        exact ⟨wanted.1, by simp, fun same => wanted.2.2 (by simp [same])⟩
      · cases next
    · rintro ⟨scope, known, other⟩
      rw [if_pos ⟨scope, by simp [known], by rw [known]; exact Ne.symm other⟩, known]
      simp

theorem flush_commits_eq (t : Tracker) (only : Option (List PartitionKey)) (commitOk : Bool)
    (now : Rat) : (t.flush only commitOk now).commits = t.pendingCommits only := by
  unfold flush
  simp only
  split
  · rename_i none
    exact (Dict.eq_empty none).symm
  · split <;> rfl

/-- A call of the tracker that flushes nothing, or the flush it makes. -/
theorem maybeFlush_cases (t : Tracker) (now : Rat) (commitOk : Bool) (after : Rat) :
    t.maybeFlush now commitOk after = { tracker := t } ∨
      t.maybeFlush now commitOk after = t.flush none commitOk after := by
  unfold maybeFlush
  split
  · exact Or.inl rfl
  · split
    · exact Or.inr rfl
    · split
      · exact Or.inr rfl
      · exact Or.inl rfl

/-- A flush that raises changes nothing. -/
theorem flush_raised {t : Tracker} {only : Option (List PartitionKey)} {commitOk : Bool} {now : Rat}
    (raised : (t.flush only commitOk now).raised = true) :
    (t.flush only commitOk now).tracker = t := by
  unfold flush at raised ⊢
  simp only at raised ⊢
  split at raised
  · cases raised
  · rename_i some_
    rw [if_neg some_]
    split at raised
    · cases raised
    · rename_i failed
      rw [if_neg failed]

/-- A flush records what it has stored. -/
theorem flush_committedAt (t : Tracker) (only : Option (List PartitionKey)) (commitOk : Bool)
    (now : Rat) (key : PartitionKey) :
    (t.flush only commitOk now).tracker.committedAt key =
      (((t.flush only commitOk now).stored key).map (· - 1)).or (t.committedAt key) := by
  have recorded : (t.recordCommitted (t.pendingCommits only)).committedAt key =
      (((t.pendingCommits only).get? key).map (· - 1)).or (t.committedAt key) := by
    unfold committedAt recordCommitted
    rw [Dict.get?_mapValues]
    cases present : t.partitions.get? key with
    | none =>
      have nothing : (t.pendingCommits only).get? key = none := by
        simp [pendingCommits, Dict.get?_filterMap, present]
      simp [nothing]
    | some st => cases (t.pendingCommits only).get? key <;> simp
  unfold flush FlushResult.stored
  simp only
  split
  · split <;> simp [committedAt, resetCounters]
  · split
    · simp only [Bool.false_eq_true, if_false]
      rw [← recorded]
      split <;> rfl
    · simp

/-! ### Calls -/

/-- What a call commits is the successor of a safe offset that was not committed. -/
theorem apply_stored {t : Tracker} {op : Op} {key : PartitionKey} {n : Int}
    (wanted : (t.apply op).commits.get? key = some n) :
    t.safeAt key = some (n - 1) ∧ t.committedAt key ≠ some (n - 1) := by
  have flushed : ∀ only commitOk now, (t.flush only commitOk now).commits.get? key = some n →
      t.safeAt key = some (n - 1) ∧ t.committedAt key ≠ some (n - 1) := by
    intro only commitOk now commits
    rw [flush_commits_eq] at commits
    exact (pendingCommits_get?.mp commits).2
  cases op with
  | observe | markTerminal | dropPartition => simp [apply] at wanted
  | flushAll commitOk after => exact flushed _ _ _ wanted
  | flushPartitions keys commitOk after => exact flushed _ _ _ wanted
  | maybeFlush now commitOk after =>
    simp only [apply] at wanted
    rcases maybeFlush_cases t now commitOk after with nothing | fired
    · simp [nothing] at wanted
    · exact flushed _ _ _ (fired ▸ wanted)

/-- A call that raises changes nothing. -/
theorem apply_raised {t : Tracker} {op : Op} (raised : (t.apply op).raised = true) :
    (t.apply op).tracker = t := by
  cases op with
  | observe | markTerminal | dropPartition => cases raised
  | flushAll => exact flush_raised raised
  | flushPartitions => exact flush_raised raised
  | maybeFlush now commitOk after =>
    simp only [apply] at raised ⊢
    rcases maybeFlush_cases t now commitOk after with nothing | fired
    · rw [nothing]
    · rw [fired] at raised ⊢
      exact flush_raised raised

/-- Only a drop takes the committed offset back. -/
theorem apply_committedAt {t : Tracker} {op : Op} {key : PartitionKey}
    (kept : op ≠ .dropPartition key) :
    (t.apply op).tracker.committedAt key =
      (((t.apply op).stored key).map (· - 1)).or (t.committedAt key) := by
  cases op with
  | observe key' offset =>
    simp only [apply, FlushResult.stored, committedAt, Tracker.observe, Dict.get?_set]
    by_cases same : key = key'
    · subst same
      cases present : t.partitions.get? key <;>
        simp [stateOf, present, PartitionState.observe_marks]
    · simp [same]
  | markTerminal key' offset =>
    simp only [apply, FlushResult.stored, committedAt, Tracker.markTerminal, Dict.get?_set]
    by_cases same : key = key'
    · subst same
      cases present : t.partitions.get? key <;>
        simp [stateOf, present, PartitionState.markTerminal_committedOffset]
    · simp [same]
  | dropPartition key' =>
    have other : key ≠ key' := by
      rintro rfl
      exact kept rfl
    simp [apply, FlushResult.stored, committedAt, Tracker.dropPartition, Dict.get?_erase, other]
  | flushAll => exact flush_committedAt ..
  | flushPartitions => exact flush_committedAt ..
  | maybeFlush now commitOk after =>
    simp only [apply]
    rcases maybeFlush_cases t now commitOk after with nothing | fired
    · rw [nothing]
      simp [FlushResult.stored]
    · rw [fired]
      exact flush_committedAt ..

/-- Only a drop takes a safe offset back. -/
theorem SafeFrom.apply {t : Tracker} {op : Op} {key : PartitionKey} {n : Int}
    (h : t.SafeFrom key n) (kept : op ≠ .dropPartition key) :
    (t.apply op).tracker.SafeFrom key n := by
  cases op with
  | observe key' offset =>
    obtain ⟨st, present, safe, known, le⟩ := safeFrom_iff.mp h
    rw [safeFrom_iff]
    simp only [Tracker.apply, Tracker.observe, Dict.get?_set]
    by_cases same : key = key'
    · subst same
      refine ⟨st.observe offset, by simp [stateOf, present], safe, ?_, le⟩
      rw [(st.observe_marks offset).1, known]
    · exact ⟨st, by simp [same, present], safe, known, le⟩
  | markTerminal key' offset =>
    obtain ⟨st, present, safe⟩ := safeFrom_iff.mp h
    rw [safeFrom_iff]
    simp only [Tracker.apply, Tracker.markTerminal, Dict.get?_set]
    by_cases same : key = key'
    · subst same
      exact ⟨st.markTerminal offset, by simp [stateOf, present], safe.markTerminal offset⟩
    · exact ⟨st, by simp [same, present], safe⟩
  | dropPartition key' =>
    have other : key ≠ key' := by
      rintro rfl
      exact kept rfl
    simpa [SafeFrom, safeAt, Tracker.apply, Tracker.dropPartition, Dict.get?_erase, other] using h
  | flushAll => exact SameMarks.safeFrom (flush_sameMarks ..) h
  | flushPartitions => exact SameMarks.safeFrom (flush_sameMarks ..) h
  | maybeFlush => exact SameMarks.safeFrom (maybeFlush_sameMarks ..) h

/-! ### Runs -/

/-- What was committed is safe. -/
def Sound (t : Tracker) (key : PartitionKey) : Prop :=
  ∀ c, t.committedAt key = some c → t.SafeFrom key c

theorem Sound.apply {t : Tracker} {key : PartitionKey} (h : t.Sound key) (op : Op) :
    (t.apply op).tracker.Sound key := by
  intro c committed
  by_cases dropped : op = .dropPartition key
  · subst dropped
    simp [Tracker.apply, committedAt, Tracker.dropPartition] at committed
  · rw [apply_committedAt dropped] at committed
    refine SafeFrom.apply ?_ dropped
    rcases Option.or_eq_some_iff.mp committed with new | ⟨-, old⟩
    · obtain ⟨n, stored, rfl⟩ := Option.map_eq_some_iff.mp new
      unfold FlushResult.stored at stored
      split at stored
      · cases stored
      · exact ⟨n - 1, (apply_stored stored).1, le_refl _⟩
    · exact h c old

theorem sound_exec {t : Tracker} (new : t.partitions = ∅) (ops : List Op) (key : PartitionKey) :
    (t.exec ops).Sound key := by
  induction ops using List.reverseRecOn with
  | nil => simp [Sound, committedAt, new]
  | append_singleton ops op ih =>
    rw [exec_concat]
    exact ih.apply op

/-- The log of commits of a partition after one more call; a drop starts a new one. -/
def logStep (key : PartitionKey) (t : Tracker) (log : List Int) : Op → List Int
  | .dropPartition key' => if key' = key then [] else log
  | op => log ++ ((t.apply op).stored key).toList

/-- The offsets that the calls have committed for a partition since it was last dropped,
in order. -/
def committedSince (t : Tracker) (key : PartitionKey) (ops : List Op) : List Int :=
  (ops.foldl (fun acc op => ((acc.1.apply op).tracker, logStep key acc.1 acc.2 op)) (t, [])).2

theorem committedSince_concat (t : Tracker) (key : PartitionKey) (ops : List Op) (op : Op) :
    t.committedSince key (ops ++ [op]) = logStep key (t.exec ops) (t.committedSince key ops) op := by
  have first : ∀ (ops : List Op) (t : Tracker) (log : List Int),
      (ops.foldl (fun acc op => ((acc.1.apply op).tracker, logStep key acc.1 acc.2 op))
        (t, log)).1 = t.exec ops := by
    intro ops
    induction ops with
    | nil => exact fun _ _ => rfl
    | cons op ops ih => exact fun t log => ih _ _
  rw [committedSince, List.foldl_concat, first]
  rfl

/-- What the log of a partition says about its state. -/
structure Logged (t : Tracker) (key : PartitionKey) (log : List Int) : Prop where
  increasing : log.Pairwise (· < ·)
  recorded : ∀ n ∈ log, ∃ c, t.committedAt key = some c ∧ n ≤ c + 1

theorem Logged.apply {t : Tracker} {key : PartitionKey} {log : List Int} (h : t.Logged key log)
    (sound : t.Sound key) (op : Op) : (t.apply op).tracker.Logged key (logStep key t log op) := by
  by_cases dropped : op = .dropPartition key
  · subst dropped
    simp only [logStep, if_true]
    exact ⟨.nil, by simp⟩
  have stepped : logStep key t log op = log ++ ((t.apply op).stored key).toList := by
    cases op with
    | dropPartition key' =>
      have other : key' ≠ key := by
        rintro rfl
        exact dropped rfl
      simp [logStep, other, Tracker.apply, FlushResult.stored]
    | _ => rfl
  have committed := apply_committedAt (t := t) dropped
  rw [stepped]
  cases stored : (t.apply op).stored key with
  | none =>
    rw [stored] at committed
    simp only [Option.toList_none, List.append_nil]
    exact ⟨h.increasing, fun n mem => by simpa [committed] using h.recorded n mem⟩
  | some n =>
    rw [stored] at committed
    have wanted : (t.apply op).commits.get? key = some n := by
      unfold FlushResult.stored at stored
      split at stored
      · cases stored
      · exact stored
    obtain ⟨safe, fresh⟩ := apply_stored wanted
    -- Everything logged lies at or below the old committed offset, which is below the new one.
    have below : ∀ m ∈ log, m < n := by
      intro m mem
      obtain ⟨c, old, le⟩ := h.recorded m mem
      obtain ⟨safe', known, le'⟩ := sound c old
      obtain rfl := Option.some.inj (safe.symm.trans known)
      have : c ≠ n - 1 := fun same => fresh (same ▸ old)
      omega
    refine ⟨List.pairwise_append.mpr ⟨h.increasing, by simp, by simpa using below⟩, ?_⟩
    intro m mem
    refine ⟨n - 1, by simpa using committed, ?_⟩
    rcases List.mem_append.mp mem with old | new
    · have := below m old
      omega
    · obtain rfl : m = n := by simpa using new
      omega

/-- The offsets committed for a partition between two drops strictly increase. -/
theorem committedSince_increasing {t : Tracker} (new : t.partitions = ∅) (ops : List Op)
    (key : PartitionKey) : (t.committedSince key ops).Pairwise (· < ·) := by
  suffices logged : (t.exec ops).Logged key (t.committedSince key ops) from logged.increasing
  induction ops using List.reverseRecOn with
  | nil => exact ⟨.nil, by simp [committedSince]⟩
  | append_singleton ops op ih =>
    rw [exec_concat, committedSince_concat]
    exact ih.apply (sound_exec new ops key) op

/-- The calls neither drop the partition nor commit it. -/
def Withhold (t : Tracker) (key : PartitionKey) (ops : List Op) : Prop :=
  ∀ pre op post, ops = pre ++ op :: post →
    op ≠ .dropPartition key ∧ ((t.exec pre).apply op).stored key = none

/-- A commit is owed: the safe offset is not below `n`, and what was committed is. -/
structure Owed (t : Tracker) (key : PartitionKey) (n : Int) : Prop where
  safe : t.SafeFrom key n
  committed : ∀ c, t.committedAt key = some c → c < n

theorem Owed.exec {t : Tracker} {key : PartitionKey} {n : Int} (h : t.Owed key n) {ops : List Op}
    (withheld : t.Withhold key ops) : (t.exec ops).Owed key n := by
  induction ops using List.reverseRecOn with
  | nil => exact h
  | append_singleton ops op ih =>
    have before := ih fun pre op' post split => withheld pre op' (post ++ [op]) (by simp [split])
    obtain ⟨kept, stored⟩ := withheld ops op [] rfl
    rw [exec_concat]
    refine ⟨before.safe.apply kept, fun c committed => before.committed c ?_⟩
    rw [apply_committedAt kept, stored] at committed
    simpa using committed

/-- Any flush of the partition pays what is owed. -/
theorem Owed.flush {t : Tracker} {key : PartitionKey} {n : Int} (h : t.Owed key n)
    {only : Option (List PartitionKey)} (scope : inScope only key = true) (commitOk : Bool)
    (now : Rat) : ∃ m, (t.flush only commitOk now).commits.get? key = some m ∧ n + 1 ≤ m := by
  obtain ⟨safe, known, le⟩ := h.safe
  refine ⟨safe + 1, ?_, by omega⟩
  rw [flush_commits_eq, pendingCommits_get?]
  refine ⟨scope, by simpa using known, fun same => ?_⟩
  have := h.committed _ same
  omega

/-- What a call wanted to commit was owed. -/
theorem owed_of_wanted {t : Tracker} {op : Op} {key : PartitionKey} {n : Int} (sound : t.Sound key)
    (wanted : (t.apply op).commits.get? key = some n) : t.Owed key (n - 1) := by
  obtain ⟨safe, fresh⟩ := apply_stored wanted
  refine ⟨⟨n - 1, safe, le_refl _⟩, fun c committed => ?_⟩
  obtain ⟨safe', known, le⟩ := sound c committed
  obtain rfl := Option.some.inj (safe.symm.trans known)
  exact lt_of_le_of_ne le fun same => fresh (same ▸ committed)

/-- A flush of some partitions leaves the others alone. -/
theorem flushPartitions_other {t : Tracker} {keys : List PartitionKey} {commitOk : Bool} {now : Rat}
    {key : PartitionKey} (other : key ∉ keys) :
    (t.flushPartitions keys commitOk now).tracker.partitions.get? key = t.partitions.get? key ∧
      (t.flushPartitions keys commitOk now).commits.get? key = none := by
  have none_ : (t.pendingCommits (some keys)).get? key = none := by
    rw [Option.eq_none_iff_forall_not_mem]
    intro n mem
    have scope := (pendingCommits_get?.mp mem).1
    simp [inScope, other] at scope
  refine ⟨?_, by rw [flushPartitions, flush_commits_eq, none_]⟩
  unfold flushPartitions Tracker.flush
  simp only [Option.isNone_some, Bool.false_eq_true, if_false]
  split
  · rfl
  · split
    · simp [recordCommitted, none_]
    · rfl

end Tracker

end CommercePlatform.Offset
