import CommercePlatform.Generator.Delivery

/-!
What is published is fixed by the seeds.

`Setup.generated n` is the builder, the injector and the batches after `n` journeys, without
a producer. Whatever the Kafka client does, and whenever somebody asks the run to stop, the
messages it accepts are the first ones of these batches, and the batches that are recorded
and their summary are those of `generated`.
-/

namespace CommercePlatform.Generator

open Contract

/-! ### Generation alone -/

/-- The builder, the injector and the batches that they have made. -/
structure Generated where
  world : World := {}
  injected : World := {}
  batches : List Batch := []

namespace Generated

def messages (made : Generated) : List PublishableMessage := made.batches.flatMap (·.messages)

/-- One more journey, if neither `build` nor `prepare` raises. -/
def next (setup : Setup) (made : Generated) : Option Generated :=
  match build setup.rt setup.source setup.config made.world with
  | .error _ => none
  | .ok (journey, world) =>
    match prepare setup.injector setup.config journey.events made.injected with
    | .error _ => none
    | .ok (messages, injected) =>
      some { world, injected, batches := made.batches ++ [⟨journey, messages⟩] }

end Generated

def Setup.generated (setup : Setup) : Nat → Option Generated
  | 0 => some {}
  | n + 1 => (setup.generated n).bind (Generated.next setup)

/-- The summary of some batches. -/
def Setup.summarized (setup : Setup) (batches : List Batch) : Except PyException RunSummary :=
  batches.foldlM
    (fun summary batch => summary.recordJourney setup.context batch.journey batch.anomalyTypes) {}

section

variable {setup : Setup} {made made' : Generated}

theorem next_batches (stepped : made.next setup = some made') :
    ∃ batch, setup.Makes batch ∧ made'.batches = made.batches ++ [batch] := by
  unfold Generated.next at stepped
  split at stepped
  · cases stepped
  · rename_i journey world built
    split at stepped
    · cases stepped
    · rename_i messages injected prepared
      have makes : setup.Makes ⟨journey, messages⟩ := ⟨⟨_, _, built⟩, ⟨_, _, prepared⟩⟩
      cases stepped
      exact ⟨_, makes, rfl⟩

theorem generated_length {n : Nat} (ran : setup.generated n = some made) :
    made.batches.length = n := by
  induction n generalizing made with
  | zero => cases ran; rfl
  | succ n ih =>
    obtain ⟨before, ran, stepped⟩ := Option.bind_eq_some_iff.mp ran
    obtain ⟨batch, -, same⟩ := next_batches stepped
    rw [same, List.length_append, List.length_singleton, ih ran]

/-- Later journeys leave the batches before them as they are. -/
theorem generated_extends {n m : Nat} (le : n ≤ m) (early : setup.generated n = some made)
    (late : setup.generated m = some made') : made.batches <+: made'.batches := by
  induction m generalizing made' with
  | zero =>
    obtain rfl := Nat.le_zero.mp le
    cases early.symm.trans late
    exact List.prefix_rfl
  | succ m ih =>
    by_cases last : n = m + 1
    · subst last
      cases early.symm.trans late
      exact List.prefix_rfl
    · obtain ⟨before, ran, stepped⟩ := Option.bind_eq_some_iff.mp late
      obtain ⟨batch, -, same⟩ := next_batches stepped
      rw [same]
      exact (ih (by omega) ran).trans (List.prefix_append _ _)

end

/-! ### Runs -/

/-- The batch that is being published. -/
def RunStage.batch : RunStage → List Batch
  | publishing batch _ _ | full batch _ _ | enqueued batch _ | polling batch | recording batch =>
    [batch]
  | _ => []

theorem RunStage.generating_batch : RunStage.generating.batch = [] := rfl

theorem RunStage.deciding_batch : RunStage.deciding.batch = [] := rfl

/-- What the client has of a journey are its first messages. -/
theorem RunStage.sent_batch {stage : RunStage} {sent : List PublishableMessage}
    (running : stage.sent = some sent) : sent <+: stage.batch.flatMap (·.messages) := by
  have one : ∀ batch : Batch, [batch].flatMap (·.messages) = batch.messages := by simp
  cases stage with
  | publishing batch position attempt | full batch position attempt =>
    cases running
    rw [RunStage.batch, one]
    exact List.take_prefix _ _
  | enqueued batch position =>
    cases running
    rw [RunStage.batch, one]
    exact List.take_prefix _ _
  | polling batch | recording batch =>
    cases running
    rw [RunStage.batch, one]
  | deciding | generating | flushing | returned =>
    cases running
    exact List.nil_prefix
  | raised e => cases running

theorem from_batch (batch : Batch) (position : Nat) : (batch.from position).batch = [batch] := by
  unfold Batch.from
  split <;> rfl

structure GenerationRun.Determined (setup : Setup) (run : GenerationRun) : Prop where
  kept : run.Kept setup
  /-- Until something is raised, the run is where generation alone would be. -/
  settled : run.stage.sent ≠ none →
    setup.generated (run.batches ++ run.stage.batch).length =
      some ⟨run.world, run.injected, run.batches ++ run.stage.batch⟩
  summary : setup.summarized run.batches = .ok run.summary
  published : ∃ n ≤ run.batches.length + 1, ∃ made, setup.generated n = some made ∧
    run.batches <+: made.batches ∧ run.producer.client.accepted <+: made.messages

namespace GenerationRun.Determined

variable {setup : Setup} {run run' : GenerationRun}

/-- A run in which nothing has been raised. -/
theorem running (kept : run.Kept setup) {sent : List PublishableMessage}
    (here : run.stage.sent = some sent)
    (settled : setup.generated (run.batches ++ run.stage.batch).length =
      some ⟨run.world, run.injected, run.batches ++ run.stage.batch⟩)
    (summary : setup.summarized run.batches = .ok run.summary) : run.Determined setup := by
  refine ⟨kept, fun _ => settled, summary, _, ?_, _, settled, List.prefix_append _ _, ?_⟩
  · rw [List.length_append]
    have one : run.stage.batch.length ≤ 1 := by
      cases run.stage <;> simp [RunStage.batch]
    omega
  · obtain ⟨accepted, -⟩ := kept.sent sent here
    rw [accepted, Generated.messages, List.flatMap_append]
    exact (List.prefix_append_right_inj _).mpr (RunStage.sent_batch here)

/-- An exception leaves what is published and recorded as it is. -/
theorem raised (h : run.Determined setup) (kept : run'.Kept setup) {e : GenerationError}
    (stage : run'.stage = .raised e) (producer : run'.producer = run.producer)
    (summary : run'.summary = run.summary) (batches : run'.batches = run.batches) :
    run'.Determined setup := by
  refine ⟨kept, fun running => ?_, ?_, ?_⟩
  · rw [stage] at running
    exact absurd rfl running
  · rw [batches, summary]
    exact h.summary
  · rw [batches, producer]
    exact h.published

/-- Another stage of the same journey. -/
theorem move (h : run.Determined setup) (kept : run'.Kept setup)
    (before : run.stage.sent ≠ none) {sent : List PublishableMessage}
    (after : run'.stage.sent = some sent) (batch : run'.stage.batch = run.stage.batch)
    (world : run'.world = run.world) (injected : run'.injected = run.injected)
    (batches : run'.batches = run.batches) (summary : run'.summary = run.summary) :
    run'.Determined setup := by
  refine .running kept after ?_ ?_
  · rw [batch, world, injected, batches]
    exact h.settled before
  · rw [batches, summary]
    exact h.summary

theorem init : Determined setup {} :=
  .running .init rfl rfl rfl

theorem generate (h : run.Determined setup) (here : run.stage = .generating) :
    (run.generate setup).Determined setup := by
  have kept := h.kept.generate here
  have settled := h.settled (by rw [here]; exact Option.some_ne_none _)
  rw [here, RunStage.generating_batch, List.append_nil] at settled
  revert kept
  unfold GenerationRun.generate
  split
  · intro kept
    exact h.raised kept rfl rfl rfl rfl
  · rename_i journey world built
    split
    · intro kept
      exact h.raised kept rfl rfl rfl rfl
    · rename_i messages injected prepared
      intro kept
      refine .running kept (from_sent _ (Nat.zero_le _)) ?_ h.summary
      rw [from_batch, List.length_append, List.length_singleton, Setup.generated, settled]
      simp only [Option.bind_some, Generated.next, built, prepared]

theorem record (h : run.Determined setup) {batch : Batch} (here : run.stage = .recording batch) :
    (run.record setup batch).Determined setup := by
  have kept := h.kept.record here
  have settled := h.settled (by rw [here]; exact Option.some_ne_none _)
  rw [here, RunStage.batch] at settled
  revert kept
  unfold GenerationRun.record
  split
  · intro kept
    exact h.raised kept rfl rfl rfl rfl
  · rename_i summary recorded
    intro kept
    refine .running kept rfl ?_ ?_
    · rw [RunStage.deciding_batch, List.append_nil]
      exact settled
    · rw [Setup.summarized, List.foldlM_append]
      have before := h.summary
      rw [Setup.summarized] at before
      rw [before]
      simp only [List.foldlM_cons, List.foldlM_nil, bind, Except.bind, recorded]
      rfl

theorem produce (h : run.Determined setup) {batch : Batch} {position attempt : Nat}
    (here : run.stage = .publishing batch position attempt) {message : PublishableMessage}
    (found : batch.messages[position]? = some message) (outcome : Produced) :
    (run.produce batch position attempt message outcome).Determined setup := by
  have kept := h.kept.produce here found outcome
  have before : run.stage.sent ≠ none := by
    rw [here]
    exact Option.some_ne_none _
  cases outcome with
  | accepted => exact h.move kept before rfl (by rw [here]; rfl) rfl rfl rfl rfl
  | bufferError =>
    revert kept
    rw [GenerationRun.produce]
    split
    · intro kept
      exact h.raised kept rfl rfl rfl rfl
    · intro kept
      exact h.move kept before rfl (by rw [here]; rfl) rfl rfl rfl rfl
  | otherError => exact h.raised kept rfl rfl rfl rfl

theorem serve (h : run.Determined setup) {reports : List Report} {producer : KafkaEventProducer}
    (served : run.producer.serve reports = some producer) (open_ : run.stage ≠ .returned) :
    Determined setup { run with producer } := by
  have same := (h.kept.producer.serve served).2
  refine ⟨h.kept.serve served open_, h.settled, h.summary, ?_⟩
  rw [same]
  exact h.published

theorem served (h : run.Determined setup) (moved : run.served = some run') :
    run'.Determined setup := by
  have kept := h.kept.served moved
  unfold GenerationRun.served at moved
  cases here : run.stage with
  | full batch position attempt =>
    simp only [here, Option.some.injEq] at moved
    subst moved
    exact h.move kept (by rw [here]; exact Option.some_ne_none _) rfl (by rw [here]; rfl)
      rfl rfl rfl rfl
  | enqueued batch position =>
    simp only [here, Option.some.injEq] at moved
    subst moved
    have fits := h.kept.fits
    rw [here] at fits
    exact h.move kept (by rw [here]; exact Option.some_ne_none _) (from_sent batch fits.2)
      (by rw [here, from_batch]; rfl) rfl rfl rfl rfl
  | polling batch =>
    simp only [here] at moved
    split at moved
    · cases moved
      exact h.raised kept rfl rfl rfl rfl
    · cases moved
      exact h.move kept (by rw [here]; exact Option.some_ne_none _) rfl (by rw [here]; rfl)
        rfl rfl rfl rfl
  | flushing =>
    simp only [here] at moved
    split at moved
    · cases moved
      exact h.raised kept rfl rfl rfl rfl
    · cases moved
      exact h.move kept (by rw [here]; exact Option.some_ne_none _) rfl (by rw [here]; rfl)
        rfl rfl rfl rfl
  | _ => simp [here] at moved

theorem step {label : GenerationLabel} (h : run.Determined setup)
    (stepped : run.step setup label = some run') : run'.Determined setup := by
  cases label with
  | step =>
    have kept := h.kept.step stepped
    cases here : run.stage with
    | deciding =>
      simp only [GenerationRun.step, here, Option.some.injEq] at stepped
      subst stepped
      have before : run.stage.sent ≠ none := by
        rw [here]
        exact Option.some_ne_none _
      by_cases more : run.continues setup
      · rw [if_pos more] at kept ⊢
        exact h.move kept before rfl (by rw [here]; rfl) rfl rfl rfl rfl
      · rw [if_neg more] at kept ⊢
        exact h.move kept before rfl (by rw [here]; rfl) rfl rfl rfl rfl
    | generating =>
      simp only [GenerationRun.step, here, Option.some.injEq] at stepped
      subst stepped
      exact h.generate here
    | recording batch =>
      simp only [GenerationRun.step, here, Option.some.injEq] at stepped
      subst stepped
      exact h.record here
    | _ => simp [GenerationRun.step, here] at stepped
  | produce outcome =>
    cases here : run.stage with
    | publishing batch position attempt =>
      simp only [GenerationRun.step, here, Option.map_eq_some_iff] at stepped
      obtain ⟨message, found, rfl⟩ := stepped
      exact h.produce here found outcome
    | _ => simp [GenerationRun.step, here] at stepped
  | serve reports =>
    obtain ⟨producer, served, moved⟩ := Option.bind_eq_some_iff.mp stepped
    have open_ : run.stage ≠ .returned := by
      intro closed
      simp [GenerationRun.served, closed] at moved
    exact (h.serve served open_).served moved
  | request =>
    cases stepped
    exact ⟨h.kept.request, h.settled, h.summary, h.published⟩

theorem ran {labels : List GenerationLabel} (ran : setup.machine.run {} labels = some run) :
    run.Determined setup :=
  setup.machine.invariant (fun _ _ _ h stepped => h.step stepped) .init ran

end GenerationRun.Determined

/-! ### Two runs of one setup -/

end CommercePlatform.Generator
