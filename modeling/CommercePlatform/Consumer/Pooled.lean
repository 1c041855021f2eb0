import Mathlib.Logic.Function.Basic
import CommercePlatform.Lib.Machine
import CommercePlatform.Consumer.EventConsumer

/-!
The pooled consumer (`main_pooled.py`, `run_processor_pooled`).

One poll thread owns the Kafka client and the tracker; worker threads take
messages from a bounded queue and put finished ones on a commit queue, which the
poll thread drains. `Pc` is where the poll thread stands; a label is one step of
the poll thread or of a worker, with what the environment decides about it.
Rebalance callbacks run inside `poll` (and inside `close`).

Any number of processes `π` of one group run side by side and may crash and start
again; they share the committed offsets. `delivered` and `finished` are not part
of the program: they record which offsets `poll` has returned and which of them
some worker has brought to a terminal outcome.
-/

namespace CommercePlatform.Consumer.Pooled

open Offset

/-- The settings the loop reads. -/
structure Config where
  workerPoolSize : Nat
  offsetCommitBatchSize : Nat
  offsetCommitIntervalSeconds : Rat
  maxMessages : Option Nat := none

/-- Where the poll thread stands. -/
inductive Pc where
  /-- At the head of the `while` loop. -/
  | top
  /-- Inside `consumer.poll()`. -/
  | polling
  /-- `poll` returned None: about to call `maybe_flush_idle`. -/
  | idle
  /-- About to put the dispatched message on the work queue. -/
  | putting (m : ConsumedMessage)
  /-- Inside `drain_commits`, in the idle branch or after a dispatch. -/
  | draining (idle : Bool)
  /-- The loop has ended: this many stop marks are still to be put. -/
  | stopping (marks : Nat)
  /-- Inside `work_queue.join()`. -/
  | joining
  /-- Inside the last `drain_commits`, followed by `check_errors`. -/
  | lastDrain
  /-- In the `finally` block, before `flush_pending`. -/
  | finishing
  /-- Inside `consumer.close()`. -/
  | closing
  | closed
  deriving DecidableEq

inductive Worker where
  | waiting
  | busy (m : ConsumedMessage)
  | stopped
  deriving DecidableEq

/-- One process. In the work queue, `none` is the `_STOP` mark. -/
structure Process where
  pc : Pc := .top
  consumer : EventConsumer
  owned : List PartitionKey := []
  position : PartitionKey → Int := fun _ => 0
  workQueue : List (Option ConsumedMessage) := []
  workers : Nat → Worker := fun _ => .waiting
  commitQueue : List ConsumedMessage := []
  errors : List String := []
  terminalCount : Nat := 0

structure State (π : Type) where
  process : π → Process
  committed : PartitionKey → Int
  delivered : List (PartitionKey × Int) := []
  finished : List (PartitionKey × Int) := []

/-- A step of one process. -/
inductive Act where
  /-- The loop condition holds, `check_errors` finds nothing and `poll` is called. -/
  | enter
  /-- `check_errors` raises a worker's exception. -/
  | raiseError
  /-- The loop ends: shutdown, the message bound, or the idle timeout. -/
  | leave
  | assign (keys : List PartitionKey)
  | revoke (keys : List PartitionKey) (reply : CommitReply)
  | pollNone
  /-- `poll` returns a record, and `observe_dispatched` is called on it. No other
  thread sees the tracker, so nothing can come between the two. -/
  | pollMessage (k : PartitionKey) (offset : Int)
  | pollError
  | flushIdle (reply : CommitReply)
  | put
  /-- `commit_queue.get_nowait()` returns, and `commit_terminal` is called. -/
  | drain (reply : CommitReply)
  /-- `commit_queue.get_nowait()` raises `Empty`. -/
  | drained
  | putStop
  | joined
  /-- Worker `i` gets an item of the work queue. -/
  | take (i : Nat)
  /-- Worker `i` ends `process`: `queued` when the outcome is terminal, so that the
  queued committer was called; `raised` when an exception escapes. -/
  | finish (i : Nat) (queued : Bool) (raised : Option String)
  | flushPending (reply : CommitReply)
  | close
  | crash (now : Rat)

section

variable {π : Type} [DecidableEq π]

def State.set (s : State π) (p : π) (x : Process) : State π :=
  { s with process := Function.update s.process p x }

/-- The state after a call of the consumer, and the mapping it committed. -/
def State.commit (s : State π) (p : π) (x : Process) (reply : CommitReply) (call : Call) :
    State π × Dict PartitionKey Int :=
  ({ s.set p { x with consumer := call.consumer } with
      committed := reply.store s.committed call.commits }, call.commits)

def newConsumer (config : Config) (now : Rat) : EventConsumer :=
  { tracker :=
      { batchSize := config.offsetCommitBatchSize
        intervalSeconds := config.offsetCommitIntervalSeconds
        lastFlushAt := now } }

/-- The message bound has not been reached. -/
def Process.unbounded (config : Config) (x : Process) : Bool :=
  match config.maxMessages with
  | some bound => x.terminalCount < bound
  | none => true

/-- The idle branch may end the loop. -/
def Process.mayIdleOut (config : Config) (x : Process) : Bool :=
  x.pc = .draining true ∧ x.commitQueue = [] ∧ config.maxMessages.isSome ∧ x.owned = []

def Process.noneBusy (config : Config) (x : Process) : Bool :=
  decide (∀ i < config.workerPoolSize, x.workers i = .waiting ∨ x.workers i = .stopped)

/-- One step of process `p`, with the mapping handed to `client.commit`. -/
def step (config : Config) (log : Log) (s : State π) (p : π) (a : Act) :
    Option (State π × Dict PartitionKey Int) :=
  let x := s.process p
  let quiet (y : Process) : State π × Dict PartitionKey Int := (s.set p y, ∅)
  match a with
  | .enter =>
    if x.pc = .top ∧ x.errors = [] ∧ x.unbounded config then some (quiet { x with pc := .polling })
    else none
  | .raiseError =>
    match x.errors with
    | _ :: rest =>
      if x.pc = .top then some (quiet { x with pc := .finishing, errors := rest }) else none
    | [] => none
  | .leave =>
    if x.pc = .top ∨ x.mayIdleOut config then
      some (quiet { x with pc := .stopping config.workerPoolSize })
    else none
  | .assign keys =>
    if x.pc = .polling then
      some (quiet { x with
        consumer := x.consumer.onAssign keys
        owned := x.owned ++ keys
        position := fun k => if k ∈ keys then s.committed k else x.position k })
    else none
  | .revoke keys reply =>
    if x.pc = .polling ∨ x.pc = .closing then
      some (s.commit p { x with owned := x.owned.filter fun k => decide (k ∉ keys) } reply
        (x.consumer.onRevoke keys reply))
    else none
  | .pollNone => if x.pc = .polling then some (quiet { x with pc := .idle }) else none
  | .pollMessage k offset =>
    match log.record k offset with
    | some record =>
      if x.pc = .polling ∧ k ∈ x.owned ∧ log.next k (x.position k) offset then
        let m := record.message k offset
        some ({ s.set p { x with
            pc := .putting m
            position := Function.update x.position k (offset + 1)
            consumer := x.consumer.observeDispatched m } with
          delivered := (k, offset) :: s.delivered }, ∅)
      else none
    | none => none
  | .pollError => if x.pc = .polling then some (quiet { x with pc := .finishing }) else none
  | .flushIdle reply =>
    if x.pc = .idle then
      let call := x.consumer.maybeFlushIdle reply
      some (s.commit p { x with pc := if call.raised then .finishing else .draining true } reply call)
    else none
  | .put =>
    match x.pc with
    | .putting m =>
      if x.workQueue.length < config.workerPoolSize * 2 then
        some (quiet { x with pc := .draining false, workQueue := x.workQueue ++ [some m] })
      else none
    | _ => none
  | .drain reply =>
    match x.commitQueue with
    | m :: rest =>
      if x.pc = .draining true ∨ x.pc = .draining false ∨ x.pc = .lastDrain then
        let call := x.consumer.commitTerminal m reply
        some (s.commit p { x with
            commitQueue := rest
            terminalCount := if call.raised then x.terminalCount else x.terminalCount + 1
            pc := if call.raised then .finishing else x.pc } reply call)
      else none
    | [] => none
  | .drained =>
    if x.commitQueue = [] ∧ (x.pc = .draining true ∨ x.pc = .draining false) then
      some (quiet { x with pc := .top })
    else if x.commitQueue = [] ∧ x.pc = .lastDrain then some (quiet { x with pc := .finishing })
    else none
  | .putStop =>
    match x.pc with
    | .stopping (marks + 1) =>
      if x.workQueue.length < config.workerPoolSize * 2 then
        some (quiet { x with pc := .stopping marks, workQueue := x.workQueue ++ [none] })
      else none
    | .stopping 0 => some (quiet { x with pc := .joining })
    | _ => none
  | .joined =>
    if x.pc = .joining ∧ x.workQueue = [] ∧ x.noneBusy config then
      some (quiet { x with pc := .lastDrain })
    else none
  | .take i =>
    match x.workQueue with
    | item :: rest =>
      if i < config.workerPoolSize ∧ x.workers i = .waiting then
        some (quiet { x with
          workQueue := rest
          workers := Function.update x.workers i
            (match item with
            | some m => .busy m
            | none => .stopped) })
      else none
    | [] => none
  | .finish i queued raised =>
    match x.workers i with
    | .busy m =>
      some ({ s.set p { x with
          workers := Function.update x.workers i .waiting
          commitQueue := if queued then x.commitQueue ++ [m] else x.commitQueue
          errors := x.errors ++ raised.toList } with
        finished := if queued then (messageKey m, m.offset) :: s.finished else s.finished }, ∅)
    | _ => none
  | .flushPending reply =>
    if x.pc = .finishing then
      some (s.commit p { x with pc := .closing } reply (x.consumer.flushPending reply))
    else none
  | .close => if x.pc = .closing then some (quiet { x with pc := .closed }) else none
  | .crash now => some (quiet { consumer := newConsumer config now })

/-- All processes start outside the group, with the group at its starting position. -/
def init (config : Config) (log : Log) : State π where
  process := fun _ => { consumer := newConsumer config 0 }
  committed := log.start

def machine (config : Config) (log : Log) : Machine (State π) (π × Act) :=
  ⟨fun s a => (step config log s a.1 a.2).map Prod.fst⟩

end

end CommercePlatform.Consumer.Pooled
