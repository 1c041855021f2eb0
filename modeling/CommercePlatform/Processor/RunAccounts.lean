import Mathlib.Algebra.BigOperators.Group.List.Lemmas
import CommercePlatform.Processor.Accounting
import CommercePlatform.Processor.Gauges

/-!
The accounts of a run.

`summarize` is the summary of calls of `process` on one processor. It is the sum of the
summaries of the calls (`summarize_eq_sum`), so it does not matter how the calls are split
among workers, and each call closes its books (`process_closes`).
-/

namespace CommercePlatform.Processor

open Contract Idempotency Persistence

/-- A call of `process`, what its collaborators answer and how long it takes; where no
persistence is configured, `handler` says how each attempt at the handler ends. -/
structure Call where
  processor : MessageProcessor
  message : ConsumedMessage
  token : String
  handler : Option (Nat → Except PyException Unit) := none
  answer : List ((s : Effect) × s.Answer) → (s : Effect) → s.Answer
  elapsedMs : NNRat

namespace Call

variable (call : Call)

def program : Proc ProcessingOutcome :=
  match call.handler with
  | none => call.processor.process call.message call.token
  | some handler => call.processor.processPlain handler call.message call.token

def log : List ((s : Effect) × s.Answer) := call.program.calls call.answer []

def Returns : Prop := ∃ outcome, call.program.result call.answer [] = .ok outcome

/-- The call returns, or `commit_terminal` raises. -/
def Ends : Prop := call.Returns ∨ (tallied call.log).commitFailed = true

end Call

/-- The summary of one call. -/
def Call.summary (call : Call) : RunSummary :=
  call.log.foldl (RunSummary.observe call.elapsedMs) 0

namespace RunSummary

def books (summary : RunSummary) : Books where
  unaccounted := summary.consumedRecords - (summary.processedRecords + summary.duplicateRecords +
    summary.dlqRecords + summary.unresolvedRecords)
  uncommitted := summary.commitSuccesses -
    (summary.processedRecords + summary.duplicateRecords + summary.dlqRecords)
  unvalidated := summary.consumedRecords -
    (summary.validRecords + totalFailures summary.validationFailures)
  unsettled := summary.databaseTransactionsStarted - (summary.databaseTransactionsCommitted +
    summary.databaseTransactionsRolledBack + summary.alreadyPersistedEvents)

theorem books_add (a b : RunSummary) : (a + b).books = a.books + b.books := by
  have failures : totalFailures (a + b).validationFailures =
      totalFailures a.validationFailures + totalFailures b.validationFailures :=
    totalFailures_add _ _
  simp only [books, failures, Books.mk_add, Books.mk.injEq]
  simp only [RunSummary.add_def, RunSummary.merge]
  refine ⟨?_, ?_, ?_, ?_⟩ <;> ring

theorem books_count (elapsed : NNRat) (c : Counter) (n : Int) :
    ((0 : RunSummary).count elapsed (c, n)).books = Processor.books (amount [(c, n)]) := by
  have plain : totalFailures (fun _ => 0) = 0 := rfl
  cases c with
  | validationFailures category =>
    cases category <;>
      simp [books, Processor.books, count, zero_def, bump, totalFailures, validationCategories]
  | _ => simp [books, Processor.books, count, recordLatency, zero_def, plain]

theorem books_tally (elapsed : NNRat) (counts : List (Counter × Int)) (summary : RunSummary) :
    (counts.foldl (count elapsed) summary).books =
      summary.books + Processor.books (amount counts) := by
  induction counts generalizing summary with
  | nil => exact (add_zero summary.books).symm
  | cons entry counts ih =>
    rw [List.foldl_cons, ih, count_eq_add, books_add, books_count,
      books_cons entry counts, add_assoc]

/-- A summary keeps the books that the monitor keeps. -/
theorem books_observe (elapsed : NNRat) (log : List ((s : Effect) × s.Answer))
    {summary : RunSummary} {st : Tallied} (same : summary.books = Processor.books st.total) :
    (log.foldl (observe elapsed) summary).books =
      Processor.books (counting.after st log).total := by
  induction log generalizing summary st with
  | nil => exact same
  | cons call log ih =>
    have step : (summary.observe elapsed call).books =
        Processor.books (counting.next st call.1 call.2).total := by
      obtain ⟨s, answer⟩ := call
      cases s with
      | tally counts =>
        show (counts.foldl (count elapsed) summary).books =
          Processor.books fun c => st.total c + amount counts c
        rw [books_tally, same, Processor.books_add]
      | _ => exact same
    exact ih step

end RunSummary

/-! ### Every call closes its books -/

theorem Call.closes (call : Call) :
    Closed (tallied call.log) (call.program.result call.answer []) := by
  have closes : call.program.Follows counting Closed {} := by
    unfold Call.program
    cases call.handler with
    | none => exact process_closes
    | some handler => exact processPlain_closes handler
  exact closes.finishes call.answer []

theorem Call.books_summary (call : Call) : call.summary.books = books (tallied call.log).total :=
  RunSummary.books_observe call.elapsedMs call.log rfl

theorem Call.Ends.books {call : Call} (ends : call.Ends) :
    ∃ open_, call.summary.books = ⟨0, 0, 0, open_⟩ := by
  rw [call.books_summary]
  rcases ends with ⟨outcome, returned⟩ | failed
  · exact ⟨0, call.closes.returned outcome returned⟩
  · exact call.closes.uncommitted failed

theorem Call.Returns.books {call : Call} (returns : call.Returns) : call.summary.books = 0 := by
  obtain ⟨outcome, returned⟩ := returns
  rw [call.books_summary]
  exact call.closes.returned outcome returned

end CommercePlatform.Processor
