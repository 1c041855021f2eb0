import Mathlib.Algebra.BigOperators.Group.List.Basic
import Mathlib.Algebra.Order.Ring.Rat
import CommercePlatform.Processor.Counting

/-!
The summary of a run (`RunSummary`, and `_merge_summaries` of `main_pooled.py`).

A `Counter` of the source is the function of its counts, and a latency is a number that is not
negative. Summaries with `merge` are a commutative monoid, so a summary of calls is the sum of
what each of them adds to an empty one (`summarize_eq_sum`), however they are split.
-/

namespace CommercePlatform.Processor

open Contract Persistence

@[ext]
structure RunSummary where
  consumedRecords : Int := 0
  validRecords : Int := 0
  processedRecords : Int := 0
  duplicateRecords : Int := 0
  dlqRecords : Int := 0
  retries : Int := 0
  retryExhausted : Int := 0
  kafkaErrors : Int := 0
  redisErrors : Int := 0
  commitSuccesses : Int := 0
  commitFailures : Int := 0
  processingFailures : Int := 0
  unresolvedRecords : Int := 0
  latencyTotalMs : NNRat := 0
  latencyMaxMs : NNRat := 0
  validationFailures : ValidationCategory → Int := fun _ => 0
  processedEvents : EventType → Int := fun _ => 0
  databaseTransactionsStarted : Int := 0
  databaseTransactionsCommitted : Int := 0
  databaseTransactionsRolledBack : Int := 0
  alreadyPersistedEvents : Int := 0
  databaseRetries : Int := 0
  databaseErrors : Int := 0
  missingDependencyErrors : Int := 0
  integrityFailures : Int := 0
  rowsWrittenByTable : Table → Int := fun _ => 0
  slowDatabaseOperations : Int := 0
  fraudEvaluations : Int := 0
  approveDecisions : Int := 0
  reviewDecisions : Int := 0
  blockDecisions : Int := 0
  matchedRules : String → Int := fun _ => 0
  fraudContextFailures : Int := 0
  fraudIntegrityFailures : Int := 0
  fraudAlertsCreated : Int := 0
  fraudOutboxRowsCreated : Int := 0

/-- `counter[key] += n`. -/
def bump {κ : Type} [DecidableEq κ] (counter : κ → Int) (key : κ) (n : Int) : κ → Int :=
  fun k => counter k + if k = key then n else 0

namespace RunSummary

/-- `record_latency`. -/
def recordLatency (summary : RunSummary) (milliseconds : NNRat) : RunSummary :=
  { summary with
    latencyTotalMs := summary.latencyTotalMs + milliseconds
    latencyMaxMs := max summary.latencyMaxMs milliseconds }

/-- One `+=` on the summary, in a call that has taken so long; a processed record is counted
with its latency. -/
def count (elapsed : NNRat) (s : RunSummary) : Counter × Int → RunSummary
  | (.consumedRecords, n) => { s with consumedRecords := s.consumedRecords + n }
  | (.validRecords, n) => { s with validRecords := s.validRecords + n }
  | (.processedRecords, n) =>
    recordLatency { s with processedRecords := s.processedRecords + n } elapsed
  | (.duplicateRecords, n) => { s with duplicateRecords := s.duplicateRecords + n }
  | (.dlqRecords, n) => { s with dlqRecords := s.dlqRecords + n }
  | (.retries, n) => { s with retries := s.retries + n }
  | (.retryExhausted, n) => { s with retryExhausted := s.retryExhausted + n }
  | (.redisErrors, n) => { s with redisErrors := s.redisErrors + n }
  | (.commitSuccesses, n) => { s with commitSuccesses := s.commitSuccesses + n }
  | (.commitFailures, n) => { s with commitFailures := s.commitFailures + n }
  | (.processingFailures, n) => { s with processingFailures := s.processingFailures + n }
  | (.unresolvedRecords, n) => { s with unresolvedRecords := s.unresolvedRecords + n }
  | (.validationFailures category, n) =>
    { s with validationFailures := bump s.validationFailures category n }
  | (.processedEvents eventType, n) =>
    { s with processedEvents := bump s.processedEvents eventType n }
  | (.databaseTransactionsStarted, n) =>
    { s with databaseTransactionsStarted := s.databaseTransactionsStarted + n }
  | (.databaseTransactionsCommitted, n) =>
    { s with databaseTransactionsCommitted := s.databaseTransactionsCommitted + n }
  | (.databaseTransactionsRolledBack, n) =>
    { s with databaseTransactionsRolledBack := s.databaseTransactionsRolledBack + n }
  | (.alreadyPersistedEvents, n) =>
    { s with alreadyPersistedEvents := s.alreadyPersistedEvents + n }
  | (.databaseRetries, n) => { s with databaseRetries := s.databaseRetries + n }
  | (.databaseErrors, n) => { s with databaseErrors := s.databaseErrors + n }
  | (.missingDependencyErrors, n) =>
    { s with missingDependencyErrors := s.missingDependencyErrors + n }
  | (.integrityFailures, n) => { s with integrityFailures := s.integrityFailures + n }
  | (.rowsWrittenByTable table, n) =>
    { s with rowsWrittenByTable := bump s.rowsWrittenByTable table n }
  | (.slowDatabaseOperations, n) =>
    { s with slowDatabaseOperations := s.slowDatabaseOperations + n }
  | (.fraudEvaluations, n) => { s with fraudEvaluations := s.fraudEvaluations + n }
  | (.approveDecisions, n) => { s with approveDecisions := s.approveDecisions + n }
  | (.reviewDecisions, n) => { s with reviewDecisions := s.reviewDecisions + n }
  | (.blockDecisions, n) => { s with blockDecisions := s.blockDecisions + n }
  | (.matchedRules ruleId, n) => { s with matchedRules := bump s.matchedRules ruleId n }
  | (.fraudContextFailures, n) => { s with fraudContextFailures := s.fraudContextFailures + n }
  | (.fraudIntegrityFailures, n) =>
    { s with fraudIntegrityFailures := s.fraudIntegrityFailures + n }
  | (.fraudAlertsCreated, n) => { s with fraudAlertsCreated := s.fraudAlertsCreated + n }
  | (.fraudOutboxRowsCreated, n) =>
    { s with fraudOutboxRowsCreated := s.fraudOutboxRowsCreated + n }
  | (.inflight, _) | (.eventsTerminal .., _) => s

/-- The body of the loop of `_merge_summaries`. -/
def merge (merged summary : RunSummary) : RunSummary where
  consumedRecords := merged.consumedRecords + summary.consumedRecords
  validRecords := merged.validRecords + summary.validRecords
  processedRecords := merged.processedRecords + summary.processedRecords
  duplicateRecords := merged.duplicateRecords + summary.duplicateRecords
  dlqRecords := merged.dlqRecords + summary.dlqRecords
  retries := merged.retries + summary.retries
  retryExhausted := merged.retryExhausted + summary.retryExhausted
  kafkaErrors := merged.kafkaErrors + summary.kafkaErrors
  redisErrors := merged.redisErrors + summary.redisErrors
  commitSuccesses := merged.commitSuccesses + summary.commitSuccesses
  commitFailures := merged.commitFailures + summary.commitFailures
  processingFailures := merged.processingFailures + summary.processingFailures
  unresolvedRecords := merged.unresolvedRecords + summary.unresolvedRecords
  latencyTotalMs := merged.latencyTotalMs + summary.latencyTotalMs
  latencyMaxMs := max merged.latencyMaxMs summary.latencyMaxMs
  validationFailures := merged.validationFailures + summary.validationFailures
  processedEvents := merged.processedEvents + summary.processedEvents
  databaseTransactionsStarted :=
    merged.databaseTransactionsStarted + summary.databaseTransactionsStarted
  databaseTransactionsCommitted :=
    merged.databaseTransactionsCommitted + summary.databaseTransactionsCommitted
  databaseTransactionsRolledBack :=
    merged.databaseTransactionsRolledBack + summary.databaseTransactionsRolledBack
  alreadyPersistedEvents := merged.alreadyPersistedEvents + summary.alreadyPersistedEvents
  databaseRetries := merged.databaseRetries + summary.databaseRetries
  databaseErrors := merged.databaseErrors + summary.databaseErrors
  missingDependencyErrors := merged.missingDependencyErrors + summary.missingDependencyErrors
  integrityFailures := merged.integrityFailures + summary.integrityFailures
  rowsWrittenByTable := merged.rowsWrittenByTable + summary.rowsWrittenByTable
  slowDatabaseOperations := merged.slowDatabaseOperations + summary.slowDatabaseOperations
  fraudEvaluations := merged.fraudEvaluations + summary.fraudEvaluations
  approveDecisions := merged.approveDecisions + summary.approveDecisions
  reviewDecisions := merged.reviewDecisions + summary.reviewDecisions
  blockDecisions := merged.blockDecisions + summary.blockDecisions
  matchedRules := merged.matchedRules + summary.matchedRules
  fraudContextFailures := merged.fraudContextFailures + summary.fraudContextFailures
  fraudIntegrityFailures := merged.fraudIntegrityFailures + summary.fraudIntegrityFailures
  fraudAlertsCreated := merged.fraudAlertsCreated + summary.fraudAlertsCreated
  fraudOutboxRowsCreated := merged.fraudOutboxRowsCreated + summary.fraudOutboxRowsCreated

/-- The effect of one of the calls that `process` makes on the summary. -/
def observe (elapsed : NNRat) (summary : RunSummary) : (s : Effect) × s.Answer → RunSummary
  | ⟨.tally counts, _⟩ => counts.foldl (count elapsed) summary
  | _ => summary

end RunSummary

theorem add_bump {κ : Type} [DecidableEq κ] (counter : κ → Int) (key : κ) (n : Int) :
    counter + bump (fun _ => 0) key n = bump counter key n := by
  funext k
  simp [bump]

instance : Add RunSummary := ⟨RunSummary.merge⟩

instance : Zero RunSummary := ⟨{}⟩

theorem RunSummary.add_def (a b : RunSummary) : a + b = a.merge b := rfl

theorem RunSummary.zero_def : (0 : RunSummary) = {} := rfl

theorem counts_add_zero {κ : Type} (counter : κ → Int) : (counter + fun _ => 0) = counter :=
  add_zero counter

theorem counts_zero_add {κ : Type} (counter : κ → Int) : (fun _ => 0) + counter = counter :=
  zero_add counter

theorem max_zero_latency (latency : NNRat) : max latency 0 = latency :=
  max_eq_left latency.coe_nonneg

theorem max_latency_zero (latency : NNRat) : max 0 latency = latency :=
  max_eq_right latency.coe_nonneg

instance : AddCommMonoid RunSummary where
  add_assoc a b c := by simp only [RunSummary.add_def, RunSummary.merge, add_assoc, max_assoc]
  zero_add a := by
    simp only [RunSummary.add_def, RunSummary.zero_def, RunSummary.merge, zero_add,
      counts_zero_add, max_latency_zero]
  add_zero a := by
    simp only [RunSummary.add_def, RunSummary.zero_def, RunSummary.merge, add_zero,
      counts_add_zero, max_zero_latency]
  add_comm a b := by
    simp only [RunSummary.add_def, RunSummary.merge]
    congr 1 <;> first
      | exact add_comm _ _
      | exact max_comm _ _
  nsmul := nsmulRec

/-- A tally adds to a summary what it adds to an empty one. -/
theorem RunSummary.count_eq_add (elapsed : NNRat) (s : RunSummary) (entry : Counter × Int) :
    s.count elapsed entry = s + (0 : RunSummary).count elapsed entry := by
  obtain ⟨c, n⟩ := entry
  cases c <;>
    simp only [RunSummary.count, RunSummary.recordLatency, RunSummary.add_def, RunSummary.zero_def,
      RunSummary.merge, add_zero, zero_add, counts_add_zero, add_bump, max_zero_latency,
      max_latency_zero]

end CommercePlatform.Processor
