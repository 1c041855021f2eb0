import Mathlib.Data.List.Lex
import CommercePlatform.Lib.Dict
import CommercePlatform.Models

/-!
The outbox repository (`fraud_outbox_publisher/repository.py`).

`fraud_outbox` is a map from `outbox_id` to the columns the publisher reads or
writes. `claim` is one atomic transaction of three statements: it recovers
abandoned claims, selects the oldest available rows that no other transaction
has locked, and marks them as its own. `published` and `failed` are
single guarded updates.
-/

namespace CommercePlatform.Outbox

/-- The outbox settings of `FraudConfig`. -/
structure Config where
  batchSize : Nat := 20
  maxAttempts : Nat := 10
  initialBackoffMs : Nat := 500
  maxBackoffMs : Nat := 30000
  claimTtlSeconds : Nat := 30

inductive Status where
  | pending
  | publishing
  | published
  | failed
  deriving DecidableEq, Repr

/-- A row of `fraud_outbox`. -/
structure Row where
  eventId : UUID
  topic : String
  messageKey : List UInt8
  headersJson : List (String × String)
  payloadBytes : List UInt8
  status : Status := .pending
  attempts : Nat := 0
  availableAt : Instant
  claimedAt : Option Instant := none
  claimToken : Option UUID := none
  publishedAt : Option Instant := none
  lastError : Option String := none
  createdAt : Instant
  updatedAt : Instant
  deriving DecidableEq

abbrev Table := Dict UUID Row

structure OutboxRecord where
  outboxId : UUID
  eventId : UUID
  topic : String
  messageKey : List UInt8
  headers : List (String × List UInt8)
  payloadBytes : List UInt8
  attempts : Nat
  claimToken : UUID
  deriving DecidableEq

/-! ### claim -/

/-- `claimed_at < CURRENT_TIMESTAMP - ttl`, which is not true of a null. -/
def Row.expired (config : Config) (now : Instant) (row : Row) : Bool :=
  match row.claimedAt with
  | some claimedAt => claimedAt < now - config.claimTtlSeconds * 1000000
  | none => false

/-- The first statement of `claim`, on one row. -/
def Row.recover (config : Config) (now : Instant) (row : Row) : Row :=
  if row.status = .publishing ∧ row.expired config now then
    { row with status := .pending, claimToken := none, claimedAt := none, updatedAt := now }
  else row

/-- The condition of the `SELECT`. -/
def Row.available (now : Instant) (row : Row) : Bool :=
  row.status = .pending ∧ row.availableAt ≤ now

/-- `ORDER BY created_at, outbox_id`. -/
def earlier (a b : UUID × Row) : Bool :=
  a.2.createdAt < b.2.createdAt ∨
    (a.2.createdAt = b.2.createdAt ∧ a.1.hex.map Fin.val ≤ b.1.hex.map Fin.val)

/-- The `SELECT .. FOR UPDATE SKIP LOCKED LIMIT` of `claim`; `locked` are the rows
locked by other transactions at that moment. -/
def select (config : Config) (now : Instant) (locked : List UUID) (table : Table) :
    List (UUID × Row) :=
  ((table.entries.filter fun e => e.2.available now && decide (e.1 ∉ locked)).mergeSort
    earlier).take config.batchSize

/-- The last statement of `claim`, on one selected row. -/
def Row.take (token : UUID) (now : Instant) (row : Row) : Row :=
  { row with
    status := .publishing, claimToken := some token, claimedAt := some now
    attempts := row.attempts + 1, updatedAt := now }

def toRecord (token : UUID) (e : UUID × Row) : OutboxRecord :=
  { outboxId := e.1
    eventId := e.2.eventId
    topic := e.2.topic
    messageKey := e.2.messageKey
    headers := e.2.headersJson.map fun h => (h.1, h.2.toUTF8.toList)
    payloadBytes := e.2.payloadBytes
    attempts := e.2.attempts + 1
    claimToken := token }

/-- `OutboxRepository.claim`: the table it commits and the records it returns. -/
def claim (config : Config) (token : UUID) (now : Instant) (locked : List UUID) (table : Table) :
    Table × List OutboxRecord :=
  let recovered := table.mapValues fun _ row => row.recover config now
  let rows := select config now locked recovered
  let ids := rows.map Prod.fst
  let taken :=
    if ids.isEmpty then recovered
    else recovered.mapValues fun id row => if id ∈ ids then row.take token now else row
  (taken, rows.map (toRecord token))

/-! ### published and failed -/

/-- Rewrite the row `id` where `p` holds; the number of rows updated says whether it
did. -/
def updateWhere (table : Table) (id : UUID) (p : Row → Bool) (f : Row → Row) : Table × Nat :=
  match table.get? id with
  | some row => if p row then (table.set id (f row), 1) else (table, 0)
  | none => (table, 0)

def Row.publish (now : Instant) (row : Row) : Row :=
  { row with
    status := .published, publishedAt := some now, claimToken := none, claimedAt := none
    lastError := none, updatedAt := now }

/-- `OutboxRepository.published`. -/
def published (record : OutboxRecord) (now : Instant) (table : Table) :
    Table × Except String Unit :=
  let (table', rowcount) := updateWhere table record.outboxId
    (fun row => row.status = .publishing ∧ row.claimToken = some record.claimToken)
    (Row.publish now)
  if rowcount = 1 then (table', .ok ()) else (table, .error "outbox publication claim was lost")

/-- The backoff after a failed attempt. -/
def delayMs (config : Config) (attempts : Nat) : Nat :=
  min config.maxBackoffMs (config.initialBackoffMs * 2 ^ (attempts - 1))

def Row.fail (config : Config) (record : OutboxRecord) (error : String) (clock now : Instant)
    (row : Row) : Row :=
  { row with
    status := if config.maxAttempts ≤ record.attempts then .failed else .pending
    availableAt := clock + delayMs config record.attempts * 1000
    claimToken := none, claimedAt := none
    lastError := some (String.ofList (error.toList.take 512)), updatedAt := now }

/-- `OutboxRepository.failed`; `clock` is the publisher's clock, `now` the server's. -/
def failed (config : Config) (record : OutboxRecord) (error : String) (clock now : Instant)
    (table : Table) : Table :=
  (updateWhere table record.outboxId (fun row => row.claimToken = some record.claimToken)
    (Row.fail config record error clock now)).1

/-! ### What each transaction does to one row -/

theorem updateWhere_get? (table : Table) (id id' : UUID) (p : Row → Bool) (f : Row → Row) :
    (updateWhere table id p f).1.get? id' =
      (table.get? id').map fun row => if id' = id ∧ p row then f row else row := by
  unfold updateWhere
  cases found : table.get? id with
  | none =>
    by_cases same : id' = id
    · subst same; simp [found]
    · simp [same]
  | some row =>
    by_cases same : id' = id
    · subst same
      cases hp : p row <;> simp [found, hp]
    · cases hp : p row <;> simp [same, hp, Dict.get?_set]

/-- No row counted, no row changed. -/
theorem updateWhere_of_count_ne {table : Table} {id : UUID} {p : Row → Bool} {f : Row → Row}
    (count : (updateWhere table id p f).2 ≠ 1) : (updateWhere table id p f).1 = table := by
  revert count
  unfold updateWhere
  split
  · split <;> simp
  · simp

theorem failed_get? (config : Config) (record : OutboxRecord) (error : String)
    (clock now : Instant) (table : Table) (id : UUID) :
    (failed config record error clock now table).get? id =
      (table.get? id).map fun row =>
        if id = record.outboxId ∧ row.claimToken = some record.claimToken
        then row.fail config record error clock now else row := by
  simp [failed, updateWhere_get?]

theorem published_fst (record : OutboxRecord) (now : Instant) (table : Table) :
    (published record now table).1 = (updateWhere table record.outboxId
      (fun row => row.status = .publishing ∧ row.claimToken = some record.claimToken)
      (Row.publish now)).1 := by
  simp only [published]
  split
  · rfl
  · rename_i count
    exact (updateWhere_of_count_ne count).symm

theorem published_get? (record : OutboxRecord) (now : Instant) (table : Table) (id : UUID) :
    (published record now table).1.get? id =
      (table.get? id).map fun row =>
        if id = record.outboxId ∧ row.status = .publishing ∧
            row.claimToken = some record.claimToken
        then row.publish now else row := by
  rw [published_fst, updateWhere_get?]
  simp

theorem updateWhere_eq_self {table : Table} {id : UUID} {p : Row → Bool} {f : Row → Row}
    (none_match : ∀ row, table.get? id = some row → p row = false) :
    (updateWhere table id p f).1 = table := by
  unfold updateWhere
  cases found : table.get? id with
  | none => rfl
  | some row => simp [none_match row found]

/-- The rows `claim` selects and takes. -/
def claimedIds (config : Config) (now : Instant) (locked : List UUID) (table : Table) : List UUID :=
  (select config now locked (table.mapValues fun _ row => row.recover config now)).map Prod.fst

theorem claim_get? (config : Config) (token : UUID) (now : Instant) (locked : List UUID)
    (table : Table) (id : UUID) :
    (claim config token now locked table).1.get? id =
      (table.get? id).map fun row =>
        if id ∈ claimedIds config now locked table then (row.recover config now).take token now
        else row.recover config now := by
  simp only [claim, claimedIds]
  split
  · rename_i none
    simp [List.isEmpty_iff.mp none]
  · simp only [Dict.get?_mapValues, Option.map_map]
    rfl

theorem mem_select {config : Config} {now : Instant} {locked : List UUID} {table : Table}
    {e : UUID × Row} (mem : e ∈ select config now locked table) :
    table.get? e.1 = some e.2 ∧ e.2.available now = true ∧ e.1 ∉ locked := by
  have := List.mem_mergeSort.mp (List.mem_of_mem_take mem)
  simp only [List.mem_filter, Bool.and_eq_true, decide_eq_true_eq] at this
  exact ⟨Dict.mem_entries.mp this.1, this.2⟩

/-- A selected row was there, and is pending once abandoned claims are recovered. -/
theorem mem_claimedIds {config : Config} {now : Instant} {locked : List UUID} {table : Table}
    {id : UUID} (mem : id ∈ claimedIds config now locked table) :
    ∃ row, table.get? id = some row ∧ (row.recover config now).status = .pending := by
  obtain ⟨e, selected, rfl⟩ := List.mem_map.mp mem
  obtain ⟨present, available, -⟩ := mem_select selected
  rw [Dict.get?_mapValues, Option.map_eq_some_iff] at present
  obtain ⟨row, present, recovered⟩ := present
  refine ⟨row, present, ?_⟩
  rw [recovered]
  simpa using (decide_eq_true_eq.mp available).1

/-- The returned records are the selected rows under the new token. -/
theorem mem_claim_records {config : Config} {token : UUID} {now : Instant} {locked : List UUID}
    {table : Table} {r : OutboxRecord} (mem : r ∈ (claim config token now locked table).2) :
    r.outboxId ∈ claimedIds config now locked table ∧ ∃ row, table.get? r.outboxId = some row ∧
      r = toRecord token (r.outboxId, row.recover config now) := by
  obtain ⟨e, selected, rfl⟩ := List.mem_map.mp mem
  refine ⟨List.mem_map_of_mem selected, ?_⟩
  obtain ⟨present, -⟩ := mem_select selected
  rw [Dict.get?_mapValues, Option.map_eq_some_iff] at present
  obtain ⟨row, present, recovered⟩ := present
  exact ⟨row, present, by rw [recovered]; rfl⟩

end CommercePlatform.Outbox
