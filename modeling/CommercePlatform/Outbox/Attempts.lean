import CommercePlatform.Outbox.Lease

/-!
The attempt bound of the outbox.

`claim` counts an attempt, and `failed` retires a row whose attempts have reached
`fraud_outbox_max_attempts`. The first statement of `claim`, which recovers abandoned
claims, does not look at the attempts: a publisher that dies in the last attempt leaves a
row that is handed out again. Apart from that statement the bound holds.
-/

namespace CommercePlatform.Outbox

section

variable {π : Type} [DecidableEq π] {config : Config}
  {parseEventId : List UInt8 → Except String UUID}

/-! ### Handing out -/

/-- How often a step hands the row `id` to a publisher: a `claim` that returns it. -/
def handsOut (config : Config) (s : State π) (id : UUID) : Act π → Nat
  | .claim _ token now locked .committed =>
    (claim config token now locked s.table).2.countP fun r => r.outboxId = id
  | _ => 0

variable (config parseEventId) in
/-- How often the row `id` is handed to a publisher along a run. -/
def handed (id : UUID) : State π → List (Act π) → Nat
  | _, [] => 0
  | s, a :: as =>
    handsOut config s id a + ((step config parseEventId s a).elim 0 fun t => handed id t as)

/-- The attempts a table has counted for a row. -/
def Table.attempts (table : Table) (id : UUID) : Nat := ((table.get? id).map Row.attempts).getD 0

theorem Row.recover_attempts (config : Config) (now : Instant) (row : Row) :
    (row.recover config now).attempts = row.attempts := by
  unfold recover
  split <;> rfl

/-- A claim selects a row at most once. -/
theorem claimedIds_nodup (config : Config) (now : Instant) (locked : List UUID) (table : Table) :
    (claimedIds config now locked table).Nodup := by
  unfold claimedIds select
  set recovered := table.mapValues fun _ row => row.recover config now
  have sorted := List.mergeSort_perm
    (recovered.entries.filter fun e => e.2.available now && decide (e.1 ∉ locked)) earlier
  have filtered := (List.filter_sublist (l := recovered.entries)
    (p := fun e => e.2.available now && decide (e.1 ∉ locked))).map Prod.fst
  have nodup := ((sorted.map Prod.fst).nodup_iff).mpr (recovered.nodupKeys.sublist filtered)
  exact nodup.sublist ((List.take_sublist _ _).map Prod.fst)

omit [DecidableEq π] in
theorem handsOut_le (config : Config) (s : State π) (id : UUID) (p : π) (token : UUID)
    (now : Instant) (locked : List UUID) (database : Database) :
    handsOut config s id (.claim p token now locked database) ≤
      if id ∈ claimedIds config now locked s.table then 1 else 0 := by
  have counted : (claim config token now locked s.table).2.countP (fun r => r.outboxId = id) =
      (claimedIds config now locked s.table).count id := by
    simp only [claim, claimedIds, List.countP_map, List.count]
    rfl
  cases database with
  | committed =>
    rw [handsOut, counted]
    split
    · exact List.nodup_iff_count_le_one.mp (claimedIds_nodup config now locked s.table) id
    · rename_i absent
      exact (List.count_eq_zero.mpr absent).le
  | ackLost | refused => exact Nat.zero_le _

/-- The table a claim leaves, unless its transaction did not commit. -/
theorem step_claim {s t : State π} {p : π} {token : UUID} {now : Instant} {locked : List UUID}
    {database : Database}
    (stepped : step config parseEventId s (.claim p token now locked database) = some t) :
    (∃ error, database = .refused error) ∧ t.table = s.table ∧ t.phase = s.phase ∨
      (∀ error, database ≠ .refused error) ∧
        t.table = (claim config token now locked s.table).1 := by
  simp only [step] at stepped
  split at stepped
  · split at stepped
    · cases stepped
    · cases database with
      | refused error => cases stepped; exact .inl ⟨⟨error, rfl⟩, rfl, rfl⟩
      | committed | ackLost => cases stepped; exact .inr ⟨by simp, rfl⟩
  · cases stepped

/-- Every handing out is counted in the row. -/
theorem handsOut_attempts {s t : State π} {a : Act π}
    (stepped : step config parseEventId s a = some t) (id : UUID) :
    handsOut config s id a + s.table.attempts id ≤ t.table.attempts id := by
  have tr := step_cases stepped
  have grown : s.table.attempts id ≤ t.table.attempts id := by
    unfold Table.attempts
    cases before : s.table.get? id with
    | none => simp
    | some row =>
      obtain ⟨row', after, -, change⟩ := tr.content before
      rw [after]
      cases change with
      | kept | published | failed => exact Nat.le_refl _
      | recovered => exact (Row.recover_attempts config _ row).ge
      | @claimed _ _ now =>
        have same := Row.recover_attempts config now row
        simp only [Option.map_some, Option.getD_some, Row.take]
        omega
  cases a with
  | claim p token now locked database =>
    have hands := handsOut_le config s id p token now locked database
    rcases step_claim stepped with ⟨⟨error, rfl⟩, -⟩ | ⟨-, tables⟩
    · simpa [handsOut] using grown
    · by_cases taken : id ∈ claimedIds config now locked s.table
      · obtain ⟨row, before, -⟩ := mem_claimedIds taken
        have same := Row.recover_attempts config now row
        rw [if_pos taken] at hands
        simp only [tables, Table.attempts, claim_get?, before, taken, if_true, Option.map_some,
          Option.getD_some, Row.take]
        omega
      · rw [if_neg taken] at hands
        omega
  | insert | publish | published | failed | crash => simpa [handsOut] using grown

/-- A row is handed out no more often than its attempts say. -/
theorem handed_attempts {s t : State π} {as : List (Act π)}
    (ran : (machine config parseEventId).run s as = some t) (id : UUID) :
    handed config parseEventId id s as + s.table.attempts id ≤ t.table.attempts id := by
  induction as generalizing s with
  | nil =>
    cases ran
    simp [handed]
  | cons a as ih =>
    obtain ⟨u, stepped, rest⟩ := (Machine.run_cons_some _).mp ran
    have first := handsOut_attempts stepped id
    have later := ih rest
    have next : step config parseEventId s a = some u := stepped
    simp only [handed, next, Option.elim_some]
    omega

/-! ### The bound -/

/-- The recovery of a committed claim meets an expired lease of a row that has no attempt
left. -/
def RevivesExhausted (config : Config) (s : State π) (a : Act π) : Prop :=
  ∃ p token now locked database, a = .claim p token now locked database ∧
    (∀ error, database ≠ .refused error) ∧ ∃ id row, s.table.get? id = some row ∧
      row.status = .publishing ∧ row.expired config now = true ∧ config.maxAttempts ≤ row.attempts

variable (config) in
/-- Rows and records while no exhausted row has been revived. -/
structure Spent (s : State π) : Prop where
  bounded : ∀ id row, s.table.get? id = some row → row.attempts ≤ config.maxAttempts
  /-- A pending row has an attempt left. -/
  pending : ∀ id row, s.table.get? id = some row → row.status = .pending →
    row.attempts < config.maxAttempts
  /-- The record of a lease that lasts has counted every attempt of its row. -/
  record : ∀ p, ∀ r ∈ (s.phase p).held, ∀ row, s.table.get? r.outboxId = some row →
    row.claimToken = some r.claimToken → r.attempts = row.attempts

omit [DecidableEq π] in
theorem spent_init : Spent config ({} : State π) where
  bounded := by simp
  pending := by simp
  record := by simp [Phase.held]

omit [DecidableEq π] in
/-- What a step makes of the attempts of a row. -/
theorem RowChange.spent {s : State π} {a : Act π} (spent : Spent config s)
    (spares : ∀ p token now locked database, a = .claim p token now locked database →
      ∀ id row, s.table.get? id = some row → row.status = .publishing →
        row.expired config now = true → row.attempts < config.maxAttempts)
    {id : UUID} {row row' : Row} (before : s.table.get? id = some row)
    (change : RowChange config s a id row row') :
    row'.attempts ≤ config.maxAttempts ∧
      (row'.status = .pending → row'.attempts < config.maxAttempts) := by
  have bounded := spent.bounded id row before
  cases change with
  | kept => exact ⟨bounded, spent.pending id row before⟩
  | @recovered p token now locked database ha publishing expired =>
    have left := spares p token now locked database ha id row before publishing expired
    rw [Row.recover_attempts]
    exact ⟨bounded, fun _ => left⟩
  | @claimed p token now locked database ha _ pending =>
    have left : row.attempts < config.maxAttempts := by
      rcases row.recover_cases config now with same | ⟨publishing, expired, -⟩
      · rw [same] at pending
        exact spent.pending id row before pending
      · exact spares p token now locked database ha id row before publishing expired
    refine ⟨?_, Status.noConfusion⟩
    simp only [Row.take, Row.recover_attempts]
    omega
  | published => exact ⟨bounded, Status.noConfusion⟩
  | @failed record error clock now fails same token =>
    obtain ⟨p, clock', now', database, rest, error', -, failing⟩ := fails
    have counted := spent.record p record (by simp [failing, Phase.held]) row (same ▸ before) token
    refine ⟨bounded, fun pending => ?_⟩
    simp only [Row.fail] at pending ⊢
    split at pending
    · cases pending
    · omega

theorem step_spent {s t : State π} {a : Act π} (valid : 0 < config.maxAttempts) (inv : Inv s)
    (spent : Spent config s) (spares : ¬ RevivesExhausted config s a)
    (stepped : step config parseEventId s a = some t) : Spent config t := by
  have tr := step_cases stepped
  by_cases refused : ∃ p token now locked error, a = .claim p token now locked (.refused error)
  · obtain ⟨p, token, now, locked, error, rfl⟩ := refused
    rcases step_claim stepped with ⟨-, tables, phases⟩ | ⟨other, -⟩
    · exact ⟨tables ▸ spent.bounded, tables ▸ spent.pending, tables ▸ phases ▸ spent.record⟩
    · exact absurd rfl (other error)
  have kept : ∀ {id row row'}, s.table.get? id = some row → RowChange config s a id row row' →
      row'.attempts ≤ config.maxAttempts ∧
        (row'.status = .pending → row'.attempts < config.maxAttempts) := by
    intro id row row' before change
    refine change.spent spent ?_ before
    intro p token now locked database ha id row before publishing expired
    by_contra full
    refine spares ⟨p, token, now, locked, database, ha, ?_, id, row, before, publishing, expired,
      not_lt.mp full⟩
    rintro error rfl
    exact refused ⟨p, token, now, locked, error, ha⟩
  constructor
  · intro id row' after
    rcases tr.origin after with fresh | ⟨row, before, change⟩
    · have := (decide_eq_true_eq.mp fresh).2.1
      omega
    · exact (kept before change).1
  · intro id row' after pending
    rcases tr.origin after with fresh | ⟨row, before, change⟩
    · have := (decide_eq_true_eq.mp fresh).2.1
      omega
    · exact (kept before change).2 pending
  · intro p r mem row' after token
    rcases tr.held mem with old | ⟨token', now, locked, database, ha, new, claimed⟩
    · -- The token of a record held before is not the one drawn in this step.
      obtain ⟨row, before, -⟩ := inv.copies p r old
      obtain ⟨row₀, after₀, -, change⟩ := tr.content before
      obtain rfl : row' = row₀ := Option.some.inj (after.symm.trans after₀)
      have drawn := inv.recordToken p r old
      cases change with
      | kept => exact spent.record p r old _ before token
      | @recovered _ _ now =>
        rcases row.recover_cases config now with same | ⟨-, -, -, none, -⟩
        · rw [same] at token ⊢
          exact spent.record p r old row before token
        · rw [none] at token
          cases token
      | claimed _ new =>
        cases token
        exact absurd drawn new
      | published | failed => cases token
    · obtain ⟨taken, row, before, made⟩ := mem_claim_records claimed
      subst ha
      rcases step_claim stepped with ⟨⟨error, rfl⟩, -⟩ | ⟨-, tables⟩
      · exact absurd ⟨p, token', now, locked, error, rfl⟩ refused
      · rw [tables, claim_get?, before, Option.map_some, if_pos taken] at after
        cases after
        rw [made]
        rfl

variable (config parseEventId) in
/-- The attempt bound in the state `s` that the run `as` reaches: a row has been handed out
no more often than it counts attempts, it counts no more than the bound, and when it counts
the bound and its lease is over it is FAILED unless it is PUBLISHED. -/
def AttemptBound (as : List (Act π)) (s : State π) : Prop :=
  ∀ id row, s.table.get? id = some row →
    handed config parseEventId id {} as ≤ row.attempts ∧ row.attempts ≤ config.maxAttempts ∧
      (row.attempts = config.maxAttempts → row.status ≠ .publishing → row.status ≠ .published →
        row.status = .failed)

theorem Spent.attemptBound {s : State π} {as : List (Act π)} (spent : Spent config s)
    (ran : (machine config parseEventId).run {} as = some s) :
    AttemptBound config parseEventId as s := by
  intro id row present
  have counted := handed_attempts ran id
  simp only [Table.attempts, present, Option.map_some, Option.getD_some] at counted
  refine ⟨by omega, spent.bounded id row present, ?_⟩
  intro full notPublishing notPublished
  cases status : row.status with
  | pending => exact absurd full (spent.pending id row present status).ne
  | publishing => exact absurd status notPublishing
  | published => exact absurd status notPublished
  | failed => rfl

/-- Reviving an exhausted row breaks the bound at once. -/
theorem RevivesExhausted.breaks {s t : State π} {a : Act π} {as : List (Act π)}
    (revives : RevivesExhausted config s a) (stepped : step config parseEventId s a = some t) :
    ¬ AttemptBound config parseEventId as t := by
  obtain ⟨p, token, now, locked, database, rfl, done, id, row, before, publishing, expired, full⟩ :=
    revives
  rcases step_claim stepped with ⟨⟨error, rfl⟩, -⟩ | ⟨-, tables⟩
  · exact absurd rfl (done error)
  · intro bound
    have after := claim_get? config token now locked s.table id
    rw [← tables, before, Option.map_some] at after
    have same := Row.recover_attempts config now row
    have pending : (row.recover config now).status = .pending := by
      simp [Row.recover, publishing, expired]
    by_cases taken : id ∈ claimedIds config now locked s.table
    · rw [if_pos taken] at after
      obtain ⟨-, bounded, -⟩ := bound id _ after
      simp only [Row.take] at bounded
      omega
    · rw [if_neg taken] at after
      obtain ⟨-, bounded, final⟩ := bound id _ after
      have failed := final (by omega) (by simp [pending]) (by simp [pending])
      rw [pending] at failed
      cases failed

/-- For every run of any number of publishers: the attempt bound holds in every state of
the run iff no committed claim of it meets an expired lease of an exhausted row. -/
theorem attempt_bound (valid : 0 < config.maxAttempts) {as : List (Act π)} {s : State π}
    (ran : (machine config parseEventId).run {} as = some s) :
    (∀ pre post u, as = pre ++ post → (machine config parseEventId).run {} pre = some u →
      AttemptBound config parseEventId pre u) ↔
    (machine config parseEventId).Along (fun s a => ¬ RevivesExhausted config s a) {} as := by
  constructor
  · intro bound
    rw [Machine.along_iff]
    intro pre a post split u ranPre revives
    obtain ⟨v, ranPre', ranPost⟩ := (Machine.run_append _).mp (split ▸ ran)
    obtain rfl := Option.some.inj (ranPre.symm.trans ranPre')
    obtain ⟨w, stepped, -⟩ := (Machine.run_cons_some _).mp ranPost
    refine revives.breaks stepped (bound (pre ++ [a]) post w (by simp [split]) ?_)
    exact (Machine.run_concat _).mpr ⟨u, ranPre, stepped⟩
  · intro spares pre post u split ranPre
    have keep : ∀ (s : State π) a t, Inv s ∧ Spent config s → ¬ RevivesExhausted config s a →
        step config parseEventId s a = some t → Inv t ∧ Spent config t :=
      fun s a t both cond stepped =>
        ⟨(step_cases stepped).inv both.1, step_spent valid both.1 both.2 cond stepped⟩
    have both := (machine config parseEventId).invariant_along keep ⟨inv_init, spent_init⟩
      (Machine.along_left _ (split ▸ spares)) ranPre
    exact both.2.attemptBound ranPre

end

/-! ### A publisher that dies in the last attempt -/

/-- A claim of a table with one row that is available. -/
theorem claim_single {config : Config} {token : UUID} {now : Instant} {table : Table} {id : UUID}
    {row : Row} (single : table.entries = [(id, row)]) (room : 0 < config.batchSize)
    (available : (row.recover config now).available now = true) :
    claim config token now [] table =
      (table.set id ((row.recover config now).take token now),
        [toRecord token (id, row.recover config now)]) := by
  obtain ⟨entries, nodup⟩ := table
  obtain rfl : entries = _ := single
  have selected : select config now [] (Dict.mapValues ⟨[(id, row)], nodup⟩ fun _ row =>
      row.recover config now) = [(id, row.recover config now)] := by
    simp [select, Dict.mapValues, available, List.take_of_length_le, Nat.succ_le_of_lt room]
  simp only [claim, selected]
  simp [Dict.mapValues, Dict.set, Dict.setEntries]

section

/-- One attempt is allowed. -/
def oneAttempt : Config := { maxAttempts := 1 }

def alertRow : Row :=
  { eventId := .ofNat 7, topic := "commerce.fraud-alerts", messageKey := [], headersJson := []
    payloadBytes := [], availableAt := 0, createdAt := 0, updatedAt := 0 }

/-- A publisher claims the only row and dies; the lease of 30 s expires, and it claims the
row again after its restart. -/
def revivingRun : List (Act Unit) :=
  [.insert (.ofNat 1) alertRow, .claim () (.ofNat 11) 0 [] .committed, .crash (),
    .claim () (.ofNat 12) 31000000 [] .committed]

/-- Up to the crash the run keeps the bound. -/
theorem attempt_bound_first_claim :
    ∃ s, (machine oneAttempt fun _ => .ok (.ofNat 7)).run ({} : State Unit)
        (revivingRun.take 3) = some s ∧
      AttemptBound oneAttempt (fun _ => .ok (.ofNat 7)) (revivingRun.take 3) s := by
  have ran : ∃ s, (machine oneAttempt fun _ => .ok (.ofNat 7)).run ({} : State Unit)
      (revivingRun.take 3) = some s := ⟨_, rfl⟩
  obtain ⟨s, ran⟩ := ran
  refine ⟨s, ran, (attempt_bound (by decide) ran).mpr ?_ _ [] s (by simp) ran⟩
  rw [Machine.along_iff]
  intro pre a post split u ranPre revives
  obtain ⟨p, token, now, locked, database, rfl, -, id, row, present, publishing, -⟩ := revives
  -- The only claim follows the insertion, and the row is pending then.
  match pre with
  | [] => cases split
  | [_] =>
    cases split
    obtain rfl : u = { table := (∅ : Table).set (.ofNat 1) alertRow } :=
      (Option.some.inj ranPre).symm
    simp only [Dict.get?_set, Dict.get?_empty] at present
    split at present
    · cases present
      cases publishing
    · cases present
  | [_, _] => cases split
  | _ :: _ :: _ :: pre => simp [revivingRun] at split

/-- With one attempt allowed, the row is handed out twice and counts two attempts. -/
theorem attempt_bound_exceeded :
    let parseEventId := fun _ => .ok (.ofNat 7)
    ∃ s row, (machine oneAttempt parseEventId).run {} revivingRun = some s ∧
      s.table.get? (.ofNat 1) = some row ∧ row.attempts = 2 ∧
      handed oneAttempt parseEventId (.ofNat 1) {} revivingRun = 2 ∧
      ¬ AttemptBound oneAttempt parseEventId revivingRun s := by
  intro parseEventId
  let table := (∅ : Table).set (.ofNat 1) alertRow
  let claimed := alertRow.take (.ofNat 11) 0
  let revived := claimed.recover oneAttempt 31000000
  have first : claim oneAttempt (.ofNat 11) 0 [] table =
      (table.set (.ofNat 1) claimed, [toRecord (.ofNat 11) (.ofNat 1, alertRow)]) :=
    @claim_single oneAttempt (.ofNat 11) 0 table (.ofNat 1) alertRow rfl (by decide) (by decide)
  have second : claim oneAttempt (.ofNat 12) 31000000 [] (table.set (.ofNat 1) claimed) =
      ((table.set (.ofNat 1) claimed).set (.ofNat 1) (revived.take (.ofNat 12) 31000000),
        [toRecord (.ofNat 12) (.ofNat 1, revived)]) :=
    @claim_single oneAttempt (.ofNat 12) 31000000 (table.set (.ofNat 1) claimed) (.ofNat 1) claimed
      rfl (by decide) (by decide)
  have inserted : step oneAttempt parseEventId ({} : State Unit) (.insert (.ofNat 1) alertRow) =
      some { table } := by rfl
  let holding : State Unit :=
    { table := table.set (.ofNat 1) claimed, tokens := [.ofNat 11]
      phase := Function.update (fun _ => .idle) ()
        (.next [toRecord (.ofNat 11) (.ofNat 1, alertRow)]) }
  have handedOut : step oneAttempt parseEventId { table }
      (.claim () (.ofNat 11) 0 [] .committed) = some holding := by
    simp [step, first, holding]
  let stopped : State Unit := { holding with phase := Function.update holding.phase () .idle }
  let again : State Unit :=
    { table := (table.set (.ofNat 1) claimed).set (.ofNat 1) (revived.take (.ofNat 12) 31000000)
      tokens := [.ofNat 12, .ofNat 11]
      phase := Function.update stopped.phase () (.next [toRecord (.ofNat 12) (.ofNat 1, revived)]) }
  have handedAgain : step oneAttempt parseEventId stopped
      (.claim () (.ofNat 12) 31000000 [] .committed) = some again := by
    have new : UUID.ofNat 12 ≠ UUID.ofNat 11 := by decide
    simp [step, stopped, holding, second, again, new]
  have counted : handed oneAttempt parseEventId (.ofNat 1) {} revivingRun = 2 := by
    have stops : step oneAttempt parseEventId holding (.crash ()) = some stopped := by rfl
    simp only [revivingRun, handed, inserted, handedOut, stops, handedAgain, Option.elim_some]
    simp [handsOut, first, second, stopped, holding, toRecord]
  refine ⟨again, revived.take (.ofNat 12) 31000000, ?_, by decide, by decide, counted, ?_⟩
  · simp only [Machine.run, machine, revivingRun, inserted, handedOut, Option.bind_some]
    exact congrArg (·.bind some) handedAgain
  · intro bound
    have exceeded := (bound (.ofNat 1) (revived.take (.ofNat 12) 31000000) (by decide)).2.1
    revert exceeded
    decide

end

end CommercePlatform.Outbox
