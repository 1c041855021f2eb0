import CommercePlatform.Outbox.Service

/-!
Safety of the outbox lease machine.

`step_row` says what one step can do to one row: nothing, recovery of an expired
claim, a claim, the holder's `published` or the holder's `failed`. Together with
the columns that never change (`Row.SameContent`) it gives the invariant `Inv` of
every reachable state, the two absorbing statuses, and what must lie between two
claims of one row.
-/

namespace CommercePlatform.Outbox

/-! ### Rows -/

/-- The columns no update touches. -/
structure Row.SameContent (row row' : Row) : Prop where
  eventId : row'.eventId = row.eventId
  topic : row'.topic = row.topic
  messageKey : row'.messageKey = row.messageKey
  headersJson : row'.headersJson = row.headersJson
  payloadBytes : row'.payloadBytes = row.payloadBytes

theorem Row.SameContent.refl (row : Row) : row.SameContent row := ⟨rfl, rfl, rfl, rfl, rfl⟩

theorem Row.SameContent.symm {a b : Row} (h : a.SameContent b) : b.SameContent a :=
  ⟨h.eventId.symm, h.topic.symm, h.messageKey.symm, h.headersJson.symm, h.payloadBytes.symm⟩

theorem Row.SameContent.trans {a b c : Row} (h : a.SameContent b) (h' : b.SameContent c) :
    a.SameContent c :=
  ⟨h'.eventId.trans h.eventId, h'.topic.trans h.topic, h'.messageKey.trans h.messageKey,
    h'.headersJson.trans h.headersJson, h'.payloadBytes.trans h.payloadBytes⟩

/-- The row is leased exactly when it carries a token and a claim time. -/
def Row.Leased (row : Row) : Prop :=
  (row.status = .publishing ∧ row.claimToken.isSome ∧ row.claimedAt.isSome) ∨
    (row.status ≠ .publishing ∧ row.claimToken = none ∧ row.claimedAt = none)

/-- The record was made from this row. -/
def OutboxRecord.Copies (record : OutboxRecord) (row : Row) : Prop :=
  record.eventId = row.eventId ∧ record.topic = row.topic ∧
    record.messageKey = row.messageKey ∧ record.payloadBytes = row.payloadBytes ∧
    record.headers = row.headersJson.map fun h => (h.1, h.2.toUTF8.toList)

theorem OutboxRecord.Copies.congr {record : OutboxRecord} {row row' : Row}
    (copies : record.Copies row) (same : row.SameContent row') : record.Copies row' := by
  obtain ⟨h₁, h₂, h₃, h₄, h₅⟩ := copies
  exact ⟨h₁.trans same.eventId.symm, h₂.trans same.topic.symm, h₃.trans same.messageKey.symm,
    h₄.trans same.payloadBytes.symm, by rw [same.headersJson]; exact h₅⟩

section

variable {config : Config} {now : Instant} {row : Row}

/-- `recover` keeps the row, or takes an expired claim off it. -/
theorem Row.recover_cases (config : Config) (now : Instant) (row : Row) :
    row.recover config now = row ∨ (row.status = .publishing ∧ row.expired config now = true ∧
      (row.recover config now).status = .pending ∧ (row.recover config now).claimToken = none ∧
      (row.recover config now).claimedAt = none) := by
  unfold recover
  split
  · rename_i h
    exact .inr ⟨h.1, h.2, rfl, rfl, rfl⟩
  · exact .inl rfl

theorem Row.recover_sameContent (config : Config) (now : Instant) (row : Row) :
    row.SameContent (row.recover config now) := by
  unfold recover
  split <;> exact ⟨rfl, rfl, rfl, rfl, rfl⟩

end

section

variable {π : Type} [DecidableEq π] {config : Config}
  {parseEventId : List UInt8 → Except String UUID}

/-! ### What a step can do -/

/-- `publish` returns only after a confirmed delivery. -/
theorem publish_ok {record : OutboxRecord} {kafka : Kafka} (sound : kafka.sound = true)
    (ok : publish parseEventId record kafka = .ok ()) :
    confirms parseEventId record kafka = true := by
  unfold publish at ok
  unfold confirms
  cases identity : checkIdentity parseEventId record with
  | error => simp [identity, bind, Except.bind] at ok
  | ok u =>
    simp only [identity, bind, Except.bind] at ok
    cases kafka with
    | produceRaised => cases ok
    | flushed remaining report =>
      simp only [deliver] at ok
      split at ok
      · cases ok
      · rename_i clean
        simp only [ne_eq, not_or, not_not] at clean
        -- With nothing outstanding the callback has run, and it reported no error.
        obtain ⟨rfl, noError⟩ := clean
        match report with
        | none => simp [Kafka.sound] at sound
        | some none => rfl
        | some (some error) => simp at noError

/-- The steps, with the state each of them leads to. -/
inductive Transition (config : Config) (s : State π) : Act π → State π → Prop where
  | inserted {id : UUID} {row : Row} : s.table.get? id = none → row.fresh = true →
      Transition config s (.insert id row) { s with table := s.table.set id row }
  | claimed {p : π} {token : UUID} {now : Instant} {locked : List UUID} {database : Database}
      {phase : Phase} : s.phase p = .idle → token ∉ s.tokens →
      (phase = .next (claim config token now locked s.table).2 ∨ phase = .idle) →
      Transition config s (.claim p token now locked database)
        { s with
          tokens := token :: s.tokens, table := (claim config token now locked s.table).1
          phase := Function.update s.phase p phase }
  | claimRefused {p : π} {token : UUID} {now : Instant} {locked : List UUID} {error : String} :
      token ∉ s.tokens →
      Transition config s (.claim p token now locked (.refused error))
        { s with tokens := token :: s.tokens }
  | delivered {p : π} {kafka : Kafka} {record : OutboxRecord} {rest : List OutboxRecord}
      {phase : Phase} : s.phase p = .publishing record rest →
      (phase = .marking record rest ∨ ∃ error, phase = .failing record rest error) →
      Transition config s (.publish p kafka)
        { s with
          delivered := record :: s.delivered, phase := Function.update s.phase p phase }
  | undelivered {p : π} {kafka : Kafka} {record : OutboxRecord} {rest : List OutboxRecord}
      {error : String} : s.phase p = .publishing record rest →
      Transition config s (.publish p kafka)
        { s with phase := Function.update s.phase p (.failing record rest error) }
  | published {p : π} {now : Instant} {database : Database} {record : OutboxRecord}
      {rest : List OutboxRecord} {phase : Phase} : s.phase p = .marking record rest →
      (phase = .next rest ∨ ∃ error, phase = .failing record rest error) →
      Transition config s (.published p now database)
        { s with
          table := (published record now s.table).1, phase := Function.update s.phase p phase }
  | publishedRaised {p : π} {now : Instant} {database : Database} {record : OutboxRecord}
      {rest : List OutboxRecord} {error : String} : s.phase p = .marking record rest →
      Transition config s (.published p now database)
        { s with phase := Function.update s.phase p (.failing record rest error) }
  | failed {p : π} {clock now : Instant} {database : Database} {record : OutboxRecord}
      {rest : List OutboxRecord} {error : String} {phase : Phase} :
      s.phase p = .failing record rest error → (phase = .next rest ∨ phase = .idle) →
      Transition config s (.failed p clock now database)
        { s with
          table := failed config record error clock now s.table
          phase := Function.update s.phase p phase }
  | stopped {p : π} {clock now : Instant} {database : Database} :
      Transition config s (.failed p clock now database)
        { s with phase := Function.update s.phase p .idle }
  | crashed {p : π} :
      Transition config s (.crash p) { s with phase := Function.update s.phase p .idle }

theorem step_cases {s t : State π} {a : Act π} (stepped : step config parseEventId s a = some t) :
    Transition config s a t := by
  cases a with
  | insert id row =>
    simp only [step, Option.ite_none_right_eq_some, Bool.and_eq_true, Option.isNone_iff_eq_none]
      at stepped
    obtain ⟨⟨absent, fresh⟩, next⟩ := stepped
    cases next
    exact .inserted absent fresh
  | claim p token now locked database =>
    simp only [step] at stepped
    split at stepped
    · rename_i idle
      split at stepped
      · cases stepped
      · rename_i new
        cases database with
        | committed => cases stepped; exact .claimed idle new (.inl rfl)
        | ackLost error =>
          cases stepped
          have same : Function.update s.phase p .idle = s.phase := by
            rw [← idle, Function.update_eq_self]
          rw [← same]
          exact .claimed idle new (.inr rfl)
        | refused error => cases stepped; exact .claimRefused new
    · cases stepped
  | publish p kafka =>
    simp only [step] at stepped
    split at stepped
    · rename_i record rest publishing
      split at stepped
      · rename_i sound
        split at stepped
        · rename_i ok
          cases stepped
          rw [if_pos (publish_ok sound ok)]
          exact .delivered publishing (.inl rfl)
        · cases stepped
          split
          · exact .delivered publishing (.inr ⟨_, rfl⟩)
          · exact .undelivered publishing
      · cases stepped
    · cases stepped
  | published p now database =>
    simp only [step] at stepped
    split at stepped
    · rename_i record rest marking
      split at stepped
      · cases stepped; exact .publishedRaised marking
      · cases stepped; exact .publishedRaised marking
      · cases stepped; exact .published marking (.inr ⟨_, rfl⟩)
      · cases stepped; exact .published marking (.inl rfl)
    · cases stepped
  | failed p clock now database =>
    simp only [step] at stepped
    split at stepped
    · rename_i record rest error failing
      cases database with
      | committed => cases stepped; exact .failed failing (.inl rfl)
      | ackLost => cases stepped; exact .failed failing (.inr rfl)
      | refused => cases stepped; exact .stopped
    · cases stepped
  | crash p => cases stepped; exact .crashed

/-! ### One step, one row -/

/-- The publisher calls `published` on this record. -/
def Publishes (s : State π) (a : Act π) (record : OutboxRecord) : Prop :=
  ∃ p now database rest, a = .published p now database ∧ s.phase p = .marking record rest

/-- The publisher calls `failed` on this record. -/
def Fails (s : State π) (a : Act π) (record : OutboxRecord) : Prop :=
  ∃ p clock now database rest error, a = .failed p clock now database ∧
    s.phase p = .failing record rest error

/-- What a step can make of a row. -/
inductive RowChange (config : Config) (s : State π) (a : Act π) (id : UUID) (row : Row) : Row → Prop
  where
  | kept : RowChange config s a id row row
  | recovered {p : π} {token : UUID} {now : Instant} {locked : List UUID} {database : Database} :
      a = .claim p token now locked database → row.status = .publishing →
      row.expired config now = true → RowChange config s a id row (row.recover config now)
  | claimed {p : π} {token : UUID} {now : Instant} {locked : List UUID} {database : Database} :
      a = .claim p token now locked database → token ∉ s.tokens →
      (row.recover config now).status = .pending →
      id ∈ claimedIds config now locked s.table →
      RowChange config s a id row ((row.recover config now).take token now)
  | published {record : OutboxRecord} {now : Instant} :
      Publishes s a record → record.outboxId = id → row.status = .publishing →
      row.claimToken = some record.claimToken → RowChange config s a id row (row.publish now)
  | failed {record : OutboxRecord} {error : String} {clock now : Instant} :
      Fails s a record → record.outboxId = id → row.claimToken = some record.claimToken →
      RowChange config s a id row (row.fail config record error clock now)

omit [DecidableEq π] in
theorem RowChange.sameContent {s : State π} {a : Act π} {id : UUID} {row row' : Row}
    (change : RowChange config s a id row row') : row.SameContent row' := by
  cases change with
  | kept => exact .refl _
  | recovered => exact Row.recover_sameContent ..
  | claimed => exact (Row.recover_sameContent ..).trans ⟨rfl, rfl, rfl, rfl, rfl⟩
  | published | failed => exact ⟨rfl, rfl, rfl, rfl, rfl⟩

/-- The step lemma: every row of the next state was there before and changed in one
of the five ways, or it has just been inserted. -/
theorem step_row {s t : State π} {a : Act π} (tr : Transition config s a t) (id : UUID) :
    (s.table.get? id = none ∧ ∃ row, a = .insert id row ∧ row.fresh = true ∧
      t.table.get? id = some row) ∨
    (s.table.get? id = none ∧ t.table.get? id = none) ∨
    ∃ row row', s.table.get? id = some row ∧ t.table.get? id = some row' ∧
      RowChange config s a id row row' := by
  -- Apart from an insertion, a step maps a function over the rows.
  have mapped : ∀ f : Row → Row, t.table.get? id = (s.table.get? id).map f →
      (∀ row, s.table.get? id = some row → RowChange config s a id row (f row)) →
      (s.table.get? id = none ∧ ∃ row, a = .insert id row ∧ row.fresh = true ∧
        t.table.get? id = some row) ∨
      (s.table.get? id = none ∧ t.table.get? id = none) ∨
      ∃ row row', s.table.get? id = some row ∧ t.table.get? id = some row' ∧
        RowChange config s a id row row' := by
    intro f image change
    cases before : s.table.get? id with
    | none => exact .inr (.inl ⟨rfl, by rw [image, before]; rfl⟩)
    | some row =>
      exact .inr (.inr ⟨row, f row, rfl, by rw [image, before]; rfl, change row before⟩)
  have same : t.table = s.table → _ := fun h => mapped (fun row => row) (by simp [h]) fun _ _ => .kept
  cases tr with
  | @inserted id' row absent fresh =>
    by_cases hid : id = id'
    · subst hid
      exact .inl ⟨absent, row, rfl, fresh, by simp⟩
    · exact mapped (fun row => row) (by simp [Dict.get?_set, hid]) fun _ _ => .kept
  | @claimed p token now locked database phase idle new =>
    refine mapped _ (claim_get? ..) ?_
    intro row present
    split
    · rename_i mem
      obtain ⟨row', present', pending⟩ := mem_claimedIds mem
      obtain rfl : row = row' := Option.some.inj (present.symm.trans present')
      exact .claimed rfl new pending mem
    · rcases row.recover_cases config now with same | ⟨status, expired, -⟩
      · rw [same]; exact .kept
      · exact .recovered rfl status expired
  | @published p now database record rest phase marking =>
    refine mapped _ (published_get? ..) ?_
    intro row present
    split
    · rename_i held
      exact .published ⟨p, now, database, rest, rfl, marking⟩ held.1.symm held.2.1 held.2.2
    · exact .kept
  | @failed p clock now database record rest error phase failing =>
    refine mapped _ (failed_get? ..) ?_
    intro row present
    split
    · rename_i held
      exact .failed ⟨p, clock, now, database, rest, error, rfl, failing⟩ held.1.symm held.2
    · exact .kept
  | claimRefused | delivered | undelivered | publishedRaised | stopped | crashed => exact same rfl

/-! ### The invariant -/

/-- What holds in every reachable state. -/
structure Inv (s : State π) : Prop where
  /-- Status, token and claim time of a row agree. -/
  leased : ∀ id row, s.table.get? id = some row → row.Leased
  /-- Every token in a row or a record has been drawn. -/
  rowToken : ∀ id row token, s.table.get? id = some row → row.claimToken = some token →
    token ∈ s.tokens
  recordToken : ∀ p, ∀ r ∈ (s.phase p).held, r.claimToken ∈ s.tokens
  /-- The records of one claim are all in the hands of one publisher. -/
  holder : ∀ p q, ∀ r ∈ (s.phase p).held, ∀ r' ∈ (s.phase q).held,
    r.claimToken = r'.claimToken → p = q
  /-- A record carries the content of its row. -/
  copies : ∀ p, ∀ r ∈ (s.phase p).held, ∃ row, s.table.get? r.outboxId = some row ∧ r.Copies row
  /-- A record is marked published only after its delivery was confirmed. -/
  confirmed : ∀ p r rest, s.phase p = .marking r rest → r ∈ s.delivered
  /-- The content of every published row was delivered. -/
  published : ∀ id row, s.table.get? id = some row → row.status = .published →
    ∃ r ∈ s.delivered, r.outboxId = id ∧ r.Copies row

omit [DecidableEq π] in
theorem inv_init : Inv ({} : State π) where
  leased := by simp
  rowToken := by simp
  recordToken := by simp [Phase.held]
  holder := by simp [Phase.held]
  copies := by simp [Phase.held]
  confirmed := by simp
  published := by simp

theorem Row.leased_fresh {row : Row} (fresh : row.fresh = true) : row.Leased := by
  have := decide_eq_true_eq.mp fresh
  exact .inr ⟨by rw [this.1]; decide, this.2.2.2.1, this.2.2.1⟩

theorem Row.Leased.recover {row : Row} (leased : row.Leased) (config : Config) (now : Instant) :
    (row.recover config now).Leased := by
  rcases row.recover_cases config now with same | ⟨-, -, status, token, claimedAt⟩
  · rw [same]; exact leased
  · exact .inr ⟨by rw [status]; decide, token, claimedAt⟩

omit [DecidableEq π] in
theorem RowChange.leased {s : State π} {a : Act π} {id : UUID} {row row' : Row}
    (change : RowChange config s a id row row') (leased : row.Leased) : row'.Leased := by
  cases change with
  | kept => exact leased
  | recovered => exact leased.recover config _
  | claimed => exact .inl ⟨rfl, rfl, rfl⟩
  | published => exact .inr ⟨Status.noConfusion, rfl, rfl⟩
  | failed =>
    refine .inr ⟨?_, rfl, rfl⟩
    simp only [Row.fail]
    split <;> decide

omit [DecidableEq π] in
/-- A token appears in a row only by a claim that draws it. -/
theorem RowChange.token {s : State π} {a : Act π} {id : UUID} {row row' : Row} {token : UUID}
    (change : RowChange config s a id row row') (carries : row'.claimToken = some token) :
    row.claimToken = some token ∨
      ∃ p now locked database, a = .claim p token now locked database := by
  cases change with
  | kept => exact .inl carries
  | @recovered p token' now locked database =>
    rcases row.recover_cases config now with same | ⟨-, -, -, none, -⟩
    · exact .inl (same ▸ carries)
    · rw [none] at carries; cases carries
  | claimed ha => cases carries; exact .inr ⟨_, _, _, _, ha⟩
  | published | failed => cases carries

/-- The records held after a step were held before by the same publisher, or come
from its claim. -/
theorem Transition.held {s t : State π} {a : Act π} (tr : Transition config s a t) {p : π}
    {r : OutboxRecord} (mem : r ∈ (t.phase p).held) :
    r ∈ (s.phase p).held ∨ ∃ token now locked database,
      a = .claim p token now locked database ∧ token ∉ s.tokens ∧
      r ∈ (claim config token now locked s.table).2 := by
  -- Only the acting publisher's phase changes.
  have acting : ∀ (q : π) (phase : Phase), t.phase = Function.update s.phase q phase →
      (r ∈ phase.held → r ∈ (s.phase q).held) → r ∈ (s.phase p).held := by
    intro q phase updated sub
    rw [updated] at mem
    by_cases same : p = q
    · subst same; rw [Function.update_self] at mem; exact sub mem
    · rwa [Function.update_of_ne same] at mem
  cases tr with
  | inserted | claimRefused => exact .inl mem
  | @claimed q token now locked database phase idle new next =>
    by_cases same : p = q
    · subst same
      simp only [Function.update_self] at mem
      rcases next with rfl | rfl
      · rw [Phase.held_next] at mem
        exact .inr ⟨token, now, locked, database, rfl, new, mem⟩
      · simp [Phase.held] at mem
    · simp only [Function.update_of_ne same] at mem
      exact .inl mem
  | @delivered q kafka record rest phase publishing next =>
    refine .inl (acting q phase rfl fun mem => ?_)
    rcases next with rfl | ⟨error, rfl⟩ <;> simpa [publishing, Phase.held] using mem
  | @undelivered q kafka record rest error publishing =>
    exact .inl (acting q _ rfl fun mem => by simpa [publishing, Phase.held] using mem)
  | @published q now database record rest phase marking next =>
    refine .inl (acting q phase rfl fun mem => ?_)
    rcases next with rfl | ⟨error, rfl⟩
    · rw [Phase.held_next] at mem
      simp [marking, Phase.held, mem]
    · simpa [marking, Phase.held] using mem
  | @publishedRaised q now database record rest error marking =>
    exact .inl (acting q _ rfl fun mem => by simpa [marking, Phase.held] using mem)
  | @failed q clock now database record rest error phase failing next =>
    refine .inl (acting q phase rfl fun mem => ?_)
    rcases next with rfl | rfl
    · rw [Phase.held_next] at mem
      simp [failing, Phase.held, mem]
    · simp [Phase.held] at mem
  | @stopped q | @crashed q =>
    exact .inl (acting q _ rfl fun mem => by simp [Phase.held] at mem)

/-- Drawn tokens stay drawn, and a claim draws its own. -/
theorem Transition.tokens {s t : State π} {a : Act π} (tr : Transition config s a t) :
    s.tokens ⊆ t.tokens ∧
      ∀ p token now locked database, a = .claim p token now locked database →
        token ∈ t.tokens := by
  cases tr with
  | claimed | claimRefused =>
    exact ⟨List.subset_cons_self .., fun _ _ _ _ _ ha => by cases ha; exact List.mem_cons_self⟩
  | _ => exact ⟨List.Subset.refl _, by simp⟩

/-- A publisher that is marking a record had it confirmed in this step, or was
marking it before. -/
theorem Transition.marking {s t : State π} {a : Act π} (tr : Transition config s a t) {p : π}
    {r : OutboxRecord} {rest : List OutboxRecord} (marking : t.phase p = .marking r rest) :
    r ∈ t.delivered ∨ s.phase p = .marking r rest := by
  have acting : ∀ (q : π) (phase : Phase), t.phase = Function.update s.phase q phase →
      (∀ r rest, phase ≠ .marking r rest) → s.phase p = .marking r rest := by
    intro q phase updated other
    rw [updated] at marking
    by_cases same : p = q
    · subst same; rw [Function.update_self] at marking; exact absurd marking (other r rest)
    · rwa [Function.update_of_ne same] at marking
  have next : ∀ records r rest, Phase.next records ≠ .marking r rest := by
    intro records r rest
    cases records <;> simp [Phase.next]
  cases tr with
  | inserted | claimRefused => exact .inr marking
  | claimed _ _ phase =>
    rcases phase with rfl | rfl
    · exact .inr (acting _ _ rfl (next _))
    · exact .inr (acting _ _ rfl (by simp))
  | @delivered q kafka record rest' phase _ shape =>
    rcases shape with rfl | ⟨error, rfl⟩
    · by_cases same : p = q
      · subst same
        simp only [Function.update_self, Phase.marking.injEq] at marking
        exact .inl (marking.1 ▸ List.mem_cons_self)
      · simp only [Function.update_of_ne same] at marking
        exact .inr marking
    · exact .inr (acting _ _ rfl (by simp))
  | published _ phase =>
    rcases phase with rfl | ⟨error, rfl⟩
    · exact .inr (acting _ _ rfl (next _))
    · exact .inr (acting _ _ rfl (by simp))
  | failed _ phase =>
    rcases phase with rfl | rfl
    · exact .inr (acting _ _ rfl (next _))
    · exact .inr (acting _ _ rfl (by simp))
  | undelivered | publishedRaised | stopped | crashed => exact .inr (acting _ _ rfl (by simp))

theorem Transition.delivered_subset {s t : State π} {a : Act π} (tr : Transition config s a t) :
    s.delivered ⊆ t.delivered := by
  cases tr with
  | delivered => exact List.subset_cons_self ..
  | _ => exact List.Subset.refl _

omit [DecidableEq π] in
/-- A row becomes published only by `published` on a record that carries its token. -/
theorem RowChange.published_by {s : State π} {a : Act π} {id : UUID} {row row' : Row}
    (change : RowChange config s a id row row') (now_published : row'.status = .published)
    (before : row.status ≠ .published) :
    ∃ record, Publishes s a record ∧ record.outboxId = id ∧ row.status = .publishing ∧
      row.claimToken = some record.claimToken := by
  cases change with
  | kept => exact absurd now_published before
  | @recovered _ _ now =>
    rcases row.recover_cases config now with same | ⟨-, -, pending, -⟩
    · rw [same] at now_published; exact absurd now_published before
    · rw [pending] at now_published; cases now_published
  | claimed => cases now_published
  | @published record _ by_ id_eq status token => exact ⟨record, by_, id_eq, status, token⟩
  | failed =>
    simp only [Row.fail] at now_published
    split at now_published <;> cases now_published

theorem toRecord_copies (token id : UUID) (row : Row) : (toRecord token (id, row)).Copies row :=
  ⟨rfl, rfl, rfl, rfl, rfl⟩

/-- A row stays in the table, with its content. -/
theorem Transition.content {s t : State π} {a : Act π} (tr : Transition config s a t) {id : UUID}
    {row : Row} (present : s.table.get? id = some row) :
    ∃ row', t.table.get? id = some row' ∧ row.SameContent row' ∧
      RowChange config s a id row row' := by
  rcases step_row tr id with ⟨absent, -⟩ | ⟨absent, -⟩ | ⟨row₀, row', before, after, change⟩
  · rw [present] at absent; cases absent
  · rw [present] at absent; cases absent
  · obtain rfl : row = row₀ := Option.some.inj (present.symm.trans before)
    exact ⟨row', after, change.sameContent, change⟩

/-- A row of the next state was there before, or is a fresh one. -/
theorem Transition.origin {s t : State π} {a : Act π} (tr : Transition config s a t) {id : UUID}
    {row' : Row} (present : t.table.get? id = some row') :
    row'.fresh = true ∨
      ∃ row, s.table.get? id = some row ∧ RowChange config s a id row row' := by
  rcases step_row tr id with ⟨-, row, -, fresh, after⟩ | ⟨-, absent⟩ | ⟨row, row₀, before, after, change⟩
  · obtain rfl : row' = row := Option.some.inj (present.symm.trans after)
    exact .inl fresh
  · rw [present] at absent; cases absent
  · obtain rfl : row' = row₀ := Option.some.inj (present.symm.trans after)
    exact .inr ⟨row, before, change⟩

theorem Transition.inv {s t : State π} {a : Act π} (inv : Inv s) (tr : Transition config s a t) :
    Inv t where
  leased := by
    intro id row' present
    rcases tr.origin present with fresh | ⟨row, before, change⟩
    · exact Row.leased_fresh fresh
    · exact change.leased (inv.leased id row before)
  rowToken := by
    intro id row' token present carries
    rcases tr.origin present with fresh | ⟨row, before, change⟩
    · rw [(decide_eq_true_eq.mp fresh).2.2.2.1] at carries; cases carries
    · rcases change.token carries with old | ⟨p, now, locked, database, ha⟩
      · exact tr.tokens.1 (inv.rowToken id row token before old)
      · exact tr.tokens.2 p token now locked database ha
  recordToken := by
    intro p r mem
    rcases tr.held mem with old | ⟨token, now, locked, database, ha, -, claimed⟩
    · exact tr.tokens.1 (inv.recordToken p r old)
    · obtain ⟨-, row, -, made⟩ := mem_claim_records claimed
      rw [made]
      exact tr.tokens.2 p token now locked database ha
  holder := by
    intro p q r mem r' mem' same
    -- A record of this step's claim carries a token that no older record has.
    have unseen : ∀ {x y : OutboxRecord} {u : π} {token : UUID} {now : Instant}
        {locked : List UUID}, token ∉ s.tokens →
        x ∈ (claim config token now locked s.table).2 → y ∈ (s.phase u).held →
        x.claimToken ≠ y.claimToken := by
      intro x y u token now locked new claimed old eq
      obtain ⟨-, row, -, made⟩ := mem_claim_records claimed
      have : x.claimToken = token := by rw [made]; rfl
      exact new (this ▸ eq ▸ inv.recordToken u y old)
    rcases tr.held mem with old | ⟨token, now, locked, database, ha, new, claimed⟩
    · rcases tr.held mem' with old' | ⟨token, now, locked, database, -, new, claimed⟩
      · exact inv.holder p q r old r' old' same
      · exact absurd same.symm (unseen new claimed old)
    · rcases tr.held mem' with old' | ⟨token', now', locked', database', ha', -, -⟩
      · exact absurd same (unseen new claimed old')
      · rw [ha] at ha'; cases ha'; rfl
  copies := by
    intro p r mem
    rcases tr.held mem with old | ⟨token, now, locked, database, -, -, claimed⟩
    · obtain ⟨row, before, copies⟩ := inv.copies p r old
      obtain ⟨row', after, same, -⟩ := tr.content before
      exact ⟨row', after, copies.congr same⟩
    · obtain ⟨-, row, before, made⟩ := mem_claim_records claimed
      obtain ⟨row', after, same, -⟩ := tr.content before
      refine ⟨row', after, ?_⟩
      have copies := toRecord_copies token r.outboxId (row.recover config now)
      rw [← made] at copies
      exact copies.congr ((Row.recover_sameContent config now row).symm.trans same)
  confirmed := by
    intro p r rest marking
    rcases tr.marking marking with delivered | before
    · exact delivered
    · exact tr.delivered_subset (inv.confirmed p r rest before)
  published := by
    intro id row' present status
    rcases tr.origin present with fresh | ⟨row, before, change⟩
    · rw [(decide_eq_true_eq.mp fresh).1] at status; cases status
    · have same := change.sameContent
      by_cases old : row.status = .published
      · obtain ⟨r, delivered, hid, copies⟩ := inv.published id row before old
        exact ⟨r, tr.delivered_subset delivered, hid, copies.congr same⟩
      · obtain ⟨r, ⟨p, now, database, rest, -, marking⟩, hid, -, -⟩ :=
          change.published_by status old
        refine ⟨r, tr.delivered_subset (inv.confirmed p r rest marking), hid, ?_⟩
        obtain ⟨row₀, before₀, copies⟩ := inv.copies p r (by simp [marking, Phase.held])
        rw [hid, before] at before₀
        cases before₀
        exact copies.congr same

/-- Every reachable state satisfies the invariant. -/
theorem run_inv {s : State π} {as : List (Act π)}
    (ran : (machine config parseEventId).run {} as = some s) : Inv s := by
  have keep : ∀ (s : State π) a t, Inv s → step config parseEventId s a = some t → Inv t :=
    fun _ _ _ inv stepped => Transition.inv inv (step_cases stepped)
  exact (machine config parseEventId).invariant keep inv_init ran

/-- A row that was inserted stays, with its content. -/
theorem run_inserted {s : State π} {as : List (Act π)}
    (ran : (machine config parseEventId).run {} as = some s) {id : UUID} {row : Row}
    (inserted : .insert id row ∈ as) :
    ∃ row', s.table.get? id = some row' ∧ row.SameContent row' := by
  obtain ⟨pre, post, rfl⟩ := List.append_of_mem inserted
  obtain ⟨u, -, rest⟩ := (Machine.run_append _).mp ran
  obtain ⟨t, stepped, later⟩ := (Machine.run_cons_some _).mp rest
  have first : step config parseEventId u (.insert id row) = some t := stepped
  have start : ∃ row', t.table.get? id = some row' ∧ row.SameContent row' := by
    cases step_cases first with
    | inserted => exact ⟨row, Dict.get?_set_self _ _ _, .refl row⟩
  have keep : ∀ (s : State π) a t, (∃ row', s.table.get? id = some row' ∧ row.SameContent row') →
      step config parseEventId s a = some t →
      ∃ row', t.table.get? id = some row' ∧ row.SameContent row' := by
    rintro s a t ⟨row', present, same⟩ stepped
    obtain ⟨row'', after, same', -⟩ := (step_cases stepped).content present
    exact ⟨row'', after, same.trans same'⟩
  exact (machine config parseEventId).invariant keep start later

/-- Every record of a row carries what was inserted. -/
theorem run_copies {s : State π} {as : List (Act π)}
    (ran : (machine config parseEventId).run {} as = some s) {id : UUID} {row : Row}
    (inserted : .insert id row ∈ as) {p : π} {r : OutboxRecord} (held : r ∈ (s.phase p).held)
    (of : r.outboxId = id) : r.Copies row := by
  obtain ⟨row', present, same⟩ := run_inserted ran inserted
  obtain ⟨row'', present', copies⟩ := (run_inv ran).copies p r held
  rw [of, present] at present'
  cases present'
  exact copies.congr same.symm

/-! ### Absorbing statuses -/

/-- Nothing changes a row that is published or failed. -/
theorem Transition.absorbed {s t : State π} {a : Act π} (inv : Inv s)
    (tr : Transition config s a t) {id : UUID} {row : Row} (present : s.table.get? id = some row)
    (final : row.status = .published ∨ row.status = .failed) : t.table.get? id = some row := by
  obtain ⟨row', after, -, change⟩ := tr.content present
  have notPublishing : row.status ≠ .publishing := by
    rcases final with h | h <;> rw [h] <;> decide
  have noToken : row.claimToken = none := by
    rcases inv.leased id row present with ⟨publishing, -⟩ | ⟨-, none, -⟩
    · exact absurd publishing notPublishing
    · exact none
  cases change with
  | kept => exact after
  | recovered _ publishing => exact absurd publishing notPublishing
  | @claimed _ _ now _ _ _ _ pending =>
    rcases row.recover_cases config now with same | ⟨publishing, -⟩
    · rw [same] at pending
      rcases final with h | h <;> rw [h] at pending <;> cases pending
    · exact absurd publishing notPublishing
  | published _ _ publishing => exact absurd publishing notPublishing
  | failed _ _ token => rw [noToken] at token; cases token

theorem run_absorbed {s t : State π} {as : List (Act π)} (inv : Inv s)
    (ran : (machine config parseEventId).run s as = some t) {id : UUID} {row : Row}
    (present : s.table.get? id = some row)
    (final : row.status = .published ∨ row.status = .failed) : t.table.get? id = some row := by
  have keep : ∀ (s : State π) a t, Inv s ∧ s.table.get? id = some row →
      step config parseEventId s a = some t → Inv t ∧ t.table.get? id = some row :=
    fun _ _ _ both stepped => ⟨Transition.inv both.1 (step_cases stepped),
      (step_cases stepped).absorbed both.1 both.2 final⟩
  exact ((machine config parseEventId).invariant keep ⟨inv, present⟩ ran).2

/-! ### Two claims of one row -/

/-- The step takes the row `id` away from the claim `token`: the lease has expired
when a claim recovers it, or its holder calls `failed`. -/
def EndsLease (config : Config) (s : State π) (a : Act π) (id token : UUID) : Prop :=
  ∃ row, s.table.get? id = some row ∧ row.claimToken = some token ∧
    ((∃ p token' now locked database, a = .claim p token' now locked database ∧
        row.expired config now = true) ∨
      ∃ record, Fails s a record ∧ record.outboxId = id ∧ record.claimToken = token)

/-- The row is leased under the token, or published. -/
def LeasedOrPublished (s : State π) (id token : UUID) : Prop :=
  ∃ row, s.table.get? id = some row ∧
    (row.status = .publishing ∧ row.claimToken = some token ∨ row.status = .published)

theorem Transition.lease_kept {s t : State π} {a : Act π} (inv : Inv s)
    (tr : Transition config s a t) {id token : UUID} (leased : LeasedOrPublished s id token)
    (going : ¬ EndsLease config s a id token) : LeasedOrPublished t id token := by
  obtain ⟨row, present, ⟨publishing, held⟩ | published⟩ := leased
  · obtain ⟨row', after, -, change⟩ := tr.content present
    refine ⟨row', after, ?_⟩
    cases change with
    | kept => exact .inl ⟨publishing, held⟩
    | recovered ha _ expired =>
      exact absurd ⟨row, present, held, .inl ⟨_, _, _, _, _, ha, expired⟩⟩ going
    | @claimed _ _ now _ _ ha _ pending =>
      rcases row.recover_cases config now with same | ⟨-, expired, -⟩
      · rw [same, publishing] at pending; cases pending
      · exact absurd ⟨row, present, held, .inl ⟨_, _, _, _, _, ha, expired⟩⟩ going
    | published => exact .inr rfl
    | failed fails hid token_eq =>
      rw [held] at token_eq
      exact absurd ⟨row, present, held, .inr ⟨_, fails, hid, (Option.some.inj token_eq).symm⟩⟩ going
  · exact ⟨row, tr.absorbed inv present (.inl published), .inr published⟩

/-- Along a run, either the lease lasts or some step ends it. -/
theorem run_lease {s t : State π} {as : List (Act π)} (inv : Inv s)
    (ran : (machine config parseEventId).run s as = some t) {id token : UUID}
    (leased : LeasedOrPublished s id token) :
    LeasedOrPublished t id token ∨ ∃ before a behind u, as = before ++ a :: behind ∧
      (machine config parseEventId).run s before = some u ∧ EndsLease config u a id token := by
  induction as generalizing s with
  | nil => cases ran; exact .inl leased
  | cons a as ih =>
    by_cases ends : EndsLease config s a id token
    · exact .inr ⟨[], a, as, s, rfl, rfl, ends⟩
    · obtain ⟨u, stepped, rest⟩ := (Machine.run_cons_some _).mp ran
      have tr := step_cases stepped
      rcases ih (tr.inv inv) rest (tr.lease_kept inv leased ends) with
        kept | ⟨before, a', behind, v, rfl, ranBefore, ended⟩
      · exact .inl kept
      · exact .inr ⟨a :: before, a', behind, v, rfl,
          (Machine.run_cons_some _).mpr ⟨u, stepped, ranBefore⟩, ended⟩

omit [DecidableEq π] in
/-- A claim leaves the rows it returns leased under its token. -/
theorem claim_leased {s : State π} {token : UUID} {now : Instant} {locked : List UUID}
    {r : OutboxRecord} (mem : r ∈ (claim config token now locked s.table).2) :
    ∃ row, (claim config token now locked s.table).1.get? r.outboxId = some row ∧
      row.status = .publishing ∧ row.claimToken = some token := by
  obtain ⟨taken, row, present, -⟩ := mem_claim_records mem
  refine ⟨(row.recover config now).take token now, ?_, rfl, rfl⟩
  rw [claim_get?, present, Option.map_some, if_pos taken]

omit [DecidableEq π] in
/-- A row that a claim selects is not under a lease that lasts. -/
theorem claim_ends {s : State π} {p : π} {token' : UUID} {now : Instant} {locked : List UUID}
    {database : Database} {r : OutboxRecord} {token : UUID}
    (mem : r ∈ (claim config token' now locked s.table).2)
    (leased : LeasedOrPublished s r.outboxId token) :
    EndsLease config s (.claim p token' now locked database) r.outboxId token := by
  obtain ⟨row, present, status⟩ := leased
  obtain ⟨row', present', pending⟩ := mem_claimedIds (mem_claim_records mem).1
  obtain rfl : row = row' := Option.some.inj (present.symm.trans present')
  rcases row.recover_cases config now with same | ⟨publishing, expired, -⟩
  · rw [same] at pending
    rcases status with ⟨publishing, -⟩ | published
    · rw [publishing] at pending; cases pending
    · rw [published] at pending; cases pending
  · rcases status with ⟨-, held⟩ | published
    · exact ⟨row, present, held, .inl ⟨p, token', now, locked, database, rfl, expired⟩⟩
    · rw [published] at publishing; cases publishing

/-! ### The lease machine -/

variable (config parseEventId) in
/-- What the outbox guarantees over every run of any number of publishers. -/
structure OutboxSafe (π : Type) [DecidableEq π] : Prop where
  /-- A row is PUBLISHING iff its token and claim time are set, and otherwise neither
  is. -/
  leased : ∀ (as : List (Act π)) s, (machine config parseEventId).run {} as = some s →
    ∀ id row, s.table.get? id = some row →
      (row.status = .publishing ↔ row.claimToken.isSome ∧ row.claimedAt.isSome) ∧
      (row.status ≠ .publishing → row.claimToken = none ∧ row.claimedAt = none)
  /-- At most one publisher holds the current token of a row. -/
  current : ∀ (as : List (Act π)) s, (machine config parseEventId).run {} as = some s →
    ∀ id row p q, ∀ r ∈ (s.phase p).held, ∀ r' ∈ (s.phase q).held,
      s.table.get? id = some row → row.claimToken = some r.claimToken →
      row.claimToken = some r'.claimToken → p = q
  /-- Between two claims that return the same row, the first one's lease ended. -/
  exclusive : ∀ (pre mid : List (Act π)) s t p token now locked p' token' now' locked' database' r r',
    (machine config parseEventId).run {} pre = some s →
    (machine config parseEventId).run s (.claim p token now locked .committed :: mid) = some t →
    r ∈ (claim config token now locked s.table).2 →
    r' ∈ (claim config token' now' locked' t.table).2 → r'.outboxId = r.outboxId →
    ∃ before a behind u,
      mid ++ [.claim p' token' now' locked' database'] = before ++ a :: behind ∧
      (machine config parseEventId).run s (.claim p token now locked .committed :: before) = some u ∧
      EndsLease config u a r.outboxId token
  /-- A row becomes PUBLISHED only by the publisher that holds its token, for a record
  with the row's content whose delivery Kafka confirmed. -/
  published : ∀ (as : List (Act π)) s a t, (machine config parseEventId).run {} as = some s →
    step config parseEventId s a = some t → ∀ id row', t.table.get? id = some row' →
    row'.status = .published → (∀ row, s.table.get? id = some row → row.status ≠ .published) →
    ∃ row p now database record rest, s.table.get? id = some row ∧
      a = .published p now database ∧ s.phase p = .marking record rest ∧ record.outboxId = id ∧
      row.status = .publishing ∧ row.claimToken = some record.claimToken ∧
      record ∈ s.delivered ∧ record.payloadBytes = row.payloadBytes ∧ record.Copies row
  /-- PUBLISHED and FAILED are absorbing: the row never changes again. -/
  absorbing : ∀ (as bs : List (Act π)) s t, (machine config parseEventId).run {} as = some s →
    (machine config parseEventId).run s bs = some t → ∀ id row, s.table.get? id = some row →
    row.status = .published ∨ row.status = .failed → t.table.get? id = some row
  /-- A `published` or `failed` call whose token is not the row's current one changes
  no row. -/
  stale : ∀ (as : List (Act π)) s a t record, (machine config parseEventId).run {} as = some s →
    step config parseEventId s a = some t → Publishes s a record ∨ Fails s a record →
    (∀ row, s.table.get? record.outboxId = some row → row.claimToken ≠ some record.claimToken) →
    ∀ id, t.table.get? id = s.table.get? id

theorem stale_unchanged {s t : State π} {a : Act π} {record : OutboxRecord}
    (tr : Transition config s a t) (calls : Publishes s a record ∨ Fails s a record)
    (stale : ∀ row, s.table.get? record.outboxId = some row →
      row.claimToken ≠ some record.claimToken) (id : UUID) :
    t.table.get? id = s.table.get? id := by
  cases before : s.table.get? id with
  | none =>
    rcases step_row tr id with ⟨-, row, ha, -⟩ | ⟨-, absent⟩ | ⟨row, row', present, -⟩
    · rcases calls with ⟨_, _, _, _, hp, -⟩ | ⟨_, _, _, _, _, _, hp, -⟩ <;> rw [ha] at hp <;> cases hp
    · exact absent
    · rw [before] at present; cases present
  | some row =>
    obtain ⟨row', after, -, change⟩ := tr.content before
    -- The record of a `published` or `failed` step is determined by the acting publisher.
    cases change with
    | kept => exact after
    | recovered ha | claimed ha =>
      rcases calls with ⟨_, _, _, _, hp, -⟩ | ⟨_, _, _, _, _, _, hp, -⟩ <;> rw [ha] at hp <;> cases hp
    | @published record' _ by_ hid _ token =>
      obtain ⟨p, now, database, rest, ha, marking⟩ := by_
      rcases calls with ⟨_, _, _, _, hp, marking'⟩ | ⟨_, _, _, _, _, _, hp, -⟩
      · rw [ha] at hp; cases hp
        rw [marking] at marking'; cases marking'
        exact absurd token (stale row (hid ▸ before))
      · rw [ha] at hp; cases hp
    | @failed record' _ _ _ fails hid token =>
      obtain ⟨p, clock, now, database, rest, error, ha, failing⟩ := fails
      rcases calls with ⟨_, _, _, _, hp, -⟩ | ⟨_, _, _, _, _, _, hp, failing'⟩
      · rw [ha] at hp; cases hp
      · rw [ha] at hp; cases hp
        rw [failing] at failing'; cases failing'
        exact absurd token (stale row (hid ▸ before))

/-- **The outbox lease machine.** -/
theorem outbox_safe (config : Config) (parseEventId : List UInt8 → Except String UUID) (π : Type)
    [DecidableEq π] : OutboxSafe config parseEventId π where
  leased := by
    intro as s ran id row present
    rcases (run_inv ran).leased id row present with ⟨h, token, claimedAt⟩ | ⟨h, token, claimedAt⟩
    · exact ⟨⟨fun _ => ⟨token, claimedAt⟩, fun _ => h⟩, fun ne => absurd h ne⟩
    · exact ⟨⟨fun eq => absurd eq h, fun both => by simp [token] at both⟩, fun _ => ⟨token, claimedAt⟩⟩
  current := by
    intro as s ran id row p q r mem r' mem' present token token'
    rw [token] at token'
    exact (run_inv ran).holder p q r mem r' mem' (Option.some.inj token')
  exclusive := by
    intro pre mid s t p token now locked p' token' now' locked' database' r r' ranPre ran mem mem' same
    obtain ⟨u, stepped, rest⟩ := (Machine.run_cons_some _).mp ran
    have inv := run_inv ranPre
    have claims : step config parseEventId s (.claim p token now locked .committed) = some u := stepped
    have tr := step_cases claims
    have leased : LeasedOrPublished u r.outboxId token := by
      have tables : u.table = (claim config token now locked s.table).1 := by
        simp only [machine, step] at stepped
        split at stepped
        · split at stepped
          · cases stepped
          · cases stepped; rfl
        · cases stepped
      obtain ⟨row, present, status, held⟩ := claim_leased mem
      exact ⟨row, by rw [tables]; exact present, .inl ⟨status, held⟩⟩
    rcases run_lease (tr.inv inv) rest leased with
      kept | ⟨before, a, behind, v, rfl, ranBefore, ended⟩
    · refine ⟨mid, _, [], t, rfl, ran, ?_⟩
      rw [← same] at kept ⊢
      exact claim_ends mem' kept
    · exact ⟨before, a, behind ++ [.claim p' token' now' locked' database'], v, by simp,
        (Machine.run_cons_some _).mpr ⟨u, stepped, ranBefore⟩, ended⟩
  published := by
    intro as s a t ran stepped id row' present status before
    have inv := run_inv ran
    rcases (step_cases stepped).origin present with fresh | ⟨row, old, change⟩
    · rw [(decide_eq_true_eq.mp fresh).1] at status; cases status
    · obtain ⟨record, ⟨p, now, database, rest, ha, marking⟩, hid, publishing, token⟩ :=
        change.published_by status (before row old)
      obtain ⟨row₀, old₀, copies⟩ := inv.copies p record (by simp [marking, Phase.held])
      rw [hid, old] at old₀
      cases old₀
      exact ⟨row, p, now, database, record, rest, old, ha, marking, hid, publishing, token,
        inv.confirmed p record rest marking, copies.2.2.2.1, copies⟩
  absorbing := fun as bs s t ran ran' id row present final =>
    run_absorbed (run_inv ran) ran' present final
  stale := fun as s a t record _ stepped calls stale id =>
    stale_unchanged (step_cases stepped) calls stale id

end

end CommercePlatform.Outbox
