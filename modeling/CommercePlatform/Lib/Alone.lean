import CommercePlatform.Lib.ReadCommitted

/-!
Transactions that run by themselves.

`alone` runs a body while nobody else moves: every statement sees the same committed
database and the writes made so far. `run_alone` says that this is what the machine
of `ReadCommitted` does for a session that is the only open one.
-/

namespace CommercePlatform.Schema

variable {D : Schema} {ρ E α β : Type}

/-- Run the body on a database after some writes: its result and all writes, or the
error that ends it. -/
def alone : D.Body E α → D.Db → List D.Write → Except (D.Error ⊕ E) (α × List D.Write)
  | .pure a, _, ws => .ok (a, ws)
  | .throw e, _, _ => .error (.inr e)
  | .call s k, db, ws =>
    match D.exec s (D.view db ws) with
    | .ok (r, ws') => alone (k r) db (ws ++ ws')
    | .error e => .error (.inl e)

section

variable {db : D.Db} {ws ws'' : List D.Write}

@[simp] theorem alone_pure (a : α) :
    alone (.pure a : D.Body E α) db ws = .ok (a, ws) := rfl

@[simp] theorem alone_throw (e : E) (a : α) :
    ¬ alone (.throw e : D.Body E α) db ws = .ok (a, ws'') := by
  intro impossible
  cases impossible

theorem alone_step {s : D.Stmt} {k : D.Result s → D.Body E α} :
    alone (.call s k) db ws =
      match D.exec s (D.view db ws) with
      | .ok (r, ws') => alone (k r) db (ws ++ ws')
      | .error e => .error (.inl e) := by
  rw [alone]

theorem alone_exec {s : D.Stmt} {k : D.Result s → D.Body E α} {r : D.Result s} {ws' : List D.Write}
    (ran : D.exec s (D.view db ws) = .ok (r, ws')) :
    alone (.call s k) db ws = alone (k r) db (ws ++ ws') := by
  rw [alone_step, ran]

theorem alone_call {s : D.Stmt} {k : D.Result s → D.Body E α} {a : α} :
    alone (.call s k) db ws = .ok (a, ws'') ↔
      ∃ r ws', D.exec s (D.view db ws) = .ok (r, ws') ∧
        alone (k r) db (ws ++ ws') = .ok (a, ws'') := by
  rw [alone_step]
  split
  · rename_i r ws' ran
    refine ⟨fun rest => ⟨r, ws', ran, rest⟩, ?_⟩
    rintro ⟨r', ws₁, ran', rest⟩
    rw [ran] at ran'
    cases ran'
    exact rest
  · rename_i e failed
    constructor
    · intro impossible
      cases impossible
    · rintro ⟨r, ws', ran, -⟩
      rw [failed] at ran
      cases ran

theorem alone_bind {p : D.Body E α} {f : α → D.Body E β} {b : β} :
    alone (p.bind f) db ws = .ok (b, ws'') ↔
      ∃ a ws', alone p db ws = .ok (a, ws') ∧ alone (f a) db ws' = .ok (b, ws'') := by
  induction p generalizing ws with
  | pure a =>
    refine ⟨fun rest => ⟨a, ws, rfl, rest⟩, ?_⟩
    rintro ⟨a', ws', first, rest⟩
    cases first
    exact rest
  | throw e =>
    constructor
    · intro impossible
      cases impossible
    · rintro ⟨a, ws', impossible, -⟩
      cases impossible
  | call s k ih =>
    rw [Prog.call_bind, alone_call]
    constructor
    · rintro ⟨r, ws', ran, rest⟩
      obtain ⟨a, ws₁, first, last⟩ := (ih r).mp rest
      exact ⟨a, ws₁, alone_call.mpr ⟨r, ws', ran, first⟩, last⟩
    · rintro ⟨a, ws₁, first, last⟩
      obtain ⟨r, ws', ran, rest⟩ := alone_call.mp first
      exact ⟨r, ws', ran, (ih r).mpr ⟨a, ws₁, rest, last⟩⟩

/-- Sequencing, when the result of the first part is known. -/
theorem alone_then {p : D.Body E α} {f : α → D.Body E β} {a : α} {ws' : List D.Write}
    (first : alone p db ws = .ok (a, ws')) : alone (p.bind f) db ws = alone (f a) db ws' := by
  induction p generalizing ws with
  | pure a => cases first; rfl
  | throw e => cases first
  | call s k ih =>
    obtain ⟨r, more, ran, rest⟩ := alone_call.mp first
    rw [Prog.call_bind, alone_exec ran, ih r rest]

/-- What a body does depends on what it sees only. -/
theorem alone_view {p : D.Body E α} {a : α} :
    alone p db ws = .ok (a, ws'') ↔
      ∃ more, alone p (D.view db ws) [] = .ok (a, more) ∧ ws'' = ws ++ more := by
  induction p generalizing db ws ws'' with
  | pure a =>
    constructor
    · intro ran
      cases ran
      exact ⟨[], rfl, by simp⟩
    · rintro ⟨more, ran, rfl⟩
      cases ran
      simp
  | throw e =>
    constructor
    · intro impossible
      cases impossible
    · rintro ⟨more, impossible, -⟩
      cases impossible
  | call s k ih =>
    rw [alone_call]
    constructor
    · rintro ⟨r, ws', ran, rest⟩
      obtain ⟨more, later, rfl⟩ := (ih r).mp rest
      refine ⟨ws' ++ more, alone_call.mpr ⟨r, ws', ran, ?_⟩, by simp⟩
      refine (ih r).mpr ⟨more, ?_, rfl⟩
      rw [List.nil_append, ← view_append]
      exact later
    · rintro ⟨more, whole, rfl⟩
      obtain ⟨r, ws', ran, rest⟩ := alone_call.mp whole
      obtain ⟨more', later, rfl⟩ := (ih r).mp rest
      refine ⟨r, ws', ran, (ih r).mpr ⟨more', ?_, by simp⟩⟩
      rw [view_append]
      exact later

/-- The writes of a body follow those before it, and come from its statements. -/
theorem alone_writes {P : D.Stmt → Prop} {p : D.Body E α} (all : p.All P) {a : α}
    (ran : alone p db ws = .ok (a, ws'')) :
    ∃ more, ws'' = ws ++ more ∧
      ∀ w ∈ more, ∃ s seen r ws', P s ∧ D.exec s seen = .ok (r, ws') ∧ w ∈ ws' := by
  induction p generalizing ws with
  | pure a =>
    cases ran
    exact ⟨[], by simp, by simp⟩
  | throw e => cases ran
  | call s k ih =>
    obtain ⟨r, ws', exec, rest⟩ := alone_call.mp ran
    obtain ⟨more, rfl, from_⟩ := ih r (all.2 r) rest
    refine ⟨ws' ++ more, by simp, fun w mem => ?_⟩
    rcases List.mem_append.mp mem with here | later
    · exact ⟨s, _, r, ws', all.1, exec, here⟩
    · exact from_ w later

end

/-! ### The machine -/

variable {ι : Type} [DecidableEq ι]

/-- A session that is the only open one runs its body as `alone` does. -/
theorem run_alone {program : ρ → D.Body E α} {c : D.Committed ρ} {i : ι} {tx : D.Tx ρ E α} {a : α}
    {ws : List D.Write} (ran : alone tx.body c.db tx.writes = .ok (a, ws)) :
    ∃ n ls, (machine program).run { committed := c, open_ := (∅ : Dict ι _).set i tx }
        (List.replicate n (i, .statement)) =
      some { committed := c
             open_ := (∅ : Dict ι _).set i { tx with body := .pure a, writes := ws, locks := ls } } := by
  obtain ⟨request, body, writes, locks⟩ := tx
  induction body generalizing writes locks with
  | pure a =>
    cases ran
    exact ⟨0, locks, rfl⟩
  | throw e => cases ran
  | call s k ih =>
    obtain ⟨r, ws', exec, rest⟩ := alone_call.mp ran
    obtain ⟨n, ls, after⟩ := ih r (writes ++ ws') (locks ++ D.locks s (D.view c.db writes)) rest
    refine ⟨n + 1, ls, ?_⟩
    rw [List.replicate_succ, Machine.run_cons_some]
    refine ⟨_, ?_, after⟩
    have nobody (tx : D.Tx ρ E α) :
        Store.held { committed := c, open_ := (∅ : Dict ι _).set i tx } i = [] := by
      simp [Store.held, Dict.erase, Dict.set, Dict.setEntries, Dict.values,
        EmptyCollection.emptyCollection, Dict.empty]
    simp only [machine, Store.step, Dict.get?_set_self, Tx.advance, nobody, exec]
    simp [Dict.set_set]

end CommercePlatform.Schema
