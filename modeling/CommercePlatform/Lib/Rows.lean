import CommercePlatform.Lib.ReadCommitted

/-!
Rows that are never lost.

`Rows` sees the database of a `Schema` as rows under locks: a write puts its row under
its lock and leaves the others alone. `frozen` is what a write may not change of the
row it replaces.

When every statement locks the rows it writes and keeps what is frozen of the rows it
replaces, every committed database of every interleaving extends all the earlier ones
(`run_extends`). A property of single rows that survives such extension then holds of
every row as soon as it holds of each row that is added (`run_sound`).
-/

namespace CommercePlatform.Schema

/-- The rows of a database, under their locks. -/
structure Rows (D : Schema) where
  Frozen : Type
  row? : D.Db → D.Lock → Option D.Write
  lockOf : D.Write → D.Lock
  frozen : D.Write → Frozen
  row?_apply : ∀ db w l, row? (D.apply db w) l = if l = lockOf w then some w else row? db l

namespace Rows

variable {D : Schema} (R : Rows D)

/-! ### Rows of a view -/

section

variable {db db' : D.Db} {ws : List D.Write} {l : D.Lock}

theorem row?_view_ne (free : ∀ w ∈ ws, R.lockOf w ≠ l) :
    R.row? (D.view db ws) l = R.row? db l := by
  induction ws generalizing db with
  | nil => rfl
  | cons w ws ih =>
    have step : D.view db (w :: ws) = D.view (D.apply db w) ws := rfl
    have other : l ≠ R.lockOf w := fun same => free w List.mem_cons_self same.symm
    rw [step, ih fun v mem => free v (List.mem_cons_of_mem w mem), R.row?_apply, if_neg other]

theorem row?_apply_congr (w : D.Write) (same : R.row? db' l = R.row? db l) :
    R.row? (D.apply db' w) l = R.row? (D.apply db w) l := by
  rw [R.row?_apply, R.row?_apply, same]

theorem row?_view_congr (same : R.row? db' l = R.row? db l) :
    R.row? (D.view db' ws) l = R.row? (D.view db ws) l := by
  induction ws generalizing db db' with
  | nil => exact same
  | cons w ws ih => exact ih (R.row?_apply_congr w same)

/-- A row that is seen is committed or the transaction's own. -/
theorem row?_view_cases {w : D.Write} (found : R.row? (D.view db ws) l = some w) :
    R.row? db l = some w ∨ w ∈ ws := by
  induction ws generalizing db with
  | nil => exact Or.inl found
  | cons v ws ih =>
    have later : R.row? (D.view (D.apply db v) ws) l = some w := found
    rcases ih later with before | own
    · rw [R.row?_apply] at before
      split at before
      · cases before
        exact Or.inr List.mem_cons_self
      · exact Or.inl before
    · exact Or.inr (List.mem_cons_of_mem v own)

end

/-! ### Extension -/

/-- Every row of `db` is still there, with what is frozen of it. -/
def Extends (db db' : D.Db) : Prop :=
  ∀ l w, R.row? db l = some w → ∃ w', R.row? db' l = some w' ∧ R.frozen w' = R.frozen w

/-- The write adds a row, or keeps what is frozen of the one it replaces. -/
def Replaces (db : D.Db) (w : D.Write) : Prop :=
  ∀ old, R.row? db (R.lockOf w) = some old → R.frozen w = R.frozen old

/-- So does every write of the list, each on what the ones before it left. -/
def Grows : D.Db → List D.Write → Prop
  | _, [] => True
  | db, w :: ws => R.Replaces db w ∧ Grows (D.apply db w) ws

variable {R}

theorem Extends.refl (db : D.Db) : R.Extends db db := fun _ w found => ⟨w, found, rfl⟩

theorem Extends.trans {db db' db'' : D.Db} (first : R.Extends db db') (next : R.Extends db' db'') :
    R.Extends db db'' := by
  intro l w found
  obtain ⟨w', found', frozen'⟩ := first l w found
  obtain ⟨w'', found'', frozen''⟩ := next l w' found'
  exact ⟨w'', found'', frozen''.trans frozen'⟩

theorem Replaces.extends {db : D.Db} {w : D.Write} (h : R.Replaces db w) :
    R.Extends db (D.apply db w) := by
  intro l old found
  rw [R.row?_apply]
  by_cases here : l = R.lockOf w
  · rw [if_pos here]
    exact ⟨w, rfl, h old (here ▸ found)⟩
  · rw [if_neg here]
    exact ⟨old, found, rfl⟩

section

variable {db db' : D.Db} {ws ws' : List D.Write}

theorem Grows.extends (h : R.Grows db ws) : R.Extends db (D.view db ws) := by
  induction ws generalizing db with
  | nil => exact Extends.refl db
  | cons w ws ih => exact h.1.extends.trans (ih h.2)

theorem grows_append : R.Grows db (ws ++ ws') ↔ R.Grows db ws ∧ R.Grows (D.view db ws) ws' := by
  induction ws generalizing db with
  | nil => simp [Grows]
  | cons w ws ih =>
    have step : D.view db (w :: ws) = D.view (D.apply db w) ws := rfl
    simp only [List.cons_append, Grows, ih, step, and_assoc]

/-- Only the rows that are written matter. -/
theorem Grows.congr (h : R.Grows db ws)
    (same : ∀ w ∈ ws, R.row? db' (R.lockOf w) = R.row? db (R.lockOf w)) : R.Grows db' ws := by
  induction ws generalizing db db' with
  | nil => trivial
  | cons w ws ih =>
    constructor
    · intro old found
      rw [same w List.mem_cons_self] at found
      exact h.1 old found
    · exact ih h.2 fun v mem => R.row?_apply_congr w (same v (List.mem_cons_of_mem w mem))

/-- What was frozen before the writes is frozen in each of them. -/
theorem Grows.frozen (h : R.Grows db ws) {w old : D.Write} (mem : w ∈ ws)
    (found : R.row? db (R.lockOf w) = some old) : R.frozen w = R.frozen old := by
  induction ws generalizing db old with
  | nil => cases mem
  | cons v ws ih =>
    rcases List.mem_cons.mp mem with rfl | later
    · exact h.1 old found
    · by_cases again : R.lockOf w = R.lockOf v
      · have replaced : R.frozen v = R.frozen old := h.1 old (again ▸ found)
        refine (ih h.2 later ?_).trans replaced
        rw [R.row?_apply, if_pos again]
      · refine ih h.2 later ?_
        rw [R.row?_apply, if_neg again]
        exact found

/-- Two databases that agree on the rows written stay as far apart as they were. -/
theorem Extends.view (extended : R.Extends db db')
    (same : ∀ w ∈ ws, R.row? db' (R.lockOf w) = R.row? db (R.lockOf w)) :
    R.Extends (D.view db ws) (D.view db' ws) := by
  intro l w found
  by_cases written : ∃ v ∈ ws, R.lockOf v = l
  · obtain ⟨v, mem, rfl⟩ := written
    exact ⟨w, (R.row?_view_congr (same v mem)).trans found, rfl⟩
  · have free : ∀ v ∈ ws, R.lockOf v ≠ l := fun v mem eq => written ⟨v, mem, eq⟩
    rw [R.row?_view_ne free] at found ⊢
    exact extended l w found

end

/-! ### Ownership -/

variable (R) in
/-- What a row needs of the rows it refers to: `Owned` when it is added, `Referred`
when it is committed. Both last, and a row that replaces another is owned as that was. -/
structure Ownership where
  Owned : D.Db → D.Write → Prop
  Referred : D.Db → D.Write → Prop
  owned_extends : ∀ db db' w, R.Extends db db' → Owned db w → Owned db' w
  owned_frozen : ∀ db w w', R.frozen w' = R.frozen w → Owned db w → Owned db w'
  referred_extends : ∀ db db' w, R.Extends db db' → Referred db w → Referred db' w
  referred_checked : ∀ db ws, D.deferred db ws = none → ∀ w ∈ ws, Referred db w

variable (O : Ownership R)

/-- Every row is owned and refers to rows that are there. -/
def Ownership.Sound (db : D.Db) : Prop :=
  ∀ l w, R.row? db l = some w → O.Owned db w ∧ O.Referred db w

variable {ρ E α ι : Type} [DecidableEq ι]

/-- The committed database is sound and extends all those before it. -/
structure Kept (start : D.Db) (c : D.Committed ρ) : Prop where
  replayed : c.db = replayed D start c.history
  extended : ∀ older, older <:+ c.history → R.Extends (Schema.replayed D start older) c.db
  sound : O.Sound c.db

theorem Kept.init {start : D.Db} (sound : O.Sound start) :
    Kept O start (⟨start, []⟩ : D.Committed ρ) := by
  refine ⟨rfl, fun older earlier => ?_, sound⟩
  rw [List.suffix_nil.mp earlier]
  exact Extends.refl start

variable (R) in
/-- A locked row stays as it is, and no row is lost. -/
def Agrees (l : D.Lock) (db db' : D.Db) : Prop := R.Extends db db' ∧ R.row? db' l = R.row? db l

theorem agrees_guard : IsGuard (D := D) R.Agrees where
  refl _ db := ⟨Extends.refl db, rfl⟩
  trans _ _ _ _ first next := ⟨first.1.trans next.1, next.2.trans first.2⟩

variable (start : D.Db)

/-- A transaction that has locked the rows it wrote, each of them owned. -/
structure Growing (c : D.Committed ρ) (ws : List D.Write) (ls : List D.Lock) : Prop where
  inv : Kept O start c
  locked : ∀ w ∈ ws, R.lockOf w ∈ ls
  grows : R.Grows c.db ws
  owned : ∀ w ∈ ws, O.Owned (D.view c.db ws) w

/-- It has also locked and read the row `old`. -/
structure Read (l : D.Lock) (old : D.Write) (c : D.Committed ρ) (ws : List D.Write)
    (ls : List D.Lock) : Prop where
  growing : Growing O start c ws ls
  held : l ∈ ls
  found : R.row? (D.view c.db ws) l = some old

variable {O start} {c c' : D.Committed ρ} {ws : List D.Write} {ls : List D.Lock}

theorem Growing.begins (inv : Kept O start c) : Growing O start c [] [] :=
  ⟨inv, by simp, trivial, by simp⟩

theorem Growing.env (h : Growing O start c ws ls) (env : Env (Kept O start) R.Agrees ls c c') :
    Growing O start c' ws ls := by
  have same : ∀ w ∈ ws, R.row? c'.db (R.lockOf w) = R.row? c.db (R.lockOf w) :=
    fun w mem => (env.2 _ (h.locked w mem)).2
  refine ⟨env.1, h.locked, h.grows.congr same, fun w mem => ?_⟩
  have extended : R.Extends c.db c'.db := (env.2 _ (h.locked w mem)).1
  exact O.owned_extends _ _ _ (extended.view same) (h.owned w mem)

theorem Read.env {l : D.Lock} {old : D.Write} (h : Read O start l old c ws ls)
    (env : Env (Kept O start) R.Agrees ls c c') : Read O start l old c' ws ls :=
  ⟨h.growing.env env, h.held, (R.row?_view_congr (env.2 l h.held).2).trans h.found⟩

/-- Further locks change nothing. -/
theorem Growing.lock (h : Growing O start c ws ls) (ls' : List D.Lock) :
    Growing O start c ws (ls ++ ls') :=
  ⟨h.inv, fun w mem => List.mem_append_left _ (h.locked w mem), h.grows, h.owned⟩

theorem Read.lock {l : D.Lock} {old : D.Write} (h : Read O start l old c ws ls)
    (ls' : List D.Lock) : Read O start l old c ws (ls ++ ls') :=
  ⟨h.growing.lock ls', List.mem_append_left _ h.held, h.found⟩

/-- Every row that is seen is owned. -/
theorem Growing.seen_owned (h : Growing O start c ws ls) {l : D.Lock} {w : D.Write}
    (found : R.row? (D.view c.db ws) l = some w) : O.Owned (D.view c.db ws) w := by
  rcases R.row?_view_cases found with committed | own
  · exact O.owned_extends _ _ _ h.grows.extends (h.inv.sound l w committed).1
  · exact h.owned w own

/-! ### Statements -/

variable (R) in
/-- The statement locks the rows it writes, and keeps what is frozen of them. -/
def Disciplined (s : D.Stmt) : Prop :=
  ∀ db r ws, D.exec s db = .ok (r, ws) → R.Grows db ws ∧ ∀ w ∈ ws, R.lockOf w ∈ D.locks s db

variable (O) in
/-- The rows that the statement adds are owned. -/
def Admits (s : D.Stmt) (db : D.Db) : Prop :=
  ∀ r ws, D.exec s db = .ok (r, ws) → ∀ w ∈ ws, R.row? db (R.lockOf w) = none → O.Owned db w

theorem Growing.statement (h : Growing O start c ws ls) {s : D.Stmt} (disciplined : R.Disciplined s)
    (admits : Admits O s (D.view c.db ws)) {r : D.Result s} {W : List D.Write}
    (ran : D.exec s (D.view c.db ws) = .ok (r, W)) :
    Growing O start c (ws ++ W) (ls ++ D.locks s (D.view c.db ws)) := by
  obtain ⟨grows, locked⟩ := disciplined _ _ _ ran
  refine ⟨h.inv, ?_, grows_append.mpr ⟨h.grows, grows⟩, ?_⟩
  · intro w mem
    rcases List.mem_append.mp mem with before | now
    · exact List.mem_append_left _ (h.locked w before)
    · exact List.mem_append_right _ (locked w now)
  · intro w mem
    rw [view_append]
    refine O.owned_extends _ _ _ grows.extends ?_
    rcases List.mem_append.mp mem with before | now
    · exact h.owned w before
    · cases found : R.row? (D.view c.db ws) (R.lockOf w) with
      | none => exact admits r W ran w now found
      | some old => exact O.owned_frozen _ _ _ (grows.frozen now found) (h.seen_owned found)

/-- A transaction that keeps the discipline may commit. -/
theorem Growing.commitSafe (h : Growing O start c ws ls) (request : ρ) :
    CommitSafe (Kept O start) R.Agrees request c ws ls := by
  intro c' env checked
  have h := h.env env
  refine ⟨⟨?_, ?_, ?_⟩, fun l free => ⟨h.grows.extends, R.row?_view_ne fun w mem eq => ?_⟩⟩
  · rw [Committed.commit, Schema.replayed, h.inv.replayed]
  · intro older earlier
    rcases List.suffix_cons_iff.mp earlier with rfl | before
    · rw [Schema.replayed, ← h.inv.replayed]
      exact Extends.refl _
    · exact (h.inv.extended older before).trans h.grows.extends
  · intro l w found
    rcases R.row?_view_cases found with committed | own
    · obtain ⟨owned, referred⟩ := h.inv.sound l w committed
      exact ⟨O.owned_extends _ _ _ h.grows.extends owned,
        O.referred_extends _ _ _ h.grows.extends referred⟩
    · exact ⟨h.owned w own, O.referred_checked _ _ checked w own⟩
  · exact free (eq ▸ h.locked w mem)

/-- Statements that admit whatever they write. -/
theorem wp_growing {p : D.Body E α}
    (all : p.All fun s => R.Disciplined s ∧ ∀ db, Admits O s db) (h : Growing O start c ws ls) :
    wp (Kept O start) R.Agrees p (fun _ => Growing O start) c ws ls :=
  wp_all all (fun _ _ _ _ h env => h.env env)
    (fun _ good _ _ _ _ _ h ran => h.statement good.1 (good.2 _) ran) h

/-! ### Runs -/

variable {program : ρ → D.Body E α}

/-- A history only grows. -/
theorem run_history {st st' : D.Store ι ρ E α} {as : List (ι × Act ρ)}
    (ran : (machine program).run st as = some st') :
    st.committed.history <:+ st'.committed.history := by
  have keep : ∀ (s : D.Store ι ρ E α) a s', st.committed.history <:+ s.committed.history →
      (machine program).step s a = some s' → st.committed.history <:+ s'.committed.history := by
    rintro s ⟨i, a⟩ s' before stepped
    rcases Store.step_committed stepped with same | ⟨-, tx, -, after⟩
    · rw [same]
      exact before
    · rw [after]
      exact before.trans (List.suffix_cons _ _)
  exact (machine program).invariant keep (List.suffix_refl _) ran

section

variable (keeps : ∀ request, Keeps (Kept O start) R.Agrees program request) (sound : O.Sound start)
  {as as' : List (ι × Act ρ)} {st st' : D.Store ι ρ E α}
  (ran : (machine program).run { committed := ⟨start, []⟩ } as = some st)

include keeps sound ran

theorem run_kept : Kept O start st.committed :=
  run_inv agrees_guard (fun _ request _ => keeps request) (Kept.init O sound) ran

/-- Every committed database is sound. -/
theorem run_sound : O.Sound st.committed.db := (run_kept keeps sound ran).sound

/-- Whatever is committed later extends what is committed now. -/
theorem run_extends (later : (machine program).run st as' = some st') :
    R.Extends st.committed.db st'.committed.db := by
  have whole : (machine program).run { committed := ⟨start, []⟩ } (as ++ as') = some st' :=
    (machine program).run_append.mpr ⟨st, ran, later⟩
  rw [(run_kept keeps sound ran).replayed]
  exact (run_kept keeps sound whole).extended _ (run_history later)

end

end Rows

end CommercePlatform.Schema
