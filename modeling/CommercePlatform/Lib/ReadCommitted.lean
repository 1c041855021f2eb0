import Mathlib.Data.List.Basic
import CommercePlatform.Lib.Dict
import CommercePlatform.Lib.Machine
import CommercePlatform.Lib.Prog

/-!
Transactions under READ COMMITTED with row locks.

A `Schema` says what a statement does. Each statement of a transaction reads the
committed database as it is at that moment together with the transaction's own
writes, and may take locks; it has to wait, that is it is not enabled, while
another open transaction holds one of them. Nothing is visible to others before
COMMIT, which checks the deferred constraints and applies the writes at once.
Any transaction may be rolled back at any time.

`wp` is a weakest precondition for transaction bodies in which the committed
database may change before every statement, as long as it keeps the invariant and
whatever the held locks guard. `run_inv` is the rule it is for: when every body
is verified alone, the invariant holds in every committed state of every
interleaving. `Under` and `run_met` are for invariants that hold as long as every
commit meets a condition.
-/

namespace CommercePlatform

/-- A store as its transactions see it. -/
structure Schema where
  Db : Type
  Write : Type
  Lock : Type
  Stmt : Type
  Result : Stmt → Type
  Error : Type
  [lockEq : DecidableEq Lock]
  /-- The effect of one row write. -/
  apply : Db → Write → Db
  /-- The locks a statement takes, on the database it sees. -/
  locks : Stmt → Db → List Lock
  /-- The answer of a statement and the rows it writes. -/
  exec : (s : Stmt) → Db → Except Error (Result s × List Write)
  /-- The deferred constraints, checked at COMMIT on what the transaction sees. -/
  deferred : Db → List Write → Option Error

namespace Schema

variable (D : Schema)

instance : DecidableEq D.Lock := D.lockEq

/-- The body of a transaction. -/
abbrev Body (E α : Type) := Prog D.Stmt D.Result E α

/-- What a transaction with these writes sees. -/
def view (db : D.Db) (writes : List D.Write) : D.Db := writes.foldl D.apply db

@[simp] theorem view_nil (db : D.Db) : D.view db [] = db := rfl

theorem view_append (db : D.Db) (ws ws' : List D.Write) :
    D.view db (ws ++ ws') = D.view (D.view db ws) ws' := by
  simp [view]

/-- The committed database, with the committed requests and their writes, last first. -/
structure Committed (ρ : Type) where
  db : D.Db
  history : List (ρ × List D.Write) := []

/-- An open transaction. -/
structure Tx (ρ E α : Type) where
  request : ρ
  body : D.Body E α
  writes : List D.Write := []
  locks : List D.Lock := []

variable {D} {ρ E α : Type}

namespace Tx

/-- Run the next statement against `db` while others hold `held`: `none` when there is
none or it has to wait, an error when the statement fails. -/
def advance (tx : D.Tx ρ E α) (db : D.Db) (held : List D.Lock) :
    Option (Except D.Error (D.Tx ρ E α)) :=
  match tx.body with
  | .call s k =>
    let seen := D.view db tx.writes
    let locks := D.locks s seen
    if locks.any (· ∈ held) then none
    else
      match D.exec s seen with
      | .ok (r, ws) =>
        some (.ok { tx with body := k r, writes := tx.writes ++ ws, locks := tx.locks ++ locks })
      | .error e => some (.error e)
  | _ => none

/-- A statement that has run. -/
theorem advance_ok {tx tx' : D.Tx ρ E α} {db : D.Db} {held : List D.Lock}
    (advanced : tx.advance db held = some (.ok tx')) :
    ∃ s k r ws, tx.body = .call s k ∧
      (D.locks s (D.view db tx.writes)).any (· ∈ held) = false ∧
      D.exec s (D.view db tx.writes) = .ok (r, ws) ∧
      tx' = { tx with
        body := k r, writes := tx.writes ++ ws
        locks := tx.locks ++ D.locks s (D.view db tx.writes) } := by
  unfold advance at advanced
  split at advanced
  · rename_i s k body
    simp only at advanced
    split at advanced
    · cases advanced
    · rename_i free
      split at advanced
      · rename_i r ws ran
        cases advanced
        exact ⟨s, k, r, ws, body, by simpa using free, ran, rfl⟩
      · cases advanced
  · cases advanced

end Tx

/-- The database after `writes` are committed for `request`. -/
def Committed.commit (c : D.Committed ρ) (request : ρ) (writes : List D.Write) : D.Committed ρ :=
  ⟨D.view c.db writes, (request, writes) :: c.history⟩

/-- The committed database and the open transactions of the sessions `ι`. -/
structure Store (D : Schema) (ι ρ E α : Type) where
  committed : D.Committed ρ
  open_ : Dict ι (D.Tx ρ E α) := ∅

/-- What one session does. -/
inductive Act (ρ : Type) where
  | begin (request : ρ)
  | statement
  | commit
  | rollback

variable {ι : Type} [DecidableEq ι]

/-- The locks held by the other sessions. -/
def Store.held (st : D.Store ι ρ E α) (i : ι) : List D.Lock :=
  (st.open_.erase i).values.flatMap Tx.locks

def Store.step (program : ρ → D.Body E α) (st : D.Store ι ρ E α) (i : ι) :
    Act ρ → Option (D.Store ι ρ E α)
  | .begin request =>
    if (st.open_.get? i).isNone then
      some { st with open_ := st.open_.set i { request, body := program request } }
    else none
  | .statement =>
    match st.open_.get? i with
    | some tx =>
      match tx.advance st.committed.db (st.held i) with
      | some (.ok tx') => some { st with open_ := st.open_.set i tx' }
      | some (.error _) => some { st with open_ := st.open_.erase i }
      | none => none
    | none => none
  | .commit =>
    match st.open_.get? i with
    | some tx =>
      match tx.body with
      | .pure _ =>
        match D.deferred (D.view st.committed.db tx.writes) tx.writes with
        | none =>
          some { committed := st.committed.commit tx.request tx.writes, open_ := st.open_.erase i }
        | some _ => some { st with open_ := st.open_.erase i }
      | _ => none
    | none => none
  | .rollback => some { st with open_ := st.open_.erase i }

/-- Only a COMMIT changes what is committed. -/
theorem Store.step_committed {program : ρ → D.Body E α} {st st' : D.Store ι ρ E α} {i : ι}
    {a : Act ρ} (stepped : st.step program i a = some st') :
    st'.committed = st.committed ∨
      a = .commit ∧ ∃ tx, st.open_.get? i = some tx ∧
        st'.committed = st.committed.commit tx.request tx.writes := by
  cases a with
  | begin request =>
    simp only [step, Option.ite_none_right_eq_some, Option.some.injEq] at stepped
    obtain ⟨-, rfl⟩ := stepped
    exact Or.inl rfl
  | statement =>
    simp only [step] at stepped
    repeat' split at stepped
    all_goals cases stepped
    all_goals exact Or.inl rfl
  | commit =>
    simp only [step] at stepped
    split at stepped
    · rename_i tx found
      split at stepped
      · split at stepped
        · cases stepped
          exact Or.inr ⟨rfl, tx, found, rfl⟩
        · cases stepped
          exact Or.inl rfl
      · cases stepped
    · cases stepped
  | rollback => cases stepped; exact Or.inl rfl

def machine (program : ρ → D.Body E α) : Machine (D.Store ι ρ E α) (ι × Act ρ) :=
  ⟨fun st a => st.step program a.1 a.2⟩

/-! ### Weakest preconditions -/

/-- An assertion about the committed database and a transaction's writes and locks. -/
abbrev Assn (D : Schema) (ρ : Type) := D.Committed ρ → List D.Write → List D.Lock → Prop

/-- What the others may do to the committed database while these locks are held. -/
def Env (Inv : D.Committed ρ → Prop) (Agree : D.Lock → D.Db → D.Db → Prop) (locks : List D.Lock)
    (c c' : D.Committed ρ) : Prop :=
  Inv c' ∧ ∀ l ∈ locks, Agree l c.db c'.db

section

variable (Inv : D.Committed ρ → Prop) (Agree : D.Lock → D.Db → D.Db → Prop)

/-- Run to its end, whatever the others do in between, `p` establishes `Q`; a
transaction that raises or whose statement fails is rolled back. -/
def wp : D.Body E α → (α → Assn D ρ) → Assn D ρ
  | .pure a, Q => Q a
  | .throw _, _ => fun _ _ _ => True
  | .call s k, Q => fun c ws ls => ∀ c', Env Inv Agree ls c c' → ∀ r ws',
      D.exec s (D.view c'.db ws) = .ok (r, ws') →
      wp (k r) Q c' (ws ++ ws') (ls ++ D.locks s (D.view c'.db ws))

/-- The transaction may commit: the invariant survives, and what it does not hold
locks on is as it was. -/
def CommitSafe (request : ρ) : Assn D ρ := fun c ws ls =>
  ∀ c', Env Inv Agree ls c c' → D.deferred (D.view c'.db ws) ws = none →
    Inv (c'.commit request ws) ∧ ∀ l, l ∉ ls → Agree l c'.db (D.view c'.db ws)

end

variable {Inv : D.Committed ρ → Prop} {Agree : D.Lock → D.Db → D.Db → Prop} {β : Type}

@[simp] theorem wp_pure (a : α) (Q : α → Assn D ρ) :
    wp Inv Agree (.pure a : D.Body E α) Q = Q a := rfl

@[simp] theorem wp_throw (e : E) (Q : α → Assn D ρ) (c : D.Committed ρ) (ws : List D.Write)
    (ls : List D.Lock) : wp Inv Agree (.throw e : D.Body E α) Q c ws ls := trivial

theorem wp_bind (p : D.Body E α) (f : α → D.Body E β) (Q : β → Assn D ρ) :
    wp Inv Agree (p.bind f) Q = wp Inv Agree p fun a => wp Inv Agree (f a) Q := by
  induction p with
  | pure a => rfl
  | throw e => rfl
  | call s k ih =>
    funext c ws ls
    simp only [Prog.call_bind, wp, ih]

theorem wp_ite {cond : Prop} [Decidable cond] {p q : D.Body E α} {Q : α → Assn D ρ}
    {c : D.Committed ρ} {ws : List D.Write} {ls : List D.Lock}
    (then_ : cond → wp Inv Agree p Q c ws ls) (else_ : ¬ cond → wp Inv Agree q Q c ws ls) :
    wp Inv Agree (if cond then p else q) Q c ws ls := by
  split
  · exact then_ ‹_›
  · exact else_ ‹_›

theorem wp_mono {p : D.Body E α} {Q Q' : α → Assn D ρ} {c : D.Committed ρ} {ws : List D.Write}
    {ls : List D.Lock} (h : wp Inv Agree p Q c ws ls)
    (weaker : ∀ a c ws ls, Q a c ws ls → Q' a c ws ls) : wp Inv Agree p Q' c ws ls := by
  induction p generalizing c ws ls with
  | pure a => exact weaker a c ws ls h
  | throw e => trivial
  | call s k ih => exact fun c' env r ws' ran => ih r (h c' env r ws' ran)

/-- Sequencing: `M` holds in between. -/
theorem wp_then {p : D.Body E α} {f : α → D.Body E β} {M : α → Assn D ρ} {Q : β → Assn D ρ}
    {c : D.Committed ρ} {ws : List D.Write} {ls : List D.Lock} (first : wp Inv Agree p M c ws ls)
    (next : ∀ a c ws ls, M a c ws ls → wp Inv Agree (f a) Q c ws ls) :
    wp Inv Agree (p >>= f) Q c ws ls := by
  rw [Prog.bind_eq, wp_bind]
  exact wp_mono first next

/-- What a body returns can be used in what follows it. -/
theorem wp_leaves {P : α → Prop} {p : D.Body E α} {Q : α → Assn D ρ} {c : D.Committed ρ}
    {ws : List D.Write} {ls : List D.Lock} (leaves : p.Leaves P) (h : wp Inv Agree p Q c ws ls) :
    wp Inv Agree p (fun a c ws ls => P a ∧ Q a c ws ls) c ws ls := by
  induction p generalizing c ws ls with
  | pure a => exact ⟨leaves, h⟩
  | throw e => trivial
  | call s k ih => exact fun c' env r ws' ran => ih r (leaves r) (h c' env r ws' ran)

/-- A body all of whose statements keep `R` keeps `R`. -/
theorem wp_all {P : D.Stmt → Prop} {R : Assn D ρ} {p : D.Body E α} (all : p.All P)
    (stable : ∀ c c' ws ls, R c ws ls → Env Inv Agree ls c c' → R c' ws ls)
    (keep : ∀ s, P s → ∀ c ws ls r ws', R c ws ls → D.exec s (D.view c.db ws) = .ok (r, ws') →
      R c (ws ++ ws') (ls ++ D.locks s (D.view c.db ws)))
    {c : D.Committed ρ} {ws : List D.Write} {ls : List D.Lock} (h : R c ws ls) :
    wp Inv Agree p (fun _ => R) c ws ls := by
  induction p generalizing c ws ls with
  | pure a => exact h
  | throw e => trivial
  | call s k ih =>
    intro c' env r ws' ran
    exact ih r (all.2 r) (keep s all.1 c' ws ls r ws' (stable c c' ws ls h env) ran)

/-! ### Framed assertions

Most statements of a body write rows that an invariant does not speak of. `Holds`
keeps track of the relevant writes only, with the locks that guard what is known
about the committed database. -/

section

variable (Inv : D.Committed ρ → Prop) (Agree : D.Lock → D.Db → D.Db → Prop)
  (relevant : D.Write → Bool)

/-- The relevant writes are `rel`, the locks `need` are held, and `P` is known. -/
structure Holds (rel : List D.Write) (need : List D.Lock) (P : D.Db → Prop)
    (c : D.Committed ρ) (ws : List D.Write) (ls : List D.Lock) : Prop where
  inv : Inv c
  rel : ws.filter relevant = rel
  need : ∀ l ∈ need, l ∈ ls
  known : P c.db

/-- The locks `need` guard `P`. -/
def Guards (need : List D.Lock) (P : D.Db → Prop) : Prop :=
  ∀ db db', (∀ l ∈ need, Agree l db db') → P db → P db'

/-- A statement that writes nothing relevant. -/
def Irrelevant (s : D.Stmt) : Prop :=
  ∀ db r ws, D.exec s db = .ok (r, ws) → ∀ w ∈ ws, relevant w = false

end

section

variable {relevant : D.Write → Bool} {rel : List D.Write} {need : List D.Lock} {P : D.Db → Prop}
  {c : D.Committed ρ} {ws : List D.Write} {ls : List D.Lock}

theorem Holds.env (guards : Guards Agree need P) (h : Holds Inv relevant rel need P c ws ls)
    {c' : D.Committed ρ} (env : Env Inv Agree ls c c') : Holds Inv relevant rel need P c' ws ls :=
  ⟨env.1, h.rel, h.need, guards _ _ (fun l mem => env.2 l (h.need l mem)) h.known⟩

theorem Holds.mono {P' : D.Db → Prop} (h : Holds Inv relevant rel need P c ws ls)
    (weaker : Inv c → P c.db → P' c.db) : Holds Inv relevant rel need P' c ws ls :=
  ⟨h.inv, h.rel, h.need, weaker h.inv h.known⟩

/-- Further locks, and writes that are not relevant, change nothing. -/
theorem Holds.skip (h : Holds Inv relevant rel need P c ws ls) {W : List D.Write}
    (quiet : ∀ w ∈ W, relevant w = false) (ls' : List D.Lock) :
    Holds Inv relevant rel need P c (ws ++ W) (ls ++ ls') where
  inv := h.inv
  rel := by
    rw [List.filter_append, h.rel, List.filter_eq_nil_iff.mpr fun w mem => by simp [quiet w mem],
      List.append_nil]
  need l mem := List.mem_append_left _ (h.need l mem)
  known := h.known

/-- A body of irrelevant statements keeps what is known. -/
theorem wp_frame {p : D.Body E α} (all : p.All (Irrelevant relevant))
    (guards : Guards Agree need P) (h : Holds Inv relevant rel need P c ws ls) :
    wp Inv Agree p (fun _ => Holds Inv relevant rel need P) c ws ls :=
  wp_all all (fun _ _ _ _ holds env => holds.env guards env)
    (fun _ quiet _ _ _ _ ws' holds ran => holds.skip (quiet _ _ ws' ran) _) h

/-- One statement, with what is known when it runs. -/
theorem wp_call {s : D.Stmt} {k : D.Result s → D.Body E α} {Q : α → Assn D ρ}
    (guards : Guards Agree need P) (h : Holds Inv relevant rel need P c ws ls)
    (next : ∀ c, Holds Inv relevant rel need P c ws ls → ∀ r ws',
      D.exec s (D.view c.db ws) = .ok (r, ws') →
      wp Inv Agree (k r) Q c (ws ++ ws') (ls ++ D.locks s (D.view c.db ws))) :
    wp Inv Agree (.call s k) Q c ws ls :=
  fun c' env r ws' ran => next c' (h.env guards env) r ws' ran

end

/-- The relevant writes are done, and they may be committed whenever what is known
still holds. -/
def Settled (Inv : D.Committed ρ → Prop) (Agree : D.Lock → D.Db → D.Db → Prop)
    (relevant : D.Write → Bool) (request : ρ) : Assn D ρ := fun c ws ls =>
  ∃ rel need P, Guards Agree need P ∧ Holds Inv relevant rel need P c ws ls ∧
    ∀ c' ws', Inv c' → P c'.db → ws'.filter relevant = rel →
      D.deferred (D.view c'.db ws') ws' = none →
      Inv (c'.commit request ws') ∧ ∀ l, l ∉ need → Agree l c'.db (D.view c'.db ws')

theorem Settled.commitSafe {relevant : D.Write → Bool} {request : ρ} {c : D.Committed ρ}
    {ws : List D.Write} {ls : List D.Lock} (h : Settled Inv Agree relevant request c ws ls) :
    CommitSafe Inv Agree request c ws ls := by
  intro c' env checked
  obtain ⟨rel, need, P, guards, holds, commit⟩ := h
  have holds := holds.env guards env
  obtain ⟨inv, agree⟩ := commit c' ws holds.inv holds.known holds.rel checked
  exact ⟨inv, fun l free => agree l fun mem => free (holds.need l mem)⟩

/-- What is settled stays settled while irrelevant statements run. -/
theorem wp_settled {relevant : D.Write → Bool} {request : ρ} {p : D.Body E α}
    (all : p.All (Irrelevant relevant)) {c : D.Committed ρ} {ws : List D.Write}
    {ls : List D.Lock} (h : Settled Inv Agree relevant request c ws ls) :
    wp Inv Agree p (fun _ => Settled Inv Agree relevant request) c ws ls := by
  obtain ⟨rel, need, P, guards, holds, commit⟩ := h
  exact wp_mono (wp_frame all guards holds) fun _ _ _ _ holds => ⟨rel, need, P, guards, holds, commit⟩

/-- What a lock guards is a property of the database that others keep. -/
structure IsGuard (Agree : D.Lock → D.Db → D.Db → Prop) : Prop where
  refl : ∀ l db, Agree l db db
  trans : ∀ l db db' db'', Agree l db db' → Agree l db' db'' → Agree l db db''

section

variable (guard : IsGuard Agree)

include guard

theorem Env.trans {ls : List D.Lock} {c c' c'' : D.Committed ρ} (first : Env Inv Agree ls c c')
    (next : Env Inv Agree ls c' c'') : Env Inv Agree ls c c'' :=
  ⟨next.1, fun l mem => guard.trans l _ _ _ (first.2 l mem) (next.2 l mem)⟩

theorem CommitSafe.env {request : ρ} {ws : List D.Write} {ls : List D.Lock} {c c' : D.Committed ρ}
    (safe : CommitSafe Inv Agree request c ws ls) (env : Env Inv Agree ls c c') :
    CommitSafe Inv Agree request c' ws ls :=
  fun c'' next => safe c'' (env.trans guard next)

/-- A verified transaction stays verified while the others commit. -/
theorem wp_env {p : D.Body E α} {request : ρ} {ws : List D.Write} {ls : List D.Lock}
    {c c' : D.Committed ρ} (h : wp Inv Agree p (fun _ => CommitSafe Inv Agree request) c ws ls)
    (env : Env Inv Agree ls c c') :
    wp Inv Agree p (fun _ => CommitSafe Inv Agree request) c' ws ls := by
  cases p with
  | pure a => exact CommitSafe.env guard h env
  | throw e => trivial
  | call s k => exact fun c'' next => h c'' (env.trans guard next)

end

/-! ### Interleavings -/

/-- Every open transaction is verified, and no two of them share a lock. -/
structure Verified (Inv : D.Committed ρ → Prop) (Agree : D.Lock → D.Db → D.Db → Prop)
    (st : D.Store ι ρ E α) : Prop where
  committed : Inv st.committed
  open_ : ∀ i tx, st.open_.get? i = some tx →
    wp Inv Agree tx.body (fun _ => CommitSafe Inv Agree tx.request) st.committed tx.writes tx.locks
  disjoint : ∀ i j tx tx', st.open_.get? i = some tx → st.open_.get? j = some tx' → i ≠ j →
    ∀ l ∈ tx.locks, l ∉ tx'.locks

theorem Store.mem_held {st : D.Store ι ρ E α} {i j : ι} {tx : D.Tx ρ E α} {l : D.Lock}
    (present : st.open_.get? j = some tx) (other : j ≠ i) (mem : l ∈ tx.locks) : l ∈ st.held i := by
  refine List.mem_flatMap.mpr ⟨tx, Dict.mem_values.mpr ⟨j, ?_⟩, mem⟩
  rw [Dict.get?_erase_ne _ other, present]

theorem Verified.erase {st : D.Store ι ρ E α} (ok : Verified Inv Agree st) (i : ι) :
    Verified Inv Agree { st with open_ := st.open_.erase i } := by
  have old : ∀ j tx, (st.open_.erase i).get? j = some tx → st.open_.get? j = some tx := by
    intro j tx present
    rw [Dict.get?_erase] at present
    split at present
    · cases present
    · exact present
  exact ⟨ok.committed, fun j tx h => ok.open_ j tx (old j tx h),
    fun j j' tx tx' h h' => ok.disjoint j j' tx tx' (old j tx h) (old j' tx' h')⟩

theorem Verified.set {st : D.Store ι ρ E α} (ok : Verified Inv Agree st) {i : ι}
    {tx : D.Tx ρ E α}
    (verified : wp Inv Agree tx.body (fun _ => CommitSafe Inv Agree tx.request) st.committed
      tx.writes tx.locks)
    (free : ∀ j tx', st.open_.get? j = some tx' → j ≠ i → ∀ l ∈ tx.locks, l ∉ tx'.locks) :
    Verified Inv Agree { st with open_ := st.open_.set i tx } where
  committed := ok.committed
  open_ := by
    intro j tx' present
    rw [Dict.get?_set] at present
    split at present
    · cases present; exact verified
    · exact ok.open_ j tx' present
  disjoint := by
    intro j j' tx₁ tx₂ h₁ h₂ ne l mem mem'
    rw [Dict.get?_set] at h₁ h₂
    split at h₁ <;> split at h₂
    · rename_i e e'; exact ne (e.trans e'.symm)
    · rename_i e e'; cases h₁; exact free j' tx₂ h₂ e' l mem mem'
    · rename_i e e'; cases h₂; exact free j tx₁ h₁ e l mem' mem
    · exact ok.disjoint j j' tx₁ tx₂ h₁ h₂ ne l mem mem'

section

/-- Run alone, from wherever the others leave the database, a request keeps the invariant. -/
def Keeps (Inv : D.Committed ρ → Prop) (Agree : D.Lock → D.Db → D.Db → Prop)
    (program : ρ → D.Body E α) (request : ρ) : Prop :=
  ∀ c, Inv c → wp Inv Agree (program request) (fun _ => CommitSafe Inv Agree request) c [] []

variable {program : ρ → D.Body E α} (guard : IsGuard Agree)

include guard

theorem step_verified {st st' : D.Store ι ρ E α} {i : ι} {a : Act ρ}
    (begun : ∀ request, a = .begin request → Keeps Inv Agree program request)
    (ok : Verified Inv Agree st) (stepped : st.step program i a = some st') :
    Verified Inv Agree st' := by
  cases a with
  | begin request =>
    simp only [Store.step, Option.ite_none_right_eq_some, Option.some.injEq] at stepped
    obtain ⟨-, rfl⟩ := stepped
    exact ok.set (begun request rfl _ ok.committed) fun _ _ _ _ _ mem => by cases mem
  | statement =>
    simp only [Store.step] at stepped
    split at stepped
    · rename_i tx present
      split at stepped
      · rename_i tx' advanced
        cases stepped
        obtain ⟨s, k, r, ws, body, free, ran, rfl⟩ := Tx.advance_ok advanced
        have verified := ok.open_ i tx present
        rw [body] at verified
        refine ok.set ?_ ?_
        · exact verified _ ⟨ok.committed, fun l _ => guard.refl l _⟩ r ws ran
        · intro j tx' present' other l mem mem'
          rcases List.mem_append.mp mem with old | new
          · exact ok.disjoint i j tx tx' present present' (Ne.symm other) l old mem'
          · -- The statement waited until nobody held the lock.
            have taken := List.any_eq_false.mp free l new
            simp [Store.mem_held present' other mem'] at taken
      · cases stepped; exact ok.erase i
      · cases stepped
    · cases stepped
  | commit =>
    simp only [Store.step] at stepped
    split at stepped
    · rename_i tx present
      split at stepped
      · rename_i a body
        split at stepped
        · rename_i checked
          cases stepped
          have verified := ok.open_ i tx present
          rw [body] at verified
          obtain ⟨inv, agree⟩ := verified st.committed ⟨ok.committed, fun l _ => guard.refl l _⟩ checked
          have erased := ok.erase i
          refine ⟨inv, ?_, erased.disjoint⟩
          intro j tx' present'
          refine wp_env guard (erased.open_ j tx' present') ⟨inv, fun l mem => agree l fun mine => ?_⟩
          rw [Dict.get?_erase] at present'
          split at present'
          · cases present'
          · rename_i other
            exact ok.disjoint i j tx tx' present present' (Ne.symm other) l mine mem
        · cases stepped; exact ok.erase i
      · cases stepped
    · cases stepped
  | rollback => cases stepped; exact ok.erase i

/-- A change made outside the transactions, to nothing that a lock guards. -/
theorem Verified.outside {st : D.Store ι ρ E α} (ok : Verified Inv Agree st) {c : D.Committed ρ}
    (inv : Inv c) (agree : ∀ l, Agree l st.committed.db c.db) :
    Verified Inv Agree { st with committed := c } where
  committed := inv
  open_ i tx present := wp_env guard (ok.open_ i tx present) ⟨inv, fun l _ => agree l⟩
  disjoint := ok.disjoint

/-- The rely-guarantee rule: an invariant that every request begun keeps when run alone
holds in every committed state of every interleaving. -/
theorem run_inv {c : D.Committed ρ} {as : List (ι × Act ρ)}
    (begun : ∀ i request, (i, .begin request) ∈ as → Keeps Inv Agree program request)
    (start : Inv c) {st : D.Store ι ρ E α}
    (ran : (machine program).run { committed := c } as = some st) : Inv st.committed := by
  have init : Verified Inv Agree ({ committed := c } : D.Store ι ρ E α) :=
    ⟨start, by simp, by simp⟩
  have keep : ∀ (st : D.Store ι ρ E α) a st', Verified Inv Agree st → a ∈ as →
      (machine program).step st a = some st' → Verified Inv Agree st' := by
    intro st a st' ok mem stepped
    refine step_verified guard (fun request eq => begun a.1 request ?_) ok stepped
    rwa [← eq]
  exact ((machine program).invariant_mem keep init ran).committed

end

/-! ### Conditions on commits -/

section

/-- The database after the requests of a history, last first. -/
def replayed (D : Schema) (start : D.Db) : List (ρ × List D.Write) → D.Db
  | [] => start
  | (_, ws) :: history => D.view (replayed D start history) ws

/-- Every request of a history met `cond` in the database it was committed to. -/
def Met (D : Schema) (cond : D.Db → ρ → Bool) (start : D.Db) : List (ρ × List D.Write) → Prop
  | [] => True
  | (request, _) :: history =>
    Met D cond start history ∧ cond (replayed D start history) request = true

/-- `P` holds if every commit so far met `cond`. -/
structure Under (cond : D.Db → ρ → Bool) (start : D.Db) (P : D.Db → Prop) (c : D.Committed ρ) :
    Prop where
  replayed : c.db = replayed D start c.history
  holds : Met D cond start c.history → P c.db

variable {cond : D.Db → ρ → Bool} {start : D.Db} {P : D.Db → Prop} {c : D.Committed ρ}

theorem Under.init (first : P start) : Under cond start P (⟨start, []⟩ : D.Committed ρ) :=
  ⟨rfl, fun _ => first⟩

theorem Under.commit (h : Under cond start P c) {request : ρ} {ws : List D.Write}
    (keep : cond c.db request = true → P c.db → P (D.view c.db ws)) :
    Under cond start P (c.commit request ws) := by
  constructor
  · rw [Committed.commit, h.replayed, Schema.replayed]
  · rintro ⟨before, met⟩
    rw [← h.replayed] at met
    exact keep met (h.holds before)

end

end Schema

end CommercePlatform
