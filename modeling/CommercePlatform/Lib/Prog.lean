import Mathlib.Logic.Basic

/-!
Programs that call their environment.

`Prog S R E α` is a program that issues calls `s : S`, each answered by a value of
`R s`, and ends by returning an `α` or by raising an `E`. It says nothing about
what a call does: an interpreter or a machine gives the calls their meaning.

`All`, `Leaves` and `Throws` speak of every call, every returned value and every
exception of a program. A `Monitor` carries a state along the calls and their answers
and says which calls it allows; `Follows` is the weakest precondition for it.
-/

namespace CommercePlatform

inductive Prog (S : Type) (R : S → Type) (E α : Type) where
  | pure (a : α)
  | throw (e : E)
  | call (s : S) (k : R s → Prog S R E α)

namespace Prog

variable {S : Type} {R : S → Type} {E E' α β γ : Type}

def bind : Prog S R E α → (α → Prog S R E β) → Prog S R E β
  | .pure a, f => f a
  | .throw e, _ => .throw e
  | .call s k, f => .call s fun r => (k r).bind f

instance : Monad (Prog S R E) where
  pure := Prog.pure
  bind := Prog.bind

/-- Issue one call and return its answer. -/
def perform (s : S) : Prog S R E (R s) := .call s .pure

/-- Run `p`; an exception goes to the handler. -/
def tryCatch : Prog S R E α → (E → Prog S R E' α) → Prog S R E' α
  | .pure a, _ => .pure a
  | .throw e, handler => handler e
  | .call s k, handler => .call s fun r => (k r).tryCatch handler

/-- Run `p` and hand its result, returned or raised, to `f`. -/
def thenWith : Prog S R E α → (Except E α → Prog S R E' β) → Prog S R E' β
  | .pure a, f => f (.ok a)
  | .throw e, f => f (.error e)
  | .call s k, f => .call s fun r => (k r).thenWith f

@[simp] theorem pure_eq (a : α) : (Pure.pure a : Prog S R E α) = .pure a := rfl

@[simp] theorem bind_eq (p : Prog S R E α) (f : α → Prog S R E β) : p >>= f = p.bind f := rfl

@[simp] theorem pure_bind (a : α) (f : α → Prog S R E β) : (Prog.pure a).bind f = f a := rfl

@[simp] theorem throw_bind (e : E) (f : α → Prog S R E β) : (Prog.throw e).bind f = .throw e := rfl

@[simp] theorem call_bind (s : S) (k : R s → Prog S R E α) (f : α → Prog S R E β) :
    (Prog.call s k).bind f = .call s fun r => (k r).bind f := rfl

@[simp] theorem perform_bind (s : S) (f : R s → Prog S R E β) :
    (perform s : Prog S R E (R s)).bind f = .call s f := rfl

theorem bind_assoc (p : Prog S R E α) (f : α → Prog S R E β) (g : β → Prog S R E γ) :
    (p.bind f).bind g = p.bind fun a => (f a).bind g := by
  induction p with
  | pure a => rfl
  | throw e => rfl
  | call s k ih => simp only [call_bind, ih]

/-- Every call the program can issue satisfies `P`. -/
def All (P : S → Prop) : Prog S R E α → Prop
  | .pure _ => True
  | .throw _ => True
  | .call s k => P s ∧ ∀ r, (k r).All P

theorem All.bind {P : S → Prop} {p : Prog S R E α} {f : α → Prog S R E β} (first : p.All P)
    (rest : ∀ a, (f a).All P) : (p.bind f).All P := by
  induction p with
  | pure a => exact rest a
  | throw e => trivial
  | call s k ih => exact ⟨first.1, fun r => ih r (first.2 r)⟩

theorem All.mono {P Q : S → Prop} {p : Prog S R E α} (all : p.All P) (weaker : ∀ s, P s → Q s) :
    p.All Q := by
  induction p with
  | pure a => trivial
  | throw e => trivial
  | call s k ih => exact ⟨weaker s all.1, fun r => ih r (all.2 r)⟩

/-- Every value the program can return satisfies `P`. -/
def Leaves (P : α → Prop) : Prog S R E α → Prop
  | .pure a => P a
  | .throw _ => True
  | .call _ k => ∀ r, (k r).Leaves P

theorem Leaves.bind {P : α → Prop} {Q : β → Prop} {p : Prog S R E α} {f : α → Prog S R E β}
    (first : p.Leaves P) (rest : ∀ a, P a → (f a).Leaves Q) : (p.bind f).Leaves Q := by
  induction p with
  | pure a => exact rest a first
  | throw e => trivial
  | call s k ih => exact fun r => ih r (first r)

theorem leaves_true (p : Prog S R E α) : p.Leaves fun _ => True := by
  induction p with
  | pure a => trivial
  | throw e => trivial
  | call s k ih => exact ih

/-- Whatever the first part returns, the whole returns what the second part does. -/
theorem Leaves.after {Q : β → Prop} {p : Prog S R E α} {f : α → Prog S R E β}
    (rest : ∀ a, (f a).Leaves Q) : (p.bind f).Leaves Q :=
  p.leaves_true.bind fun a _ => rest a

/-- Every exception the program can raise satisfies `P`. -/
def Throws (P : E → Prop) : Prog S R E α → Prop
  | .pure _ => True
  | .throw e => P e
  | .call _ k => ∀ r, (k r).Throws P

theorem Throws.bind {P : E → Prop} {p : Prog S R E α} {f : α → Prog S R E β} (first : p.Throws P)
    (rest : ∀ a, (f a).Throws P) : (p.bind f).Throws P := by
  induction p with
  | pure a => exact rest a
  | throw e => exact first
  | call s k ih => exact fun r => ih r (first r)

theorem Throws.mono {P Q : E → Prop} {p : Prog S R E α} (h : p.Throws P)
    (weaker : ∀ e, P e → Q e) : p.Throws Q := by
  induction p with
  | pure a => trivial
  | throw e => exact weaker e h
  | call s k ih => exact fun r => ih r (h r)

end Prog

/-! ### Monitors -/

/-- A state that is carried along the calls of a program. -/
structure Monitor (S : Type) (R : S → Type) (σ : Type) where
  allows : σ → S → Prop
  next : σ → (s : S) → R s → σ

namespace Prog

variable {S : Type} {R : S → Type} {E E' α β σ : Type} (M : Monitor S R σ)

/-- Whatever the calls answer, the monitor allows every call, and `Q` holds of the state
and the result at the end. -/
def Follows : Prog S R E α → (σ → Except E α → Prop) → σ → Prop
  | .pure a, Q, st => Q st (.ok a)
  | .throw e, Q, st => Q st (.error e)
  | .call s k, Q, st => M.allows st s ∧ ∀ r, (k r).Follows Q (M.next st s r)

variable {M}

theorem Follows.mono {p : Prog S R E α} {Q Q' : σ → Except E α → Prop} {st : σ}
    (h : p.Follows M Q st) (weaker : ∀ st r, Q st r → Q' st r) : p.Follows M Q' st := by
  induction p generalizing st with
  | pure a => exact weaker st _ h
  | throw e => exact weaker st _ h
  | call s k ih => exact ⟨h.1, fun r => ih r (h.2 r)⟩

theorem Follows.ite {c : Prop} [Decidable c] {p q : Prog S R E α} {Q : σ → Except E α → Prop}
    {st : σ} (then_ : c → p.Follows M Q st) (else_ : ¬ c → q.Follows M Q st) :
    (if c then p else q).Follows M Q st := by
  split
  · exact then_ ‹_›
  · exact else_ ‹_›

theorem Follows.thenWith {p : Prog S R E α} {f : Except E α → Prog S R E' β}
    {Q : σ → Except E' β → Prop} {st : σ}
    (h : p.Follows M (fun st r => (f r).Follows M Q st) st) : (p.thenWith f).Follows M Q st := by
  induction p generalizing st with
  | pure a => exact h
  | throw e => exact h
  | call s k ih => exact ⟨h.1, fun r => ih r (h.2 r)⟩

/-- Sequencing: an exception of the first part is the exception of the whole. -/
theorem Follows.bind {p : Prog S R E α} {f : α → Prog S R E β} {Q : σ → Except E β → Prop} {st : σ}
    (h : p.Follows M (fun st r =>
      match r with
      | .ok a => (f a).Follows M Q st
      | .error e => Q st (.error e)) st) : (p.bind f).Follows M Q st := by
  induction p generalizing st with
  | pure a => exact h
  | throw e => exact h
  | call s k ih => exact ⟨h.1, fun r => ih r (h.2 r)⟩

/-! ### Runs against an environment -/

/-- The calls of a program with their answers, when the environment answers from what was
called before. -/
def calls (answer : List ((s : S) × R s) → (s : S) → R s) :
    Prog S R E α → List ((s : S) × R s) → List ((s : S) × R s)
  | .pure _, _ => []
  | .throw _, _ => []
  | .call s k, past =>
    ⟨s, answer past s⟩ :: (k (answer past s)).calls answer (past ++ [⟨s, answer past s⟩])

/-- What the program returns or raises in that environment. -/
def result (answer : List ((s : S) × R s) → (s : S) → R s) :
    Prog S R E α → List ((s : S) × R s) → Except E α
  | .pure a, _ => .ok a
  | .throw e, _ => .error e
  | .call s k, past => (k (answer past s)).result answer (past ++ [⟨s, answer past s⟩])

end Prog

/-- The state that the monitor has after the calls. -/
def Monitor.after {S : Type} {R : S → Type} {σ : Type} (M : Monitor S R σ) (st : σ)
    (calls : List ((s : S) × R s)) : σ :=
  calls.foldl (fun st c => M.next st c.1 c.2) st

/-- The monitor allows every call of the list. -/
def Monitor.Accepts {S : Type} {R : S → Type} {σ : Type} (M : Monitor S R σ) :
    σ → List ((s : S) × R s) → Prop
  | _, [] => True
  | st, c :: rest => M.allows st c.1 ∧ M.Accepts (M.next st c.1 c.2) rest

/-- A program that follows a monitor does so against every environment. -/
theorem Prog.Follows.accepts {S : Type} {R : S → Type} {E α σ : Type} {M : Monitor S R σ}
    {p : Prog S R E α} {Q : σ → Except E α → Prop} {st : σ} (h : p.Follows M Q st)
    (answer : List ((s : S) × R s) → (s : S) → R s) (past : List ((s : S) × R s)) :
    M.Accepts st (p.calls answer past) := by
  induction p generalizing st past with
  | pure a => trivial
  | throw e => trivial
  | call s k ih => exact ⟨h.1, ih _ (h.2 _) _⟩

/-- What holds at the end of every run holds at the end of a run against an environment. -/
theorem Prog.Follows.finishes {S : Type} {R : S → Type} {E α σ : Type} {M : Monitor S R σ}
    {p : Prog S R E α} {Q : σ → Except E α → Prop} {st : σ} (h : p.Follows M Q st)
    (answer : List ((s : S) × R s) → (s : S) → R s) (past : List ((s : S) × R s)) :
    Q (M.after st (p.calls answer past)) (p.result answer past) := by
  induction p generalizing st past with
  | pure a => exact h
  | throw e => exact h
  | call s k ih => exact ih _ (h.2 _) _

end CommercePlatform
