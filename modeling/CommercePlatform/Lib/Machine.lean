import Mathlib.Logic.Basic
import Mathlib.Data.List.Basic

/-!
Labelled state machines and their runs.

A machine is a partial step function: a label carries every choice the
environment makes (which thread moves, whether a call fails, what the clock
reads), so that a run is replayed by computing it. `none` means that the label
is not enabled in the state.

* `Machine.run` folds a list of labels; `run_append` and `run_concat` cut a run.
* `Machine.invariant` is the induction rule for reachable states;
  `Machine.invariant_along` is the same rule for the runs whose steps all meet
  a condition.
* `Machine.tally` counts steps; `Machine.tally_le_one` is the rule for a step that a
  run takes once.
-/

namespace CommercePlatform

/-- A labelled transition system given by its step function. -/
structure Machine (σ α : Type*) where
  step : σ → α → Option σ

namespace Machine

variable {σ α : Type*} (M : Machine σ α)

/-- The state after a list of labels, when every one of them is enabled. -/
def run : σ → List α → Option σ
  | s, [] => some s
  | s, a :: as => (M.step s a).bind fun t => run t as

@[simp] theorem run_nil (s : σ) : M.run s [] = some s := rfl

theorem run_cons_some {s t : σ} {a : α} {as : List α} :
    M.run s (a :: as) = some t ↔ ∃ u, M.step s a = some u ∧ M.run u as = some t := by
  simp [run, Option.bind_eq_some_iff]

theorem run_append {s t : σ} {as bs : List α} :
    M.run s (as ++ bs) = some t ↔ ∃ u, M.run s as = some u ∧ M.run u bs = some t := by
  induction as generalizing s with
  | nil => simp
  | cons a as ih =>
    rw [List.cons_append, run_cons_some]
    constructor
    · rintro ⟨u, step, rest⟩
      obtain ⟨v, first, last⟩ := ih.mp rest
      exact ⟨v, M.run_cons_some.mpr ⟨u, step, first⟩, last⟩
    · rintro ⟨v, first, last⟩
      obtain ⟨u, step, rest⟩ := M.run_cons_some.mp first
      exact ⟨u, step, ih.mpr ⟨v, rest, last⟩⟩

theorem run_concat {s t : σ} {as : List α} {a : α} :
    M.run s (as ++ [a]) = some t ↔ ∃ u, M.run s as = some u ∧ M.step u a = some t := by
  rw [run_append]
  simp [run_cons_some]

/-- What holds initially and is kept by every step holds after every run. -/
theorem invariant {Inv : σ → Prop}
    (keep : ∀ s a t, Inv s → M.step s a = some t → Inv t)
    {s t : σ} {as : List α} (start : Inv s) (ran : M.run s as = some t) : Inv t := by
  induction as generalizing s with
  | nil => cases ran; exact start
  | cons a as ih =>
    obtain ⟨u, step, rest⟩ := M.run_cons_some.mp ran
    exact ih (keep s a u start step) rest

/-- The same rule, with the labels of the run at hand. -/
theorem invariant_mem {Inv : σ → Prop} {s t : σ} {as : List α}
    (keep : ∀ s a t, Inv s → a ∈ as → M.step s a = some t → Inv t)
    (start : Inv s) (ran : M.run s as = some t) : Inv t := by
  induction as generalizing s with
  | nil => cases ran; exact start
  | cons a as ih =>
    obtain ⟨u, step, rest⟩ := M.run_cons_some.mp ran
    refine ih (fun s b t inv mem => keep s b t inv (List.mem_cons_of_mem a mem)) ?_ rest
    exact keep s a u start List.mem_cons_self step

/-- Every step of the run from `s` along `as` meets `cond`. -/
def Along (cond : σ → α → Prop) : σ → List α → Prop
  | _, [] => True
  | s, a :: as => cond s a ∧ ∀ t, M.step s a = some t → Along cond t as

/-- What holds initially and is kept by every step that meets `cond` holds after
every run whose steps all meet `cond`. -/
theorem invariant_along {Inv : σ → Prop} {cond : σ → α → Prop}
    (keep : ∀ s a t, Inv s → cond s a → M.step s a = some t → Inv t)
    {s t : σ} {as : List α} (start : Inv s) (met : M.Along cond s as)
    (ran : M.run s as = some t) : Inv t := by
  induction as generalizing s with
  | nil => cases ran; exact start
  | cons a as ih =>
    obtain ⟨u, step, rest⟩ := M.run_cons_some.mp ran
    exact ih (keep s a u start met.1 step) (met.2 u step) rest

/-- Along a run that can be computed, a decidable condition can be checked. -/
instance decidableAlong {cond : σ → α → Prop} [∀ s a, Decidable (cond s a)] :
    ∀ s as, Decidable (M.Along cond s as)
  | _, [] => .isTrue trivial
  | s, a :: as =>
    match next : M.step s a with
    | none => decidable_of_iff (cond s a) (by simp [Along, next])
    | some t =>
      have : Decidable (M.Along cond t as) := decidableAlong t as
      decidable_of_iff (cond s a ∧ M.Along cond t as) (by simp [Along, next])

theorem along_append {cond : σ → α → Prop} {s u : σ} {as bs : List α}
    (met : M.Along cond s (as ++ bs)) (ran : M.run s as = some u) : M.Along cond u bs := by
  induction as generalizing s with
  | nil => cases ran; exact met
  | cons a as ih =>
    obtain ⟨v, step, rest⟩ := M.run_cons_some.mp ran
    exact ih (met.2 v step) rest

theorem along_left {cond : σ → α → Prop} {s : σ} {as bs : List α}
    (met : M.Along cond s (as ++ bs)) : M.Along cond s as := by
  induction as generalizing s with
  | nil => trivial
  | cons a as ih => exact ⟨met.1, fun t step => ih (met.2 t step)⟩

theorem along_mono {cond cond' : σ → α → Prop} (weaker : ∀ s a, cond s a → cond' s a) {s : σ}
    {as : List α} (met : M.Along cond s as) : M.Along cond' s as := by
  induction as generalizing s with
  | nil => trivial
  | cons a as ih => exact ⟨weaker s a met.1, fun t step => ih (met.2 t step)⟩

/-- A condition along a run is the condition at each of its steps. -/
theorem along_iff {cond : σ → α → Prop} {s : σ} {as : List α} :
    M.Along cond s as ↔
      ∀ pre a post, as = pre ++ a :: post → ∀ u, M.run s pre = some u → cond u a := by
  induction as generalizing s with
  | nil => simp [Along]
  | cons a as ih =>
    constructor
    · rintro ⟨first, later⟩ pre b post split u ran
      cases pre with
      | nil =>
        cases split
        cases ran
        exact first
      | cons c pre =>
        cases split
        obtain ⟨v, step, rest⟩ := M.run_cons_some.mp ran
        exact ih.mp (later v step) pre b post rfl u rest
    · intro each
      refine ⟨each [] a as rfl s rfl, fun t step => ih.mpr ?_⟩
      intro pre b post split u ran
      exact each (a :: pre) b post (by rw [split]; rfl) u (M.run_cons_some.mpr ⟨t, step, ran⟩)

/-- How many steps of the run from `s` along `as` meet `p`. -/
def tally (p : σ → α → Bool) : σ → List α → Nat
  | _, [] => 0
  | s, a :: as => (if p s a then 1 else 0) + ((M.step s a).map fun t => tally p t as).getD 0

/-- Where a step that meets `p` is a step into `Past`, and `Past` is never left, only one
step of a run meets `p`. -/
theorem tally_le_one (Inv Past : σ → Prop) {p : σ → α → Bool}
    (keep : ∀ s a t, Inv s → M.step s a = some t → Inv t)
    (stays : ∀ s a t, Past s → M.step s a = some t → Past t)
    (fresh : ∀ s a, Inv s → p s a = true → ¬ Past s)
    (passes : ∀ s a t, Inv s → p s a = true → M.step s a = some t → Past t)
    {s : σ} (start : Inv s) (as : List α) :
    M.tally p s as ≤ 1 ∧ (Past s → M.tally p s as = 0) := by
  induction as generalizing s with
  | nil => simp [tally]
  | cons a as ih =>
    cases next : M.step s a with
    | none =>
      simp only [tally, next, Option.map_none, Option.getD_none]
      constructor
      · split <;> omega
      · intro past
        have unmet : ¬ p s a = true := fun met => fresh s a start met past
        simp [unmet]
    | some t =>
      obtain ⟨once, never⟩ := ih (keep s a t start next)
      simp only [tally, next, Option.map_some, Option.getD_some]
      by_cases met : p s a = true
      · have rest := never (passes s a t start met next)
        rw [if_pos met, rest]
        exact ⟨Nat.le_refl 1, fun past => absurd past (fresh s a start met)⟩
      · rw [if_neg met, Nat.zero_add]
        exact ⟨once, fun past => never (stays s a t past next)⟩

end Machine

end CommercePlatform
