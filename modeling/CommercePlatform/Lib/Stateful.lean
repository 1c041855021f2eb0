import Mathlib.Data.List.Basic

/-!
Programs with a state and an exception.

A program is a `StateT σ (Except ε)`. `Keeps R` says that a run that raises nothing relates
the state before to the state after; it holds of a sequence when it holds of the parts and
`R` is transitive. Where an exception holds the state in which it was raised, `Framed R` says
the same of the runs that raise too. `Ensures P x Q` is partial: if the program returns from a
state with `P`, it returns with `Q`. `Returns P x Q` is total: from every state with `P`, the
program returns with `Q`.
-/

namespace CommercePlatform

theorem Except.bind_ok {ε α β : Type} {r : Except ε α} {f : α → Except ε β} {b : β}
    (ok : (r >>= f) = .ok b) : ∃ a, r = .ok a ∧ f a = .ok b := by
  cases r with
  | error e => cases ok
  | ok a => exact ⟨a, rfl, ok⟩

namespace Stateful

variable {σ ε α β : Type}

/-! ### Runs -/

section

variable {s t : σ}

theorem pure_ok {a b : α} :
    (pure a : StateT σ (Except ε) α) s = .ok (b, t) ↔ b = a ∧ t = s := by
  constructor
  · intro ran
    cases ran
    exact ⟨rfl, rfl⟩
  · rintro ⟨rfl, rfl⟩
    rfl

theorem bind_ok {x : StateT σ (Except ε) α} {f : α → StateT σ (Except ε) β} {b : β} :
    (x >>= f) s = .ok (b, t) ↔ ∃ a u, x s = .ok (a, u) ∧ f a u = .ok (b, t) := by
  show (x s >>= fun p => f p.1 p.2) = _ ↔ _
  cases ran : x s with
  | error e =>
    constructor
    · intro impossible
      cases impossible
    · rintro ⟨a, u, impossible, -⟩
      cases impossible
  | ok p =>
    constructor
    · intro rest
      exact ⟨p.1, p.2, rfl, rest⟩
    · rintro ⟨a, u, first, rest⟩
      cases first
      exact rest

theorem bind_error {x : StateT σ (Except ε) α} {f : α → StateT σ (Except ε) β} {e : ε} :
    (x >>= f) s = .error e ↔ x s = .error e ∨ ∃ a u, x s = .ok (a, u) ∧ f a u = .error e := by
  show (x s >>= fun p => f p.1 p.2) = _ ↔ _
  cases ran : x s with
  | error e' =>
    constructor
    · intro same
      cases same
      exact .inl rfl
    · rintro (same | ⟨a, u, impossible, -⟩)
      · cases same
        rfl
      · cases impossible
  | ok p =>
    constructor
    · intro rest
      exact .inr ⟨p.1, p.2, rfl, rest⟩
    · rintro (impossible | ⟨a, u, first, rest⟩)
      · cases impossible
      · cases first
        exact rest

theorem throw_ok {e : ε} {a : α} :
    ¬ (throw e : StateT σ (Except ε) α) s = .ok (a, t) := by
  intro impossible
  cases impossible

theorem get_ok {u : σ} :
    (get : StateT σ (Except ε) σ) s = .ok (u, t) ↔ u = s ∧ t = s := pure_ok

theorem modify_ok {f : σ → σ} {u : PUnit} :
    (modify f : StateT σ (Except ε) PUnit) s = .ok (u, t) ↔ t = f s := by
  constructor
  · intro ran
    cases ran
    rfl
  · rintro rfl
    rfl

end

/-! ### Relations between the states -/

/-- Every run that returns relates its states. -/
def Keeps (R : σ → σ → Prop) (x : StateT σ (Except ε) α) : Prop :=
  ∀ s a t, x s = .ok (a, t) → R s t

namespace Keeps

variable {R : σ → σ → Prop}

theorem pure (refl : ∀ s, R s s) (a : α) : Keeps R (pure a : StateT σ (Except ε) α) := by
  intro s b t ran
  obtain ⟨-, rfl⟩ := pure_ok.mp ran
  exact refl t

theorem throw (e : ε) : Keeps R (throw e : StateT σ (Except ε) α) := fun _ _ _ ran =>
  (throw_ok ran).elim

theorem bind (trans : ∀ s t u, R s t → R t u → R s u) {x : StateT σ (Except ε) α}
    {f : α → StateT σ (Except ε) β} (first : Keeps R x) (rest : ∀ a, Keeps R (f a)) :
    Keeps R (x >>= f) := by
  intro s b t ran
  obtain ⟨a, u, start, finish⟩ := bind_ok.mp ran
  exact trans s u t (first s a u start) (rest a u b t finish)

theorem modify {f : σ → σ} (related : ∀ s, R s (f s)) :
    Keeps R (modify f : StateT σ (Except ε) PUnit) := by
  intro s a t ran
  obtain rfl := modify_ok.mp ran
  exact related s

theorem ite {c : Prop} [Decidable c] {x y : StateT σ (Except ε) α} (yes : Keeps R x)
    (no : Keeps R y) : Keeps R (if c then x else y) := by
  split
  · exact yes
  · exact no

end Keeps

/-! ### Runs that raise -/

/-- Whether it returns or raises, a run relates its states; `left` is the state that an
exception holds. -/
structure Framed (left : ε → σ) (R : σ → σ → Prop) (x : StateT σ (Except ε) α) : Prop where
  returns : Keeps R x
  raises : ∀ s e, x s = .error e → R s (left e)

namespace Framed

variable {left : ε → σ} {R : σ → σ → Prop}

theorem pure (refl : ∀ s, R s s) (a : α) :
    Framed left R (pure a : StateT σ (Except ε) α) where
  returns := Keeps.pure refl a
  raises s e impossible := by cases impossible

theorem bind (trans : ∀ s t u, R s t → R t u → R s u) {x : StateT σ (Except ε) α}
    {f : α → StateT σ (Except ε) β} (first : Framed left R x) (rest : ∀ a, Framed left R (f a)) :
    Framed left R (x >>= f) where
  returns := first.returns.bind trans fun a => (rest a).returns
  raises := by
    intro s e raised
    rcases bind_error.mp raised with early | ⟨a, u, start, late⟩
    · exact first.raises s e early
    · exact trans s u (left e) (first.returns s a u start) ((rest a).raises u e late)

theorem get (refl : ∀ s, R s s) : Framed left R (get : StateT σ (Except ε) σ) where
  returns := by
    intro s a t ran
    obtain ⟨-, rfl⟩ := get_ok.mp ran
    exact refl t
  raises s e impossible := by cases impossible

theorem modify {f : σ → σ} (related : ∀ s, R s (f s)) :
    Framed left R (modify f : StateT σ (Except ε) PUnit) where
  returns := Keeps.modify related
  raises s e impossible := by cases impossible

theorem ite {c : Prop} [Decidable c] {x y : StateT σ (Except ε) α} (yes : Framed left R x)
    (no : Framed left R y) : Framed left R (if c then x else y) := by
  split
  · exact yes
  · exact no

end Framed

/-! ### If a run returns -/

/-- A run from a state with `P` that returns has `Q` of its result and its state. -/
def Ensures (P : σ → Prop) (x : StateT σ (Except ε) α) (Q : α → σ → Prop) : Prop :=
  ∀ s a t, P s → x s = .ok (a, t) → Q a t

namespace Ensures

variable {P P' : σ → Prop} {Q Q' : α → σ → Prop} {S : β → σ → Prop}

theorem pure {a : α} (post : ∀ s, P s → Q a s) :
    Ensures P (pure a : StateT σ (Except ε) α) Q := by
  intro s b t pre ran
  obtain ⟨rfl, rfl⟩ := pure_ok.mp ran
  exact post t pre

theorem bind {x : StateT σ (Except ε) α} {f : α → StateT σ (Except ε) β} (first : Ensures P x Q)
    (rest : ∀ a, Ensures (Q a) (f a) S) : Ensures P (x >>= f) S := by
  intro s b u pre ran
  obtain ⟨a, t, start, finish⟩ := bind_ok.mp ran
  exact rest a t b u (first s a t pre start) finish

theorem ite {c : Prop} [Decidable c] {x y : StateT σ (Except ε) α} (yes : c → Ensures P x Q)
    (no : ¬c → Ensures P y Q) : Ensures P (if c then x else y) Q := by
  split
  · rename_i holds
    exact yes holds
  · rename_i fails
    exact no fails

theorem weaken {x : StateT σ (Except ε) α} (ensures : Ensures P x Q) (pre : ∀ s, P' s → P s)
    (post : ∀ a s, Q a s → Q' a s) : Ensures P' x Q' :=
  fun s a t here ran => post a t (ensures s a t (pre s here) ran)

/-- What a relation between the states carries over. -/
theorem of_keeps {R : σ → σ → Prop} {x : StateT σ (Except ε) α} (keeps : Keeps R x)
    (carries : ∀ s t, P s → R s t → P' t) : Ensures P x fun _ t => P' t :=
  fun s a t pre ran => carries s t pre (keeps s a t ran)

end Ensures

/-! ### Runs that return -/

/-- From every state with `P` the run returns, with `Q` of its result and its state. -/
def Returns (P : σ → Prop) (x : StateT σ (Except ε) α) (Q : α → σ → Prop) : Prop :=
  ∀ s, P s → ∃ a t, x s = .ok (a, t) ∧ Q a t

namespace Returns

variable {P P' : σ → Prop} {Q Q' : α → σ → Prop} {S : β → σ → Prop}

theorem pure {a : α} (post : ∀ s, P s → Q a s) :
    Returns P (pure a : StateT σ (Except ε) α) Q :=
  fun s pre => ⟨a, s, rfl, post s pre⟩

theorem bind {x : StateT σ (Except ε) α} {f : α → StateT σ (Except ε) β} (first : Returns P x Q)
    (rest : ∀ a, Returns (Q a) (f a) S) : Returns P (x >>= f) S := by
  intro s pre
  obtain ⟨a, t, start, middle⟩ := first s pre
  obtain ⟨b, u, finish, post⟩ := rest a t middle
  exact ⟨b, u, bind_ok.mpr ⟨a, t, start, finish⟩, post⟩

theorem weaken {x : StateT σ (Except ε) α} (returns : Returns P x Q) (pre : ∀ s, P' s → P s)
    (post : ∀ a s, Q a s → Q' a s) : Returns P' x Q' := by
  intro s here
  obtain ⟨a, t, ran, after⟩ := returns s (pre s here)
  exact ⟨a, t, ran, post a t after⟩

/-- What holds of every run holds of this one. -/
theorem known {x : StateT σ (Except ε) α} (returns : Returns P x Q)
    (spec : ∀ s a t, P s → x s = .ok (a, t) → Q' a t) :
    Returns P x fun a t => Q a t ∧ Q' a t := by
  intro s pre
  obtain ⟨a, t, ran, post⟩ := returns s pre
  exact ⟨a, t, ran, post, spec s a t pre ran⟩

end Returns

end Stateful

end CommercePlatform
