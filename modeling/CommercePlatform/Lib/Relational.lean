import Mathlib.Data.Set.Card
import CommercePlatform.Lib.Dict

/-!
Tables as lists of rows, and the joins of SQL over them.

A column that may be `NULL` is an `Option`; a comparison with `NULL` is not true.
`leftJoin` is the nested-loop left outer join. Where at most one row of the right table
matches each row of the left one, it neither multiplies nor drops a row: it is the left
table with the row that was found beside each of its rows.
-/

namespace CommercePlatform.Relational

variable {ρ σ κ : Type*} [DecidableEq κ]

/-- `a = b` in a `WHERE` or `ON` clause. -/
def equals : Option κ → Option κ → Bool
  | some a, some b => a = b
  | _, _ => false

theorem equals_iff {a b : Option κ} : equals a b = true ↔ ∃ k, a = some k ∧ b = some k := by
  cases a <;> cases b <;> simp [equals, eq_comm]

@[simp] theorem equals_none (a : Option κ) : equals a none = false := by
  cases a <;> rfl

@[simp] theorem equals_some (a b : κ) : equals (some a) (some b) = decide (a = b) := rfl

/-- The matches of a row, or the one row of `NULL`s that stands for none. -/
def orNulls (matched : List σ) : List (Option σ) :=
  if matched.isEmpty then [none] else matched.map some

/-- `FROM left LEFT JOIN right ON on`. -/
def leftJoin (left : List ρ) (right : List σ) (on : ρ → σ → Bool) : List (ρ × Option σ) :=
  left.flatMap fun l => (orNulls (right.filter (on l))).map fun r => (l, r)

/-- A `UNIQUE` column: its values that are not `NULL` are pairwise distinct. -/
def UniqueColumn (column : ρ → Option κ) (rows : List ρ) : Prop := (rows.filterMap column).Nodup

instance (column : ρ → Option κ) (rows : List ρ) : Decidable (UniqueColumn column rows) :=
  inferInstanceAs (Decidable (List.Nodup _))

/-- A `NOT NULL` column. -/
def NotNull {α : Type*} (column : ρ → Option α) (rows : List ρ) : Prop :=
  ∀ r ∈ rows, (column r).isSome

instance {α : Type*} (column : ρ → Option α) (rows : List ρ) : Decidable (NotNull column rows) :=
  inferInstanceAs (Decidable (∀ r ∈ rows, (column r).isSome))

/-- A `PRIMARY KEY` is unique and not null. -/
structure PrimaryKey (key : ρ → Option κ) (rows : List ρ) : Prop where
  unique : UniqueColumn key rows
  notNull : NotNull key rows

/-- At most one row has a given value in a unique column. -/
theorem UniqueColumn.length_filter_le {column : ρ → Option κ} {rows : List ρ}
    (unique : UniqueColumn column rows) (value : Option κ) :
    (rows.filter fun r => equals (column r) value).length ≤ 1 := by
  cases value with
  | none => simp
  | some k =>
    unfold UniqueColumn at unique
    induction rows with
    | nil => simp
    | cons row rows ih =>
      rw [List.filterMap_cons] at unique
      cases found : column row with
      | none => simpa [found, equals] using ih (by simpa [found] using unique)
      | some k' =>
        rw [found] at unique
        obtain ⟨fresh, distinct⟩ := List.nodup_cons.mp unique
        by_cases same : k' = k
        · -- The row is the only one: its value does not occur in the rest.
          subst same
          have none : rows.filter (fun r => equals (column r) (some k')) = [] := by
            rw [List.filter_eq_nil_iff]
            intro r mem matched
            obtain ⟨j, at_r, eq⟩ := equals_iff.mp matched
            cases eq
            exact fresh (List.mem_filterMap.mpr ⟨r, mem, at_r⟩)
          simp [found, none]
        · simpa [found, same] using ih distinct

/-- A join that finds at most one row for each row of the left table. -/
theorem leftJoin_eq_map {left : List ρ} {right : List σ} {on : ρ → σ → Bool}
    (single : ∀ l ∈ left, (right.filter (on l)).length ≤ 1) :
    leftJoin left right on = left.map fun l => (l, right.find? (on l)) := by
  induction left with
  | nil => rfl
  | cons l left ih =>
    have rest := ih fun l' mem => single l' (List.mem_cons_of_mem _ mem)
    have first : (orNulls (right.filter (on l))).map (fun r => (l, r)) =
        [(l, right.find? (on l))] := by
      rw [← List.head?_filter]
      cases found : right.filter (on l) with
      | nil => rfl
      | cons r others =>
        have short := single l List.mem_cons_self
        rw [found, List.length_cons] at short
        have none : others = [] := List.length_eq_zero_iff.mp (by omega)
        simp [none, orNulls]
    rw [leftJoin, List.flatMap_cons, first, List.map_cons, ← rest]
    rfl

/-- A join on a unique column of the right table. -/
theorem UniqueColumn.leftJoin {column : σ → Option κ} {right : List σ}
    (unique : UniqueColumn column right) (left : List ρ) (value : ρ → Option κ) :
    Relational.leftJoin left right (fun l r => equals (column r) (value l)) =
      left.map fun l => (l, right.find? fun r => equals (column r) (value l)) :=
  leftJoin_eq_map fun l _ => unique.length_filter_le (value l)

/-! ### Dictionaries as tables -/

variable {ν : Type*}

omit [DecidableEq κ] in
theorem notNull_map {α β : Type*} {column : ρ → Option α} {f : β → ρ} {rows : List β}
    (present : ∀ r, (column (f r)).isSome) : NotNull column (rows.map f) := by
  intro row mem
  obtain ⟨r, -, rfl⟩ := List.mem_map.mp mem
  exact present r

omit [DecidableEq κ] in
/-- The keys of a dictionary are a primary key of its rows. -/
theorem primaryKey_entries (d : Dict κ ν) {f : κ × ν → ρ} {key : ρ → Option κ}
    (keyed : ∀ e, key (f e) = some e.1) : PrimaryKey key (d.entries.map f) where
  unique := by
    have keys : (d.entries.map f).filterMap key = d.entries.map Prod.fst := by
      rw [List.filterMap_map, ← List.filterMap_eq_map]
      congr 1
      funext e
      exact keyed e
    rw [UniqueColumn, keys]
    exact d.nodupKeys
  notNull := notNull_map fun e => by rw [keyed]; rfl

/-- The row of a key is found by the query on the key. -/
theorem find?_entries (d : Dict κ ν) (k : Option κ) :
    (d.entries.find? fun e => equals (some e.1) k).map Prod.snd = k.bind d.get? := by
  cases k with
  | none => simp
  | some k =>
    simp only [Option.bind_some, Dict.get?]
    induction d.entries with
    | nil => rfl
    | cons e rest ih =>
      obtain ⟨key, value⟩ := e
      by_cases same : key = k
      · subst same
        simp
      · rw [Dict.lookup_cons_ne _ _ (Ne.symm same), ← ih]
        simp [same]

omit [DecidableEq κ] in
/-- At most one row of a dictionary meets a condition that pins its key. -/
theorem length_filter_le_of_key {d : Dict κ ν} {p : κ × ν → Bool}
    (single : ∀ a ∈ d.entries, ∀ b ∈ d.entries, p a = true → p b = true → a.1 = b.1) :
    (d.entries.filter p).length ≤ 1 := by
  have distinct : ((d.entries.filter p).map Prod.fst).Nodup :=
    d.nodupKeys.sublist (List.filter_sublist.map _)
  cases found : d.entries.filter p with
  | nil => exact Nat.zero_le 1
  | cons a rest =>
    cases rest with
    | nil => exact Nat.le_refl 1
    | cons b rest =>
      have mem : ∀ e ∈ [a, b], e ∈ d.entries ∧ p e = true := by
        intro e mem
        rw [← List.mem_filter, found]
        exact List.mem_append_left rest mem
      rw [found, List.map_cons] at distinct
      refine absurd ?_ (List.nodup_cons.mp distinct).1
      obtain ⟨inA, holdsA⟩ := mem a (by simp)
      obtain ⟨inB, holdsB⟩ := mem b (by simp)
      rw [single a inA b inB holdsA holdsB]
      exact List.mem_cons_self

/-- The first row that meets such a condition is the only one. -/
theorem any_find?_iff {d : Dict κ ν} {p q : κ × ν → Bool}
    (single : ∀ a ∈ d.entries, ∀ b ∈ d.entries, p a = true → p b = true → a.1 = b.1) :
    (d.entries.find? p).any q = true ↔
      ∃ k v, d.get? k = some v ∧ p (k, v) = true ∧ q (k, v) = true := by
  constructor
  · intro found
    obtain ⟨⟨k, v⟩, first, holds⟩ := (Option.any_eq_true _ _).mp found
    exact ⟨k, v, Dict.mem_entries.mp (List.mem_of_find?_eq_some first),
      List.find?_some (p := p) first, holds⟩
  · rintro ⟨k, v, present, meets, holds⟩
    have inside := Dict.mem_entries.mpr present
    cases first : d.entries.find? p with
    | none => exact absurd meets (by simpa using List.find?_eq_none.mp first (k, v) inside)
    | some e =>
      obtain ⟨k', v'⟩ := e
      have other := List.mem_of_find?_eq_some first
      obtain rfl := single _ other _ inside (List.find?_some (p := p) first) meets
      cases (Dict.mem_entries.mp other).symm.trans present
      exact holds

/-! ### Counts -/

/-- Rows made of distinct values are counted by those values. -/
theorem countP_map_eq_ncard {α β : Type*} {values : List α} (distinct : values.Nodup) {row : α → β}
    {p : β → Bool} {P : α → Prop} (meets : ∀ a ∈ values, p (row a) = true ↔ P a) :
    (values.map row).countP p = Set.ncard {a | a ∈ values ∧ P a} := by
  classical
  have same : {a | a ∈ values ∧ P a} = ((values.filter fun a => p (row a)).toFinset : Set α) := by
    ext a
    simp only [Set.mem_ofPred_eq, List.coe_toFinset, List.mem_filter]
    exact and_congr_right fun mem => (meets a mem).symm
  rw [same, Set.ncard_coe_finset, List.toFinset_card_of_nodup (distinct.filter _), List.countP_map,
    List.countP_eq_length_filter]
  rfl

end CommercePlatform.Relational
