import Mathlib.Data.List.Nodup
import Mathlib.Data.List.Basic

/-!
Insertion-ordered dictionaries.

`Dict κ ν` is a list of entries whose keys are pairwise distinct: writing an
existing key replaces its value in place, writing a new key appends it, and
erasing a key keeps the order of the others. The order is what iteration sees;
every other property is stated through `get?`.
-/

namespace CommercePlatform

/-- A finite map that remembers the order in which its keys were first written. -/
structure Dict (κ ν : Type*) where
  entries : List (κ × ν)
  nodupKeys : (entries.map Prod.fst).Nodup

namespace Dict

variable {κ ν μ : Type*} [DecidableEq κ]

instance [DecidableEq ν] : DecidableEq (Dict κ ν) := fun a b =>
  decidable_of_iff (a.entries = b.entries) (by cases a; cases b; simp)

theorem lookup_cons_ne {k k' : κ} (v : ν) (l : List (κ × ν)) (h : k ≠ k') :
    ((k', v) :: l).lookup k = l.lookup k := by
  rw [List.lookup_cons, beq_false_of_ne h]

def empty : Dict κ ν := ⟨[], by simp⟩

instance : EmptyCollection (Dict κ ν) := ⟨empty⟩

instance : Inhabited (Dict κ ν) := ⟨∅⟩

omit [DecidableEq κ] in
theorem eq_empty {d : Dict κ ν} (none : d.entries.isEmpty = true) : d = ∅ := by
  obtain ⟨entries, nodup⟩ := d
  obtain rfl := List.isEmpty_iff.mp none
  rfl

def get? (d : Dict κ ν) (k : κ) : Option ν := d.entries.lookup k

def keys (d : Dict κ ν) : List κ := d.entries.map Prod.fst

def values (d : Dict κ ν) : List ν := d.entries.map Prod.snd

/-- Replace the value of `k` in place, or append it. -/
def setEntries (k : κ) (v : ν) : List (κ × ν) → List (κ × ν)
  | [] => [(k, v)]
  | (k', v') :: rest => if k' = k then (k, v) :: rest else (k', v') :: setEntries k v rest

theorem mem_keys_setEntries {k x : κ} {v : ν} {l : List (κ × ν)} :
    x ∈ (setEntries k v l).map Prod.fst ↔ x = k ∨ x ∈ l.map Prod.fst := by
  induction l with
  | nil => simp [setEntries]
  | cons e rest ih =>
    obtain ⟨k', v'⟩ := e
    by_cases h : k' = k
    · subst h; simp [setEntries]
    · simp only [setEntries, if_neg h, List.map_cons, List.mem_cons, ih]
      tauto

theorem nodup_setEntries {k : κ} {v : ν} {l : List (κ × ν)} (h : (l.map Prod.fst).Nodup) :
    ((setEntries k v l).map Prod.fst).Nodup := by
  induction l with
  | nil => simp [setEntries]
  | cons e rest ih =>
    obtain ⟨k', v'⟩ := e
    simp only [List.map_cons, List.nodup_cons] at h
    by_cases hk : k' = k
    · subst hk; simpa [setEntries] using h
    · simp only [setEntries, if_neg hk, List.map_cons, List.nodup_cons, mem_keys_setEntries]
      exact ⟨fun hmem => hmem.elim hk h.1, ih h.2⟩

def set (d : Dict κ ν) (k : κ) (v : ν) : Dict κ ν :=
  ⟨setEntries k v d.entries, nodup_setEntries d.nodupKeys⟩

def erase (d : Dict κ ν) (k : κ) : Dict κ ν :=
  ⟨d.entries.filter fun e => e.1 ≠ k,
    d.nodupKeys.sublist (List.filter_sublist.map _)⟩

/-- Rewrite every value, keys and order kept. -/
def mapValues (d : Dict κ ν) (f : κ → ν → μ) : Dict κ μ :=
  ⟨d.entries.map fun e => (e.1, f e.1 e.2), by
    have : (d.entries.map fun e => (e.1, f e.1 e.2)).map Prod.fst = d.entries.map Prod.fst := by
      simp [Function.comp_def]
    rw [this]; exact d.nodupKeys⟩

/-- Keep the entries that satisfy `p`. -/
def filter (d : Dict κ ν) (p : κ → ν → Bool) : Dict κ ν :=
  ⟨d.entries.filter fun e => p e.1 e.2, d.nodupKeys.sublist (List.filter_sublist.map _)⟩

/-- Keep and rewrite the entries on which `f` is defined. -/
def filterMap (d : Dict κ ν) (f : κ → ν → Option μ) : Dict κ μ :=
  ⟨d.entries.filterMap fun e => (f e.1 e.2).map (e.1, ·), by
    have h := d.nodupKeys
    revert h
    generalize d.entries = l
    intro h
    induction l with
    | nil => simp
    | cons e rest ih =>
      simp only [List.map_cons, List.nodup_cons] at h
      simp only [List.filterMap_cons]
      cases hf : f e.1 e.2 with
      | none => simpa using ih h.2
      | some w =>
        simp only [Option.map_some, List.map_cons, List.nodup_cons]
        refine ⟨fun hmem => h.1 ?_, ih h.2⟩
        obtain ⟨x, hx, hxe⟩ := List.mem_map.mp hmem
        obtain ⟨y, hy, hyx⟩ := List.mem_filterMap.mp hx
        obtain ⟨u, -, rfl⟩ := Option.map_eq_some_iff.mp hyx
        exact hxe ▸ List.mem_map_of_mem hy⟩

@[simp] theorem get?_empty (k : κ) : (∅ : Dict κ ν).get? k = none := rfl

theorem mem_entries {d : Dict κ ν} {k : κ} {v : ν} :
    (k, v) ∈ d.entries ↔ d.get? k = some v := by
  obtain ⟨l, h⟩ := d
  simp only [get?]
  induction l with
  | nil => simp
  | cons e rest ih =>
    obtain ⟨k', v'⟩ := e
    simp only [List.map_cons, List.nodup_cons] at h
    by_cases hk : k = k'
    · subst hk
      have absent : ∀ w, (k, w) ∉ rest := fun w hw => h.1 (List.mem_map.mpr ⟨_, hw, rfl⟩)
      simp [absent, eq_comm]
    · simp [lookup_cons_ne _ _ hk, hk, ih h.2]

theorem mem_values {d : Dict κ ν} {v : ν} : v ∈ d.values ↔ ∃ k, d.get? k = some v := by
  simp [values, ← mem_entries]

theorem get?_set (d : Dict κ ν) (k k' : κ) (v : ν) :
    (d.set k v).get? k' = if k' = k then some v else d.get? k' := by
  obtain ⟨l, h⟩ := d
  simp only [get?, set]
  clear h
  induction l with
  | nil =>
    by_cases hk : k' = k
    · subst hk; simp [setEntries]
    · simp [setEntries, lookup_cons_ne _ _ hk, hk]
  | cons e rest ih =>
    obtain ⟨k₀, v₀⟩ := e
    by_cases h₀ : k₀ = k
    · subst h₀
      by_cases hk : k' = k₀
      · subst hk; simp [setEntries]
      · simp [setEntries, lookup_cons_ne _ _ hk, hk]
    · by_cases hk : k' = k₀
      · subst hk; simp [setEntries, h₀]
      · simp [setEntries, lookup_cons_ne _ _ hk, h₀, ih]

@[simp] theorem get?_set_self (d : Dict κ ν) (k : κ) (v : ν) : (d.set k v).get? k = some v := by
  simp [get?_set]

theorem get?_set_ne (d : Dict κ ν) {k k' : κ} (v : ν) (h : k' ≠ k) :
    (d.set k v).get? k' = d.get? k' := by
  simp [get?_set, h]

/-- A new key goes to the end. -/
theorem entries_set_new {d : Dict κ ν} {k : κ} (absent : d.get? k = none) (v : ν) :
    (d.set k v).entries = d.entries ++ [(k, v)] := by
  obtain ⟨l, h⟩ := d
  simp only [get?, set] at absent ⊢
  clear h
  induction l with
  | nil => rfl
  | cons e rest ih =>
    obtain ⟨k₀, v₀⟩ := e
    by_cases h₀ : k = k₀
    · subst h₀; simp at absent
    · rw [lookup_cons_ne _ _ h₀] at absent
      simp [setEntries, Ne.symm h₀, ih absent]

theorem values_set_new {d : Dict κ ν} {k : κ} (absent : d.get? k = none) (v : ν) :
    (d.set k v).values = d.values ++ [v] := by
  simp [values, entries_set_new absent]

/-- The last write of a key counts. -/
theorem set_set (d : Dict κ ν) (k : κ) (v w : ν) : (d.set k v).set k w = d.set k w := by
  obtain ⟨l, h⟩ := d
  simp only [set, mk.injEq]
  clear h
  induction l with
  | nil => simp [setEntries]
  | cons e rest ih =>
    obtain ⟨k', v'⟩ := e
    by_cases same : k' = k
    · simp [setEntries, same]
    · simp [setEntries, same, ih]

/-- Writing a key that is there replaces its entry. -/
theorem entries_set_old {d : Dict κ ν} {k : κ} {old : ν} (present : d.get? k = some old) (v : ν) :
    (d.set k v).entries = d.entries.map fun e => if e.1 = k then (k, v) else e := by
  obtain ⟨l, h⟩ := d
  simp only [get?, set] at present ⊢
  induction l with
  | nil => cases present
  | cons e rest ih =>
    obtain ⟨k', v'⟩ := e
    by_cases same : k' = k
    · -- The keys are distinct, so the rest stays as it is.
      subst same
      have absent : ∀ e ∈ rest, e.1 ≠ k' := fun e mem eq =>
        (List.nodup_cons.mp h).1 (List.mem_map.mpr ⟨e, mem, eq⟩)
      simp only [setEntries, if_true, List.map_cons, List.cons.injEq, true_and]
      conv_lhs => rw [← List.map_id rest]
      exact List.map_congr_left fun e mem => (if_neg (absent e mem)).symm
    · rw [lookup_cons_ne _ _ (Ne.symm same)] at present
      simp only [setEntries, same, if_false, List.map_cons, List.cons.injEq, true_and]
      exact ih (List.nodup_cons.mp h).2 present

/-- A key that is there can be written before or after another one. -/
theorem set_comm {d : Dict κ ν} {k k' : κ} {old : ν} (present : d.get? k = some old) (ne : k' ≠ k)
    (v v' : ν) : (d.set k v).set k' v' = (d.set k' v').set k v := by
  obtain ⟨l, h⟩ := d
  simp only [get?, set, mk.injEq] at present ⊢
  clear h
  induction l with
  | nil => cases present
  | cons e rest ih =>
    obtain ⟨key, value⟩ := e
    by_cases same : key = k
    · subst same
      simp [setEntries, Ne.symm ne]
    · rw [lookup_cons_ne _ _ (Ne.symm same)] at present
      by_cases same' : key = k'
      · subst same'
        simp [setEntries, same]
      · simp [setEntries, same, same', ih present]

/-- Entries picked by their key, after one key is written. -/
theorem filter_setEntries (p : κ → Bool) (k : κ) (v : ν) (l : List (κ × ν)) :
    (setEntries k v l).filter (p ·.1) =
      if p k then setEntries k v (l.filter (p ·.1)) else l.filter (p ·.1) := by
  induction l with
  | nil => cases h : p k <;> simp [setEntries, h]
  | cons e rest ih =>
    obtain ⟨k', v'⟩ := e
    by_cases same : k' = k
    · subst same
      cases h : p k' <;> simp [setEntries, h]
    · simp only [setEntries, if_neg same, List.filter_cons, ih]
      cases h : p k' <;> cases h' : p k <;> simp [setEntries, same]

theorem get?_erase (d : Dict κ ν) (k k' : κ) :
    (d.erase k).get? k' = if k' = k then none else d.get? k' := by
  obtain ⟨l, h⟩ := d
  simp only [get?, erase]
  clear h
  induction l with
  | nil => simp
  | cons e rest ih =>
    obtain ⟨k₀, v₀⟩ := e
    by_cases h₀ : k₀ = k
    · subst h₀
      by_cases hk : k' = k₀
      · subst hk; simpa using ih
      · simpa [lookup_cons_ne _ _ hk, hk] using ih
    · by_cases hk : k' = k₀
      · subst hk; simp [h₀]
      · simpa [lookup_cons_ne _ _ hk, h₀] using ih

@[simp] theorem get?_erase_self (d : Dict κ ν) (k : κ) : (d.erase k).get? k = none := by
  simp [get?_erase]

theorem get?_erase_ne (d : Dict κ ν) {k k' : κ} (h : k' ≠ k) :
    (d.erase k).get? k' = d.get? k' := by
  simp [get?_erase, h]

theorem get?_foldl_set (keys : List κ) (value : κ → ν) (d : Dict κ ν) (k : κ) :
    (keys.foldl (fun d k => d.set k (value k)) d).get? k =
      if k ∈ keys then some (value k) else d.get? k := by
  induction keys generalizing d with
  | nil => simp
  | cons key keys ih =>
    rw [List.foldl_cons, ih, get?_set]
    by_cases same : k = key <;> by_cases later : k ∈ keys <;> simp [same, later]

theorem get?_foldl_erase (keys : List κ) (d : Dict κ ν) (k : κ) :
    (keys.foldl erase d).get? k = if k ∈ keys then none else d.get? k := by
  induction keys generalizing d with
  | nil => simp
  | cons key keys ih =>
    rw [List.foldl_cons, ih, get?_erase]
    by_cases same : k = key <;> by_cases later : k ∈ keys <;> simp [same, later]

@[simp] theorem get?_mapValues (d : Dict κ ν) (f : κ → ν → μ) (k : κ) :
    (d.mapValues f).get? k = (d.get? k).map (f k) := by
  obtain ⟨l, h⟩ := d
  simp only [get?, mapValues]
  clear h
  induction l with
  | nil => simp
  | cons e rest ih =>
    obtain ⟨k₀, v₀⟩ := e
    by_cases hk : k = k₀
    · subst hk; simp
    · simp [lookup_cons_ne _ _ hk, ih]

@[simp] theorem get?_filterMap (d : Dict κ ν) (f : κ → ν → Option μ) (k : κ) :
    (d.filterMap f).get? k = (d.get? k).bind (f k) := by
  apply Option.ext
  intro w
  rw [← mem_entries, Option.bind_eq_some_iff]
  simp only [filterMap, List.mem_filterMap, Option.map_eq_some_iff, Prod.mk.injEq]
  constructor
  · rintro ⟨⟨k', v⟩, hmem, u, hu, rfl, rfl⟩
    exact ⟨v, mem_entries.mp hmem, hu⟩
  · rintro ⟨v, hv, hw⟩
    exact ⟨(k, v), mem_entries.mpr hv, w, hw, rfl, rfl⟩

end Dict

end CommercePlatform
