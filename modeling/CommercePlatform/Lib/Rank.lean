import Mathlib.Data.List.Basic
import Mathlib.Data.List.Nodup

/-!
Ranks in a sorted list.

`ORDER BY .. LIMIT n` keeps an element exactly when fewer than `n` others come before
it, and does not look at what the order does not compare.
-/

namespace CommercePlatform

variable {α β : Type} [DecidableEq α] {le : α → α → Bool}

/-- The elements that come before `x`. -/
def before (le : α → α → Bool) (l : List α) (x : α) : List α :=
  l.filter fun y => decide (y ≠ x) && le y x

/-- An element is among the first `n` when fewer than `n` come before it. -/
theorem mem_take_mergeSort (trans : ∀ a b c, le a b → le b c → le a c)
    (total : ∀ a b, le a b || le b a) {l : List α} (nodup : l.Nodup)
    (antisymm : ∀ a ∈ l, ∀ b ∈ l, le a b → le b a → a = b) {x : α} (mem : x ∈ l) (n : Nat) :
    x ∈ (l.mergeSort le).take n ↔ (before le l x).length < n := by
  have perm := List.mergeSort_perm l le
  have sorted := List.pairwise_mergeSort trans total l
  have distinct : (l.mergeSort le).Nodup := perm.nodup_iff.mpr nodup
  have count : (before le l x).length = (before le (l.mergeSort le) x).length :=
    ((perm.filter _).length_eq).symm
  obtain ⟨first, last, split⟩ := List.mem_iff_append.mp (perm.mem_iff.mpr mem)
  have inside : ∀ y, y ∈ l.mergeSort le → y ∈ l := fun y => perm.mem_iff.mp
  rw [count]
  rw [split] at sorted distinct inside ⊢
  rw [List.pairwise_append] at sorted
  have notFirst : x ∉ first := fun h => (List.nodup_append.mp distinct).2.2 x h x (by simp) rfl
  have notLast : x ∉ last := (List.nodup_cons.mp (List.nodup_append.mp distinct).2.1).1
  have early : before le first x = first := by
    refine List.filter_eq_self.mpr fun y h => ?_
    have ne : y ≠ x := fun same => notFirst (same ▸ h)
    simpa [ne] using sorted.2.2 y h x (by simp)
  have late : before le (x :: last) x = [] := by
    refine List.filter_eq_nil_iff.mpr fun y h => ?_
    rcases List.mem_cons.mp h with rfl | h
    · simp
    · intro smaller
      simp only [Bool.and_eq_true, decide_eq_true_eq] at smaller
      have larger : le x y := (List.pairwise_cons.mp sorted.2.1).1 y h
      exact smaller.1 (antisymm y (inside y (by simp [h])) x (inside x (by simp)) smaller.2 larger)
  have length : (before le (first ++ x :: last) x).length = first.length := by
    rw [before, List.filter_append, ← before, ← before, early, late, List.append_nil]
  rw [length, List.take_append]
  constructor
  · intro found
    by_contra long
    have none_ : n - first.length = 0 := by omega
    rw [none_, List.take_zero, List.append_nil] at found
    exact notFirst (List.mem_of_mem_take found)
  · intro short
    refine List.mem_append_right _ ?_
    obtain ⟨m, eq⟩ : ∃ m, n - first.length = m + 1 := ⟨n - first.length - 1, by omega⟩
    rw [eq, List.take_succ_cons]
    exact List.mem_cons_self

/-! ### Initial segments of the order -/

omit [DecidableEq α] in
/-- Of a sorted list, a property that passes to earlier elements keeps a beginning: it does
not matter whether the list is cut before or after. -/
theorem filter_take_of_sorted {l : List α} (sorted : l.Pairwise fun a b => le a b = true)
    {q : α → Bool} (initial : ∀ a ∈ l, ∀ b ∈ l, le a b → q b → q a) (n : Nat) :
    (l.take n).filter q = (l.filter q).take n := by
  induction l generalizing n with
  | nil => simp
  | cons a l ih =>
    obtain ⟨first, rest⟩ := List.pairwise_cons.mp sorted
    cases n with
    | zero => simp
    | succ n =>
      rw [List.take_succ_cons]
      by_cases holds : q a = true
      · rw [List.filter_cons_of_pos holds, List.filter_cons_of_pos holds, List.take_succ_cons]
        rw [ih rest fun b hb c hc => initial b (.tail a hb) c (.tail a hc)]
      · have none_ : ∀ b ∈ l, ¬ q b = true :=
          fun b hb later => holds (initial a (.head l) b (.tail a hb) (first b hb) later)
        rw [List.filter_cons_of_neg holds, List.filter_cons_of_neg holds,
          List.filter_eq_nil_iff.mpr none_,
          List.filter_eq_nil_iff.mpr fun b hb => none_ b (List.mem_of_mem_take hb), List.take_nil]

omit [DecidableEq α] in
/-- Filtering commutes with sorting where the order is antisymmetric. -/
theorem filter_mergeSort (trans : ∀ a b c, le a b → le b c → le a c)
    (total : ∀ a b, le a b || le b a) {l : List α}
    (antisymm : ∀ a ∈ l, ∀ b ∈ l, le a b → le b a → a = b) (q : α → Bool) :
    (l.mergeSort le).filter q = (l.filter q).mergeSort le := by
  have perm := List.mergeSort_perm l le
  refine @List.Perm.eq_of_pairwise α (fun a b => le a b = true) _ _ ?_
    ((List.pairwise_mergeSort trans total l).filter q)
    (List.pairwise_mergeSort trans total (l.filter q))
    ((perm.filter q).trans (List.mergeSort_perm _ le).symm)
  intro a b ha hb
  have inA : a ∈ l := perm.mem_iff.mp (List.mem_filter.mp ha).1
  have inB : b ∈ l := (List.mem_filter.mp ((List.mergeSort_perm _ le).mem_iff.mp hb)).1
  exact antisymm a inA b inB

omit [DecidableEq α] in
/-- `ORDER BY .. LIMIT n` followed by a filter that keeps a beginning of the order. -/
theorem filter_take_mergeSort (trans : ∀ a b c, le a b → le b c → le a c)
    (total : ∀ a b, le a b || le b a) {l : List α}
    (antisymm : ∀ a ∈ l, ∀ b ∈ l, le a b → le b a → a = b) {q : α → Bool}
    (initial : ∀ a ∈ l, ∀ b ∈ l, le a b → q b → q a) (n : Nat) :
    ((l.mergeSort le).take n).filter q = ((l.filter q).mergeSort le).take n := by
  have inside : ∀ a, a ∈ l.mergeSort le → a ∈ l := fun a => (List.mergeSort_perm l le).mem_iff.mp
  rw [← filter_mergeSort trans total antisymm]
  exact filter_take_of_sorted (List.pairwise_mergeSort trans total l)
    (fun a ha b hb => initial a (inside a ha) b (inside b hb)) n

/-! ### The first of the order -/

omit [DecidableEq α] in
/-- `ORDER BY .. LIMIT 1`: an element that comes before all others. -/
theorem head?_mergeSort (trans : ∀ a b c, le a b → le b c → le a c)
    (total : ∀ a b, le a b || le b a) {l : List α} {x : α}
    (first : (l.mergeSort le).head? = some x) : x ∈ l ∧ ∀ y ∈ l, le x y = true := by
  have perm := List.mergeSort_perm l le
  have sorted := List.pairwise_mergeSort trans total l
  obtain ⟨rest, split⟩ := List.head?_eq_some_iff.mp first
  rw [split] at perm sorted
  refine ⟨perm.mem_iff.mp List.mem_cons_self, fun y mem => ?_⟩
  rcases List.mem_cons.mp (perm.mem_iff.mpr mem) with rfl | later
  · simpa using total y y
  · exact (List.pairwise_cons.mp sorted).1 y later

end CommercePlatform
