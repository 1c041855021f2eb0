import Mathlib.Algebra.BigOperators.Group.List.Basic
import Mathlib.Algebra.Ring.Nat
import Mathlib.Data.List.Count
import CommercePlatform.Lib.Dict

/-!
Counters: `collections.Counter` as a dictionary of numbers.

A key that was never counted has the count 0. `count_update` and `total_update` say what
counting a list adds, key by key and in all.
-/

namespace CommercePlatform

abbrev Counter (κ : Type*) := Dict κ Nat

namespace Counter

variable {κ : Type*} [DecidableEq κ]

def count (c : Counter κ) (k : κ) : Nat := (c.get? k).getD 0

/-- `c[k] += 1`. -/
def inc (c : Counter κ) (k : κ) : Counter κ := c.set k (count c k + 1)

/-- `c.update(ks)`. -/
def update (c : Counter κ) (ks : List κ) : Counter κ := ks.foldl inc c

/-- `sum(c.values())`. -/
def total (c : Counter κ) : Nat := c.values.sum

@[simp] theorem count_empty (k : κ) : count (∅ : Counter κ) k = 0 := rfl

omit [DecidableEq κ] in
@[simp] theorem total_empty : total (∅ : Counter κ) = 0 := rfl

theorem count_inc (c : Counter κ) (k x : κ) :
    count (inc c k) x = count c x + if k = x then 1 else 0 := by
  unfold count inc
  rw [Dict.get?_set]
  by_cases same : x = k
  · simp [same, count]
  · simp [same, Ne.symm same]

theorem sum_setEntries {k : κ} {v old : Nat} {l : List (κ × Nat)} (found : l.lookup k = some old) :
    ((Dict.setEntries k v l).map Prod.snd).sum + old = (l.map Prod.snd).sum + v := by
  induction l with
  | nil => cases found
  | cons e rest ih =>
    obtain ⟨k', v'⟩ := e
    by_cases same : k' = k
    · subst same
      rw [List.lookup_cons_self, Option.some.injEq] at found
      subst found
      simp [Dict.setEntries]
      omega
    · rw [Dict.lookup_cons_ne _ _ (Ne.symm same)] at found
      simp only [Dict.setEntries, same, if_false, List.map_cons, List.sum_cons]
      have := ih found
      omega

theorem total_inc (c : Counter κ) (k : κ) : total (inc c k) = total c + 1 := by
  cases found : c.get? k with
  | none =>
    have new := Dict.values_set_new found (count c k + 1)
    rw [total, inc, new, List.sum_append, count, found]
    simp [total]
  | some old =>
    have sums := sum_setEntries (v := count c k + 1) found
    have counted : count c k = old := by rw [count, found]; rfl
    change ((Dict.setEntries k (count c k + 1) c.entries).map Prod.snd).sum = _
    change _ = (c.entries.map Prod.snd).sum + 1
    omega

theorem update_append (c : Counter κ) (ks ks' : List κ) :
    update c (ks ++ ks') = update (update c ks) ks' :=
  List.foldl_append

theorem count_update (c : Counter κ) (ks : List κ) (x : κ) :
    count (update c ks) x = count c x + ks.count x := by
  induction ks generalizing c with
  | nil => simp [update]
  | cons k ks ih =>
    have step : update c (k :: ks) = update (inc c k) ks := rfl
    rw [step, ih, count_inc, List.count_cons]
    by_cases same : k = x
    · simp [same]
      omega
    · simp [same]

theorem total_update (c : Counter κ) (ks : List κ) : total (update c ks) = total c + ks.length := by
  induction ks generalizing c with
  | nil => simp [update]
  | cons k ks ih =>
    have step : update c (k :: ks) = update (inc c k) ks := rfl
    rw [step, ih, total_inc, List.length_cons]
    omega

end Counter

end CommercePlatform
