import Mathlib.Data.List.Lex
import Mathlib.Data.List.MinMax
import Mathlib.Data.Prod.Lex
import Mathlib.Data.String.Basic
import CommercePlatform.Demo.Repository
import CommercePlatform.Lib.Rank

/-!
The run that the overview shows (`select_overview_run` of `services/overview.py` and the
query of `DemoRunRepository.overview_run`).

Both prefer the active runs, and among them, or else among the completed ones, the newest.
They break a tie in opposite directions: the maximum over `(created_at, str(run_id))` is
the run with the largest id, `ORDER BY .. created_at DESC, run_id` starts with the one
with the smallest.
-/

namespace CommercePlatform.Demo

/-- `ACTIVE_RUN_STATUSES`. -/
def RunStatus.active : RunStatus → Bool
  | pending | starting | running | stopRequested => true
  | _ => false

/-! ### services/overview.py -/

/-- Tuples are compared by their first component, then by their second one. -/
instance newestOrder : Preorder (Int ×ₗ String) := (Prod.Lex.instLinearOrder Int String).toPreorder

/-- The key of `max`. -/
def newestKey (run : UUID × DemoRun) : Int ×ₗ String := toLex (run.2.createdAt, run.1.str)

def selectOverviewRun (runs : List (UUID × DemoRun)) : Option (UUID × DemoRun) :=
  let active := runs.filter fun run => run.2.status.active
  if active.isEmpty then
    (runs.filter fun run => decide (run.2.status = .completed)).argmax newestKey
  else active.argmax newestKey

/-! ### repositories/demo_runs.py -/

/-- `CASE WHEN status IN (..) THEN 0 ELSE 1 END`. -/
def activeRank (run : UUID × DemoRun) : Nat := if run.2.status.active then 0 else 1

/-- `ORDER BY <rank>, created_at DESC, run_id`. -/
def overviewOrder (a b : UUID × DemoRun) : Bool :=
  activeRank a < activeRank b ∨ (activeRank a = activeRank b ∧
    (b.2.createdAt < a.2.createdAt ∨ (a.2.createdAt = b.2.createdAt ∧
      a.1.hex.map Fin.val ≤ b.1.hex.map Fin.val)))

/-- The row that the query of `overview_run` selects; the run is then refreshed. -/
def DemoRuns.overviewRow (rows : DemoRuns) : Option (UUID × DemoRun) :=
  ((rows.entries.filter fun run =>
    run.2.status.active || decide (run.2.status = .completed)).mergeSort overviewOrder).head?

/-! ### Identifiers and their texts -/

theorem lt_of_map_lt {α β γ : Type} [LT β] [LT γ] {f : α → β} {g : α → γ}
    (injective : Function.Injective f) (mono : ∀ x y, f x < f y → g x < g y) {l l' : List α}
    (less : l.map f < l'.map f) : l.map g < l'.map g := by
  induction l generalizing l' with
  | nil =>
    cases l' with
    | nil => exact absurd less (List.not_lt_nil _)
    | cons y l' => exact List.Lex.nil
  | cons x l ih =>
    cases l' with
    | nil => exact absurd less (List.not_lt_nil _)
    | cons y l' =>
      rw [List.map_cons, List.map_cons, List.cons_lt_cons_iff] at less ⊢
      rcases less with first | ⟨same, rest⟩
      · exact Or.inl (mono x y first)
      · exact Or.inr ⟨by rw [injective same], ih rest⟩

/-- Dashes that stand in the same places do not decide a comparison. -/
theorem filter_dash_lt {l l' : List Char}
    (aligned : List.Forall₂ (fun c d => c = '-' ↔ d = '-') l l') (less : l < l') :
    l.filter (· ≠ '-') < l'.filter (· ≠ '-') := by
  induction aligned with
  | nil => exact absurd less (List.not_lt_nil _)
  | @cons c d l l' same aligned ih =>
    rw [List.cons_lt_cons_iff] at less
    by_cases dash : c = '-'
    · have dash' := same.mp dash
      subst dash dash'
      rcases less with first | ⟨-, rest⟩
      · exact absurd first (lt_irrefl _)
      · simpa using ih rest
    · have dash' : d ≠ '-' := fun e => dash (same.mpr e)
      rw [List.filter_cons_of_pos (by simpa using dash),
        List.filter_cons_of_pos (by simpa using dash'), List.cons_lt_cons_iff]
      rcases less with first | ⟨first, rest⟩
      · exact Or.inl first
      · exact Or.inr ⟨first, ih rest⟩

theorem aligned_digits {l l' : List (Fin 16)} (length : l.length = l'.length) :
    List.Forall₂ (fun c d => c = '-' ↔ d = '-') (l.map UUID.hexDigit) (l'.map UUID.hexDigit) := by
  induction l generalizing l' with
  | nil =>
    obtain rfl := List.length_eq_zero_iff.mp length.symm
    exact .nil
  | cons x l ih =>
    cases l' with
    | nil => cases length
    | cons y l' =>
      refine .cons ?_ (ih (Nat.succ.inj length))
      exact iff_of_false (UUID.hexDigit_ne_dash x) (UUID.hexDigit_ne_dash y)

theorem aligned_chars (u v : UUID) :
    List.Forall₂ (fun c d => c = '-' ↔ d = '-') u.chars v.chars := by
  have piece : ∀ n m, List.Forall₂ (fun c d => c = '-' ↔ d = '-')
      (((u.hex.map UUID.hexDigit).drop n).take m) (((v.hex.map UUID.hexDigit).drop n).take m) := by
    intro n m
    simp only [← List.map_drop, ← List.map_take]
    exact aligned_digits (by simp [u.length_eq, v.length_eq])
  have last : List.Forall₂ (fun c d => c = '-' ↔ d = '-')
      ((u.hex.map UUID.hexDigit).drop 20) ((v.hex.map UUID.hexDigit).drop 20) := by
    simp only [← List.map_drop]
    exact aligned_digits (by simp [u.length_eq, v.length_eq])
  exact List.rel_append (piece 0 8) (.cons Iff.rfl (List.rel_append (piece 8 4) (.cons Iff.rfl
    (List.rel_append (piece 12 4) (.cons Iff.rfl (List.rel_append (piece 16 4)
      (.cons Iff.rfl last)))))))

/-- The texts of identifiers are ordered as their digits are. -/
theorem hex_lt_of_str_lt {u v : UUID} (less : u.str < v.str) :
    u.hex.map Fin.val < v.hex.map Fin.val := by
  rw [String.lt_iff_toList_lt, UUID.str, UUID.str, String.toList_ofList, String.toList_ofList] at less
  have digits := filter_dash_lt (aligned_chars u v) less
  rw [UUID.filter_dash_chars, UUID.filter_dash_chars] at digits
  exact lt_of_map_lt UUID.hexDigit_injective (by decide) digits

/-! ### What both choose from -/

/-- The active runs, or the completed ones if there are none. -/
def candidates (runs : List (UUID × DemoRun)) : List (UUID × DemoRun) :=
  let active := runs.filter fun run => run.2.status.active
  if active.isEmpty then runs.filter fun run => decide (run.2.status = .completed) else active

/-- No candidate was created together with the newest one. -/
def Untied (runs : List (UUID × DemoRun)) : Prop :=
  ∀ a ∈ candidates runs, ∀ b ∈ candidates runs,
    (∀ c ∈ candidates runs, c.2.createdAt ≤ a.2.createdAt) → b.2.createdAt = a.2.createdAt → b = a

section

variable {runs : List (UUID × DemoRun)} {rows : DemoRuns} {a b : UUID × DemoRun}

theorem mem_candidates : a ∈ candidates runs ↔ a ∈ runs ∧
    (a.2.status.active = true ∨
      a.2.status = .completed ∧ ∀ b ∈ runs, b.2.status.active = false) := by
  cases none_ : (runs.filter fun run => run.2.status.active).isEmpty with
  | true =>
    rw [List.isEmpty_iff, List.filter_eq_nil_iff] at none_
    have quiet : ∀ b ∈ runs, b.2.status.active = false :=
      fun b mem => Bool.eq_false_of_not_eq_true (none_ b mem)
    simp only [candidates, List.isEmpty_iff.mpr (List.filter_eq_nil_iff.mpr none_), if_true,
      List.mem_filter, decide_eq_true_eq]
    constructor
    · rintro ⟨mem, completed⟩
      exact ⟨mem, Or.inr ⟨completed, quiet⟩⟩
    · rintro ⟨mem, active | ⟨completed, -⟩⟩
      · rw [quiet a mem] at active
        cases active
      · exact ⟨mem, completed⟩
  | false =>
    simp only [candidates, none_, Bool.false_eq_true, if_false, List.mem_filter]
    constructor
    · rintro ⟨mem, active⟩
      exact ⟨mem, Or.inl active⟩
    · rintro ⟨mem, active | ⟨-, quiet⟩⟩
      · exact ⟨mem, active⟩
      · have empty : (runs.filter fun run => run.2.status.active) = [] :=
          List.filter_eq_nil_iff.mpr fun b inside => by simp [quiet b inside]
        rw [empty] at none_
        cases none_

/-- The candidates do not depend on the order of the runs. -/
theorem mem_candidates_perm {runs' : List (UUID × DemoRun)} (same : runs.Perm runs') :
    a ∈ candidates runs ↔ a ∈ candidates runs' := by
  simp only [mem_candidates, same.mem_iff]

/-- `select_overview_run` takes the candidate with the largest key. -/
theorem selectOverviewRun_eq : selectOverviewRun runs = (candidates runs).argmax newestKey := by
  simp only [selectOverviewRun, candidates]
  split <;> rfl

theorem selectOverviewRun_some (selected : selectOverviewRun runs = some a) :
    a ∈ candidates runs ∧ ∀ b ∈ candidates runs, newestKey b ≤ newestKey a := by
  rw [selectOverviewRun_eq] at selected
  exact ⟨List.argmax_mem selected, fun b mem => List.le_of_mem_argmax mem selected⟩

/-- The columns of `ORDER BY`, all in ascending order. -/
def overviewKey (run : UUID × DemoRun) : Nat ×ₗ Int ×ₗ List Nat :=
  toLex (activeRank run, toLex (-run.2.createdAt, run.1.hex.map Fin.val))

theorem overviewOrder_iff : overviewOrder a b = true ↔ overviewKey a ≤ overviewKey b := by
  simp [overviewOrder, overviewKey, Prod.Lex.toLex_le_toLex]

theorem overviewOrder_trans (a b c : UUID × DemoRun) (first : overviewOrder a b = true)
    (next : overviewOrder b c = true) : overviewOrder a c = true := by
  rw [overviewOrder_iff] at *
  exact first.trans next

theorem overviewOrder_total (a b : UUID × DemoRun) :
    (overviewOrder a b || overviewOrder b a) = true := by
  rw [Bool.or_eq_true, overviewOrder_iff, overviewOrder_iff]
  exact le_total _ _

/-- The query takes a candidate as well: one before which no other comes. -/
theorem overviewRow_some (selected : rows.overviewRow = some a) :
    a ∈ candidates rows.entries ∧ ∀ b ∈ candidates rows.entries,
      b.2.createdAt < a.2.createdAt ∨ a.2.createdAt = b.2.createdAt ∧
        a.1.hex.map Fin.val ≤ b.1.hex.map Fin.val := by
  obtain ⟨mem, before⟩ := head?_mergeSort overviewOrder_trans overviewOrder_total selected
  obtain ⟨inside, listed⟩ := List.mem_filter.mp mem
  rw [Bool.or_eq_true, decide_eq_true_eq] at listed
  have ranks : ∀ b ∈ rows.entries, b.2.status.active = true → a.2.status.active = true := by
    intro b present active
    have first := before b (List.mem_filter.mpr ⟨present, by simp [active]⟩)
    by_contra idle
    simp [overviewOrder, activeRank, active, idle] at first
  constructor
  · refine mem_candidates.mpr ⟨inside, ?_⟩
    rcases listed with active | completed
    · exact Or.inl active
    · refine Or.inr ⟨completed, fun b present => ?_⟩
      by_contra active
      have running := ranks b present (by simpa using active)
      rw [completed] at running
      cases running
  · intro b candidate
    obtain ⟨present, kind⟩ := mem_candidates.mp candidate
    have first := before b (List.mem_filter.mpr ⟨present, by
      rcases kind with active | ⟨completed, -⟩
      · simp [active]
      · simp [completed]⟩)
    have level : activeRank a = activeRank b := by
      rcases kind with active | ⟨completed, quiet⟩
      · simp [activeRank, active, ranks b present active]
      · simp [activeRank, quiet a inside, quiet b present]
    simpa [overviewOrder, level] using first

/-- Both find nothing exactly where there is no candidate. -/
theorem overviewRow_none : rows.overviewRow = none ↔ candidates rows.entries = [] := by
  constructor
  · intro none_
    rw [DemoRuns.overviewRow, List.head?_eq_none_iff] at none_
    have perm := List.mergeSort_perm (rows.entries.filter fun run =>
      run.2.status.active || decide (run.2.status = .completed)) overviewOrder
    rw [none_] at perm
    refine List.eq_nil_iff_forall_not_mem.mpr fun a candidate => ?_
    obtain ⟨present, kind⟩ := mem_candidates.mp candidate
    have listed := perm.mem_iff.mpr (List.mem_filter.mpr ⟨present, by
      rcases kind with active | ⟨completed, -⟩
      · simp [active]
      · simp [completed]⟩)
    cases listed
  · intro none_
    cases selected : rows.overviewRow with
    | none => rfl
    | some a =>
      have candidate := (overviewRow_some selected).1
      rw [none_] at candidate
      cases candidate

theorem selectOverviewRun_none : selectOverviewRun runs = none ↔ candidates runs = [] := by
  rw [selectOverviewRun_eq, List.argmax_eq_none]

/-- A candidate while some run is active is active. -/
theorem candidate_active (candidate : a ∈ candidates runs)
    (some_ : ∃ run ∈ runs, run.2.status.active = true) : a.2.status.active = true := by
  obtain ⟨b, present, active⟩ := some_
  rcases (mem_candidates.mp candidate).2 with active' | ⟨-, quiet⟩
  · exact active'
  · rw [quiet b present] at active
    cases active

/-- The newest by the one key is the newest by the other. -/
theorem newest_of_key (largest : ∀ b ∈ candidates runs, newestKey b ≤ newestKey a) :
    ∀ b ∈ candidates runs, b.2.createdAt ≤ a.2.createdAt := by
  intro b candidate
  rcases Prod.Lex.toLex_le_toLex.mp (largest b candidate) with less | ⟨same, -⟩
  · exact less.le
  · exact same.le

end

/-! ### Every set of runs -/

/-- In whatever order the runs are handed over, both selections find the same run, or none,
and an active one whenever there is one, if and only if the newest candidate has a
creation time of its own. -/
theorem overview_agrees_iff (rows : DemoRuns) {runs : List (UUID × DemoRun)}
    (same : runs.Perm rows.entries) :
    (selectOverviewRun runs = rows.overviewRow ∧
      ((∃ run ∈ runs, run.2.status.active = true) →
        ∃ a b, selectOverviewRun runs = some a ∧ rows.overviewRow = some b ∧
          a.2.status.active = true ∧ b.2.status.active = true)) ↔ Untied rows.entries := by
  have unique : ∀ a ∈ candidates rows.entries, ∀ b ∈ candidates rows.entries, a.1 = b.1 → a = b := by
    intro a inA b inB key
    have foundA := Dict.mem_entries.mp (mem_candidates.mp inA).1
    have foundB := Dict.mem_entries.mp (mem_candidates.mp inB).1
    rw [key, foundB] at foundA
    exact Prod.ext key (Option.some.inj foundA).symm
  constructor
  · rintro ⟨agree, -⟩ a inA b inB newest tied
    cases selected : rows.overviewRow with
    | none =>
      rw [overviewRow_none.mp selected] at inA
      cases inA
    | some r =>
      obtain ⟨inR, first⟩ := overviewRow_some selected
      obtain ⟨-, largest⟩ := selectOverviewRun_some (agree.trans selected)
      -- Whoever is as new as `r` has an id both below and above that of `r`.
      have is_r : ∀ c ∈ candidates rows.entries, c.2.createdAt = r.2.createdAt → c = r := by
        intro c inC level
        refine unique c inC r inR (UUID.str_injective ?_)
        have below : c.1.str ≤ r.1.str := by
          rcases Prod.Lex.toLex_le_toLex.mp
            (largest c ((mem_candidates_perm same).mpr inC)) with less | ⟨-, le⟩
          · exact absurd level less.ne
          · exact le
        have above : r.1.hex.map Fin.val ≤ c.1.hex.map Fin.val := by
          rcases first c inC with less | ⟨-, le⟩
          · exact absurd level less.ne
          · exact le
        refine le_antisymm below (le_of_not_gt fun less => ?_)
        exact absurd (hex_lt_of_str_lt less) (not_lt_of_ge above)
      have level : a.2.createdAt = r.2.createdAt := by
        refine le_antisymm ?_ (newest r inR)
        rcases first a inA with less | ⟨e, -⟩
        · exact less.le
        · exact e.symm.le
      rw [is_r a inA level, is_r b inB (tied.trans level)]
  · intro untied
    cases chosen : selectOverviewRun runs with
    | none =>
      have empty : candidates rows.entries = [] := by
        refine List.eq_nil_iff_forall_not_mem.mpr fun a inA => ?_
        have inside := (mem_candidates_perm same).mpr inA
        rw [selectOverviewRun_none.mp chosen] at inside
        cases inside
      refine ⟨(overviewRow_none.mpr empty).symm, fun ⟨run, present, active⟩ => ?_⟩
      have candidate := mem_candidates.mpr ⟨same.mem_iff.mp present, Or.inl active⟩
      rw [empty] at candidate
      cases candidate
    | some a =>
      obtain ⟨inside, largest⟩ := selectOverviewRun_some chosen
      have inA := (mem_candidates_perm same).mp inside
      cases selected : rows.overviewRow with
      | none =>
        rw [overviewRow_none.mp selected] at inA
        cases inA
      | some b =>
        obtain ⟨inB, first⟩ := overviewRow_some selected
        have newest : ∀ c ∈ candidates rows.entries, c.2.createdAt ≤ a.2.createdAt :=
          fun c inC => newest_of_key largest c ((mem_candidates_perm same).mpr inC)
        have level : b.2.createdAt = a.2.createdAt := by
          refine le_antisymm (newest b inB) ?_
          rcases first a inA with less | ⟨e, -⟩
          · exact less.le
          · exact e.symm.le
        obtain rfl := untied a inA b inB newest level
        refine ⟨rfl, fun some_ => ⟨b, b, rfl, rfl, ?_, ?_⟩⟩ <;>
          exact candidate_active inside some_

section

def completedRun (scenarioType : ScenarioType) : DemoRun :=
  { status := .completed, parameters := { scenarioType }, createdAt := 0, updatedAt := 0 }

/-- Two completed runs of the same instant. -/
def tiedRuns : DemoRuns :=
  (Dict.set ∅ (.ofNat 1) (completedRun .normal)).set (.ofNat 2) (completedRun .bot)

/-- The one with the larger id is chosen here, and the query does not choose it. -/
theorem not_overview_agrees :
    selectOverviewRun tiedRuns.entries = some (.ofNat 2, completedRun .bot) ∧
      selectOverviewRun tiedRuns.entries ≠ tiedRuns.overviewRow := by
  have chosen : selectOverviewRun tiedRuns.entries = some (.ofNat 2, completedRun .bot) := by
    decide +kernel
  refine ⟨chosen, fun agree => ?_⟩
  have smaller : (UUID.ofNat 1, completedRun .normal) ∈ candidates tiedRuns.entries := by
    decide +kernel
  have first := (overviewRow_some (agree.symm.trans chosen)).2 _ smaller
  exact absurd first (by decide +kernel)

/-- A running and a completed run. -/
def oneRunning : DemoRuns :=
  (Dict.set ∅ (.ofNat 1) (completedRun .normal)).set (.ofNat 2)
    { status := .running, parameters := { scenarioType := .bot }, createdAt := 0, updatedAt := 0 }

theorem overview_agrees_iff_running :
    (selectOverviewRun oneRunning.entries.reverse).map (·.1) = some (.ofNat 2) ∧
      selectOverviewRun oneRunning.entries.reverse = oneRunning.overviewRow := by
  refine ⟨by decide +kernel, ((overview_agrees_iff oneRunning (List.reverse_perm _)).mpr ?_).1⟩
  have single : candidates oneRunning.entries = [(.ofNat 2,
      { status := .running, parameters := { scenarioType := .bot }, createdAt := 0
        updatedAt := 0 })] := by decide +kernel
  intro a inA b inB _ _
  rw [single] at inA inB
  rw [List.mem_singleton.mp inA, List.mem_singleton.mp inB]

end

end CommercePlatform.Demo
