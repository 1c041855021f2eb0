import CommercePlatform.Consumer.EventConsumer
import CommercePlatform.Lib.Machine

/-!
The rebalancing callbacks and the gauge of assigned partitions.

With `cooperative-sticky` a callback carries the partitions that are added or taken away,
possibly none. `on_assign` sets `processor_assigned` to the number of partitions it was
called with and `on_revoke` sets it to 0, as if each callback carried the whole
assignment; so the gauge is right exactly where it does.
-/

namespace CommercePlatform.Consumer

open Offset

/-- A consumer of the group: the gauge `processor_assigned`, and the partitions that it
owns according to the callbacks. -/
structure Member where
  consumer : EventConsumer
  assigned : Nat := 0
  owned : List PartitionKey := []

inductive Callback where
  | assign (keys : List PartitionKey)
  | revoke (keys : List PartitionKey) (reply : CommitReply)

namespace Member

/-- `on_assign`, with its metrics. -/
def onAssign (m : Member) (keys : List PartitionKey) : Member :=
  { consumer := m.consumer.onAssign keys
    assigned := keys.length
    owned := m.owned ++ keys }

/-- `on_revoke`, with its metrics. -/
def onRevoke (m : Member) (keys : List PartitionKey) (reply : CommitReply) : Member :=
  { consumer := (m.consumer.onRevoke keys reply).consumer
    assigned := 0
    owned := m.owned.filter fun k => decide (k ∉ keys) }

/-- The group adds partitions that the member does not own, and takes away ones that it
does. -/
def step (m : Member) : Callback → Option Member
  | .assign keys => if keys.Nodup ∧ ∀ k ∈ keys, k ∉ m.owned then some (m.onAssign keys) else none
  | .revoke keys reply =>
    if keys.Nodup ∧ ∀ k ∈ keys, k ∈ m.owned then some (m.onRevoke keys reply) else none

def machine : Machine Member Callback := ⟨step⟩

/-- The callback carries the whole assignment: nothing was owned before, or nothing is
left. -/
def Whole (m : Member) : Callback → Prop
  | .assign _ => m.owned = []
  | .revoke keys _ => ∀ k ∈ m.owned, k ∈ keys

instance (m : Member) : ∀ a, Decidable (m.Whole a)
  | .assign _ => inferInstanceAs (Decidable (m.owned = []))
  | .revoke keys _ => inferInstanceAs (Decidable (∀ k ∈ m.owned, k ∈ keys))

end Member

/-- The partition was revoked, and not assigned again since. -/
def RevokedSince (k : PartitionKey) (callbacks : List Callback) : Prop :=
  ∃ before keys reply after, callbacks = before ++ .revoke keys reply :: after ∧ k ∈ keys ∧
    ∀ keys', .assign keys' ∈ after → k ∉ keys'

/-- What holds after the callbacks. -/
structure Tracks (callbacks : List Callback) (m : Member) : Prop where
  gauge : m.assigned = m.owned.length
  revoked : ∀ k, k ∈ m.consumer.revoked ↔ RevokedSince k callbacks

/-! ### The revoked partitions -/

theorem not_revokedSince_nil (k : PartitionKey) : ¬ RevokedSince k [] := by
  rintro ⟨before, keys, reply, after, split, -⟩
  cases before <;> cases split

theorem revokedSince_assign {k : PartitionKey} {callbacks : List Callback}
    {keys : List PartitionKey} :
    RevokedSince k (callbacks ++ [.assign keys]) ↔ RevokedSince k callbacks ∧ k ∉ keys := by
  constructor
  · rintro ⟨before, keys', reply, after, split, mem, since⟩
    rcases List.eq_nil_or_concat after with rfl | ⟨rest, last, rfl⟩
    · cases (List.append_inj' split rfl).2
    · rw [List.concat_eq_append, ← List.cons_append, ← List.append_assoc] at split
      obtain ⟨rfl, same⟩ := List.append_inj' split rfl
      obtain rfl := List.singleton_inj.mp same
      refine ⟨⟨before, keys', reply, rest, rfl, mem, fun later inside => ?_⟩, ?_⟩
      · exact since later (by simp [inside])
      · exact since keys (by simp)
  · rintro ⟨⟨before, keys', reply, after, rfl, mem, since⟩, absent⟩
    refine ⟨before, keys', reply, after ++ [.assign keys], by simp, mem, fun later inside => ?_⟩
    rcases List.mem_append.mp inside with old | new
    · exact since later old
    · cases List.mem_singleton.mp new
      exact absent

theorem revokedSince_revoke {k : PartitionKey} {callbacks : List Callback}
    {keys : List PartitionKey} {reply : CommitReply} :
    RevokedSince k (callbacks ++ [.revoke keys reply]) ↔ RevokedSince k callbacks ∨ k ∈ keys := by
  constructor
  · rintro ⟨before, keys', reply', after, split, mem, since⟩
    rcases List.eq_nil_or_concat after with rfl | ⟨rest, last, rfl⟩
    · cases (List.append_inj' split rfl).2
      exact Or.inr mem
    · rw [List.concat_eq_append, ← List.cons_append, ← List.append_assoc] at split
      obtain ⟨rfl, same⟩ := List.append_inj' split rfl
      refine Or.inl ⟨before, keys', reply', rest, rfl, mem, fun later inside => ?_⟩
      exact since later (by simp [inside])
  · rintro (⟨before, keys', reply', after, rfl, mem, since⟩ | mem)
    · refine ⟨before, keys', reply', after ++ [.revoke keys reply], by simp, mem, ?_⟩
      intro later inside
      rcases List.mem_append.mp inside with old | new
      · exact since later old
      · cases List.mem_singleton.mp new
    · exact ⟨callbacks, keys, reply, [], rfl, mem, nofun⟩

/-! ### Callbacks -/

namespace Member

variable {m t : Member} {a : Callback} {callbacks : List Callback}

theorem step_revoked (stepped : m.step a = some t)
    (before : ∀ k, k ∈ m.consumer.revoked ↔ RevokedSince k callbacks) (k : PartitionKey) :
    k ∈ t.consumer.revoked ↔ RevokedSince k (callbacks ++ [a]) := by
  cases a with
  | assign keys =>
    simp only [step, Option.ite_none_right_eq_some, Option.some.injEq] at stepped
    obtain ⟨-, rfl⟩ := stepped
    rw [revokedSince_assign, ← before]
    simp [onAssign, EventConsumer.onAssign]
  | revoke keys reply =>
    simp only [step, Option.ite_none_right_eq_some, Option.some.injEq] at stepped
    obtain ⟨-, rfl⟩ := stepped
    rw [revokedSince_revoke, ← before]
    simp [onRevoke, EventConsumer.onRevoke]

/-- `_revoked` holds the partitions that were revoked and not assigned again since. -/
theorem run_revoked {start : Member} (fresh : start.consumer.revoked = [])
    (ran : machine.run start callbacks = some t) (k : PartitionKey) :
    k ∈ t.consumer.revoked ↔ RevokedSince k callbacks := by
  induction callbacks using List.reverseRecOn generalizing t k with
  | nil =>
    cases ran
    simp [fresh, not_revokedSince_nil]
  | append_singleton callbacks a ih =>
    obtain ⟨u, before, stepped⟩ := machine.run_concat.mp ran
    exact step_revoked stepped (fun k => ih before k) k

/-- The gauge is right after a callback that carries the whole assignment, and only then. -/
theorem step_gauge (stepped : m.step a = some t) : t.assigned = t.owned.length ↔ m.Whole a := by
  cases a with
  | assign keys =>
    simp only [step, Option.ite_none_right_eq_some, Option.some.injEq] at stepped
    obtain ⟨-, rfl⟩ := stepped
    rw [Whole, ← List.length_eq_zero_iff]
    simp only [onAssign, List.length_append]
    omega
  | revoke keys reply =>
    simp only [step, Option.ite_none_right_eq_some, Option.some.injEq] at stepped
    obtain ⟨-, rfl⟩ := stepped
    have none_ : (onRevoke m keys reply).owned.length = 0 ↔ ∀ k ∈ m.owned, k ∈ keys := by
      rw [List.length_eq_zero_iff]
      simp [onRevoke, List.filter_eq_nil_iff]
    exact eq_comm.trans none_

end Member

/-! ### Every sequence of callbacks -/

/-- After each callback the gauge is the number of partitions owned, and `_revoked` holds
those that were revoked and not assigned again, if and only if each callback carried the
whole assignment. -/
theorem assigned_tracks_iff {start last : Member} (fresh : start.consumer.revoked = [])
    {callbacks : List Callback} (ran : Member.machine.run start callbacks = some last) :
    (∀ before a after, callbacks = before ++ a :: after →
      ∀ t, Member.machine.run start (before ++ [a]) = some t → Tracks (before ++ [a]) t) ↔
      Member.machine.Along Member.Whole start callbacks := by
  rw [Member.machine.along_iff]
  constructor
  · intro tracks before a after split m reached
    rw [split, Member.machine.run_append] at ran
    obtain ⟨m', reached', rest⟩ := ran
    cases reached.symm.trans reached'
    obtain ⟨t, stepped, -⟩ := Member.machine.run_cons_some.mp rest
    have there := Member.machine.run_concat.mpr ⟨m, reached, stepped⟩
    exact (Member.step_gauge stepped).mp (tracks before a after split t there).gauge
  · intro whole before a after split t reached
    obtain ⟨m, before_, stepped⟩ := Member.machine.run_concat.mp reached
    exact ⟨(Member.step_gauge stepped).mpr (whole before a after split m before_),
      Member.run_revoked fresh reached⟩

section

def joining : Member :=
  { consumer := { tracker := { batchSize := 9, intervalSeconds := 5, lastFlushAt := 0 } } }

/-- Two partitions are assigned, and one of them is given to another member. -/
def rebalanced : List Callback :=
  [.assign [("commerce.events", 0), ("commerce.events", 1)], .revoke [("commerce.events", 1)] {}]

/-- One partition is left, and the gauge is 0. -/
theorem not_assigned_tracks : ∃ t, Member.machine.run joining rebalanced = some t ∧
    t.owned = [("commerce.events", 0)] ∧ t.assigned = 0 ∧ ¬ Tracks rebalanced t := by
  refine ⟨_, rfl, rfl, rfl, fun tracks => ?_⟩
  cases tracks.gauge

/-- Both partitions are taken away, and one comes back. -/
theorem assigned_tracks_iff_whole :
    let callbacks : List Callback :=
      [.assign [("commerce.events", 0), ("commerce.events", 1)],
        .revoke [("commerce.events", 0), ("commerce.events", 1)] {}, .assign [("commerce.events", 1)]]
    ∃ t, Member.machine.run joining callbacks = some t ∧ Tracks callbacks t := by
  intro callbacks
  refine ⟨_, rfl, ?_⟩
  have whole : Member.machine.Along Member.Whole joining callbacks := by decide
  exact (assigned_tracks_iff rfl rfl).mpr whole
    [.assign [("commerce.events", 0), ("commerce.events", 1)],
      .revoke [("commerce.events", 0), ("commerce.events", 1)] {}]
    (.assign [("commerce.events", 1)]) [] rfl _ rfl

end

end CommercePlatform.Consumer
