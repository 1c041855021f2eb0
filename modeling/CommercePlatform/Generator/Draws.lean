import CommercePlatform.Generator.Frames

/-!
What the stages of a journey draw.

The identifiers of a journey come from one UUID stream, in the order of the calls. `Draws`
says of a piece of it which of them it hands on, as a sublist of the segment of the
stream that it has used up; pieces are put together with `Draws.trans`. Nothing but the
commit at the end touches the customers.
-/

namespace CommercePlatform.Generator

open Contract Stateful

/-! ### Segments of the stream -/

section

variable {α : Type} {u : Nat → α}

/-- The values of a stream from one index to another. -/
def segment (u : Nat → α) (low high : Nat) : List α := (List.range' low (high - low)).map u

theorem mem_segment {low high : Nat} {a : α} :
    a ∈ segment u low high ↔ ∃ k, low ≤ k ∧ k < high ∧ u k = a := by
  simp only [segment, List.mem_map, List.mem_range'_1]
  constructor
  · rintro ⟨k, ⟨above, below⟩, rfl⟩
    exact ⟨k, above, by omega, rfl⟩
  · rintro ⟨k, above, below, rfl⟩
    exact ⟨k, ⟨above, by omega⟩, rfl⟩

theorem segment_append {low middle high : Nat} (first : low ≤ middle) (second : middle ≤ high) :
    segment u low middle ++ segment u middle high = segment u low high := by
  rw [segment, segment, segment, ← List.map_append]
  have counts : high - low = (middle - low) + (high - middle) := by omega
  rw [counts, ← List.range'_append_1, show low + (middle - low) = middle by omega]

/-- The first `n` values of the stream are different. -/
def Distinct (u : Nat → α) (n : Nat) : Prop := ∀ i j, i < n → j < n → u i = u j → i = j

theorem Distinct.mono {n m : Nat} (distinct : Distinct u n) (le : m ≤ n) : Distinct u m :=
  fun i j first second => distinct i j (first.trans_le le) (second.trans_le le)

theorem segment_nodup {low high : Nat} (distinct : Distinct u high) :
    (segment u low high).Nodup := by
  refine List.Nodup.map_on ?_ (List.nodup_range' ..)
  intro i first j second same
  rw [List.mem_range'_1] at first second
  exact distinct i j (by omega) (by omega) same

end

/-! ### Silent code -/

/-- Neither a UUID is drawn nor a customer committed. -/
def Silent (w w' : World) : Prop :=
  w'.customers = w.customers ∧ w'.drawnUuids = w.drawnUuids

theorem Silent.refl (w : World) : Silent w w := ⟨rfl, rfl⟩

theorem Silent.trans {w w' w'' : World} (first : Silent w w') (second : Silent w' w'') :
    Silent w w'' :=
  ⟨second.1.trans first.1, second.2.trans first.2⟩

theorem silentFrame : ClockFrame Silent where
  refl := Silent.refl
  trans _ _ _ := Silent.trans
  draws _ _ := ⟨rfl, rfl⟩
  readings _ _ := ⟨rfl, rfl⟩
  cursor _ _ := ⟨rfl, rfl⟩

section

variable {α : Type} {source : Source}

abbrev IsSilent (x : Gen α) : Prop := Keeps Silent x

theorem isSilent_choosePersona {config : GeneratorConfig} : IsSilent (choosePersona source config) :=
  (silentFrame.choosePersona fun _ _ => ⟨rfl, rfl⟩).returns

theorem raiseError_ok {e : GeneratorError} {a : α} {w w' : World} :
    ¬ raiseError e w = .ok (a, w') := by
  intro impossible
  cases impossible

theorem isSilent_chance (probability : Rat) : IsSilent (chance source probability) :=
  (silentFrame.chance probability).returns

theorem isSilent_randint (low high : Nat) : IsSilent (randint source low high) :=
  (silentFrame.randint low high).returns

theorem isSilent_choice (population : List α) : IsSilent (choice source population) :=
  (silentFrame.choice population).returns

theorem isSilent_ipAddress : IsSilent (ipAddress source) := silentFrame.ipAddress.returns

theorem isSilent_awareNow : IsSilent (awareNow source) := silentFrame.awareNow.returns

theorem isSilent_nextTimestamp (delay : Int) : IsSilent (nextTimestamp delay) :=
  (silentFrame.nextTimestamp delay).returns

theorem isSilent_lastOf (xs : List α) : IsSilent (lastOf xs) := (silentFrame.lastOf xs).returns

theorem isSilent_probability {config : GeneratorConfig} (profile : PersonaProfile)
    (branch : Branch) : IsSilent (probability config profile branch) :=
  (silentFrame.probability profile branch).returns

end

/-! ### Drawn identifiers -/

/-- The code has drawn the identifiers `ids`, and at most `spare` others. -/
structure Draws (source : Source) (w w' : World) (ids : List UUID) (spare : Nat) : Prop where
  customers : w'.customers = w.customers
  drawn : w.drawnUuids ≤ w'.drawnUuids
  sublist : ids.Sublist (segment source.uuids w.drawnUuids w'.drawnUuids)
  few : w'.drawnUuids ≤ w.drawnUuids + ids.length + spare

section

variable {source : Source} {w w' w'' : World}

theorem Silent.draws (silent : Silent w w') : Draws source w w' [] 0 where
  customers := silent.1
  drawn := silent.2.ge
  sublist := List.nil_sublist _
  few := by simp [silent.2]

theorem Draws.trans {ids ids' : List UUID} {spare spare' : Nat} (first : Draws source w w' ids spare)
    (second : Draws source w' w'' ids' spare') :
    Draws source w w'' (ids ++ ids') (spare + spare') where
  customers := second.customers.trans first.customers
  drawn := first.drawn.trans second.drawn
  sublist := by
    rw [← segment_append first.drawn second.drawn]
    exact first.sublist.append second.sublist
  few := by
    have start := first.few
    have finish := second.few
    rw [List.length_append]
    omega

/-- Fewer identifiers may be handed on than are drawn. -/
theorem Draws.weaken {ids ids' : List UUID} {spare spare' : Nat} (h : Draws source w w' ids spare)
    (sub : ids'.Sublist ids) (few : ids.length + spare ≤ ids'.length + spare') :
    Draws source w w' ids' spare' where
  customers := h.customers
  drawn := h.drawn
  sublist := sub.trans h.sublist
  few := by
    have := h.few
    omega

theorem newUuid_draws {id : UUID} (ran : newUuid source w = .ok (id, w')) :
    Draws source w w' [id] 0 := by
  obtain ⟨world, u, read, rest⟩ := bind_ok.mp ran
  obtain ⟨rfl, rfl⟩ := get_ok.mp read
  obtain ⟨_, v, moved, returned⟩ := bind_ok.mp rest
  obtain rfl := modify_ok.mp moved
  obtain ⟨rfl, rfl⟩ := pure_ok.mp returned
  refine ⟨rfl, by simp, ?_, by simp⟩
  simp [segment]

theorem envelope_draws {correlationId : UUID} {payload : Payload} {timestamp : Instant}
    {event : EventEnvelope}
    (ran : envelope source correlationId payload timestamp w = .ok (event, w')) :
    Draws source w w' [event.eventId] 0 ∧ event.payload = payload ∧
      event.eventTime = timestamp := by
  obtain ⟨id, u, first, returned⟩ := bind_ok.mp ran
  obtain ⟨rfl, rfl⟩ := pure_ok.mp returned
  exact ⟨newUuid_draws first, rfl, rfl⟩

end

end CommercePlatform.Generator
