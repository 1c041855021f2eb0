import CommercePlatform.Generator.Delivery
import CommercePlatform.Generator.Records

/-!
Anomaly labels agree with the validator.

`prepare` hands out every event of a journey as its own record, and copies of some of them
that were changed: `Prepared` lists what a message can be. A validator accepts exactly the
messages whose label says that they still are events of the contract, and rejects the others
in the category of their label (`prepare_labels`).
-/

namespace CommercePlatform.Generator

open Contract Processor Stateful

/-! ### What is prepared -/

/-- How much earlier `_mutate` makes a late event. -/
def lateness (config : GeneratorConfig) : Int := seconds (min config.maxLateEventSeconds 240)

theorem lateness_bounds (config : GeneratorConfig) :
    0 ≤ lateness config ∧ lateness config ≤ seconds 240 := by
  simp only [lateness, seconds, milliseconds]
  omega

/-- Moved back by less than there is room for, a time stays within its bounds. -/
theorem earlier_within {low high time less most : Int} (nonneg : 0 ≤ less) (short : less ≤ most)
    (early : low + most ≤ time) (late : time ≤ high) :
    low ≤ time + -less ∧ time + -less ≤ high := by
  omega

/-- A copy of an event, changed as its label says. -/
inductive Mutated (config : GeneratorConfig) (events : List EventEnvelope) :
    PublishableMessage → Prop where
  | duplicate {event} (mem : event ∈ events) :
    Mutated config events ((validMessage event).tag .duplicate)
  | truncated {event} (mem : event ∈ events) :
    Mutated config events ((validMessage event).replace (.truncated event) .malformedJson)
  | withoutEventId {event} (mem : event ∈ events) :
    Mutated config events ((validMessage event).replace (.withoutEventId event) .missingField)
  | unknownType {event} (mem : event ∈ events) :
    Mutated config events ((validMessage event).replace (.unknownType event) .unknownEventType)
  | late {event} (mem : event ∈ events) :
    Mutated config events ((validMessage event).replace
      (.canonical { event with eventTime := event.eventTime - lateness config }) .lateEvent)
  | payloadOf {event} {other : Option EventEnvelope} (mem : event ∈ events)
      (foreign : ∀ e, other = some e → e ∈ events ∧ e.eventType ≠ event.eventType) :
    Mutated config events ((validMessage event).replace (.payloadOf event other) .payloadMismatch)

/-- The record of an event itself; an exchange only adds a tag. -/
inductive Original (events : List EventEnvelope) : PublishableMessage → Prop where
  | valid {event} (mem : event ∈ events) : Original events (validMessage event)
  | swapped {event} (mem : event ∈ events) :
    Original events ((validMessage event).tag .outOfOrder)

section

variable (source : Source) (config : GeneratorConfig) {events : List EventEnvelope}

theorem mutate_mutated {kind : AnomalyType} {event : EventEnvelope} (mem : event ∈ events)
    (kinds : kind ≠ .outOfOrder) (early : Instant.minimum + seconds 240 ≤ event.eventTime)
    (late : event.eventTime ≤ Instant.maximum) (w : World) :
    ∃ mutated w', mutate config kind (validMessage event) (events.map validMessage) w =
      .ok (mutated, w') ∧ Mutated config events mutated := by
  cases kind with
  | duplicate => exact ⟨_, w, rfl, .duplicate mem⟩
  | malformedJson => exact ⟨_, w, rfl, .truncated mem⟩
  | missingField => exact ⟨_, w, rfl, .withoutEventId mem⟩
  | unknownEventType => exact ⟨_, w, rfl, .unknownType mem⟩
  | outOfOrder => exact absurd rfl kinds
  | lateEvent =>
    obtain ⟨nonneg, short⟩ := lateness_bounds config
    have room := earlier_within nonneg short early late
    refine ⟨_, w, bind_ok.mpr ⟨event.eventTime - lateness config, w, ?_, rfl⟩, .late mem⟩
    change later event.eventTime (-lateness config) w = _
    rw [later, if_pos room]
    rfl
  | payloadMismatch =>
    refine ⟨_, w, rfl, .payloadOf mem ?_⟩
    intro e found
    obtain ⟨m, seen, rfl⟩ := Option.map_eq_some_iff.mp found
    obtain ⟨event', listed, rfl⟩ := List.mem_map.mp (List.mem_of_find?_eq_some seen)
    have differs := List.find?_some seen
    simp only [decide_eq_true_eq] at differs
    exact ⟨listed, differs.1⟩

theorem drawn_returns (probability : Rat) (w : World) :
    ∃ selected w', drawn source probability w = .ok (selected, w') := by
  unfold drawn
  split <;> exact ⟨_, _, rfl⟩

/-- The loop over the candidates returns, with at most as many copies as are allowed. -/
theorem inject_mutated (nonempty : events ≠ [])
    (early : ∀ e ∈ events, Instant.minimum + seconds 240 ≤ e.eventTime)
    (late : ∀ e ∈ events, e.eventTime ≤ Instant.maximum) {cs : List (AnomalyType × Rat)}
    (kinds : ∀ c ∈ cs, c.1 ≠ .outOfOrder) (index emitted : Nat) (w : World) :
    ∃ more w', inject source config (events.map validMessage) cs index emitted w =
      .ok (more, w') ∧ ∀ m ∈ more, Mutated config events m := by
  induction cs generalizing index emitted w with
  | nil => exact ⟨[], w, rfl, by simp⟩
  | cons c cs ih =>
    have kinds' : ∀ c ∈ cs, c.1 ≠ .outOfOrder := fun c mem => kinds c (List.mem_cons_of_mem _ mem)
    unfold inject
    split
    · exact ⟨[], w, rfl, by simp⟩
    · obtain ⟨selected, u, drew⟩ := drawn_returns source c.2 w
      cases selected with
      | false =>
        obtain ⟨more, w', ran, mutated⟩ := ih kinds' (index + 1) emitted u
        exact ⟨more, w', bind_ok.mpr ⟨false, u, drew, ran⟩, mutated⟩
      | true =>
        have inside : index % (events.map validMessage).length <
            (events.map validMessage).length :=
          Nat.mod_lt _ (by simpa using List.length_pos_of_ne_nil nonempty)
        obtain ⟨event, listed, here⟩ := List.mem_map.mp (List.getElem_mem inside)
        obtain ⟨mutated, v, changed, is⟩ := mutate_mutated config listed
          (kinds c List.mem_cons_self) (early event listed) (late event listed) u
        obtain ⟨more, w', ran, others⟩ := ih kinds' (index + 1) (emitted + 1) v
        refine ⟨mutated :: more, w', bind_ok.mpr ⟨true, u, drew, ?_⟩, ?_⟩
        · simp only [if_true, List.getElem?_eq_getElem inside, ← here]
          exact bind_ok.mpr ⟨mutated, v, changed, bind_ok.mpr ⟨more, w', ran, rfl⟩⟩
        · intro m mem
          rcases List.mem_cons.mp mem with rfl | old
          · exact is
          · exact others m old

/-- An exchange leaves the events as they are. -/
theorem swapFirst_original (copies : List PublishableMessage) (two : 2 ≤ events.length) :
    ∃ originals, swapFirst (events.map validMessage ++ copies) = originals ++ copies ∧
      (originals.map (·.event)).Perm events ∧ ∀ m ∈ originals, Original events m := by
  obtain ⟨first, rest, rfl⟩ := List.exists_cons_of_length_pos (l := events) (by omega)
  rw [List.length_cons] at two
  obtain ⟨second, rest, rfl⟩ := List.exists_cons_of_length_pos (l := rest) (by omega)
  refine ⟨(validMessage second).tag .outOfOrder :: (validMessage first).tag .outOfOrder ::
    rest.map validMessage, rfl, ?_, ?_⟩
  · have same : (rest.map validMessage).map (·.event) = rest := by
      simp [Function.comp_def, validMessage]
    rw [List.map_cons, List.map_cons, same]
    exact .swap first second rest
  · intro m mem
    rcases List.mem_cons.mp mem with rfl | mem
    · exact .swapped (List.mem_cons_of_mem _ List.mem_cons_self)
    rcases List.mem_cons.mp mem with rfl | mem
    · exact .swapped List.mem_cons_self
    · obtain ⟨event, listed, rfl⟩ := List.mem_map.mp mem
      exact .valid (List.mem_cons_of_mem _ (List.mem_cons_of_mem _ listed))

/-- What `prepare` hands out: the records of the events, the first two perhaps exchanged, and
then the copies. -/
theorem prepare_prepared (two : 2 ≤ events.length)
    (early : ∀ e ∈ events, Instant.minimum + seconds 240 ≤ e.eventTime)
    (late : ∀ e ∈ events, e.eventTime ≤ Instant.maximum) (w : World) :
    ∃ messages w' originals copies, prepare source config events w = .ok (messages, w') ∧
      messages = originals ++ copies ∧ (originals.map (·.event)).Perm events ∧
      (∀ m ∈ originals, Original events m) ∧ ∀ m ∈ copies, Mutated config events m := by
  have nonempty : events ≠ [] := by
    rintro rfl
    simp at two
  have plain : ∀ m ∈ events.map validMessage, Original events m := by
    intro m mem
    obtain ⟨event, listed, rfl⟩ := List.mem_map.mp mem
    exact .valid listed
  have same : ((events.map validMessage).map (·.event)) = events := by
    simp [Function.comp_def, validMessage]
  by_cases enabled : config.anomaliesEnabled = true
  · have kinds : ∀ c ∈ candidates config, c.1 ≠ .outOfOrder := by simp [candidates]
    obtain ⟨copies, u, injected, mutated⟩ :=
      inject_mutated source config nonempty early late kinds 0 0 w
    have unswapped : ∃ originals copies',
        events.map validMessage ++ copies = originals ++ copies' ∧
        (originals.map (·.event)).Perm events ∧ (∀ m ∈ originals, Original events m) ∧
        ∀ m ∈ copies', Mutated config events m :=
      ⟨_, copies, rfl, .of_eq same, plain, mutated⟩
    by_cases exchanged : copies.length < config.maxAnomaliesPerJourney ∧
        2 ≤ (events.map validMessage ++ copies).length
    · obtain ⟨swapped, v, drew⟩ := drawn_returns source config.outOfOrderProbability u
      refine ⟨if swapped then swapFirst (events.map validMessage ++ copies)
        else events.map validMessage ++ copies, v, ?_⟩
      have ran : prepare source config events w = .ok (if swapped then swapFirst
          (events.map validMessage ++ copies) else events.map validMessage ++ copies, v) := by
        rw [prepare, if_pos enabled]
        refine bind_ok.mpr ⟨copies, u, injected, ?_⟩
        simp only [if_pos exchanged]
        exact bind_ok.mpr ⟨swapped, v, drew, rfl⟩
      cases swapped with
      | false =>
        obtain ⟨originals, copies', split, perm, here, there⟩ := unswapped
        exact ⟨originals, copies', ran, split, perm, here, there⟩
      | true =>
        obtain ⟨originals, split, perm, here⟩ := swapFirst_original copies two
        exact ⟨originals, copies, ran, split, perm, here, mutated⟩
    · obtain ⟨originals, copies', split, perm, here, there⟩ := unswapped
      refine ⟨_, u, originals, copies', ?_, split, perm, here, there⟩
      rw [prepare, if_pos enabled]
      refine bind_ok.mpr ⟨copies, u, injected, ?_⟩
      simp only [if_neg exchanged]
      rfl
  · refine ⟨_, w, _, [], ?_, (List.append_nil _).symm, .of_eq same, plain, by simp⟩
    rw [prepare, if_neg enabled]
    rfl

end

/-! ### What a validator says -/

/-- A validator's answer to a record, by the label of its message. -/
def PublishableMessage.Judged (config : GeneratorConfig) (message : PublishableMessage)
    (result : ValidationResult) : Prop :=
  match message.anomalyType with
  | none | some .duplicate | some .outOfOrder => result = .valid message.event
  | some .lateEvent =>
    result = .valid
      { message.event with eventTime := message.event.eventTime - lateness config }
  | some .malformedJson => RejectedAs .malformedJson .malformedJson result
  | some .missingField => RejectedAs .contractValidationFailed .missingField result
  | some .unknownEventType => RejectedAs .unknownEventType .unknownEventType result
  | some .payloadMismatch => RejectedAs .contractValidationFailed .payloadMismatch result

/-- An event that passes its own checks, of the current version, and not within nine minutes
of the first instant; pydantic also reads the time that makes it late. -/
structure Publishable (v : Validator) (config : GeneratorConfig) (event : EventEnvelope) :
    Prop where
  formed : WellFormed v.context event
  current : event.eventVersion = 1
  denotes : Denotes v.py event
  rendered : ∃ text, event.canonicalJson = .ok text
  time : Instant.minimum + seconds 540 ≤ event.eventTime
  earlier : v.py.awareDatetime (utcJson (event.eventTime - lateness config)) =
    some ⟨event.eventTime - lateness config, 0⟩

section

variable {v : Validator} {config : GeneratorConfig} {event : EventEnvelope}

/-- The bytes of the message are made, and wherever its record stands, validation returns
what the label says. -/
def Labelled (v : Validator) (config : GeneratorConfig) (message : PublishableMessage) : Prop :=
  ∃ bytes, message.value.bytes v.recursionLimit = .ok bytes ∧
    ∀ topic partition offset timestamp, ∃ result,
      v.validateMessage (message.record topic partition offset timestamp bytes) = .ok result ∧
        message.Judged config result

theorem shortInts_modelDump (event : EventEnvelope) :
    event.modelDump.shortInts = ((Json.int event.eventVersion).shortInts &&
      (dictJson event.payload.modelDump).shortInts) := by
  simp [EventEnvelope.modelDump, dictJson, EventEnvelope.fields, Json.shortInts, Json.shortMembers,
    uuidJson, utcJson, strJson]

theorem consistent_recent {eventType : EventType}
    (consistent : validateContractConsistency eventType event = .ok ()) :
    ¬ event.producedAt < event.eventTime - maxProducerClockSkew := by
  unfold validateContractConsistency Instant.subtract at consistent
  split at consistent
  · cases consistent
  · split at consistent
    · simp only [bind, Except.bind] at consistent
      split at consistent
      · cases consistent
      · assumption
    · cases consistent

/-- Neither the time nor what the clock skew leaves of it comes out of bounds. -/
theorem earlier_consistent {low high time less most skew produced : Int} (nonneg : 0 ≤ less)
    (short : less ≤ most) (positive : 0 ≤ skew) (early : low + (most + skew) ≤ time)
    (late : time ≤ high) (recent : ¬ produced < time - skew) :
    (low ≤ time - less ∧ time - less ≤ high) ∧
      (low ≤ time - less - skew ∧ time - less - skew ≤ high) ∧
        ¬ produced < time - less - skew := by
  omega

/-- The event moved back within its year is publishable as well, a little less early. -/
theorem Publishable.retimed (h : Publishable v config event) :
    WellFormed v.context { event with eventTime := event.eventTime - lateness config } ∧
      Denotes v.py { event with eventTime := event.eventTime - lateness config } ∧
      ∃ text, EventEnvelope.canonicalJson
        { event with eventTime := event.eventTime - lateness config } = .ok text := by
  obtain ⟨nonneg, short⟩ := lateness_bounds config
  obtain ⟨-, latest⟩ := h.formed.instants event.eventTime List.mem_cons_self
  have consistent := h.formed.consistent
  have recent := consistent_recent consistent
  obtain ⟨within, ⟨low, high⟩, kept⟩ :=
    earlier_consistent nonneg short (by decide) h.time latest recent
  have instants : ∀ t ∈ EventEnvelope.instants
      { event with eventTime := event.eventTime - lateness config },
      Instant.minimum ≤ t ∧ t ≤ Instant.maximum := by
    intro t mem
    rcases List.mem_cons.mp mem with rfl | others
    · exact within
    · exact h.formed.instants t (List.mem_cons_of_mem _ others)
  have formed := h.formed
  refine ⟨⟨formed.version, formed.source, formed.fields, instants, formed.totals, ?_⟩, ?_, ?_⟩
  · have subtracted : Instant.subtract (event.eventTime - lateness config) maxProducerClockSkew =
        .ok (event.eventTime - lateness config - maxProducerClockSkew) := if_pos ⟨low, high⟩
    unfold validateContractConsistency
    rw [if_neg (not_not.mpr rfl)]
    simp only [subtracted, bind, Except.bind, if_neg kept]
    rfl
  · refine ⟨h.denotes.uuid, fun t mem => ?_, h.denotes.decimals, h.denotes.addresses⟩
    rcases List.mem_cons.mp mem with rfl | others
    · exact h.earlier
    · exact h.denotes.instants t (List.mem_cons_of_mem _ others)
  · obtain ⟨text, rendered⟩ := h.rendered
    unfold EventEnvelope.canonicalJson at rendered ⊢
    rw [shortInts_modelDump] at rendered ⊢
    split at rendered
    · rename_i fits
      exact ⟨_, if_pos fits⟩
    · cases rendered

variable (conforms : Conforms v.toParser)

include conforms

/-- The canonical JSON of an event with the headers and the key of the message. -/
theorem accepted_bytes (message : PublishableMessage) (formed : WellFormed v.context event)
    (denotes : Denotes v.py event) (current : event.eventVersion = 1)
    (rendered : ∃ text, event.canonicalJson = .ok text)
    (headers : event.messageHeaders = message.event.messageHeaders)
    (key : event.messageKey = message.event.messageKey)
    (value : message.value = .canonical event) :
    ∃ bytes, message.value.bytes v.recursionLimit = .ok bytes ∧
      ∀ topic partition offset timestamp,
        v.validateMessage (message.record topic partition offset timestamp bytes) =
          .ok (.valid event) := by
  obtain ⟨text, rendered⟩ := rendered
  have encoded : text.encode = .ok (text.flatMap Text.encodePoint) :=
    if_pos (Text.encodable_of_scalar (canonicalJson_scalar rendered))
  refine ⟨text.flatMap Text.encodePoint, ?_, fun topic partition offset timestamp => ?_⟩
  · rw [value]
    simp only [MessageValue.bytes, EventEnvelope.canonicalBytes, rendered, bind, Except.bind]
    exact encoded
  · refine validateMessage_canonical conforms formed denotes current rendered encoded ?_ rfl ?_
    · rw [key]
      rfl
    · rw [headers]
      exact fun header mem => headerText_record mem

variable (h : Publishable v config event)

include h

theorem labelled_valid : Labelled v config (validMessage event) := by
  obtain ⟨bytes, made, accepted⟩ := accepted_bytes conforms (validMessage event) h.formed
    h.denotes h.current h.rendered rfl rfl rfl
  exact ⟨bytes, made, fun topic partition offset timestamp => ⟨_, accepted _ _ _ _, rfl⟩⟩

theorem labelled_tag {kind : AnomalyType} (same : kind = .duplicate ∨ kind = .outOfOrder) :
    Labelled v config ((validMessage event).tag kind) := by
  obtain ⟨bytes, made, accepted⟩ := accepted_bytes conforms ((validMessage event).tag kind)
    h.formed h.denotes h.current h.rendered rfl rfl rfl
  refine ⟨bytes, made, fun topic partition offset timestamp => ⟨_, accepted _ _ _ _, ?_⟩⟩
  rcases same with rfl | rfl <;> rfl

theorem labelled_late :
    Labelled v config ((validMessage event).replace
      (.canonical { event with eventTime := event.eventTime - lateness config }) .lateEvent) := by
  obtain ⟨formed, denotes, rendered⟩ := h.retimed
  obtain ⟨bytes, made, accepted⟩ := accepted_bytes conforms
    ((validMessage event).replace
      (.canonical { event with eventTime := event.eventTime - lateness config }) .lateEvent)
    formed denotes h.current rendered rfl rfl rfl
  exact ⟨bytes, made, fun topic partition offset timestamp => ⟨_, accepted _ _ _ _, rfl⟩⟩

theorem decoded_event : decoded v.recursionLimit event = .ok event.members := by
  obtain ⟨text, rendered⟩ := h.rendered
  have encoded : text.encode = .ok (text.flatMap Text.encodePoint) :=
    if_pos (Text.encodable_of_scalar (canonicalJson_scalar rendered))
  have read := (loads_canonical conforms rendered).1
  simp only [Parser.loads] at read
  simp only [decoded, EventEnvelope.canonicalBytes, rendered, encoded, read, bind, Except.bind]
  rfl

theorem labelled_truncated :
    Labelled v config ((validMessage event).replace (.truncated event) .malformedJson) := by
  obtain ⟨text, rendered⟩ := h.rendered
  obtain ⟨rfl, fits, -⟩ := canonicalJson_ok rendered
  have encoded : ((Json.obj event.members).dumps false).encode =
      .ok (((Json.obj event.members).dumps false).flatMap Text.encodePoint) :=
    if_pos (Text.encodable_of_scalar (canonicalJson_scalar rendered))
  have nonempty : event.members ≠ [] := by
    have length := (byKey_perm (membersOf (event.fields (.obj event.payloadMembers)))).length_eq
    intro empty
    rw [EventEnvelope.members] at empty
    rw [empty] at length
    cases length
  obtain ⟨more, limit⟩ := Nat.exists_eq_add_of_le' conforms.levels
  have failed := Json.loads_truncated false (fits more) nonempty
  rw [← limit] at failed
  refine ⟨_, ?_, fun topic partition offset timestamp => rejects_truncated rfl failed⟩
  simp only [PublishableMessage.replace, MessageValue.bytes, EventEnvelope.canonicalBytes, rendered,
    encoded, bind, Except.bind]
  rfl

theorem labelled_withoutEventId :
    Labelled v config ((validMessage event).replace (.withoutEventId event) .missingField) := by
  obtain ⟨text, rendered⟩ := h.rendered
  obtain ⟨bytes, refused⟩ := refused_withoutEventId conforms h.formed h.denotes rendered
  refine ⟨bytes, ?_, fun topic partition offset timestamp => rejects_refused rfl refused h.current⟩
  simp only [PublishableMessage.replace, MessageValue.bytes, decoded_event conforms h, bind,
    Except.bind]
  exact refused.rendered

theorem labelled_unknownType :
    Labelled v config ((validMessage event).replace (.unknownType event) .unknownEventType) := by
  obtain ⟨text, rendered⟩ := h.rendered
  have present : Json.lookup event.members "event_type" ≠ none := by
    rw [lookup_members (j := strJson event.eventType.value) (by simp [EventEnvelope.fields])]
    exact Option.some_ne_none _
  have edit : EditedAt event "event_type" (Json.assign "event_type"
      (strJson "synthetic_unknown_event") event.members) :=
    .assign rendered present (Text.ofString_scalar _)
  obtain ⟨bytes, made, read, -⟩ := rendered_reads conforms edit.fits
  have named : Json.lookup (Json.sorted (Json.assign "event_type"
      (strJson "synthetic_unknown_event") event.members)) "event_type" =
      some (strJson "synthetic_unknown_event") := by
    rw [Json.lookup_sorted edit.nodup, Json.lookup_assign present (event_members_nodup event),
      if_pos rfl, Option.map_some, (Json.shallow_strJson _).sorted]
  have unknown : Validator.knownType (Json.sorted (Json.assign "event_type"
      (strJson "synthetic_unknown_event") event.members)) = false := by
    unfold Validator.knownType
    rw [named]
    decide
  refine ⟨bytes, ?_, fun topic partition offset timestamp => rejects_unknownType rfl read unknown⟩
  simp only [PublishableMessage.replace, MessageValue.bytes, decoded_event conforms h, bind,
    Except.bind]
  exact made

theorem labelled_payloadOf {other : Option EventEnvelope}
    (foreign : ∀ e, other = some e → Publishable v config e ∧ e.eventType ≠ event.eventType) :
    Labelled v config
      ((validMessage event).replace (.payloadOf event other) .payloadMismatch) := by
  obtain ⟨text, rendered⟩ := h.rendered
  cases other with
  | none =>
    have empty : Json.sorted [] = [] := by simp [Json.sorted, Json.sortMembers]
    have absent : ∀ name, Json.lookup (Json.sorted []) name = none := by
      intro name
      rw [empty]
      rfl
    have dated : Dated v.py (Json.sorted []) timestampNames := by
      intro name mem j found
      rw [absent] at found
      cases found
    have first : ∃ name, name ∈ payloadFields event.eventType := by
      cases event.eventType <;> exact ⟨_, List.mem_cons_self⟩
    obtain ⟨name, mem⟩ := first
    obtain ⟨bytes, refused⟩ := refused_payloadOf conforms h.formed h.denotes rendered rfl dated
      (Or.inl ⟨name, mem, absent name⟩)
    refine ⟨bytes, ?_, fun topic partition offset timestamp =>
      rejects_refused rfl refused h.current⟩
    simp only [PublishableMessage.replace, MessageValue.bytes, decoded_event conforms h, bind,
      Except.bind]
    exact refused.rendered
  | some other =>
    obtain ⟨publishable, differs⟩ := foreign other rfl
    obtain ⟨text', rendered'⟩ := publishable.rendered
    obtain ⟨-, -, fits⟩ := canonicalJson_ok rendered'
    have dated := payload_dated publishable.formed publishable.denotes
    have names : ((Json.sorted other.payloadMembers).map Prod.fst).Perm
        ((payloadFields other.eventType).map Text.ofString) := by
      rw [EventEnvelope.eventType, ← modelDump_fields]
      exact (Json.keys_sorted _).trans (keys_perm (byKey_perm _))
    have mismatch : (∃ name ∈ payloadFields event.eventType,
        Json.lookup (Json.sorted other.payloadMembers) name = none) ∨
        ∃ entry ∈ Json.sorted other.payloadMembers,
          entry.1 ∉ (payloadFields event.eventType).map Text.ofString := by
      have listed : ∀ name, Text.ofString name ∈ (Json.sorted other.payloadMembers).map Prod.fst ↔
          name ∈ payloadFields other.eventType := by
        intro name
        rw [names.mem_iff, List.mem_map_of_injective Text.ofString_injective]
      rcases payloadFields_differ differs with ⟨name, held, apart⟩ | ⟨name, mem, missing⟩
      · obtain ⟨entry, held, key⟩ := List.mem_map.mp ((listed name).mpr held)
        right
        refine ⟨entry, held, ?_⟩
        rw [key, List.mem_map_of_injective Text.ofString_injective]
        exact apart
      · left
        refine ⟨name, mem, ?_⟩
        cases found : Json.lookup (Json.sorted other.payloadMembers) name with
        | none => rfl
        | some j =>
          obtain ⟨entry, seen, -⟩ := Option.map_eq_some_iff.mp found
          have key : entry.1 = Text.ofString name := by simpa using List.find?_some seen
          have held := List.mem_reverse.mp (List.mem_of_find?_eq_some seen)
          exact absurd ((listed name).mp (key ▸ List.mem_map_of_mem held)) missing
    obtain ⟨bytes, refused⟩ := refused_payloadOf conforms h.formed h.denotes rendered (fits 0) dated
      mismatch
    refine ⟨bytes, ?_, fun topic partition offset timestamp =>
      rejects_refused rfl refused h.current⟩
    have payload : Json.lookup other.members "payload" = some (.obj other.payloadMembers) :=
      lookup_members (by simp [EventEnvelope.fields])
    simp only [PublishableMessage.replace, MessageValue.bytes, decoded_event conforms h,
      decoded_event conforms publishable, payload, bind, Except.bind]
    exact refused.rendered

end

section

variable (conforms : Conforms v.toParser) {events : List EventEnvelope}
  (publishable : ∀ event ∈ events, Publishable v config event) {message : PublishableMessage}

include conforms publishable

theorem labelled_original (original : Original events message) : Labelled v config message := by
  cases original with
  | valid listed => exact labelled_valid conforms (publishable _ listed)
  | swapped listed => exact labelled_tag conforms (publishable _ listed) (Or.inr rfl)

theorem labelled_mutated (mutated : Mutated config events message) :
    Labelled v config message := by
  cases mutated with
  | duplicate listed => exact labelled_tag conforms (publishable _ listed) (Or.inl rfl)
  | truncated listed => exact labelled_truncated conforms (publishable _ listed)
  | withoutEventId listed => exact labelled_withoutEventId conforms (publishable _ listed)
  | unknownType listed => exact labelled_unknownType conforms (publishable _ listed)
  | late listed => exact labelled_late conforms (publishable _ listed)
  | payloadOf listed foreign =>
    refine labelled_payloadOf conforms (publishable _ listed) fun e same => ?_
    obtain ⟨held, differs⟩ := foreign e same
    exact ⟨publishable e held, differs⟩

end

end CommercePlatform.Generator
