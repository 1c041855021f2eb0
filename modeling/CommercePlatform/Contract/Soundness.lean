import CommercePlatform.Contract.RoundTrip

/-!
What `parse_event` accepts is well formed.

`Model.Yields m P` says that whatever a model reads off an object has `P`; one rule for each
way to add a field turns the fields of a payload class into hypotheses about its leaves. A
parsed event is `WellFormed` (`parseEvent_wellFormed`), and `canonical_json` renders it
(`parseEvent_renders`) as long as pydantic-core reads no integer over 4300 digits.
-/

namespace CommercePlatform.Contract

/-! ### Leaf types -/

theorem head_dropWhile {p : Char → Bool} {l : List Char} {c : Char}
    (head : (l.dropWhile p).head? = some c) : p c = false := by
  have stops := List.head?_dropWhile_not p l
  rw [head] at stops
  exact stops

theorem nonEmptyString_sound {j : Json} {s : String} (read : nonEmptyString j = some s) :
    IsNonEmptyString s := by
  simp only [nonEmptyString, bind, Option.bind_eq_some_iff] at read
  obtain ⟨raw, -, kept⟩ := read
  split at kept
  · cases kept
  · rename_i left
    cases kept
    constructor
    · rw [String.toList_ofList]
      simpa using left
    · intro c first
      rw [String.toList_ofList] at first
      -- Stripping the end does not change the first character.
      obtain ⟨stripped, front⟩ :=
        List.dropWhile_suffix isSpace (l := (raw.toList.dropWhile isSpace).reverse)
      have front := congrArg List.reverse front
      rw [List.reverse_append, List.reverse_reverse] at front
      apply head_dropWhile (l := raw.toList)
      rw [← front, List.head?_append, first]
      rfl
    · intro c last
      rw [String.toList_ofList, List.getLast?_reverse] at last
      exact head_dropWhile last

theorem countryCode_sound {j : Json} {s : String} (read : countryCode j = some s) :
    IsCountryCode s := by
  simp only [countryCode, bind, Option.bind_eq_some_iff] at read
  obtain ⟨raw, -, kept⟩ := read
  split at kept
  · rename_i code
    cases kept
    exact code
  · cases kept

/-- A non-negative integer of at most 4300 digits. -/
def ShortNat (n : Nat) : Prop := (Json.int n).shortInts = true

theorem strictInt_eq {j : Json} {n : Int} (read : strictInt j = some n) : j = .int n := by
  cases j with
  | int m =>
    cases read
    rfl
  | _ => cases read

theorem positiveInt_sound {j : Json} {n : Nat} (short : j.shortInts = true)
    (read : positiveInt j = some n) : 0 < n ∧ ShortNat n := by
  simp only [positiveInt, bind, Option.bind_eq_some_iff] at read
  obtain ⟨m, here, kept⟩ := read
  split at kept
  · rename_i positive
    cases kept
    rw [strictInt_eq here] at short
    refine ⟨by omega, ?_⟩
    rw [ShortNat, Int.toNat_of_nonneg (by omega)]
    exact short
  · cases kept

theorem nonNegativeInt_sound {j : Json} {n : Nat} (short : j.shortInts = true)
    (read : nonNegativeInt j = some n) : ShortNat n := by
  simp only [nonNegativeInt, bind, Option.bind_eq_some_iff] at read
  obtain ⟨m, here, kept⟩ := read
  split at kept
  · rename_i nonneg
    cases kept
    rw [strictInt_eq here] at short
    rw [ShortNat, Int.toNat_of_nonneg nonneg]
    exact short
  · cases kept

theorem mapM_sound {α β : Type} {f : α → Option β} {l : List α} {results : List β}
    (read : l.mapM f = some results) :
    l.length = results.length ∧ ∀ b ∈ results, ∃ a, f a = some b := by
  induction l generalizing results with
  | nil =>
    cases read
    simp
  | cons a l ih =>
    simp only [List.mapM_cons, bind, Option.bind_eq_some_iff, pure, Option.some.injEq] at read
    obtain ⟨b, here, rest, later, rfl⟩ := read
    obtain ⟨length, each⟩ := ih later
    constructor
    · simp [length]
    · intro c mem
      rcases List.mem_cons.mp mem with rfl | old
      · exact ⟨a, here⟩
      · exact each c old

theorem reasonList_sound {j : Json} {reasons : List String} (read : reasonList j = some reasons) :
    reasons ≠ [] ∧ ∀ reason ∈ reasons, IsNonEmptyString reason := by
  cases j with
  | arr items =>
    simp only [reasonList] at read
    split at read
    · cases read
    · rename_i some_
      obtain ⟨length, each⟩ := mapM_sound read
      constructor
      · rintro rfl
        exact some_ (List.isEmpty_iff_length_eq_zero.mpr length)
      · intro reason mem
        obtain ⟨item, here⟩ := each reason mem
        exact nonEmptyString_sound here
  | _ => cases read

theorem normalizeUtc_sound {value : AwareDatetime} {instant : Instant}
    (normalized : normalizeUtc value = .ok instant) :
    Instant.minimum ≤ instant ∧ instant ≤ Instant.maximum := by
  unfold normalizeUtc Instant.subtract at normalized
  split at normalized
  · rename_i within
    cases normalized
    exact within
  · cases normalized

section

variable {py : Pydantic}

theorem money_sound {allowed : Rat → Bool} {j : Json} {d : Decimal}
    (read : money py allowed j = some d) : allowed d.value = true := by
  simp only [money, bind, Option.bind_eq_some_iff] at read
  obtain ⟨d', -, kept⟩ := read
  split at kept
  · rename_i holds
    cases kept
    exact holds
  · cases kept

/-! ### Models -/

/-- The leaf reads this value off a member. -/
def Leaf {α : Type} (leaf : Json → Option α) (a : α) : Prop :=
  ∃ j : Json, j.shortInts = true ∧ leaf j = some a

/-- Whatever the model reads off an object of short integers has the property. -/
def Model.Yields {α : Type} (m : Model py α) (P : α → Prop) : Prop :=
  ∀ members a, Json.shortMembers members = true → m.validate members = .valid a → P a

theorem lookup_short {members : List (Text × Json)} {name : String} {j : Json}
    (short : Json.shortMembers members = true) (found : Json.lookup members name = some j) :
    j.shortInts = true := by
  obtain ⟨entry, seen, rfl⟩ := Option.map_eq_some_iff.mp found
  have mem := List.mem_reverse.mp (List.mem_of_find?_eq_some seen)
  exact Json.shortMembers_iff.mp short entry mem

namespace Model.Yields

variable {α β : Type}

theorem of {f : α} {P : α → Prop} (holds : P f) : (Model.of py f).Yields P := by
  intro members a short valid
  cases validate_of.mp valid
  exact holds

theorem req {m : Model py (α → β)} {name : String} {leaf : Json → Option α} {P : β → Prop}
    (h : m.Yields fun f => ∀ a, Leaf leaf a → P (f a)) : (m.req name leaf).Yields P := by
  intro members b short valid
  obtain ⟨f, a, earlier, read, rfl⟩ := validate_req.mp valid
  obtain ⟨j, found, here⟩ := Option.bind_eq_some_iff.mp read
  exact h members f short earlier a ⟨j, lookup_short short found, here⟩

theorem utc {m : Model py (Instant → β)} {name : String} {P : β → Prop}
    (h : m.Yields fun f => ∀ t, Instant.minimum ≤ t ∧ t ≤ Instant.maximum → P (f t)) :
    (m.utc name).Yields P := by
  intro members b short valid
  obtain ⟨f, t, earlier, ⟨value, -, normalized⟩, rfl⟩ := validate_utc.mp valid
  exact h members f short earlier t (normalizeUtc_sound normalized)

end Model.Yields

/-! ### Payloads -/

theorem short_strJson (s : String) : (strJson s).shortInts = true := rfl

theorem short_optional (value : Option UUID) : (optionalUuidJson value).shortInts = true := by
  cases value <;> rfl

theorem short_strings (texts : List String) : (Json.arr (texts.map strJson)).shortInts = true := by
  rw [Json.shortInts]
  induction texts with
  | nil => rfl
  | cons text texts ih => rw [List.map_cons, Json.shortItems, short_strJson, ih, Bool.and_self]

/-- An event without long integers has a canonical form. -/
theorem canonicalJson_short {event : EventEnvelope} (version : ShortNat event.eventVersion)
    (payload : ∀ item ∈ event.payload.modelDump, item.2.shortInts = true) :
    ∃ text, event.canonicalJson = .ok text := by
  refine ⟨_, if_pos ?_⟩
  have inner : (dictJson event.payload.modelDump).shortInts = true := by
    refine Json.shortMembers_iff.mpr fun m mem => ?_
    obtain ⟨item, held, rfl⟩ := List.mem_map.mp mem
    exact payload item held
  refine Json.shortMembers_iff.mpr fun m mem => ?_
  obtain ⟨item, held, rfl⟩ := List.mem_map.mp mem
  simp only [EventEnvelope.fields, List.mem_cons, List.not_mem_nil, or_false] at held
  rcases held with rfl | rfl | rfl | rfl | rfl | rfl | rfl | rfl
  · rfl
  · rfl
  · exact version
  · rfl
  · rfl
  · rfl
  · rfl
  · exact inner

/-- What reading a payload has checked. -/
structure Payload.Sound (payload : Payload) : Prop where
  fields : payload.FieldsValid
  instants : ∀ t ∈ payload.instants, Instant.minimum ≤ t ∧ t ≤ Instant.maximum
  short : ∀ item ∈ payload.modelDump, item.2.shortInts = true

/-- The integers of a payload are its only members that may be too long. -/
def Payload.integers : Payload → List Nat
  | .productViewed p => [p.quantityAvailable]
  | .addedToCart p => [p.quantity]
  | .checkoutStarted p => [p.itemCount]
  | .orderCreated p => [p.itemCount]
  | _ => []

theorem short_modelDump {payload : Payload} (short : ∀ n ∈ payload.integers, ShortNat n) :
    ∀ item ∈ payload.modelDump, item.2.shortInts = true := by
  revert short
  cases payload <;>
    simp [Payload.modelDump, Payload.integers, ShortNat, uuidJson, moneyJson, utcJson, memberJson,
      short_strJson, short_optional, short_strings]

/-- The payload's timestamps are those that were read. -/
theorem Payload.Sound.of {payload : Payload} (fields : payload.FieldsValid)
    (instants : ∀ t ∈ payload.instants, Instant.minimum ≤ t ∧ t ≤ Instant.maximum)
    (short : ∀ n ∈ payload.integers, ShortNat n) : payload.Sound :=
  ⟨fields, instants, short_modelDump short⟩

theorem userRegistered_sound :
    (userRegisteredModel py).Yields fun p => (Payload.userRegistered p).Sound := by
  apply Model.Yields.utc
  iterate 4 apply Model.Yields.req
  apply Model.Yields.of
  rintro customerId - emailHash ⟨_, -, email⟩ countryCode ⟨_, -, country⟩ persona -
    registeredAt registered
  apply Payload.Sound.of
  · exact ⟨nonEmptyString_sound email, countryCode_sound country⟩
  · simpa [Payload.instants] using registered
  · simp [Payload.integers]

theorem sessionStarted_sound :
    (sessionStartedModel py).Yields fun p => (Payload.sessionStarted p).Sound := by
  apply Model.Yields.utc
  iterate 7 apply Model.Yields.req
  apply Model.Yields.of
  rintro sessionId - customerId - deviceId - deviceType - ipAddress - countryCode ⟨_, -, country⟩
    channel - startedAt started
  apply Payload.Sound.of
  · exact countryCode_sound country
  · simpa [Payload.instants] using started
  · simp [Payload.integers]

theorem nonNegativeMoney_sound {j : Json} {d : Decimal} (read : nonNegativeMoney py j = some d) :
    0 ≤ d.value := of_decide_eq_true (money_sound read)

theorem positiveMoney_sound {j : Json} {d : Decimal} (read : positiveMoney py j = some d) :
    0 < d.value := of_decide_eq_true (money_sound read)

theorem productViewed_sound :
    (productViewedModel py).Yields fun p => (Payload.productViewed p).Sound := by
  iterate 7 apply Model.Yields.req
  apply Model.Yields.of
  rintro sessionId - customerId - productId - category ⟨_, -, named⟩ unitPrice ⟨_, -, price⟩
    currency - quantityAvailable ⟨_, short, stock⟩
  apply Payload.Sound.of
  · exact ⟨nonEmptyString_sound named, nonNegativeMoney_sound price⟩
  · exact List.forall_mem_nil _
  · simpa [Payload.integers] using nonNegativeInt_sound short stock

theorem addedToCart_sound :
    (addedToCartModel py).Yields fun p => (Payload.addedToCart p).Sound := by
  iterate 7 apply Model.Yields.req
  apply Model.Yields.of
  rintro sessionId - customerId - cartId - productId - quantity ⟨_, short, count⟩
    unitPrice ⟨_, -, price⟩ currency -
  obtain ⟨positive, few⟩ := positiveInt_sound short count
  apply Payload.Sound.of
  · exact ⟨positive, nonNegativeMoney_sound price⟩
  · exact List.forall_mem_nil _
  · simpa [Payload.integers] using few

theorem checkoutStarted_sound :
    (checkoutStartedModel py).Yields fun p => (Payload.checkoutStarted p).Sound := by
  iterate 8 apply Model.Yields.req
  apply Model.Yields.of
  rintro sessionId - customerId - cartId - itemCount ⟨_, short, count⟩ subtotal ⟨_, -, sub⟩
    discountAmount ⟨_, -, discount⟩ totalAmount ⟨_, -, total⟩ currency -
  obtain ⟨positive, few⟩ := positiveInt_sound short count
  apply Payload.Sound.of
  · exact ⟨positive, nonNegativeMoney_sound sub, nonNegativeMoney_sound discount,
      nonNegativeMoney_sound total⟩
  · exact List.forall_mem_nil _
  · simpa [Payload.integers] using few

theorem orderCreated_sound :
    (orderCreatedModel py).Yields fun p => (Payload.orderCreated p).Sound := by
  apply Model.Yields.utc
  iterate 11 apply Model.Yields.req
  apply Model.Yields.of
  rintro orderId - customerId - sessionId - cartId - itemCount ⟨_, short, count⟩
    subtotal ⟨_, -, sub⟩ discountAmount ⟨_, -, discount⟩ totalAmount ⟨_, -, total⟩ currency -
    shippingCountryCode ⟨_, -, shipping⟩ billingCountryCode ⟨_, -, billing⟩ createdAt created
  obtain ⟨positive, few⟩ := positiveInt_sound short count
  apply Payload.Sound.of
  · exact ⟨positive, nonNegativeMoney_sound sub, nonNegativeMoney_sound discount,
      nonNegativeMoney_sound total, countryCode_sound shipping, countryCode_sound billing⟩
  · simpa [Payload.instants] using created
  · simpa [Payload.integers] using few

theorem paymentCompleted_sound :
    (paymentCompletedModel py).Yields fun p => (Payload.paymentCompleted p).Sound := by
  apply Model.Yields.utc
  iterate 9 apply Model.Yields.req
  apply Model.Yields.of
  rintro paymentId - orderId - customerId - amount ⟨_, -, paid⟩ currency - paymentMethod -
    deviceId - ipAddress - countryCode ⟨_, -, country⟩ completedAt completed
  apply Payload.Sound.of
  · exact ⟨positiveMoney_sound paid, countryCode_sound country⟩
  · simpa [Payload.instants] using completed
  · simp [Payload.integers]

theorem paymentFailed_sound :
    (paymentFailedModel py).Yields fun p => (Payload.paymentFailed p).Sound := by
  apply Model.Yields.utc
  iterate 10 apply Model.Yields.req
  apply Model.Yields.of
  rintro paymentId - orderId - customerId - amount ⟨_, -, asked⟩ currency - paymentMethod -
    failureReason - deviceId - ipAddress - countryCode ⟨_, -, country⟩ failedAt failed
  apply Payload.Sound.of
  · exact ⟨positiveMoney_sound asked, countryCode_sound country⟩
  · simpa [Payload.instants] using failed
  · simp [Payload.integers]

theorem refundRequested_sound :
    (refundRequestedModel py).Yields fun p => (Payload.refundRequested p).Sound := by
  apply Model.Yields.utc
  iterate 7 apply Model.Yields.req
  apply Model.Yields.of
  rintro refundId - paymentId - orderId - customerId - amount ⟨_, -, asked⟩ currency -
    reason ⟨_, -, given⟩ requestedAt requested
  apply Payload.Sound.of
  · exact ⟨positiveMoney_sound asked, nonEmptyString_sound given⟩
  · simpa [Payload.instants] using requested
  · simp [Payload.integers]

theorem fraudAlertCreated_sound :
    (fraudAlertCreatedModel py).Yields fun p => (Payload.fraudAlertCreated p).Sound := by
  apply Model.Yields.utc
  iterate 7 apply Model.Yields.req
  apply Model.Yields.of
  rintro alertId - eventId - customerId - orderId - score ⟨_, -, scored⟩ decision -
    reasons ⟨_, -, listed⟩ createdAt created
  apply Payload.Sound.of
  · exact ⟨of_decide_eq_true (money_sound scored), reasonList_sound listed⟩
  · simpa [Payload.instants] using created
  · simp [Payload.integers]

end

/-! ### Events -/

section

variable {parser : Parser}

theorem Model.Yields.get {α : Type} {m : Model parser.py α} {P : α → Prop} (h : m.Yields P)
    {members : List (Text × Json)} (short : Json.shortMembers members = true) {f : α → Payload}
    {payload : Payload} (read : f <$> (m.run members).get = .ok payload) :
    ∃ a, payload = f a ∧ P a := by
  cases here : (m.run members).get with
  | error e =>
    rw [here] at read
    cases read
  | ok a =>
    rw [here] at read
    cases read
    exact ⟨a, rfl, h members a short (Model.run_valid.mp (Validated.get_ok.mp here)).1⟩

theorem payloadOf_sound {eventType : EventType} {members : List (Text × Json)} {payload : Payload}
    (short : Json.shortMembers members = true)
    (read : parser.payloadOf eventType members = .ok payload) :
    payload.Sound ∧ payload.eventType = eventType := by
  cases eventType with
  | userRegistered =>
    obtain ⟨p, rfl, sound⟩ := userRegistered_sound.get short read
    exact ⟨sound, rfl⟩
  | sessionStarted =>
    obtain ⟨p, rfl, sound⟩ := sessionStarted_sound.get short read
    exact ⟨sound, rfl⟩
  | productViewed =>
    obtain ⟨p, rfl, sound⟩ := productViewed_sound.get short read
    exact ⟨sound, rfl⟩
  | addedToCart =>
    obtain ⟨p, rfl, sound⟩ := addedToCart_sound.get short read
    exact ⟨sound, rfl⟩
  | checkoutStarted =>
    obtain ⟨p, rfl, sound⟩ := checkoutStarted_sound.get short read
    exact ⟨sound, rfl⟩
  | orderCreated =>
    obtain ⟨p, rfl, sound⟩ := orderCreated_sound.get short read
    exact ⟨sound, rfl⟩
  | paymentCompleted =>
    obtain ⟨p, rfl, sound⟩ := paymentCompleted_sound.get short read
    exact ⟨sound, rfl⟩
  | paymentFailed =>
    obtain ⟨p, rfl, sound⟩ := paymentFailed_sound.get short read
    exact ⟨sound, rfl⟩
  | refundRequested =>
    obtain ⟨p, rfl, sound⟩ := refundRequested_sound.get short read
    exact ⟨sound, rfl⟩
  | fraudAlertCreated =>
    obtain ⟨p, rfl, sound⟩ := fraudAlertCreated_sound.get short read
    exact ⟨sound, rfl⟩

/-- What reading an envelope has checked. -/
structure EnvelopeInput.Sound (input : EnvelopeInput) : Prop where
  version : 0 < input.eventVersion ∧ ShortNat input.eventVersion
  eventTime : Instant.minimum ≤ input.eventTime ∧ input.eventTime ≤ Instant.maximum
  producedAt : Instant.minimum ≤ input.producedAt ∧ input.producedAt ≤ Instant.maximum
  source : IsNonEmptyString input.source

theorem envelopeInput_sound {py : Pydantic} :
    (envelopeInputModel py).Yields EnvelopeInput.Sound := by
  iterate 3 apply Model.Yields.req
  iterate 2 apply Model.Yields.utc
  iterate 3 apply Model.Yields.req
  apply Model.Yields.of
  rintro eventId - eventType - eventVersion ⟨_, short, version⟩ eventTime happened
    producedAt produced source ⟨_, -, named⟩ correlationId - payload -
  exact ⟨positiveInt_sound short version, happened, produced, nonEmptyString_sound named⟩

/-- pydantic-core reads no integer over 4300 digits. -/
def Pydantic.ReadsShortInts (py : Pydantic) : Prop :=
  ∀ bytes j, py.fromJson bytes = some j → j.shortInts = true

variable {event : EventEnvelope} {bytes : List UInt8}

theorem parseTyped_sound (ints : parser.py.ReadsShortInts) {eventType : EventType}
    (parsed : parser.parseTyped eventType bytes = .ok event) :
    WellFormed parser.context event ∧ ShortNat event.eventVersion ∧
      ∀ item ∈ event.payload.modelDump, item.2.shortInts = true := by
  obtain ⟨members, payloadMembers, input, h⟩ := Parser.parseTyped_ok.mp parsed
  have envelope := envelopeInput_sound members input (ints bytes _ h.document)
    (Model.run_valid.mp h.envelope).1
  obtain ⟨sound, -⟩ := payloadOf_sound (ints _ _ h.payloadDocument) h.payload
  have assembled := h.assembled
  have consistent := h.consistent
  have version : event.eventVersion = input.eventVersion := by rw [assembled]; rfl
  have source : event.source = input.source := by rw [assembled]; rfl
  have eventTime : event.eventTime = input.eventTime := by rw [assembled]; rfl
  have producedAt : event.producedAt = input.producedAt := by rw [assembled]; rfl
  have typed : event.eventType = input.eventType := by
    unfold validateContractConsistency at consistent
    split at consistent
    · cases consistent
    · rename_i same
      exact not_not.mp same
  refine ⟨?_, ?_, sound.short⟩
  · constructor
    · exact version ▸ envelope.version.1
    · exact source ▸ envelope.source
    · exact sound.fields
    · intro t mem
      simp only [EventEnvelope.instants, List.mem_cons] at mem
      rcases mem with rfl | rfl | mem
      · exact eventTime ▸ envelope.eventTime
      · exact producedAt ▸ envelope.producedAt
      · exact sound.instants t mem
    · exact h.totals
    · rw [typed]
      exact consistent
  · exact version ▸ envelope.version.2

/-- Whatever `parse_event` accepts is well formed, and `canonical_json` renders it. -/
theorem parseEvent_sound (ints : parser.py.ReadsShortInts)
    (parsed : parser.parseEvent bytes = .ok event) :
    WellFormed parser.context event ∧ ∃ text, event.canonicalJson = .ok text := by
  have typed : ∃ eventType, parser.parseTyped eventType bytes = .ok event := by
    unfold Parser.parseEvent at parsed
    repeat' split at parsed
    all_goals first
      | cases parsed
      | exact ⟨_, parsed⟩
  obtain ⟨eventType, parsed⟩ := typed
  obtain ⟨formed, version, payload⟩ := parseTyped_sound ints parsed
  exact ⟨formed, canonicalJson_short version payload⟩

end

end CommercePlatform.Contract
