import CommercePlatform.Contract.Canonical

/-!
`parse_event` reads what `canonical_json` renders.

An `EventEnvelope` of the repository has been validated when it was made: `WellFormed`
collects what its field types and validators have checked. What pydantic-core does with
the text of a UUID, a timestamp, a decimal or an address is assumed (`Denotes`), and so
is that its JSON parser reads the documents that the `json` module renders (`Conforms`).
-/

namespace CommercePlatform.Contract

/-! ### Leaf types -/

theorem Text.ofString_injective : Function.Injective Text.ofString := by
  intro s t same
  have chars : s.toList = t.toList := by
    refine List.map_injective_iff.mpr ?_ same
    intro a b eq
    exact Char.toNat_inj.mp eq
  exact String.toList_inj.mp chars

theorem toString?_ofString (s : String) : (Text.ofString s).toString? = some s := by
  unfold Text.toString?
  rw [if_pos (Text.ofString_encodable s)]
  simp [Text.ofString, Function.comp_def]

theorem strictStr_strJson (s : String) : strictStr (strJson s) = some s := toString?_ofString s

/-- A value of `NonEmptyString`: not empty, and no white space at either end. -/
structure IsNonEmptyString (s : String) : Prop where
  nonempty : s.toList ≠ []
  first : ∀ c, s.toList.head? = some c → isSpace c = false
  last : ∀ c, s.toList.getLast? = some c → isSpace c = false

theorem dropWhile_of_head {p : Char → Bool} {l : List Char}
    (head : ∀ c, l.head? = some c → p c = false) : l.dropWhile p = l := by
  cases l with
  | nil => rfl
  | cons c l => simp [head c rfl]

theorem nonEmptyString_strJson {s : String} (h : IsNonEmptyString s) :
    nonEmptyString (strJson s) = some s := by
  have stripped : ((s.toList.dropWhile isSpace).reverse.dropWhile isSpace).reverse = s.toList := by
    rw [dropWhile_of_head h.first, dropWhile_of_head, List.reverse_reverse]
    intro c eq
    exact h.last c (List.head?_reverse ▸ eq)
  unfold nonEmptyString
  simp only [strictStr_strJson, bind, Option.bind_some, stripped]
  rw [if_neg (by simpa using h.nonempty), String.ofList_toList]

/-- A value of `CountryCode`. -/
def IsCountryCode (s : String) : Prop :=
  s.toList.length = 2 ∧ s.toList.all (fun c => 'A' ≤ c ∧ c ≤ 'Z') = true

theorem countryCode_strJson {s : String} (h : IsCountryCode s) :
    countryCode (strJson s) = some s := by
  unfold countryCode
  simp only [strictStr_strJson, bind, Option.bind_some]
  exact if_pos h

theorem positiveInt_int {n : Nat} (positive : 0 < n) : positiveInt (.int n) = some n := by
  simp [positiveInt, strictInt, positive]

theorem nonNegativeInt_int (n : Nat) : nonNegativeInt (.int n) = some n := by
  simp [nonNegativeInt, strictInt]

/-- A member of an enumeration is read off its value. -/
theorem memberOf_memberJson {α : Type} [DecidableEq α] {members : List (String × α)} {a : α}
    (listed : (members.find? (·.1 = valueOf members a)).map (·.2) = some a) :
    memberOf members (memberJson members a) = some a := by
  unfold memberOf memberJson
  simp only [strictStr_strJson, bind, Option.bind_some]
  exact listed

theorem reasonList_arr {reasons : List String} (some_ : reasons ≠ [])
    (all : ∀ reason ∈ reasons, IsNonEmptyString reason) :
    reasonList (.arr (reasons.map strJson)) = some reasons := by
  have each : (reasons.map strJson).mapM nonEmptyString = some reasons := by
    clear some_
    induction reasons with
    | nil => rfl
    | cons reason reasons ih =>
      rw [List.map_cons, List.mapM_cons, nonEmptyString_strJson (all reason List.mem_cons_self),
        ih fun r mem => all r (List.mem_cons_of_mem _ mem)]
      rfl
  simp only [reasonList, each]
  rw [if_neg (by simpa using some_)]

theorem nullable_optional {leaf : Json → Option UUID} (reads : ∀ u, leaf (uuidJson u) = some u)
    (value : Option UUID) : nullable leaf (optionalUuidJson value) = some value := by
  cases value with
  | none => rfl
  | some u => exact congrArg (Option.map some) (reads u)

theorem money_moneyJson {py : Pydantic} {allowed : Rat → Bool} {d : Decimal}
    (reads : py.decimal (moneyJson d) = some d) (holds : allowed d.value = true) :
    money py allowed (moneyJson d) = some d := by
  simp only [money, reads, bind, Option.bind_some]
  rw [if_pos holds]

/-! ### Models -/

/-- Distinct keys are looked up in any order. -/
theorem lookup_of_mem {members : List (Text × Json)} (nodup : (members.map Prod.fst).Nodup)
    {name : String} {j : Json} (mem : (Text.ofString name, j) ∈ members) :
    Json.lookup members name = some j := by
  have found : members.reverse.find? (fun entry => entry.1 = Text.ofString name) =
      some (Text.ofString name, j) := by
    cases seen : members.reverse.find? fun entry => entry.1 = Text.ofString name with
    | none =>
      have absent := List.find?_eq_none.mp seen _ (List.mem_reverse.mpr mem)
      simp at absent
    | some entry =>
      have key : entry.1 = Text.ofString name := by simpa using List.find?_some seen
      have held := List.mem_reverse.mp (List.mem_of_find?_eq_some seen)
      rw [List.inj_on_of_nodup_map nodup held mem key]
  rw [Json.lookup, found]
  rfl

/-- The members of a `dict`. -/
def membersOf (items : List (String × Json)) : List (Text × Json) :=
  items.map fun item => (Text.ofString item.1, item.2)

section

variable {items : List (String × Json)} {members : List (Text × Json)}

theorem keys_perm (perm : members.Perm (membersOf items)) :
    (members.map Prod.fst).Perm ((items.map Prod.fst).map Text.ofString) := by
  simpa [membersOf, Function.comp_def] using perm.map Prod.fst

theorem lookup_items (nodup : (items.map Prod.fst).Nodup) (perm : members.Perm (membersOf items))
    {item : String × Json} (held : item ∈ items) :
    Json.lookup members item.1 = some item.2 := by
  have distinct : (members.map Prod.fst).Nodup :=
    (keys_perm perm).nodup_iff.mpr (nodup.map Text.ofString_injective)
  exact lookup_of_mem distinct (perm.mem_iff.mpr (List.mem_map.mpr ⟨item, held, rfl⟩))

end

/-- On an object with these fields the model gives `a`. -/
structure Model.Gives {py : Pydantic} {α : Type} (m : Model py α) (items : List (String × Json))
    (a : α) : Prop where
  fields : m.fields = items.map Prod.fst
  validates : ∀ members, (∀ item ∈ items, Json.lookup members item.1 = some item.2) →
    m.validate members = .valid a

namespace Model.Gives

variable {py : Pydantic} {α β : Type}

theorem of (f : α) : (Model.of py f).Gives [] f := ⟨rfl, fun _ _ => rfl⟩

theorem req {m : Model py (α → β)} {items : List (String × Json)} {f : α → β} (h : m.Gives items f)
    {name : String} {leaf : Json → Option α} {j : Json} {a : α} (read : leaf j = some a) :
    (m.req name leaf).Gives (items ++ [(name, j)]) (f a) := by
  refine ⟨by simp [Model.req, h.fields], fun members held => ?_⟩
  refine Model.validate_req.mpr ⟨f, a, h.validates members fun item mem => held item (by simp [mem]),
    ?_, rfl⟩
  rw [held (name, j) (by simp)]
  exact read

theorem utc {m : Model py (Instant → β)} {items : List (String × Json)} {f : Instant → β}
    (h : m.Gives items f) {name : String} {t : Instant}
    (read : py.awareDatetime (utcJson t) = some ⟨t, 0⟩)
    (within : Instant.minimum ≤ t ∧ t ≤ Instant.maximum) :
    (m.utc name).Gives (items ++ [(name, utcJson t)]) (f t) := by
  refine ⟨by simp [Model.utc, h.fields], fun members held => ?_⟩
  refine Model.validate_utc.mpr ⟨f, t, h.validates members fun item mem => held item (by simp [mem]),
    ⟨⟨t, 0⟩, ?_, ?_⟩, rfl⟩
  · rw [held (name, utcJson t) (by simp)]
    exact read
  · simp [normalizeUtc, Instant.subtract, within]

/-- The model runs on the members in any order. -/
theorem run {m : Model py α} {items : List (String × Json)} {a : α} (h : m.Gives items a)
    (nodup : (items.map Prod.fst).Nodup) {members : List (Text × Json)}
    (perm : members.Perm (membersOf items)) : m.run members = .valid a := by
  refine Model.run_valid.mpr ⟨h.validates members fun item held => lookup_items nodup perm held,
    fun entry mem => ?_⟩
  rw [h.fields]
  exact (keys_perm perm).mem_iff.mp (List.mem_map_of_mem mem)

end Model.Gives

/-! ### Events -/

namespace Payload

/-- The timestamps of a payload. -/
def instants : Payload → List Instant
  | userRegistered p => [p.registeredAt]
  | sessionStarted p => [p.startedAt]
  | orderCreated p => [p.createdAt]
  | paymentCompleted p => [p.completedAt]
  | paymentFailed p => [p.failedAt]
  | refundRequested p => [p.requestedAt]
  | fraudAlertCreated p => [p.createdAt]
  | _ => []

/-- The amounts of a payload. -/
def decimals : Payload → List Decimal
  | productViewed p => [p.unitPrice]
  | addedToCart p => [p.unitPrice]
  | checkoutStarted p => [p.subtotal, p.discountAmount, p.totalAmount]
  | orderCreated p => [p.subtotal, p.discountAmount, p.totalAmount]
  | paymentCompleted p => [p.amount]
  | paymentFailed p => [p.amount]
  | refundRequested p => [p.amount]
  | fraudAlertCreated p => [p.fraudScore]
  | _ => []

def addresses : Payload → List IpAddress
  | sessionStarted p => [p.ipAddress]
  | paymentCompleted p => [p.ipAddress]
  | paymentFailed p => [p.ipAddress]
  | _ => []

/-- What the field types of a payload have checked, timestamps apart. -/
def FieldsValid : Payload → Prop
  | userRegistered p => IsNonEmptyString p.emailHash ∧ IsCountryCode p.countryCode
  | sessionStarted p => IsCountryCode p.countryCode
  | productViewed p => IsNonEmptyString p.category ∧ 0 ≤ p.unitPrice.value
  | addedToCart p => 0 < p.quantity ∧ 0 ≤ p.unitPrice.value
  | checkoutStarted p => 0 < p.itemCount ∧ 0 ≤ p.subtotal.value ∧ 0 ≤ p.discountAmount.value ∧
      0 ≤ p.totalAmount.value
  | orderCreated p => 0 < p.itemCount ∧ 0 ≤ p.subtotal.value ∧ 0 ≤ p.discountAmount.value ∧
      0 ≤ p.totalAmount.value ∧ IsCountryCode p.shippingCountryCode ∧
      IsCountryCode p.billingCountryCode
  | paymentCompleted p => 0 < p.amount.value ∧ IsCountryCode p.countryCode
  | paymentFailed p => 0 < p.amount.value ∧ IsCountryCode p.countryCode
  | refundRequested p => 0 < p.amount.value ∧ IsNonEmptyString p.reason
  | fraudAlertCreated p => (0 ≤ p.fraudScore.value ∧ p.fraudScore.value ≤ 100) ∧ p.reasons ≠ [] ∧
      ∀ reason ∈ p.reasons, IsNonEmptyString reason

end Payload

def EventEnvelope.instants (event : EventEnvelope) : List Instant :=
  event.eventTime :: event.producedAt :: event.payload.instants

/-- What has been checked when an envelope was made. -/
structure WellFormed (context : DecimalContext) (event : EventEnvelope) : Prop where
  version : 0 < event.eventVersion
  source : IsNonEmptyString event.source
  fields : event.payload.FieldsValid
  instants : ∀ t ∈ event.instants, Instant.minimum ≤ t ∧ t ≤ Instant.maximum
  totals : validateTotals context event.payload = .ok ()
  consistent : validateContractConsistency event.eventType event = .ok ()

/-- pydantic reads the scalars of the event off their text. -/
structure Denotes (py : Pydantic) (event : EventEnvelope) : Prop where
  uuid : ∀ u, py.uuid (uuidJson u) = some u
  instants : ∀ t ∈ event.instants, py.awareDatetime (utcJson t) = some ⟨t, 0⟩
  decimals : ∀ d ∈ event.payload.decimals, py.decimal (moneyJson d) = some d
  addresses : ∀ ip ∈ event.payload.addresses, py.ipAddress (strJson ip.text) = some ip

section

variable {parser : Parser} {event : EventEnvelope}

theorem eventType_listed (t : EventType) :
    memberOf eventTypes (strJson t.value) = some t := by
  unfold memberOf
  simp only [strictStr_strJson, bind, Option.bind_some]
  cases t <;> rfl

theorem envelope_gives (formed : WellFormed parser.context event)
    (denotes : Denotes parser.py event) (members : List (Text × Json)) :
    (envelopeInputModel parser.py).Gives (event.fields (.obj members))
      { eventId := event.eventId, eventType := event.eventType, eventVersion := event.eventVersion
        eventTime := event.eventTime, producedAt := event.producedAt, source := event.source
        correlationId := event.correlationId, payload := .obj members } :=
  Model.Gives.of EnvelopeInput.mk
    |>.req (denotes.uuid event.eventId)
    |>.req (eventType_listed event.eventType)
    |>.req (positiveInt_int formed.version)
    |>.utc (denotes.instants _ (by simp [EventEnvelope.instants]))
      (formed.instants _ (by simp [EventEnvelope.instants]))
    |>.utc (denotes.instants _ (by simp [EventEnvelope.instants]))
      (formed.instants _ (by simp [EventEnvelope.instants]))
    |>.req (nonEmptyString_strJson formed.source)
    |>.req (denotes.uuid event.correlationId)
    |>.req rfl

theorem modelDump_nodup (payload : Payload) : (payload.modelDump.map Prod.fst).Nodup := by
  cases payload <;> simp [Payload.modelDump]

/-- A model that gives a payload, on its members in any order. -/
theorem Model.Gives.payload {α : Type} {m : Model parser.py α} {items : List (String × Json)} {a : α}
    (h : m.Gives items a) (wrap : α → Payload) (nodup : (items.map Prod.fst).Nodup)
    {members : List (Text × Json)}
    (perm : members.Perm (membersOf items)) :
    wrap <$> (m.run members).get = .ok (wrap a) := by
  rw [h.run nodup perm]
  rfl

variable {payload : Payload} {members : List (Text × Json)}

/-- The registered model reads a payload off its dump. -/
theorem payloadOf_modelDump (uuid : ∀ u, parser.py.uuid (uuidJson u) = some u)
    (instants : ∀ t ∈ payload.instants, parser.py.awareDatetime (utcJson t) = some ⟨t, 0⟩ ∧
      Instant.minimum ≤ t ∧ t ≤ Instant.maximum)
    (decimals : ∀ d ∈ payload.decimals, parser.py.decimal (moneyJson d) = some d)
    (addresses : ∀ ip ∈ payload.addresses, parser.py.ipAddress (strJson ip.text) = some ip)
    (fields : payload.FieldsValid)
    (perm : members.Perm (membersOf payload.modelDump)) :
    parser.payloadOf payload.eventType members = .ok payload := by
  cases payload with
  | userRegistered p =>
    obtain ⟨read, within⟩ := instants _ (List.mem_singleton_self _)
    have gives : (userRegisteredModel parser.py).Gives (Payload.userRegistered p).modelDump p :=
      Model.Gives.of UserRegisteredPayload.mk
        |>.req (uuid _)
        |>.req (nonEmptyString_strJson fields.1)
        |>.req (countryCode_strJson fields.2)
        |>.req (memberOf_memberJson (by cases p.persona <;> rfl))
        |>.utc read within
    exact gives.payload .userRegistered (modelDump_nodup _) perm
  | sessionStarted p =>
    obtain ⟨read, within⟩ := instants _ (List.mem_singleton_self _)
    have gives : (sessionStartedModel parser.py).Gives (Payload.sessionStarted p).modelDump p :=
      Model.Gives.of SessionStartedPayload.mk
        |>.req (uuid _)
        |>.req (uuid _)
        |>.req (uuid _)
        |>.req (memberOf_memberJson (by cases p.deviceType <;> rfl))
        |>.req (addresses _ (List.mem_singleton_self _))
        |>.req (countryCode_strJson fields)
        |>.req (memberOf_memberJson (by cases p.channel <;> rfl))
        |>.utc read within
    exact gives.payload .sessionStarted (modelDump_nodup _) perm
  | productViewed p =>
    have gives : (productViewedModel parser.py).Gives (Payload.productViewed p).modelDump p :=
      Model.Gives.of ProductViewedPayload.mk
        |>.req (uuid _)
        |>.req (uuid _)
        |>.req (uuid _)
        |>.req (nonEmptyString_strJson fields.1)
        |>.req (money_moneyJson (decimals _ (List.mem_singleton_self _)) (decide_eq_true fields.2))
        |>.req (memberOf_memberJson (by cases p.currency <;> rfl))
        |>.req (nonNegativeInt_int _)
    exact gives.payload .productViewed (modelDump_nodup _) perm
  | addedToCart p =>
    have gives : (addedToCartModel parser.py).Gives (Payload.addedToCart p).modelDump p :=
      Model.Gives.of AddedToCartPayload.mk
        |>.req (uuid _)
        |>.req (uuid _)
        |>.req (uuid _)
        |>.req (uuid _)
        |>.req (positiveInt_int fields.1)
        |>.req (money_moneyJson (decimals _ (List.mem_singleton_self _)) (decide_eq_true fields.2))
        |>.req (memberOf_memberJson (by cases p.currency <;> rfl))
    exact gives.payload .addedToCart (modelDump_nodup _) perm
  | checkoutStarted p =>
    have gives : (checkoutStartedModel parser.py).Gives (Payload.checkoutStarted p).modelDump p :=
      Model.Gives.of CheckoutStartedPayload.mk
        |>.req (uuid _)
        |>.req (uuid _)
        |>.req (uuid _)
        |>.req (positiveInt_int fields.1)
        |>.req (money_moneyJson (decimals _ (by simp [Payload.decimals])) (decide_eq_true fields.2.1))
        |>.req (money_moneyJson (decimals _ (by simp [Payload.decimals]))
          (decide_eq_true fields.2.2.1))
        |>.req (money_moneyJson (decimals _ (by simp [Payload.decimals]))
          (decide_eq_true fields.2.2.2))
        |>.req (memberOf_memberJson (by cases p.currency <;> rfl))
    exact gives.payload .checkoutStarted (modelDump_nodup _) perm
  | orderCreated p =>
    obtain ⟨read, within⟩ := instants _ (List.mem_singleton_self _)
    have gives : (orderCreatedModel parser.py).Gives (Payload.orderCreated p).modelDump p :=
      Model.Gives.of OrderCreatedPayload.mk
        |>.req (uuid _)
        |>.req (uuid _)
        |>.req (uuid _)
        |>.req (uuid _)
        |>.req (positiveInt_int fields.1)
        |>.req (money_moneyJson (decimals _ (by simp [Payload.decimals])) (decide_eq_true fields.2.1))
        |>.req (money_moneyJson (decimals _ (by simp [Payload.decimals]))
          (decide_eq_true fields.2.2.1))
        |>.req (money_moneyJson (decimals _ (by simp [Payload.decimals]))
          (decide_eq_true fields.2.2.2.1))
        |>.req (memberOf_memberJson (by cases p.currency <;> rfl))
        |>.req (countryCode_strJson fields.2.2.2.2.1)
        |>.req (countryCode_strJson fields.2.2.2.2.2)
        |>.utc read within
    exact gives.payload .orderCreated (modelDump_nodup _) perm
  | paymentCompleted p =>
    obtain ⟨read, within⟩ := instants _ (List.mem_singleton_self _)
    have gives : (paymentCompletedModel parser.py).Gives (Payload.paymentCompleted p).modelDump p :=
      Model.Gives.of PaymentCompletedPayload.mk
        |>.req (uuid _)
        |>.req (uuid _)
        |>.req (uuid _)
        |>.req (money_moneyJson (decimals _ (List.mem_singleton_self _)) (decide_eq_true fields.1))
        |>.req (memberOf_memberJson (by cases p.currency <;> rfl))
        |>.req (memberOf_memberJson (by cases p.paymentMethod <;> rfl))
        |>.req (uuid _)
        |>.req (addresses _ (List.mem_singleton_self _))
        |>.req (countryCode_strJson fields.2)
        |>.utc read within
    exact gives.payload .paymentCompleted (modelDump_nodup _) perm
  | paymentFailed p =>
    obtain ⟨read, within⟩ := instants _ (List.mem_singleton_self _)
    have gives : (paymentFailedModel parser.py).Gives (Payload.paymentFailed p).modelDump p :=
      Model.Gives.of PaymentFailedPayload.mk
        |>.req (uuid _)
        |>.req (uuid _)
        |>.req (uuid _)
        |>.req (money_moneyJson (decimals _ (List.mem_singleton_self _)) (decide_eq_true fields.1))
        |>.req (memberOf_memberJson (by cases p.currency <;> rfl))
        |>.req (memberOf_memberJson (by cases p.paymentMethod <;> rfl))
        |>.req (memberOf_memberJson (by cases p.failureReason <;> rfl))
        |>.req (uuid _)
        |>.req (addresses _ (List.mem_singleton_self _))
        |>.req (countryCode_strJson fields.2)
        |>.utc read within
    exact gives.payload .paymentFailed (modelDump_nodup _) perm
  | refundRequested p =>
    obtain ⟨read, within⟩ := instants _ (List.mem_singleton_self _)
    have gives : (refundRequestedModel parser.py).Gives (Payload.refundRequested p).modelDump p :=
      Model.Gives.of RefundRequestedPayload.mk
        |>.req (uuid _)
        |>.req (uuid _)
        |>.req (uuid _)
        |>.req (uuid _)
        |>.req (money_moneyJson (decimals _ (List.mem_singleton_self _)) (decide_eq_true fields.1))
        |>.req (memberOf_memberJson (by cases p.currency <;> rfl))
        |>.req (nonEmptyString_strJson fields.2)
        |>.utc read within
    exact gives.payload .refundRequested (modelDump_nodup _) perm
  | fraudAlertCreated p =>
    obtain ⟨read, within⟩ := instants _ (List.mem_singleton_self _)
    have gives : (fraudAlertCreatedModel parser.py).Gives (Payload.fraudAlertCreated p).modelDump p :=
      Model.Gives.of FraudAlertCreatedPayload.mk
        |>.req (uuid _)
        |>.req (uuid _)
        |>.req (nullable_optional uuid _)
        |>.req (nullable_optional uuid _)
        |>.req (money_moneyJson (decimals _ (List.mem_singleton_self _)) (decide_eq_true fields.1))
        |>.req (memberOf_memberJson (by cases p.decision <;> rfl))
        |>.req (reasonList_arr fields.2.1 fields.2.2)
        |>.utc read within
    exact gives.payload .fraudAlertCreated (modelDump_nodup _) perm

end

/-! ### Documents -/

namespace Json

/-- A value that `sort_keys` leaves, and that a document of one more level has room for. -/
structure Shallow (j : Json) : Prop where
  sorted : j.sortKeys = j
  fits : j.shortInts = true → ∀ levels, j.fits (levels + 1) = true

theorem shallow_strJson (s : String) : (strJson s).Shallow :=
  ⟨rfl, fun _ _ => Text.ofString_scalar s⟩

theorem shallow_int (n : Int) : (int n).Shallow := ⟨rfl, fun short _ => short⟩

theorem shallow_optional (value : Option UUID) : (optionalUuidJson value).Shallow := by
  cases value with
  | none => exact ⟨rfl, fun _ _ => rfl⟩
  | some u => exact shallow_strJson _

theorem shallow_strings (texts : List String) : (arr (texts.map strJson)).Shallow := by
  have sorted : sortItems (texts.map strJson) = texts.map strJson := by
    induction texts with
    | nil => rfl
    | cons text texts ih => simp [sortItems, ih, (shallow_strJson text).sorted]
  have fits : ∀ levels, fitsItems (texts.map strJson) levels = true := by
    intro levels
    clear sorted
    induction texts with
    | nil => rfl
    | cons text texts ih =>
      have room : (strJson text).fits levels = true := Text.ofString_scalar text
      simp [fitsItems, ih, room]
  exact ⟨congrArg arr sorted, fun _ levels => fits levels⟩

theorem sortMembers_shallow {members : List (Text × Json)} (all : ∀ m ∈ members, m.2.Shallow) :
    sortMembers members = members := by
  induction members with
  | nil => rfl
  | cons member members ih =>
    obtain ⟨key, value⟩ := member
    have rest := ih fun m mem => all m (List.mem_cons_of_mem _ mem)
    have here : value.sortKeys = value := (all (key, value) List.mem_cons_self).sorted
    rw [sortMembers, rest, here]

theorem shortMembers_iff {members : List (Text × Json)} :
    shortMembers members = true ↔ ∀ m ∈ members, m.2.shortInts = true := by
  induction members with
  | nil => simp [shortMembers]
  | cons member members ih => simp [shortMembers, ih]

theorem fitsMembers_iff {members : List (Text × Json)} {levels : Nat} :
    fitsMembers members levels = true ↔
      ∀ m ∈ members, m.1.scalar = true ∧ m.2.fits levels = true := by
  induction members with
  | nil => simp [fitsMembers]
  | cons member members ih => simp [fitsMembers, ih]

end Json

/-- `sort_keys` on the members of an object. -/
def byKey (members : List (Text × Json)) : List (Text × Json) :=
  members.mergeSort fun a b => a.1 ≤ b.1

theorem byKey_perm (members : List (Text × Json)) : (byKey members).Perm members :=
  List.mergeSort_perm members _

/-- An object with these items, in any order, has room for them. -/
theorem fits_items {items : List (String × Json)} {members : List (Text × Json)} {levels : Nat}
    (perm : members.Perm (membersOf items)) (each : ∀ item ∈ items, item.2.fits levels = true) :
    (Json.obj members).fits (levels + 1) = true := by
  refine Json.fitsMembers_iff.mpr fun m mem => ?_
  obtain ⟨item, held, rfl⟩ := List.mem_map.mp (perm.mem_iff.mp mem)
  exact ⟨Text.ofString_scalar item.1, each item held⟩

theorem modelDump_shallow (payload : Payload) : ∀ item ∈ payload.modelDump, item.2.Shallow := by
  cases payload <;>
    simp [Payload.modelDump, uuidJson, moneyJson, utcJson, memberJson, Json.shallow_strJson,
      Json.shallow_int, Json.shallow_optional, Json.shallow_strings]

section

variable {event : EventEnvelope} {text : Text}

/-- The members of the payload in the canonical document. -/
def EventEnvelope.payloadMembers (event : EventEnvelope) : List (Text × Json) :=
  byKey (membersOf event.payload.modelDump)

/-- The members of the canonical document. -/
def EventEnvelope.members (event : EventEnvelope) : List (Text × Json) :=
  byKey (membersOf (event.fields (.obj event.payloadMembers)))

theorem sortKeys_modelDump (event : EventEnvelope) :
    event.modelDump.sortKeys = .obj event.members := by
  have payload : (dictJson event.payload.modelDump).sortKeys = .obj event.payloadMembers := by
    have shallow : ∀ m ∈ membersOf event.payload.modelDump, m.2.Shallow := by
      intro m mem
      obtain ⟨item, held, rfl⟩ := List.mem_map.mp mem
      exact modelDump_shallow event.payload item held
    change Json.obj (byKey (Json.sortMembers (membersOf event.payload.modelDump))) = _
    rw [Json.sortMembers_shallow shallow]
    rfl
  change Json.obj (byKey (Json.sortMembers
    (membersOf (event.fields (dictJson event.payload.modelDump))))) = _
  have fields : Json.sortMembers (membersOf (event.fields (dictJson event.payload.modelDump))) =
      membersOf (event.fields (.obj event.payloadMembers)) := by
    simp [Json.sortMembers, membersOf, EventEnvelope.fields, payload, uuidJson, utcJson,
      (Json.shallow_strJson _).sorted, (Json.shallow_int _).sorted]
  rw [fields]
  rfl

/-- What `canonical_json` renders: the document, which fits in three levels. -/
theorem canonicalJson_ok (rendered : event.canonicalJson = .ok text) :
    text = (Json.obj event.members).dumps false ∧
      (∀ levels, (Json.obj event.members).fits (levels + 3) = true) ∧
      ∀ levels, (Json.obj event.payloadMembers).fits (levels + 2) = true := by
  unfold EventEnvelope.canonicalJson at rendered
  split at rendered
  · rename_i short
    cases rendered
    have fields := Json.shortMembers_iff.mp short
    have payloadShort : ∀ item ∈ event.payload.modelDump, item.2.shortInts = true := by
      intro item held
      refine Json.shortMembers_iff.mp (fields (Text.ofString "payload", dictJson _) ?_) _
        (List.mem_map_of_mem held)
      simp [EventEnvelope.fields]
    have versionShort : (Json.int event.eventVersion).shortInts = true :=
      fields (Text.ofString "event_version", .int event.eventVersion)
        (by simp [EventEnvelope.fields])
    have payload : ∀ levels, (Json.obj event.payloadMembers).fits (levels + 2) = true :=
      fun levels => fits_items (byKey_perm _) fun item held =>
        (modelDump_shallow event.payload item held).fits (payloadShort item held) levels
    refine ⟨by rw [sortKeys_modelDump], fun levels => fits_items (byKey_perm _) fun item held => ?_,
      payload⟩
    simp only [EventEnvelope.fields, List.mem_cons, List.not_mem_nil, or_false] at held
    have strings : ∀ s, (strJson s).fits (levels + 2) = true := fun s => Text.ofString_scalar s
    rcases held with rfl | rfl | rfl | rfl | rfl | rfl | rfl | rfl
    · exact strings _
    · exact strings _
    · exact versionShort
    · exact strings _
    · exact strings _
    · exact strings _
    · exact strings _
    · exact payload levels
  · cases rendered

end

/-! ### parse_event -/

/-- pydantic reads the documents that `json.dumps` renders, and `json.dumps` renders the
payload that was read. -/
structure Conforms (parser : Parser) : Prop where
  levels : 3 ≤ parser.recursionLimit
  reads : ∀ ascii members, (Json.obj members).fits 3 = true →
    parser.py.fromJson (((Json.obj members).dumps ascii).flatMap Text.encodePoint) =
      some (.obj members)
  dumps : ∀ members, (Json.obj members).fits 3 = true →
    parser.py.dumps (.obj members) = ((Json.obj members).dumps true).flatMap Text.encodePoint

/-- It is enough to read and render documents as a parser that conforms. -/
theorem Conforms.congr {parser other : Parser} (h : Conforms parser)
    (levels : 3 ≤ other.recursionLimit) (fromJson : other.py.fromJson = parser.py.fromJson)
    (dumps : other.py.dumps = parser.py.dumps) : Conforms other where
  levels := levels
  reads ascii members fits := by
    rw [fromJson]
    exact h.reads ascii members fits
  dumps members fits := by
    rw [dumps]
    exact h.dumps members fits

section

variable {parser : Parser} {event : EventEnvelope} {text : Text} {bytes : List UInt8}

theorem members_nodup (event : EventEnvelope) (payload : Json) :
    ((event.fields payload).map Prod.fst).Nodup := by
  simp [EventEnvelope.fields]

theorem lookup_members {name : String} {j : Json}
    (field : (name, j) ∈ event.fields (.obj event.payloadMembers)) :
    Json.lookup event.members name = some j :=
  lookup_items (members_nodup event _) (byKey_perm _) field

theorem find_eventType (t : EventType) :
    (eventTypes.find? fun entry => Text.ofString entry.1 = Text.ofString t.value) =
      some (t.value, t) := by
  cases t <;> decide

/-- The passes of `parse_event` lead from the document back to the event. -/
theorem parseTyped_canonical (conforms : Conforms parser) (formed : WellFormed parser.context event)
    (denotes : Denotes parser.py event) (rendered : event.canonicalJson = .ok text) :
    parser.parseTyped event.eventType (text.flatMap Text.encodePoint) = .ok event := by
  obtain ⟨rfl, fits, payloadFits⟩ := canonicalJson_ok rendered
  have envelope := (envelope_gives formed denotes event.payloadMembers).run (members_nodup event _)
    (byKey_perm _)
  have payloadDocument : parser.py.fromJson (parser.py.dumps (.obj event.payloadMembers)) =
      some (.obj event.payloadMembers) := by
    rw [conforms.dumps _ (payloadFits 1)]
    exact conforms.reads true _ (payloadFits 1)
  refine Parser.parseTyped_ok.mpr ⟨event.members, event.payloadMembers, _,
    conforms.reads false _ (fits 0), envelope, payloadDocument, ?_, formed.totals,
    formed.consistent, rfl⟩
  refine payloadOf_modelDump denotes.uuid (fun t mem => ?_) denotes.decimals denotes.addresses
    formed.fields (byKey_perm _)
  have held : t ∈ event.instants := List.mem_cons_of_mem _ (List.mem_cons_of_mem _ mem)
  exact ⟨denotes.instants t held, formed.instants t held⟩

/-- The raw document names the type and the version. -/
theorem loads_canonical (conforms : Conforms parser) (rendered : event.canonicalJson = .ok text) :
    parser.loads (text.flatMap Text.encodePoint) = .ok (.obj event.members) ∧
      Json.loadsStr parser.recursionLimit text = .ok (.obj event.members) := by
  obtain ⟨rfl, fits, -⟩ := canonicalJson_ok rendered
  obtain ⟨more, limit⟩ := Nat.exists_eq_add_of_le' conforms.levels
  refine ⟨?_, ?_⟩
  · rw [Parser.loads, limit]
    exact Json.loads_dumps false (fits more)
  · rw [limit]
    exact Json.loadsStr_dumps false (fits more)

/-- Canonical JSON is UTF-8. -/
theorem canonicalJson_scalar (rendered : event.canonicalJson = .ok text) : text.scalar = true := by
  obtain ⟨rfl, fits, -⟩ := canonicalJson_ok rendered
  exact Json.dumps_scalar false _ (fits 0)

theorem encode_eq (encoded : text.encode = .ok bytes) : bytes = text.flatMap Text.encodePoint := by
  unfold Text.encode at encoded
  split at encoded
  · exact (Except.ok.inj encoded).symm
  · cases encoded

/-- `parse_event` of canonical JSON, as text and as bytes. -/
theorem parseEvent_canonical (conforms : Conforms parser) (formed : WellFormed parser.context event)
    (denotes : Denotes parser.py event) (rendered : event.canonicalJson = .ok text)
    (encoded : text.encode = .ok bytes) :
    parser.parseEventStr text = .ok event ∧ parser.parseEvent bytes = .ok event := by
  obtain ⟨decoded, decodedStr⟩ := loads_canonical conforms rendered
  have named : Json.lookup event.members "event_type" = some (strJson event.eventType.value) :=
    lookup_members (by simp [EventEnvelope.fields])
  have parsed := parseTyped_canonical conforms formed denotes rendered
  rw [← encode_eq encoded] at decoded parsed
  refine ⟨?_, ?_⟩
  · unfold Parser.parseEventStr
    simp only [decodedStr, named, strJson, find_eventType, encoded, parsed]
  · unfold Parser.parseEvent
    simp only [decoded, named, strJson, find_eventType, parsed]

end

end CommercePlatform.Contract
