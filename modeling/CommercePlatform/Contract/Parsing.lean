import CommercePlatform.Contract.Events
import CommercePlatform.Contract.Json

/-!
Parsing an event (`shared/schemas/envelope.py` and the payload models).

pydantic validates the fields of a model in their order and collects their errors, but
only `ValueError` and `AssertionError` count as errors: any other exception leaves at
once, whatever the other fields hold. `Validated` is such a result. The JSON parser and
the leaf validators of pydantic-core are parameters (`Pydantic`); the rules of the
repository, which are field types, normalisation to UTC and the model validators, are
written out.
-/

namespace CommercePlatform.Contract

/-- A datetime with its offset from UTC, both in microseconds. -/
structure AwareDatetime where
  wall : Int
  offset : Int

/-- pydantic-core in strict JSON mode: the parser, and the validators of leaf types that
are not spelled out below; and `json.dumps`, which renders the payload again. -/
structure Pydantic where
  fromJson : List UInt8 → Option Json
  dumps : Json → List UInt8
  uuid : Json → Option UUID
  awareDatetime : Json → Option AwareDatetime
  decimal : Json → Option Decimal
  ipAddress : Json → Option IpAddress

/-- The outcome of a validation: a value, collected errors, or an exception that is not
collected. -/
inductive Validated (α : Type) where
  | valid (a : α)
  | errors
  | raised (e : PyException)

namespace Validated

variable {α β : Type}

/-- Both are evaluated, in this order, and their errors collected. -/
def ap : Validated (α → β) → Validated α → Validated β
  | raised e, _ => raised e
  | _, raised e => raised e
  | valid f, valid a => valid (f a)
  | _, _ => errors

theorem ap_raised {f : Validated (α → β)} {a : Validated α} {e : PyException} :
    f.ap a = raised e ↔ f = raised e ∨ ((∀ e', f ≠ raised e') ∧ a = raised e) := by
  cases f <;> cases a <;> simp [ap]

theorem ap_valid {f : Validated (α → β)} {a : Validated α} {b : β} :
    f.ap a = valid b ↔ ∃ g x, f = valid g ∧ a = valid x ∧ b = g x := by
  cases f <;> cases a <;> simp [ap, eq_comm]

def ofOption : Option α → Validated α
  | some a => valid a
  | none => errors

/-- `ValidationError` when errors were collected. -/
def get : Validated α → Except PyException α
  | valid a => .ok a
  | errors => .error .validationError
  | raised e => .error e

theorem get_ok {v : Validated α} {a : α} : v.get = .ok a ↔ v = .valid a := by
  cases v <;> simp [get]

end Validated

/-! ### Leaf types -/

/-- Text as pydantic-core holds it. -/
def Text.toString? (t : Text) : Option String :=
  if t.encodable then some (String.ofList (t.map Char.ofNat)) else none

def strictStr : Json → Option String
  | .str t => t.toString?
  | _ => none

def strictInt : Json → Option Int
  | .int n => some n
  | _ => none

/-- Unicode white space, which `strip_whitespace` strips. -/
def isSpace (c : Char) : Bool :=
  let n := c.toNat
  (0x9 ≤ n ∧ n ≤ 0xD) ∨ n = 0x20 ∨ n = 0x85 ∨ n = 0xA0 ∨ n = 0x1680 ∨ (0x2000 ≤ n ∧ n ≤ 0x200A) ∨
    n = 0x2028 ∨ n = 0x2029 ∨ n = 0x202F ∨ n = 0x205F ∨ n = 0x3000

/-- What `strip_whitespace` makes of a text. -/
def strip (s : String) : String :=
  String.ofList (((s.toList.dropWhile isSpace).reverse.dropWhile isSpace).reverse)

/-- `NonEmptyString`. -/
def nonEmptyString (j : Json) : Option String := do
  let s ← strictStr j
  let stripped := ((s.toList.dropWhile isSpace).reverse.dropWhile isSpace).reverse
  if stripped.isEmpty then none else some (String.ofList stripped)

/-- `CountryCode`. -/
def countryCode (j : Json) : Option String := do
  let s ← strictStr j
  if s.toList.length = 2 ∧ s.toList.all fun c => 'A' ≤ c ∧ c ≤ 'Z' then some s else none

def positiveInt (j : Json) : Option Nat := do
  let n ← strictInt j
  if 0 < n then some n.toNat else none

def nonNegativeInt (j : Json) : Option Nat := do
  let n ← strictInt j
  if 0 ≤ n then some n.toNat else none

/-- A member of an enumeration, by its value. -/
def memberOf {α : Type} (members : List (String × α)) (j : Json) : Option α := do
  let s ← strictStr j
  (members.find? (·.1 = s)).map (·.2)

def eventTypes : List (String × EventType) :=
  [.userRegistered, .sessionStarted, .productViewed, .addedToCart, .checkoutStarted, .orderCreated,
    .paymentCompleted, .paymentFailed, .refundRequested, .fraudAlertCreated].map fun t => (t.value, t)

def personas : List (String × CustomerPersona) :=
  [("normal", .normal), ("indecisive", .indecisive), ("discount_hunter", .discountHunter),
    ("suspicious", .suspicious), ("bot", .bot), ("account_takeover", .accountTakeover)]

def currencies : List (String × Currency) :=
  [("TRY", .try_), ("EUR", .eur), ("USD", .usd), ("GBP", .gbp)]

def paymentMethods : List (String × PaymentMethod) :=
  [("credit_card", .creditCard), ("debit_card", .debitCard), ("bank_transfer", .bankTransfer),
    ("digital_wallet", .digitalWallet)]

def failureReasons : List (String × PaymentFailureReason) :=
  [("insufficient_funds", .insufficientFunds), ("declined", .declined),
    ("expired_card", .expiredCard), ("invalid_details", .invalidDetails),
    ("processor_error", .processorError), ("fraud_suspected", .fraudSuspected)]

def fraudDecisions : List (String × FraudDecision) :=
  [("APPROVE", .approve), ("REVIEW", .review), ("BLOCK", .block)]

def deviceTypes : List (String × DeviceType) :=
  [("desktop", .desktop), ("mobile", .mobile), ("tablet", .tablet), ("bot", .bot)]

def sessionChannels : List (String × SessionChannel) :=
  [("web", .web), ("mobile_app", .mobileApp), ("partner", .partner), ("api", .api)]

/-- `UUID | None` of a required field. -/
def nullable {α : Type} (leaf : Json → Option α) : Json → Option (Option α)
  | .null => some none
  | j => (leaf j).map some

/-- `Annotated[list[NonEmptyString], Field(min_length=1)]`. -/
def reasonList : Json → Option (List String)
  | .arr items => if items.isEmpty then none else items.mapM nonEmptyString
  | _ => none

/-! ### Fields -/

/-- `normalize_utc`. -/
def normalizeUtc (value : AwareDatetime) : Except PyException Instant :=
  Instant.subtract value.wall value.offset

section

variable (py : Pydantic)

/-- `NonNegativeMoney`, `PositiveMoney` and `FraudScore`. -/
def money (allowed : Rat → Bool) (j : Json) : Option Decimal := do
  let d ← py.decimal j
  if allowed d.value then some d else none

def nonNegativeMoney : Json → Option Decimal := money py fun v => 0 ≤ v

def positiveMoney : Json → Option Decimal := money py fun v => 0 < v

def fraudScore : Json → Option Decimal := money py fun v => 0 ≤ v ∧ v ≤ 100

/-- A required field of a model. -/
def field {α : Type} (members : List (Text × Json)) (name : String) (leaf : Json → Option α) :
    Validated α :=
  .ofOption ((Json.lookup members name).bind leaf)

/-- A required `UtcDateTime` field. -/
def utcField (members : List (Text × Json)) (name : String) : Validated Instant :=
  match (Json.lookup members name).bind py.awareDatetime with
  | none => .errors
  | some value =>
    match normalizeUtc value with
    | .ok instant => .valid instant
    | .error e => .raised e

/-- `extra="forbid"`: the members are among the fields. -/
def forbidExtra {α : Type} (members : List (Text × Json)) (fields : List String) :
    Validated α → Validated α
  | .valid a =>
    if members.all fun m => (fields.map Text.ofString).contains m.1 then .valid a else .errors
  | v => v

/-- The field holds a datetime that has no UTC form in the years 1 to 9999. -/
def LeavesYears (members : List (Text × Json)) (name : String) : Prop :=
  ∃ value, (Json.lookup members name).bind py.awareDatetime = some value ∧
    normalizeUtc value = .error .overflowError

theorem normalizeUtc_error {value : AwareDatetime} {e : PyException}
    (raised : normalizeUtc value = .error e) : e = .overflowError := by
  unfold normalizeUtc Instant.subtract at raised
  split at raised
  · cases raised
  · cases raised; rfl

theorem utcField_raised {members : List (Text × Json)} {name : String} {e : PyException} :
    utcField py members name = .raised e ↔ e = .overflowError ∧ LeavesYears py members name := by
  unfold utcField LeavesYears
  cases (Json.lookup members name).bind py.awareDatetime with
  | none => simp
  | some value =>
    cases normalized : normalizeUtc value with
    | ok instant => simp [normalized]
    | error e' =>
      obtain rfl := normalizeUtc_error normalized
      simp [normalized, eq_comm]

theorem field_valid {α : Type} {members : List (Text × Json)} {name : String}
    {leaf : Json → Option α} {a : α} :
    field members name leaf = .valid a ↔ (Json.lookup members name).bind leaf = some a := by
  unfold field
  cases (Json.lookup members name).bind leaf <;> simp [Validated.ofOption]

theorem utcField_valid {members : List (Text × Json)} {name : String} {instant : Instant} :
    utcField py members name = .valid instant ↔
      ∃ value, (Json.lookup members name).bind py.awareDatetime = some value ∧
        normalizeUtc value = .ok instant := by
  unfold utcField
  cases (Json.lookup members name).bind py.awareDatetime with
  | none => simp
  | some value => cases normalized : normalizeUtc value <;> simp [normalized]

/-! ### Models -/

/-- A model: its fields, and when its validation raises what pydantic does not collect. -/
structure Model (α : Type) where
  fields : List String
  datetimes : List String
  validate : List (Text × Json) → Validated α
  raises : ∀ members e, validate members = .raised e ↔
    e = .overflowError ∧ ∃ name ∈ datetimes, LeavesYears py members name

namespace Model

variable {py} {α β : Type}

def of (py : Pydantic) (f : α) : Model py α where
  fields := []
  datetimes := []
  validate _ := .valid f
  raises := by simp

/-- One more field. -/
def req (m : Model py (α → β)) (name : String) (leaf : Json → Option α) : Model py β where
  fields := m.fields ++ [name]
  datetimes := m.datetimes
  validate members := (m.validate members).ap (field members name leaf)
  raises members e := by
    have never : field members name leaf ≠ .raised e := by
      unfold field Validated.ofOption
      split <;> simp
    rw [← m.raises members e, Validated.ap_raised]
    simp [never]

/-- One more `UtcDateTime` field. -/
def utc (m : Model py (Instant → β)) (name : String) : Model py β where
  fields := m.fields ++ [name]
  datetimes := m.datetimes ++ [name]
  validate members := (m.validate members).ap (utcField py members name)
  raises members e := by
    rw [Validated.ap_raised, utcField_raised, m.raises]
    constructor
    · rintro (⟨rfl, earlier, mem, leaves⟩ | ⟨-, rfl, leaves⟩)
      · exact ⟨rfl, earlier, List.mem_append_left _ mem, leaves⟩
      · exact ⟨rfl, name, by simp, leaves⟩
    · rintro ⟨rfl, found, mem, leaves⟩
      by_cases earlier : ∃ name ∈ m.datetimes, LeavesYears py members name
      · exact Or.inl ⟨rfl, earlier⟩
      · refine Or.inr ⟨fun e' raised => earlier ((m.raises members e').mp raised).2, rfl, ?_⟩
        rcases List.mem_append.mp mem with old | new
        · exact absurd ⟨found, old, leaves⟩ earlier
        · exact List.mem_singleton.mp new ▸ leaves

/-- `model_validate` of an object. -/
def run (m : Model py α) (members : List (Text × Json)) : Validated α :=
  forbidExtra members m.fields (m.validate members)

theorem run_raised (m : Model py α) {members : List (Text × Json)} {e : PyException} :
    m.run members = .raised e ↔
      e = .overflowError ∧ ∃ name ∈ m.datetimes, LeavesYears py members name := by
  rw [← m.raises members e]
  unfold run forbidExtra
  split
  · rename_i valid
    rw [valid]
    split <;> simp
  · rfl

theorem run_valid {m : Model py α} {members : List (Text × Json)} {a : α} :
    m.run members = .valid a ↔ m.validate members = .valid a ∧
      ∀ entry ∈ members, entry.1 ∈ m.fields.map Text.ofString := by
  unfold run forbidExtra
  split
  · rename_i valid
    rw [valid]
    split
    · rename_i known
      simp only [List.all_eq_true, List.contains_iff_mem] at known
      exact ⟨fun same => ⟨same, known⟩, And.left⟩
    · rename_i extra
      simp only [List.all_eq_true, List.contains_iff_mem] at extra
      refine ⟨fun impossible => ?_, fun both => absurd both.2 extra⟩
      cases impossible
  · rename_i other
    exact ⟨fun valid => absurd valid (other a), fun both => absurd both.1 (other a)⟩

theorem validate_of {f a : α} {members : List (Text × Json)} :
    (of py f).validate members = .valid a ↔ a = f := by
  simp [of, eq_comm]

theorem validate_req {m : Model py (α → β)} {name : String} {leaf : Json → Option α}
    {members : List (Text × Json)} {b : β} :
    (m.req name leaf).validate members = .valid b ↔
      ∃ f a, m.validate members = .valid f ∧ (Json.lookup members name).bind leaf = some a ∧
        b = f a := by
  simp only [req, Validated.ap_valid, field_valid]

theorem validate_utc {m : Model py (Instant → β)} {name : String} {members : List (Text × Json)}
    {b : β} :
    (m.utc name).validate members = .valid b ↔
      ∃ f instant, m.validate members = .valid f ∧
        (∃ value, (Json.lookup members name).bind py.awareDatetime = some value ∧
          normalizeUtc value = .ok instant) ∧ b = f instant := by
  simp only [utc, Validated.ap_valid, utcField_valid]

end Model

/-! ### The payload classes -/

def userRegisteredModel : Model py UserRegisteredPayload :=
  (Model.of py UserRegisteredPayload.mk).req "customer_id" py.uuid
    |>.req "email_hash" nonEmptyString
    |>.req "country_code" countryCode
    |>.req "persona" (memberOf personas)
    |>.utc "registered_at"

def sessionStartedModel : Model py SessionStartedPayload :=
  (Model.of py SessionStartedPayload.mk).req "session_id" py.uuid
    |>.req "customer_id" py.uuid
    |>.req "device_id" py.uuid
    |>.req "device_type" (memberOf deviceTypes)
    |>.req "ip_address" py.ipAddress
    |>.req "country_code" countryCode
    |>.req "channel" (memberOf sessionChannels)
    |>.utc "started_at"

def productViewedModel : Model py ProductViewedPayload :=
  (Model.of py ProductViewedPayload.mk).req "session_id" py.uuid
    |>.req "customer_id" py.uuid
    |>.req "product_id" py.uuid
    |>.req "category" nonEmptyString
    |>.req "unit_price" (nonNegativeMoney py)
    |>.req "currency" (memberOf currencies)
    |>.req "quantity_available" nonNegativeInt

def addedToCartModel : Model py AddedToCartPayload :=
  (Model.of py AddedToCartPayload.mk).req "session_id" py.uuid
    |>.req "customer_id" py.uuid
    |>.req "cart_id" py.uuid
    |>.req "product_id" py.uuid
    |>.req "quantity" positiveInt
    |>.req "unit_price" (nonNegativeMoney py)
    |>.req "currency" (memberOf currencies)

def checkoutStartedModel : Model py CheckoutStartedPayload :=
  (Model.of py CheckoutStartedPayload.mk).req "session_id" py.uuid
    |>.req "customer_id" py.uuid
    |>.req "cart_id" py.uuid
    |>.req "item_count" positiveInt
    |>.req "subtotal" (nonNegativeMoney py)
    |>.req "discount_amount" (nonNegativeMoney py)
    |>.req "total_amount" (nonNegativeMoney py)
    |>.req "currency" (memberOf currencies)

def orderCreatedModel : Model py OrderCreatedPayload :=
  (Model.of py OrderCreatedPayload.mk).req "order_id" py.uuid
    |>.req "customer_id" py.uuid
    |>.req "session_id" py.uuid
    |>.req "cart_id" py.uuid
    |>.req "item_count" positiveInt
    |>.req "subtotal" (nonNegativeMoney py)
    |>.req "discount_amount" (nonNegativeMoney py)
    |>.req "total_amount" (nonNegativeMoney py)
    |>.req "currency" (memberOf currencies)
    |>.req "shipping_country_code" countryCode
    |>.req "billing_country_code" countryCode
    |>.utc "created_at"

def paymentCompletedModel : Model py PaymentCompletedPayload :=
  (Model.of py PaymentCompletedPayload.mk).req "payment_id" py.uuid
    |>.req "order_id" py.uuid
    |>.req "customer_id" py.uuid
    |>.req "amount" (positiveMoney py)
    |>.req "currency" (memberOf currencies)
    |>.req "payment_method" (memberOf paymentMethods)
    |>.req "device_id" py.uuid
    |>.req "ip_address" py.ipAddress
    |>.req "country_code" countryCode
    |>.utc "completed_at"

def paymentFailedModel : Model py PaymentFailedPayload :=
  (Model.of py PaymentFailedPayload.mk).req "payment_id" py.uuid
    |>.req "order_id" py.uuid
    |>.req "customer_id" py.uuid
    |>.req "amount" (positiveMoney py)
    |>.req "currency" (memberOf currencies)
    |>.req "payment_method" (memberOf paymentMethods)
    |>.req "failure_reason" (memberOf failureReasons)
    |>.req "device_id" py.uuid
    |>.req "ip_address" py.ipAddress
    |>.req "country_code" countryCode
    |>.utc "failed_at"

def refundRequestedModel : Model py RefundRequestedPayload :=
  (Model.of py RefundRequestedPayload.mk).req "refund_id" py.uuid
    |>.req "payment_id" py.uuid
    |>.req "order_id" py.uuid
    |>.req "customer_id" py.uuid
    |>.req "amount" (positiveMoney py)
    |>.req "currency" (memberOf currencies)
    |>.req "reason" nonEmptyString
    |>.utc "requested_at"

def fraudAlertCreatedModel : Model py FraudAlertCreatedPayload :=
  (Model.of py FraudAlertCreatedPayload.mk).req "alert_id" py.uuid
    |>.req "event_id" py.uuid
    |>.req "customer_id" (nullable py.uuid)
    |>.req "order_id" (nullable py.uuid)
    |>.req "fraud_score" (fraudScore py)
    |>.req "decision" (memberOf fraudDecisions)
    |>.req "reasons" reasonList
    |>.utc "created_at"

/-- `_EnvelopeInput`. -/
structure EnvelopeInput where
  eventId : UUID
  eventType : EventType
  eventVersion : Nat
  eventTime : Instant
  producedAt : Instant
  source : String
  correlationId : UUID
  payload : Json

/-- `dict[str, Any]`. -/
def dictionary : Json → Option Json
  | .obj members => some (.obj members)
  | _ => none

def envelopeInputModel : Model py EnvelopeInput :=
  (Model.of py EnvelopeInput.mk).req "event_id" py.uuid
    |>.req "event_type" (memberOf eventTypes)
    |>.req "event_version" positiveInt
    |>.utc "event_time"
    |>.utc "produced_at"
    |>.req "source" nonEmptyString
    |>.req "correlation_id" py.uuid
    |>.req "payload" dictionary

end

/-- The version comes from the field of its name. -/
theorem envelopeInput_version {py : Pydantic} {members : List (Text × Json)} {input : EnvelopeInput}
    (valid : (envelopeInputModel py).run members = .valid input) :
    Json.lookup members "event_version" = some (.int input.eventVersion) := by
  have fields := (Model.run_valid.mp valid).1
  unfold envelopeInputModel at fields
  obtain ⟨f₇, payload, seven, -, rfl⟩ := Model.validate_req.mp fields
  obtain ⟨f₆, correlationId, six, -, rfl⟩ := Model.validate_req.mp seven
  obtain ⟨f₅, source, five, -, rfl⟩ := Model.validate_req.mp six
  obtain ⟨f₄, producedAt, four, -, rfl⟩ := Model.validate_utc.mp five
  obtain ⟨f₃, eventTime, three, -, rfl⟩ := Model.validate_utc.mp four
  obtain ⟨f₂, version, two, read, rfl⟩ := Model.validate_req.mp three
  obtain ⟨f₁, eventType, one, -, rfl⟩ := Model.validate_req.mp two
  obtain ⟨f₀, eventId, none_, -, rfl⟩ := Model.validate_req.mp one
  obtain rfl := Model.validate_of.mp none_
  obtain ⟨j, found, positive⟩ := Option.bind_eq_some_iff.mp read
  obtain ⟨n, rfl, pos, rfl⟩ : ∃ n, j = .int n ∧ 0 < n ∧ version = n.toNat := by
    unfold positiveInt strictInt at positive
    cases j with
    | int n =>
      refine ⟨n, rfl, ?_⟩
      simp only [bind, Option.bind_some] at positive
      split at positive
      · rename_i pos
        exact ⟨pos, (Option.some.inj positive).symm⟩
      · cases positive
    | _ => simp at positive
  rw [found]
  simp only [Option.some.injEq, Json.int.injEq]
  omega

/-- The event of an envelope and its payload. -/
def EnvelopeInput.event (input : EnvelopeInput) (payload : Payload) : EventEnvelope where
  eventId := input.eventId
  eventVersion := input.eventVersion
  eventTime := input.eventTime
  producedAt := input.producedAt
  source := input.source
  correlationId := input.correlationId
  payload

/-! ### Totals and skew -/

/-- `validate_totals`, for the two payloads that have it. -/
def validateTotals (context : DecimalContext) : Payload → Except PyException Unit
  | .checkoutStarted p => check p.subtotal.value p.discountAmount.value p.totalAmount.value
  | .orderCreated p => check p.subtotal.value p.discountAmount.value p.totalAmount.value
  | _ => .ok ()
where
  check (subtotal discountAmount totalAmount : Rat) : Except PyException Unit :=
    if subtotal < discountAmount then .error .validationError
    else do
      let expected ← context.add subtotal (-discountAmount)
      if totalAmount ≠ expected then .error .validationError else return ()

/-- `MAX_PRODUCER_CLOCK_SKEW`: five minutes. -/
def maxProducerClockSkew : Int := 300000000

/-- `validate_contract_consistency`. -/
def validateContractConsistency (eventType : EventType) (event : EventEnvelope) :
    Except PyException Unit :=
  if event.eventType ≠ eventType then .error .validationError
  else do
    let earliest ← event.eventTime.subtract maxProducerClockSkew
    if event.producedAt < earliest then .error .validationError else return ()

/-! ### parse_event -/

/-- What parsing rests on outside the repository. -/
structure Parser where
  py : Pydantic
  context : DecimalContext
  recursionLimit : Nat

namespace Parser

variable (parser : Parser)

/-- The model registered for an event type, on an object. -/
def payloadOf (eventType : EventType) (members : List (Text × Json)) : Except PyException Payload :=
  let py := parser.py
  match eventType with
  | .userRegistered => .userRegistered <$> ((userRegisteredModel py).run members).get
  | .sessionStarted => .sessionStarted <$> ((sessionStartedModel py).run members).get
  | .productViewed => .productViewed <$> ((productViewedModel py).run members).get
  | .addedToCart => .addedToCart <$> ((addedToCartModel py).run members).get
  | .checkoutStarted => .checkoutStarted <$> ((checkoutStartedModel py).run members).get
  | .orderCreated => .orderCreated <$> ((orderCreatedModel py).run members).get
  | .paymentCompleted => .paymentCompleted <$> ((paymentCompletedModel py).run members).get
  | .paymentFailed => .paymentFailed <$> ((paymentFailedModel py).run members).get
  | .refundRequested => .refundRequested <$> ((refundRequestedModel py).run members).get
  | .fraudAlertCreated => .fraudAlertCreated <$> ((fraudAlertCreatedModel py).run members).get

/-- `model_validate_json`: the object the bytes hold. -/
def object (bytes : List UInt8) : Except PyException (List (Text × Json)) :=
  match parser.py.fromJson bytes with
  | some (.obj members) => .ok members
  | _ => .error .validationError

/-- `json.loads` of a value. -/
def loads (bytes : List UInt8) : Except PyException Json := Json.loads parser.recursionLimit bytes

/-- `parse_event` once the type is known. -/
def parseTyped (eventType : EventType) (bytes : List UInt8) : Except PyException EventEnvelope := do
  let input ← ((envelopeInputModel parser.py).run (← parser.object bytes)).get
  let payload ← parser.payloadOf eventType (← parser.object (parser.py.dumps input.payload))
  validateTotals parser.context payload
  let event : EventEnvelope :=
    { eventId := input.eventId
      eventVersion := input.eventVersion
      eventTime := input.eventTime
      producedAt := input.producedAt
      source := input.source
      correlationId := input.correlationId
      payload }
  validateContractConsistency input.eventType event
  return event

/-- `parse_event`. -/
def parseEvent (bytes : List UInt8) : Except PyException EventEnvelope :=
  match parser.loads bytes with
  | .error e =>
    .error (if e = .jsonDecodeError ∨ e = .unicodeDecodeError then .valueError else e)
  | .ok (.obj members) =>
    match Json.lookup members "event_type" with
    | some (.str text) =>
      match eventTypes.find? fun entry => Text.ofString entry.1 = text with
      | some (_, eventType) => parser.parseTyped eventType bytes
      | none => .error .valueError
    | _ => .error .valueError
  | .ok _ => .error .valueError

/-- `parse_event` of a `str`. pydantic reports text that is not UTF-8 as an error. -/
def parseEventStr (text : Text) : Except PyException EventEnvelope :=
  match Json.loadsStr parser.recursionLimit text with
  | .error e =>
    .error (if e = .jsonDecodeError ∨ e = .unicodeDecodeError then .valueError else e)
  | .ok (.obj members) =>
    match Json.lookup members "event_type" with
    | some (.str name) =>
      match eventTypes.find? fun entry => Text.ofString entry.1 = name with
      | some (_, eventType) =>
        match text.encode with
        | .ok bytes => parser.parseTyped eventType bytes
        | .error _ => .error .validationError
      | none => .error .valueError
    | _ => .error .valueError
  | .ok _ => .error .valueError

/-! ### What a parsed event comes from -/

variable {parser}

theorem object_ok {bytes : List UInt8} {members : List (Text × Json)} :
    parser.object bytes = .ok members ↔ parser.py.fromJson bytes = some (.obj members) := by
  unfold object
  split
  · rename_i read
    simp [read]
  · rename_i other
    refine ⟨fun impossible => ?_, fun read => absurd read (other members)⟩
    cases impossible

/-- The passes of `parse_event` that an event has come through. -/
structure Parsed (parser : Parser) (eventType : EventType) (bytes : List UInt8)
    (event : EventEnvelope) (members payloadMembers : List (Text × Json)) (input : EnvelopeInput) :
    Prop where
  document : parser.py.fromJson bytes = some (.obj members)
  envelope : (envelopeInputModel parser.py).run members = .valid input
  payloadDocument : parser.py.fromJson (parser.py.dumps input.payload) = some (.obj payloadMembers)
  payload : parser.payloadOf eventType payloadMembers = .ok event.payload
  totals : validateTotals parser.context event.payload = .ok ()
  consistent : validateContractConsistency input.eventType event = .ok ()
  assembled : event = input.event event.payload

theorem parseTyped_ok {eventType : EventType} {bytes : List UInt8} {event : EventEnvelope} :
    parser.parseTyped eventType bytes = .ok event ↔
      ∃ members payloadMembers input, Parsed parser eventType bytes event members payloadMembers
        input := by
  simp only [parseTyped, bind, Except.bind, pure, Except.pure]
  constructor
  · intro parsed
    split at parsed
    · cases parsed
    rename_i members document
    split at parsed
    · cases parsed
    rename_i input envelope
    split at parsed
    · cases parsed
    rename_i payloadMembers payloadDocument
    split at parsed
    · cases parsed
    rename_i payload built
    split at parsed
    · cases parsed
    rename_i totals
    split at parsed
    · cases parsed
    rename_i consistent
    cases parsed
    exact ⟨members, payloadMembers, input, object_ok.mp document, Validated.get_ok.mp envelope,
      object_ok.mp payloadDocument, built, totals, consistent, rfl⟩
  · rintro ⟨members, payloadMembers, input, h⟩
    have assembled := h.assembled
    have consistent := h.consistent
    rw [object_ok.mpr h.document]
    simp only [Validated.get_ok.mpr h.envelope, object_ok.mpr h.payloadDocument, h.payload, h.totals]
    rw [assembled] at consistent
    simp only [EnvelopeInput.event] at consistent assembled
    rw [consistent]
    simp only
    rw [← assembled]

end Parser

end CommercePlatform.Contract
