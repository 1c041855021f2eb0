import Mathlib.Data.List.Lex
import CommercePlatform.Contract.Dumps
import CommercePlatform.Contract.Parsing

/-!
Canonical JSON (`canonical_json` of `shared/schemas/envelope.py`).

`modelDump` is `model_dump(mode="json")`: the fields of a model in their order, with the
serializers of the contract types. `canonicalJson` renders it with sorted keys.
-/

namespace CommercePlatform.Contract

/-! ### Scalars -/

/-- `str` of a `Decimal`. -/
def Decimal.str (d : Decimal) : String :=
  let digits := (toString d.coefficient).toList
  let leftDigits : Int := d.exponent + digits.length
  let dotPlace : Int := if d.exponent ≤ 0 ∧ -6 < leftDigits then leftDigits else 1
  let intPart :=
    if dotPlace ≤ 0 then ['0']
    else digits.take dotPlace.toNat ++ List.replicate (dotPlace.toNat - digits.length) '0'
  let fracPart :=
    if dotPlace ≤ 0 then '.' :: (List.replicate (-dotPlace).toNat '0' ++ digits)
    else if digits.length ≤ dotPlace.toNat then []
    else '.' :: digits.drop dotPlace.toNat
  let exponent :=
    if leftDigits = dotPlace then []
    else 'E' :: (if 0 ≤ leftDigits - dotPlace then ['+'] else []) ++
      (toString (leftDigits - dotPlace)).toList
  String.ofList ((if d.negative then ['-'] else []) ++ intPart ++ fracPart ++ exponent)

/-- A number with leading zeros. -/
def padded (width n : Nat) : List Char :=
  let digits := (toString n).toList
  List.replicate (width - digits.length) '0' ++ digits

/-- Year, month and day of a number of days since 0000-03-01. -/
def civil (days : Nat) : Nat × Nat × Nat :=
  let era := days / 146097
  let dayOfEra := days % 146097
  let yearOfEra := (dayOfEra - dayOfEra / 1460 + dayOfEra / 36524 - dayOfEra / 146096) / 365
  let dayOfYear := dayOfEra - (365 * yearOfEra + yearOfEra / 4 - yearOfEra / 100)
  let shifted := (5 * dayOfYear + 2) / 153
  let month := if shifted < 10 then shifted + 3 else shifted - 9
  let year := yearOfEra + era * 400 + (if month ≤ 2 then 1 else 0)
  (year, month, dayOfYear - (153 * shifted + 2) / 5 + 1)

/-- `serialize_utc`: `isoformat` with the suffix `Z`, microseconds only when there are any. -/
def serializeUtc (t : Instant) : String :=
  -- Microseconds since 0000-03-01, which every instant of `datetime` follows.
  let micros := (t + 62162035200000000).toNat
  let (year, month, day) := civil (micros / 86400000000)
  let seconds := micros / 1000000 % 86400
  let fraction := micros % 1000000
  String.ofList (padded 4 year ++ '-' :: padded 2 month ++ '-' :: padded 2 day ++
    'T' :: padded 2 (seconds / 3600) ++ ':' :: padded 2 (seconds / 60 % 60) ++
    ':' :: padded 2 (seconds % 60) ++ (if fraction = 0 then [] else '.' :: padded 6 fraction) ++ ['Z'])

/-! ### model_dump -/

/-- A JSON string. -/
def strJson (s : String) : Json := .str (Text.ofString s)

def uuidJson (u : UUID) : Json := strJson u.str

def moneyJson (d : Decimal) : Json := strJson d.str

def utcJson (t : Instant) : Json := strJson (serializeUtc t)

def optionalUuidJson : Option UUID → Json
  | some u => uuidJson u
  | none => .null

/-- The value of an enumeration's member. -/
def valueOf {α : Type} [DecidableEq α] (members : List (String × α)) (a : α) : String :=
  ((members.find? (·.2 = a)).map (·.1)).getD ""

def memberJson {α : Type} [DecidableEq α] (members : List (String × α)) (a : α) : Json :=
  strJson (valueOf members a)

/-- The fields of a payload. -/
def Payload.modelDump : Payload → List (String × Json)
  | userRegistered p =>
    [("customer_id", uuidJson p.customerId), ("email_hash", strJson p.emailHash),
      ("country_code", strJson p.countryCode), ("persona", memberJson personas p.persona),
      ("registered_at", utcJson p.registeredAt)]
  | sessionStarted p =>
    [("session_id", uuidJson p.sessionId), ("customer_id", uuidJson p.customerId),
      ("device_id", uuidJson p.deviceId), ("device_type", memberJson deviceTypes p.deviceType),
      ("ip_address", strJson p.ipAddress.text), ("country_code", strJson p.countryCode),
      ("channel", memberJson sessionChannels p.channel), ("started_at", utcJson p.startedAt)]
  | productViewed p =>
    [("session_id", uuidJson p.sessionId), ("customer_id", uuidJson p.customerId),
      ("product_id", uuidJson p.productId), ("category", strJson p.category),
      ("unit_price", moneyJson p.unitPrice), ("currency", memberJson currencies p.currency),
      ("quantity_available", .int p.quantityAvailable)]
  | addedToCart p =>
    [("session_id", uuidJson p.sessionId), ("customer_id", uuidJson p.customerId),
      ("cart_id", uuidJson p.cartId), ("product_id", uuidJson p.productId),
      ("quantity", .int p.quantity), ("unit_price", moneyJson p.unitPrice),
      ("currency", memberJson currencies p.currency)]
  | checkoutStarted p =>
    [("session_id", uuidJson p.sessionId), ("customer_id", uuidJson p.customerId),
      ("cart_id", uuidJson p.cartId), ("item_count", .int p.itemCount),
      ("subtotal", moneyJson p.subtotal), ("discount_amount", moneyJson p.discountAmount),
      ("total_amount", moneyJson p.totalAmount), ("currency", memberJson currencies p.currency)]
  | orderCreated p =>
    [("order_id", uuidJson p.orderId), ("customer_id", uuidJson p.customerId),
      ("session_id", uuidJson p.sessionId), ("cart_id", uuidJson p.cartId),
      ("item_count", .int p.itemCount), ("subtotal", moneyJson p.subtotal),
      ("discount_amount", moneyJson p.discountAmount), ("total_amount", moneyJson p.totalAmount),
      ("currency", memberJson currencies p.currency),
      ("shipping_country_code", strJson p.shippingCountryCode),
      ("billing_country_code", strJson p.billingCountryCode), ("created_at", utcJson p.createdAt)]
  | paymentCompleted p =>
    [("payment_id", uuidJson p.paymentId), ("order_id", uuidJson p.orderId),
      ("customer_id", uuidJson p.customerId), ("amount", moneyJson p.amount),
      ("currency", memberJson currencies p.currency),
      ("payment_method", memberJson paymentMethods p.paymentMethod),
      ("device_id", uuidJson p.deviceId), ("ip_address", strJson p.ipAddress.text),
      ("country_code", strJson p.countryCode), ("completed_at", utcJson p.completedAt)]
  | paymentFailed p =>
    [("payment_id", uuidJson p.paymentId), ("order_id", uuidJson p.orderId),
      ("customer_id", uuidJson p.customerId), ("amount", moneyJson p.amount),
      ("currency", memberJson currencies p.currency),
      ("payment_method", memberJson paymentMethods p.paymentMethod),
      ("failure_reason", memberJson failureReasons p.failureReason),
      ("device_id", uuidJson p.deviceId), ("ip_address", strJson p.ipAddress.text),
      ("country_code", strJson p.countryCode), ("failed_at", utcJson p.failedAt)]
  | refundRequested p =>
    [("refund_id", uuidJson p.refundId), ("payment_id", uuidJson p.paymentId),
      ("order_id", uuidJson p.orderId), ("customer_id", uuidJson p.customerId),
      ("amount", moneyJson p.amount), ("currency", memberJson currencies p.currency),
      ("reason", strJson p.reason), ("requested_at", utcJson p.requestedAt)]
  | fraudAlertCreated p =>
    [("alert_id", uuidJson p.alertId), ("event_id", uuidJson p.eventId),
      ("customer_id", optionalUuidJson p.customerId), ("order_id", optionalUuidJson p.orderId),
      ("fraud_score", moneyJson p.fraudScore), ("decision", memberJson fraudDecisions p.decision),
      ("reasons", .arr (p.reasons.map strJson)), ("created_at", utcJson p.createdAt)]

/-- A `dict` with these items. -/
def dictJson (items : List (String × Json)) : Json :=
  .obj (items.map fun item => (Text.ofString item.1, item.2))

/-- The fields of an envelope around a payload. -/
def EventEnvelope.fields (event : EventEnvelope) (payload : Json) : List (String × Json) :=
  [("event_id", uuidJson event.eventId), ("event_type", strJson event.eventType.value),
    ("event_version", .int event.eventVersion), ("event_time", utcJson event.eventTime),
    ("produced_at", utcJson event.producedAt), ("source", strJson event.source),
    ("correlation_id", uuidJson event.correlationId), ("payload", payload)]

/-- `event.model_dump(mode="json")`. -/
def EventEnvelope.modelDump (event : EventEnvelope) : Json :=
  dictJson (event.fields (dictJson event.payload.modelDump))

/-! ### canonical_json -/

namespace Json

mutual

/-- `sort_keys=True`. -/
def sortKeys : Json → Json
  | arr items => arr (sortItems items)
  | obj members => obj ((sortMembers members).mergeSort fun a b => a.1 ≤ b.1)
  | null => null
  | bool b => bool b
  | int n => int n
  | float literal => float literal
  | str t => str t

def sortItems : List Json → List Json
  | [] => []
  | item :: rest => sortKeys item :: sortItems rest

def sortMembers : List (Text × Json) → List (Text × Json)
  | [] => []
  | (key, value) :: rest => (key, sortKeys value) :: sortMembers rest

end

mutual

/-- Every integer has a `repr`. -/
def shortInts : Json → Bool
  | int n => decide ((dumpNat n.natAbs).length ≤ maxStrDigits)
  | arr items => shortItems items
  | obj members => shortMembers members
  | null | bool _ | float _ | str _ => true

def shortItems : List Json → Bool
  | [] => true
  | item :: rest => shortInts item && shortItems rest

def shortMembers : List (Text × Json) → Bool
  | [] => true
  | (_, value) :: rest => shortInts value && shortMembers rest

end

end Json

/-- `canonical_json`. The `repr` of an integer over 4300 digits raises `ValueError`. -/
def EventEnvelope.canonicalJson (event : EventEnvelope) : Except PyException Text :=
  if event.modelDump.shortInts then .ok (event.modelDump.sortKeys.dumps false)
  else .error .valueError

/-- `canonical_json(event).encode()`. -/
def EventEnvelope.canonicalBytes (event : EventEnvelope) : Except PyException (List UInt8) := do
  let text ← event.canonicalJson
  text.encode

/-- The digest of a runtime is taken from this text. -/
def Runtime.Renders (rt : Runtime) (event : EventEnvelope) : Prop :=
  event.canonicalJson = .ok (Text.ofString (rt.canonicalJson event))

/-- `event_message_headers`, encoded. -/
def EventEnvelope.kafkaHeaders (event : EventEnvelope) : KafkaHeaders :=
  event.messageHeaders.map fun header => (header.1, some header.2.toUTF8.toList)

end CommercePlatform.Contract
