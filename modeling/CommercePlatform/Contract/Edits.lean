import CommercePlatform.Contract.Soundness
import CommercePlatform.Contract.Truncation

/-!
Edited documents and what the models refuse.

An object that is read, changed at a key and rendered with its keys sorted is read back with
the same values at the same keys (`rendered_reads`, `lookup_sorted`). A model refuses an
object that lacks one of its fields or has a member of another name (`run_refused`), and
raises nothing on it as long as its timestamps are those of well-formed events.
-/

namespace CommercePlatform.Contract

namespace Json

/-! ### Sorted documents -/

theorem sortMembers_eq_map (members : List (Text × Json)) :
    sortMembers members = members.map fun m => (m.1, m.2.sortKeys) := by
  induction members with
  | nil => rfl
  | cons member members ih =>
    obtain ⟨key, value⟩ := member
    rw [sortMembers, ih]
    rfl

/-- The members of a sorted object. -/
def sorted (members : List (Text × Json)) : List (Text × Json) :=
  (sortMembers members).mergeSort fun a b => a.1 ≤ b.1

theorem sortKeys_obj (members : List (Text × Json)) :
    (obj members).sortKeys = obj (sorted members) := rfl

theorem mem_sorted {members : List (Text × Json)} {key : Text} {value : Json} :
    (key, value) ∈ sorted members ↔ ∃ j, (key, j) ∈ members ∧ value = j.sortKeys := by
  rw [sorted, List.mem_mergeSort, sortMembers_eq_map, List.mem_map]
  constructor
  · rintro ⟨⟨key', j⟩, mem, same⟩
    cases same
    exact ⟨j, mem, rfl⟩
  · rintro ⟨j, mem, rfl⟩
    exact ⟨(key, j), mem, rfl⟩

theorem keys_sorted (members : List (Text × Json)) :
    ((sorted members).map Prod.fst).Perm (members.map Prod.fst) := by
  have same : (sortMembers members).map Prod.fst = members.map Prod.fst := by
    rw [sortMembers_eq_map, List.map_map]
    rfl
  rw [← same]
  exact (List.mergeSort_perm _ _).map _

/-- With distinct keys the value found is the only one. -/
theorem lookup_iff {members : List (Text × Json)} (nodup : (members.map Prod.fst).Nodup)
    {name : String} {j : Json} :
    lookup members name = some j ↔ (Text.ofString name, j) ∈ members := by
  constructor
  · intro found
    obtain ⟨⟨key, value⟩, seen, rfl⟩ := Option.map_eq_some_iff.mp found
    have named : key = Text.ofString name := by simpa using List.find?_some seen
    exact named ▸ List.mem_reverse.mp (List.mem_of_find?_eq_some seen)
  · intro mem
    exact lookup_of_mem nodup mem

theorem lookup_sorted {members : List (Text × Json)} (nodup : (members.map Prod.fst).Nodup)
    (name : String) : lookup (sorted members) name = (lookup members name).map sortKeys := by
  have nodup' := (keys_sorted members).nodup_iff.mpr nodup
  apply Option.ext
  intro j
  rw [lookup_iff nodup', mem_sorted, Option.map_eq_some_iff]
  constructor
  · rintro ⟨value, mem, rfl⟩
    exact ⟨value, (lookup_iff nodup).mpr mem, rfl⟩
  · rintro ⟨value, found, rfl⟩
    exact ⟨value, (lookup_iff nodup).mp found, rfl⟩

mutual

theorem fits_sortKeys (j : Json) {levels : Nat} (fit : j.fits levels = true) :
    j.sortKeys.fits levels = true := by
  cases j with
  | arr items =>
    cases levels with
    | zero => cases fit
    | succ levels => exact fits_sortItems items fit
  | obj members =>
    cases levels with
    | zero => cases fit
    | succ levels =>
      refine fitsMembers_iff.mpr fun m mem => ?_
      exact fits_sortMembers members fit m (List.mem_mergeSort.mp mem)
  | null | bool | int | float | str => exact fit

theorem fits_sortItems (items : List Json) {levels : Nat} (fit : fitsItems items levels = true) :
    fitsItems (sortItems items) levels = true := by
  cases items with
  | nil => rfl
  | cons item rest =>
    obtain ⟨here, later⟩ := Bool.and_eq_true_iff.mp fit
    exact Bool.and_eq_true_iff.mpr ⟨fits_sortKeys item here, fits_sortItems rest later⟩

theorem fits_sortMembers (members : List (Text × Json)) {levels : Nat}
    (fit : fitsMembers members levels = true) :
    ∀ m ∈ sortMembers members, m.1.scalar = true ∧ m.2.fits levels = true := by
  cases members with
  | nil =>
    intro m mem
    cases mem
  | cons member rest =>
    obtain ⟨key, value⟩ := member
    obtain ⟨both, later⟩ := Bool.and_eq_true_iff.mp fit
    obtain ⟨scalar, here⟩ := Bool.and_eq_true_iff.mp both
    intro m mem
    rcases List.mem_cons.mp mem with rfl | old
    · exact ⟨scalar, fits_sortKeys value here⟩
    · exact fits_sortMembers rest later m old

end

mutual

theorem shortInts_of_fits (j : Json) {levels : Nat} (fit : j.fits levels = true) :
    j.shortInts = true := by
  cases j with
  | int n => exact fit
  | arr items =>
    cases levels with
    | zero => cases fit
    | succ levels => exact shortItems_of_fits items fit
  | obj members =>
    cases levels with
    | zero => cases fit
    | succ levels => exact shortMembers_of_fits members fit
  | null | bool | float | str => rfl

theorem shortItems_of_fits (items : List Json) {levels : Nat}
    (fit : fitsItems items levels = true) : shortItems items = true := by
  cases items with
  | nil => rfl
  | cons item rest =>
    obtain ⟨here, later⟩ := Bool.and_eq_true_iff.mp fit
    exact Bool.and_eq_true_iff.mpr ⟨shortInts_of_fits item here, shortItems_of_fits rest later⟩

theorem shortMembers_of_fits (members : List (Text × Json)) {levels : Nat}
    (fit : fitsMembers members levels = true) : shortMembers members = true := by
  cases members with
  | nil => rfl
  | cons member rest =>
    obtain ⟨key, value⟩ := member
    obtain ⟨here, later⟩ := Bool.and_eq_true_iff.mp fit
    obtain ⟨-, here⟩ := Bool.and_eq_true_iff.mp here
    exact Bool.and_eq_true_iff.mpr ⟨shortInts_of_fits value here, shortMembers_of_fits rest later⟩

end

/-! ### Edits -/

/-- `decoded.pop(name, None)`. -/
def pop (name : String) (members : List (Text × Json)) : List (Text × Json) :=
  members.filter fun m => m.1 ≠ Text.ofString name

/-- `decoded[name] = value`. -/
def assign (name : String) (value : Json) (members : List (Text × Json)) : List (Text × Json) :=
  if members.any fun m => m.1 = Text.ofString name then
    members.map fun m => if m.1 = Text.ofString name then (m.1, value) else m
  else members ++ [(Text.ofString name, value)]

section

variable {members : List (Text × Json)} {name other : String} {value : Json}

theorem nodup_pop (nodup : (members.map Prod.fst).Nodup) :
    ((pop name members).map Prod.fst).Nodup :=
  nodup.sublist (List.filter_sublist.map _)

theorem lookup_pop (nodup : (members.map Prod.fst).Nodup) :
    lookup (pop name members) other = if other = name then none else lookup members other := by
  apply Option.ext
  intro j
  rw [lookup_iff (nodup_pop nodup), pop, List.mem_filter, decide_eq_true_eq]
  by_cases same : other = name
  · simp [same]
  · have differs : Text.ofString other ≠ Text.ofString name :=
      fun eq => same (Text.ofString_injective eq)
    simp [same, differs, lookup_iff nodup]

/-- A key that is there keeps its place. -/
theorem keys_assign (present : lookup members name ≠ none) (nodup : (members.map Prod.fst).Nodup) :
    (assign name value members).map Prod.fst = members.map Prod.fst := by
  obtain ⟨j, found⟩ := Option.ne_none_iff_exists'.mp present
  have mem := (lookup_iff nodup).mp found
  have any : (members.any fun m => m.1 = Text.ofString name) = true :=
    List.any_eq_true.mpr ⟨_, mem, decide_eq_true rfl⟩
  rw [assign, if_pos any, List.map_map]
  refine List.map_congr_left fun m _ => ?_
  by_cases same : m.1 = Text.ofString name
  · simp [same]
  · simp [same]

theorem lookup_assign (present : lookup members name ≠ none)
    (nodup : (members.map Prod.fst).Nodup) :
    lookup (assign name value members) other =
      if other = name then some value else lookup members other := by
  have nodup' : ((assign name value members).map Prod.fst).Nodup := by
    rw [keys_assign present nodup]
    exact nodup
  obtain ⟨j, found⟩ := Option.ne_none_iff_exists'.mp present
  have mem := (lookup_iff nodup).mp found
  have any : (members.any fun m => m.1 = Text.ofString name) = true :=
    List.any_eq_true.mpr ⟨_, mem, decide_eq_true rfl⟩
  apply Option.ext
  intro w
  rw [lookup_iff nodup', assign, if_pos any, List.mem_map]
  by_cases same : other = name
  · subst same
    rw [if_pos rfl]
    constructor
    · rintro ⟨m, -, eq⟩
      by_cases here : m.1 = Text.ofString other
      · rw [if_pos here] at eq
        exact congrArg some (congrArg Prod.snd eq)
      · rw [if_neg here] at eq
        exact absurd (congrArg Prod.fst eq) here
    · intro eq
      cases eq
      exact ⟨_, mem, by simp⟩
  · have differs : Text.ofString other ≠ Text.ofString name :=
      fun eq => same (Text.ofString_injective eq)
    rw [if_neg same, lookup_iff nodup]
    constructor
    · rintro ⟨m, held, eq⟩
      by_cases here : m.1 = Text.ofString name
      · rw [if_pos here] at eq
        have key := congrArg Prod.fst eq
        exact absurd (key.symm.trans here) differs
      · rw [if_neg here] at eq
        exact eq ▸ held
    · intro held
      exact ⟨_, held, by simp [differs]⟩

theorem fits_pop {levels : Nat} (fit : (obj members).fits (levels + 1) = true) :
    (obj (pop name members)).fits (levels + 1) = true := by
  refine fitsMembers_iff.mpr fun m mem => ?_
  exact fitsMembers_iff.mp fit m (List.mem_of_mem_filter mem)

theorem fits_assign {levels : Nat} (fit : (obj members).fits (levels + 1) = true)
    (value_fits : value.fits levels = true) :
    (obj (assign name value members)).fits (levels + 1) = true := by
  have each := fitsMembers_iff.mp fit
  refine fitsMembers_iff.mpr fun m mem => ?_
  unfold assign at mem
  split at mem
  · obtain ⟨old, held, rfl⟩ := List.mem_map.mp mem
    split
    · exact ⟨(each old held).1, value_fits⟩
    · exact each old held
  · rcases List.mem_append.mp mem with held | last
    · exact each m held
    · cases List.mem_singleton.mp last
      exact ⟨Text.ofString_scalar name, value_fits⟩

end

/-- `json.dumps(decoded, ensure_ascii=False, separators=(",", ":"), sort_keys=True).encode()`. -/
def rendered (decoded : Json) : Except PyException (List UInt8) :=
  if decoded.shortInts then (decoded.sortKeys.dumps false).encode else .error .valueError

end Json

/-! ### Reading an edited document -/

section

variable {parser : Parser} {members : List (Text × Json)}

/-- An edited document is read back by both parsers. -/
theorem rendered_reads (conforms : Conforms parser) (fit : (Json.obj members).fits 3 = true) :
    ∃ bytes, Json.rendered (.obj members) = .ok bytes ∧
      parser.loads bytes = .ok (.obj (Json.sorted members)) ∧
      parser.py.fromJson bytes = some (.obj (Json.sorted members)) := by
  have sorted := Json.fits_sortKeys _ fit
  rw [Json.sortKeys_obj] at sorted
  obtain ⟨more, limit⟩ := Nat.exists_eq_add_of_le' conforms.levels
  refine ⟨((Json.obj (Json.sorted members)).dumps false).flatMap Text.encodePoint, ?_, ?_, ?_⟩
  · rw [Json.rendered, if_pos (Json.shortInts_of_fits _ fit), Json.sortKeys_obj]
    exact if_pos (Text.encodable_of_scalar (Json.dumps_scalar false _ sorted))
  · rw [Parser.loads, limit]
    exact Json.loads_dumps false (Json.fits_le (Nat.le_add_left 3 more) sorted)
  · exact conforms.reads false _ sorted

end

/-! ### Models that refuse -/

section

variable {py : Pydantic} {members : List (Text × Json)}

/-- What a model accepts has all its fields. -/
def Model.Requires {α : Type} (m : Model py α) : Prop :=
  ∀ members a, m.validate members = .valid a → ∀ name ∈ m.fields, Json.lookup members name ≠ none

namespace Model.Requires

variable {α β : Type}

theorem of (f : α) : (Model.of py f).Requires := by
  intro members a valid name mem
  cases mem

theorem req {m : Model py (α → β)} (h : m.Requires) (name : String) (leaf : Json → Option α) :
    (m.req name leaf).Requires := by
  intro members b valid other mem
  obtain ⟨f, a, earlier, read, -⟩ := validate_req.mp valid
  rcases List.mem_append.mp mem with old | new
  · exact h members f earlier other old
  · obtain ⟨j, found, -⟩ := Option.bind_eq_some_iff.mp read
    rw [List.mem_singleton.mp new, found]
    exact Option.some_ne_none j

theorem utc {m : Model py (Instant → β)} (h : m.Requires) (name : String) :
    (m.utc name).Requires := by
  intro members b valid other mem
  obtain ⟨f, t, earlier, ⟨value, read, -⟩, -⟩ := validate_utc.mp valid
  rcases List.mem_append.mp mem with old | new
  · exact h members f earlier other old
  · obtain ⟨j, found, -⟩ := Option.bind_eq_some_iff.mp read
    rw [List.mem_singleton.mp new, found]
    exact Option.some_ne_none j

end Model.Requires

/-- Where a member has the name of a timestamp, it is one of these years. -/
def Dated (py : Pydantic) (members : List (Text × Json)) (names : List String) : Prop :=
  ∀ name ∈ names, ∀ j, Json.lookup members name = some j →
    ∃ t, py.awareDatetime j = some ⟨t, 0⟩ ∧ Instant.minimum ≤ t ∧ t ≤ Instant.maximum

/-- A model refuses an object of other members than its fields. -/
theorem run_refused {α : Type} {m : Model py α} (requires : m.Requires)
    (dated : Dated py members m.datetimes)
    (other : (∃ name ∈ m.fields, Json.lookup members name = none) ∨
      ∃ entry ∈ members, entry.1 ∉ m.fields.map Text.ofString) :
    (m.run members).get = .error .validationError := by
  cases ran : m.run members with
  | valid a =>
    obtain ⟨valid, known⟩ := Model.run_valid.mp ran
    rcases other with ⟨name, mem, absent⟩ | ⟨entry, mem, unknown⟩
    · exact absurd absent (requires members a valid name mem)
    · exact absurd (known entry mem) unknown
  | errors => rfl
  | raised e =>
    obtain ⟨-, name, mem, value, read, overflow⟩ := m.run_raised.mp ran
    obtain ⟨j, found, aware⟩ := Option.bind_eq_some_iff.mp read
    obtain ⟨t, dates, low, high⟩ := dated name mem j found
    rw [dates] at aware
    cases aware
    have fits : normalizeUtc ⟨t, 0⟩ = .ok t := by
      simp [normalizeUtc, Instant.subtract, low, high]
    rw [fits] at overflow
    cases overflow

/-- The fields of the payload classes. -/
def payloadFields : EventType → List String
  | .userRegistered => ["customer_id", "email_hash", "country_code", "persona", "registered_at"]
  | .sessionStarted =>
    ["session_id", "customer_id", "device_id", "device_type", "ip_address", "country_code",
      "channel", "started_at"]
  | .productViewed =>
    ["session_id", "customer_id", "product_id", "category", "unit_price", "currency",
      "quantity_available"]
  | .addedToCart =>
    ["session_id", "customer_id", "cart_id", "product_id", "quantity", "unit_price", "currency"]
  | .checkoutStarted =>
    ["session_id", "customer_id", "cart_id", "item_count", "subtotal", "discount_amount",
      "total_amount", "currency"]
  | .orderCreated =>
    ["order_id", "customer_id", "session_id", "cart_id", "item_count", "subtotal",
      "discount_amount", "total_amount", "currency", "shipping_country_code",
      "billing_country_code", "created_at"]
  | .paymentCompleted =>
    ["payment_id", "order_id", "customer_id", "amount", "currency", "payment_method", "device_id",
      "ip_address", "country_code", "completed_at"]
  | .paymentFailed =>
    ["payment_id", "order_id", "customer_id", "amount", "currency", "payment_method",
      "failure_reason", "device_id", "ip_address", "country_code", "failed_at"]
  | .refundRequested =>
    ["refund_id", "payment_id", "order_id", "customer_id", "amount", "currency", "reason",
      "requested_at"]
  | .fraudAlertCreated =>
    ["alert_id", "event_id", "customer_id", "order_id", "fraud_score", "decision", "reasons",
      "created_at"]

theorem modelDump_fields (payload : Payload) :
    payload.modelDump.map Prod.fst = payloadFields payload.eventType := by
  cases payload <;> rfl

/-- No two payload classes have the same fields. -/
theorem payloadFields_differ {a b : EventType} (other : a ≠ b) :
    (∃ name ∈ payloadFields a, name ∉ payloadFields b) ∨
      ∃ name ∈ payloadFields b, name ∉ payloadFields a := by
  revert other
  cases a <;> cases b <;> decide

/-- The names that the timestamps of payloads have. -/
def timestampNames : List String :=
  ["registered_at", "started_at", "created_at", "completed_at", "failed_at", "requested_at"]

theorem modelDump_timestamp (payload : Payload) :
    ∀ item ∈ payload.modelDump, item.1 ∈ timestampNames →
      ∃ t ∈ payload.instants, item.2 = utcJson t := by
  cases payload <;> simp [Payload.modelDump, Payload.instants, timestampNames]

/-- A payload class refuses an object with other names than its fields. -/
theorem payloadOf_refused {parser : Parser} {eventType : EventType}
    (dated : Dated parser.py members timestampNames)
    (other : (∃ name ∈ payloadFields eventType, Json.lookup members name = none) ∨
      ∃ entry ∈ members, entry.1 ∉ (payloadFields eventType).map Text.ofString) :
    parser.payloadOf eventType members = .error .validationError := by
  have refused : ∀ {α : Type} (m : Model parser.py α) (wrap : α → Payload) (stamps : List String),
      m.Requires → m.fields = payloadFields eventType → m.datetimes = stamps →
      (∀ name ∈ stamps, name ∈ timestampNames) →
      wrap <$> (m.run members).get = .error .validationError := by
    rintro α m wrap stamps requires fields rfl listed
    have errors := run_refused requires (fun name mem => dated name (listed name mem))
      (fields ▸ other)
    rw [errors]
    rfl
  cases eventType with
  | userRegistered =>
    refine refused (userRegisteredModel parser.py) .userRegistered ["registered_at"] ?_ rfl rfl
      (by decide)
    exact (Model.Requires.of _).req _ _ |>.req _ _ |>.req _ _ |>.req _ _ |>.utc _
  | sessionStarted =>
    refine refused (sessionStartedModel parser.py) .sessionStarted ["started_at"] ?_ rfl rfl
      (by decide)
    exact (Model.Requires.of _).req _ _ |>.req _ _ |>.req _ _ |>.req _ _ |>.req _ _ |>.req _ _
      |>.req _ _ |>.utc _
  | productViewed =>
    refine refused (productViewedModel parser.py) .productViewed [] ?_ rfl rfl (by decide)
    exact (Model.Requires.of _).req _ _ |>.req _ _ |>.req _ _ |>.req _ _ |>.req _ _ |>.req _ _
      |>.req _ _
  | addedToCart =>
    refine refused (addedToCartModel parser.py) .addedToCart [] ?_ rfl rfl (by decide)
    exact (Model.Requires.of _).req _ _ |>.req _ _ |>.req _ _ |>.req _ _ |>.req _ _ |>.req _ _
      |>.req _ _
  | checkoutStarted =>
    refine refused (checkoutStartedModel parser.py) .checkoutStarted [] ?_ rfl rfl (by decide)
    exact (Model.Requires.of _).req _ _ |>.req _ _ |>.req _ _ |>.req _ _ |>.req _ _ |>.req _ _
      |>.req _ _ |>.req _ _
  | orderCreated =>
    refine refused (orderCreatedModel parser.py) .orderCreated ["created_at"] ?_ rfl rfl
      (by decide)
    exact (Model.Requires.of _).req _ _ |>.req _ _ |>.req _ _ |>.req _ _ |>.req _ _ |>.req _ _
      |>.req _ _ |>.req _ _ |>.req _ _ |>.req _ _ |>.req _ _ |>.utc _
  | paymentCompleted =>
    refine refused (paymentCompletedModel parser.py) .paymentCompleted ["completed_at"] ?_ rfl rfl
      (by decide)
    exact (Model.Requires.of _).req _ _ |>.req _ _ |>.req _ _ |>.req _ _ |>.req _ _ |>.req _ _
      |>.req _ _ |>.req _ _ |>.req _ _ |>.utc _
  | paymentFailed =>
    refine refused (paymentFailedModel parser.py) .paymentFailed ["failed_at"] ?_ rfl rfl
      (by decide)
    exact (Model.Requires.of _).req _ _ |>.req _ _ |>.req _ _ |>.req _ _ |>.req _ _ |>.req _ _
      |>.req _ _ |>.req _ _ |>.req _ _ |>.req _ _ |>.utc _
  | refundRequested =>
    refine refused (refundRequestedModel parser.py) .refundRequested ["requested_at"] ?_ rfl rfl
      (by decide)
    exact (Model.Requires.of _).req _ _ |>.req _ _ |>.req _ _ |>.req _ _ |>.req _ _ |>.req _ _
      |>.req _ _ |>.utc _
  | fraudAlertCreated =>
    refine refused (fraudAlertCreatedModel parser.py) .fraudAlertCreated ["created_at"] ?_ rfl rfl
      (by decide)
    exact (Model.Requires.of _).req _ _ |>.req _ _ |>.req _ _ |>.req _ _ |>.req _ _ |>.req _ _
      |>.req _ _ |>.utc _

end

/-! ### Events that are refused -/

section

variable {parser : Parser} {event other : EventEnvelope} {text : Text}

/-- The members of an event's payload, in any order, are dated. -/
theorem payload_dated (formed : WellFormed parser.context event) (denotes : Denotes parser.py event) :
    Dated parser.py (Json.sorted event.payloadMembers) timestampNames := by
  have nodup : (event.payloadMembers.map Prod.fst).Nodup :=
    (keys_perm (byKey_perm _)).nodup_iff.mpr
      ((modelDump_nodup event.payload).map Text.ofString_injective)
  intro name named j found
  rw [Json.lookup_sorted nodup] at found
  obtain ⟨value, here, rfl⟩ := Option.map_eq_some_iff.mp found
  have mem := (byKey_perm _).mem_iff.mp ((Json.lookup_iff nodup).mp here)
  obtain ⟨item, held, same⟩ := List.mem_map.mp mem
  obtain ⟨key, rfl⟩ := Prod.mk.inj same
  have key := Text.ofString_injective key
  obtain ⟨t, listed, dates⟩ := modelDump_timestamp event.payload item held (key ▸ named)
  have instant : t ∈ event.instants := List.mem_cons_of_mem _ (List.mem_cons_of_mem _ listed)
  refine ⟨t, ?_, formed.instants t instant⟩
  rw [dates]
  exact denotes.instants t instant

theorem event_members_nodup (event : EventEnvelope) : (event.members.map Prod.fst).Nodup :=
  (keys_perm (byKey_perm _)).nodup_iff.mpr ((members_nodup event _).map Text.ofString_injective)

/-- The timestamps of an envelope that was edited elsewhere. -/
theorem envelope_dated (formed : WellFormed parser.context event)
    (denotes : Denotes parser.py event) {members : List (Text × Json)}
    (time : Json.lookup members "event_time" = some (utcJson event.eventTime))
    (produced : Json.lookup members "produced_at" = some (utcJson event.producedAt)) :
    Dated parser.py members (envelopeInputModel parser.py).datetimes := by
  have listed : (envelopeInputModel parser.py).datetimes = ["event_time", "produced_at"] := rfl
  rw [listed]
  intro name mem j found
  simp only [List.mem_cons, List.not_mem_nil, or_false] at mem
  rcases mem with rfl | rfl
  · rw [time] at found
    cases found
    have instant : event.eventTime ∈ event.instants := List.mem_cons_self
    exact ⟨_, denotes.instants _ instant, formed.instants _ instant⟩
  · rw [produced] at found
    cases found
    have instant : event.producedAt ∈ event.instants := List.mem_cons_of_mem _ List.mem_cons_self
    exact ⟨_, denotes.instants _ instant, formed.instants _ instant⟩

/-- A document that still names its type is parsed as an event of that type. -/
theorem parseEvent_named {bytes : List UInt8} {members : List (Text × Json)}
    (decoded : parser.loads bytes = .ok (.obj members))
    (named : Json.lookup members "event_type" = some (strJson event.eventType.value)) :
    parser.parseEvent bytes = parser.parseTyped event.eventType bytes := by
  unfold Parser.parseEvent
  simp only [decoded, named, strJson, find_eventType]

/-- The canonical document, changed at one key. -/
structure EditedAt (event : EventEnvelope) (name : String) (edited : List (Text × Json)) : Prop where
  nodup : (edited.map Prod.fst).Nodup
  fits : (Json.obj edited).fits 3 = true
  kept : ∀ other, other ≠ name → Json.lookup edited other = Json.lookup event.members other

theorem EditedAt.pop (canonical : event.canonicalJson = .ok text) (name : String) :
    EditedAt event name (Json.pop name event.members) := by
  obtain ⟨-, fits, -⟩ := canonicalJson_ok canonical
  have nodup := event_members_nodup event
  constructor
  · exact Json.nodup_pop nodup
  · exact Json.fits_pop (fits 0)
  · intro other differs
    rw [Json.lookup_pop nodup, if_neg differs]

theorem EditedAt.assign (canonical : event.canonicalJson = .ok text) {name : String} {value : Json}
    (present : Json.lookup event.members name ≠ none) (fit : value.fits 2 = true) :
    EditedAt event name (Json.assign name value event.members) := by
  obtain ⟨-, fits, -⟩ := canonicalJson_ok canonical
  have nodup := event_members_nodup event
  constructor
  · rw [Json.keys_assign present nodup]
    exact nodup
  · exact Json.fits_assign (fits 0) fit
  · intro other differs
    rw [Json.lookup_assign present nodup, if_neg differs]

namespace EditedAt

variable {name : String} {edited : List (Text × Json)} (h : EditedAt event name edited)

include h

/-- The other fields are read back. -/
theorem field {field : String} {j : Json} (other : field ≠ name)
    (mem : (field, j) ∈ event.fields (.obj event.payloadMembers)) (plain : j.sortKeys = j) :
    Json.lookup (Json.sorted edited) field = some j := by
  rw [Json.lookup_sorted h.nodup, h.kept field other, lookup_members mem, Option.map_some, plain]

theorem string {field value : String} (other : field ≠ name)
    (mem : (field, strJson value) ∈ event.fields (.obj event.payloadMembers)) :
    Json.lookup (Json.sorted edited) field = some (strJson value) :=
  h.field other mem (Json.shallow_strJson value).sorted

theorem eventType (other : "event_type" ≠ name) :
    Json.lookup (Json.sorted edited) "event_type" = some (strJson event.eventType.value) :=
  h.string other (by simp [EventEnvelope.fields])

theorem eventVersion (other : "event_version" ≠ name) :
    Json.lookup (Json.sorted edited) "event_version" = some (.int event.eventVersion) :=
  h.field other (by simp [EventEnvelope.fields]) rfl

theorem eventTime (other : "event_time" ≠ name) :
    Json.lookup (Json.sorted edited) "event_time" = some (utcJson event.eventTime) :=
  h.string other (by simp [EventEnvelope.fields, utcJson])

theorem producedAt (other : "produced_at" ≠ name) :
    Json.lookup (Json.sorted edited) "produced_at" = some (utcJson event.producedAt) :=
  h.string other (by simp [EventEnvelope.fields, utcJson])

end EditedAt

/-- The bytes hold a document of this version and type that `parse_event` refuses. -/
structure Refused (parser : Parser) (event : EventEnvelope) (edited : List (Text × Json))
    (bytes : List UInt8) : Prop where
  rendered : Json.rendered (.obj edited) = .ok bytes
  decoded : parser.loads bytes = .ok (.obj (Json.sorted edited))
  eventType : Json.lookup (Json.sorted edited) "event_type" = some (strJson event.eventType.value)
  eventVersion : Json.lookup (Json.sorted edited) "event_version" = some (.int event.eventVersion)
  parses : parser.parseEvent bytes = .error .validationError

variable (conforms : Conforms parser) (formed : WellFormed parser.context event)
  (denotes : Denotes parser.py event) (canonical : event.canonicalJson = .ok text)

include conforms formed denotes canonical

/-- Without its `event_id` an event is refused. -/
theorem refused_withoutEventId :
    ∃ bytes, Refused parser event (Json.pop "event_id" event.members) bytes := by
  have edit := EditedAt.pop canonical "event_id"
  obtain ⟨bytes, rendered, decoded, document⟩ := rendered_reads conforms edit.fits
  have named := edit.eventType (by decide)
  refine ⟨bytes, rendered, decoded, named, edit.eventVersion (by decide), ?_⟩
  have absent : Json.lookup (Json.sorted (Json.pop "event_id" event.members)) "event_id" = none := by
    rw [Json.lookup_sorted edit.nodup, Json.lookup_pop (event_members_nodup event), if_pos rfl]
    rfl
  have requires : (envelopeInputModel parser.py).Requires :=
    (Model.Requires.of _).req _ _ |>.req _ _ |>.req _ _ |>.utc _ |>.utc _ |>.req _ _ |>.req _ _
      |>.req _ _
  have dated := envelope_dated formed denotes (edit.eventTime (by decide))
    (edit.producedAt (by decide))
  have refused := run_refused requires dated (Or.inl ⟨"event_id", List.mem_cons_self, absent⟩)
  rw [parseEvent_named decoded named]
  simp only [Parser.parseTyped, Parser.object_ok.mpr document, bind, Except.bind, refused]

/-- With a payload that is not of its type an event is refused. -/
theorem refused_payloadOf {payload : List (Text × Json)} (fit : (Json.obj payload).fits 2 = true)
    (dated : Dated parser.py (Json.sorted payload) timestampNames)
    (differs : (∃ name ∈ payloadFields event.eventType,
        Json.lookup (Json.sorted payload) name = none) ∨
      ∃ entry ∈ Json.sorted payload,
        entry.1 ∉ (payloadFields event.eventType).map Text.ofString) :
    ∃ bytes, Refused parser event (Json.assign "payload" (.obj payload) event.members) bytes := by
  have nodup := event_members_nodup event
  have present : Json.lookup event.members "payload" ≠ none := by
    rw [lookup_members (j := .obj event.payloadMembers) (by simp [EventEnvelope.fields])]
    exact Option.some_ne_none _
  have edit := EditedAt.assign canonical present fit
  obtain ⟨bytes, rendered, decoded, document⟩ := rendered_reads conforms edit.fits
  have replaced : Json.lookup (Json.sorted (Json.assign "payload" (.obj payload) event.members))
      "payload" = some (.obj (Json.sorted payload)) := by
    rw [Json.lookup_sorted edit.nodup, Json.lookup_assign present nodup, if_pos rfl]
    rfl
  have named := edit.eventType (by decide)
  have version := edit.eventVersion (by decide)
  refine ⟨bytes, rendered, decoded, named, version, ?_⟩
  -- The envelope is read with the foreign payload; the payload class of the type refuses that.
  have gives := envelope_gives formed denotes (Json.sorted payload)
  have each : ∀ item ∈ event.fields (.obj (Json.sorted payload)),
      Json.lookup (Json.sorted (Json.assign "payload" (.obj payload) event.members)) item.1 =
        some item.2 := by
    intro item mem
    simp only [EventEnvelope.fields, List.mem_cons, List.not_mem_nil, or_false] at mem
    rcases mem with rfl | rfl | rfl | rfl | rfl | rfl | rfl | rfl
    · exact edit.string (show "event_id" ≠ "payload" by decide)
        (by simp [EventEnvelope.fields, uuidJson])
    · exact named
    · exact version
    · exact edit.eventTime (by decide)
    · exact edit.producedAt (by decide)
    · exact edit.string (show "source" ≠ "payload" by decide) (by simp [EventEnvelope.fields])
    · exact edit.string (show "correlation_id" ≠ "payload" by decide)
        (by simp [EventEnvelope.fields, uuidJson])
    · exact replaced
  have run := Model.run_valid.mpr ⟨gives.validates _ each, fun entry mem => by
    have key := (Json.keys_sorted _).mem_iff.mp (List.mem_map_of_mem mem)
    rw [Json.keys_assign present nodup] at key
    have listed : (event.fields (.obj event.payloadMembers)).map Prod.fst =
        (event.fields (.obj (Json.sorted payload))).map Prod.fst := rfl
    rw [gives.fields, ← listed]
    exact (keys_perm (byKey_perm _)).mem_iff.mp key⟩
  have sortedFits : (Json.obj (Json.sorted payload)).fits 3 = true :=
    Json.fits_le (by decide : 2 ≤ 3) (Json.fits_sortKeys _ fit)
  have payloadDocument : parser.py.fromJson (parser.py.dumps (.obj (Json.sorted payload))) =
      some (.obj (Json.sorted payload)) := by
    rw [conforms.dumps _ sortedFits]
    exact conforms.reads true _ sortedFits
  rw [parseEvent_named decoded named]
  simp only [Parser.parseTyped, Parser.object_ok.mpr document, bind, Except.bind,
    Validated.get_ok.mpr run, Parser.object_ok.mpr payloadDocument,
    payloadOf_refused dated differs]

end

end CommercePlatform.Contract
