import Mathlib.Tactic.NormNum
import Mathlib.Tactic.Ring
import CommercePlatform.Fraud.Accepted
import CommercePlatform.Outbox.Attempts
import CommercePlatform.Processor.RoundTrip

/-!
The alert from the evaluation to Kafka.

`build_alert_message` makes a message, `persist` stores its key, its decoded headers and its
bytes in an outbox row, `claim` turns the row into a record and `publish` produces the
record. No step changes the content: whoever claims the row, however often, produces the
key, the headers and the bytes of the message, and a consumer accepts them as the alert.
-/

namespace CommercePlatform.Fraud

open Contract Persistence Processor Schema

/-! ### The event of an alert -/

theorem strip_isNonEmptyString {s : String} (some_ : (strip s).toList ≠ []) :
    IsNonEmptyString (strip s) := by
  have chars : (strip s).toList =
      ((s.toList.dropWhile isSpace).reverse.dropWhile isSpace).reverse := String.toList_ofList
  set front := s.toList.dropWhile isSpace
  have head : ∀ (l : List Char) (c : Char), (l.dropWhile isSpace).head? = some c →
      isSpace c = false := by
    intro l c first
    have := List.head?_dropWhile_not isSpace l
    rw [first] at this
    simpa using this
  refine ⟨some_, ?_, ?_⟩
  · intro c first
    rw [chars] at first some_
    -- What the second pass leaves is a beginning of what the first has left.
    obtain ⟨tail, split⟩ := List.dropWhile_suffix isSpace (l := front.reverse)
    have whole : front = (front.reverse.dropWhile isSpace).reverse ++ tail.reverse := by
      rw [← List.reverse_append, split, List.reverse_reverse]
    refine head s.toList c ?_
    rw [show s.toList.dropWhile isSpace = front from rfl, whole, List.head?_append, first]
    rfl
  · intro c last
    rw [chars, List.getLast?_reverse] at last
    exact head front.reverse c last

/-- What the constructors of the payload and the envelope of an alert check. -/
structure Alertable (evaluation : FraudEvaluation) : Prop where
  score : 0 ≤ evaluation.totalScore ∧ evaluation.totalScore ≤ 100
  reasons : ∀ r ∈ evaluation.matchedRules, (strip r.reasonCode).toList ≠ []
  time : Instant.minimum + maxProducerClockSkew ≤ evaluation.evaluatedAt ∧
    evaluation.evaluatedAt ≤ Instant.maximum

theorem scoreDecimal_value (score : Int) :
    Decimal.value { negative := score < 0, coefficient := score.natAbs } = score := by
  simp only [Decimal.value, zpow_zero, mul_one, decide_eq_true_eq]
  split
  · rename_i below
    rw [Nat.cast_natAbs, abs_of_neg below]
    push_cast
    ring
  · rename_i above
    rw [Nat.cast_natAbs, abs_of_nonneg (not_lt.mp above), one_mul]

section

variable (rt : Runtime) (evaluation : FraudEvaluation) (source : EventEnvelope)

/-- The payload of an alert carries the evaluation. -/
structure Carries (payload : FraudAlertCreatedPayload) : Prop where
  score : payload.fraudScore.value = evaluation.totalScore
  decision : payload.decision = evaluation.decision
  customer : payload.customerId = some evaluation.customerId
  order : payload.orderId = evaluation.orderId
  source : payload.eventId = evaluation.sourceEventId

theorem buildAlertMessage_carries :
    ∃ payload, (buildAlertMessage rt evaluation source).event.payload = .fraudAlertCreated payload ∧
      Carries evaluation payload := by
  refine ⟨_, rfl, ?_, rfl, rfl, rfl, rfl⟩
  exact scoreDecimal_value evaluation.totalScore

theorem buildAlertMessage_wellFormed (context : DecimalContext) (alertable : Alertable evaluation) :
    WellFormed context (buildAlertMessage rt evaluation source).event := by
  obtain ⟨score, reasons, early, late⟩ := alertable
  have first : Instant.minimum ≤ evaluation.evaluatedAt - maxProducerClockSkew := le_sub_iff_add_le.mpr early
  have skew : evaluation.evaluatedAt - maxProducerClockSkew ≤ evaluation.evaluatedAt :=
    Int.sub_le_self _ (by decide)
  constructor
  · exact Nat.one_pos
  · have name : strip "fraud-engine" = "fraud-engine" := by decide +kernel
    have stripped := @strip_isNonEmptyString "fraud-engine" (by decide +kernel)
    rwa [name] at stripped
  · refine ⟨?_, ?_, ?_⟩
    · have value := scoreDecimal_value evaluation.totalScore
      rw [value]
      exact ⟨by exact_mod_cast score.1, by exact_mod_cast score.2⟩
    · split <;> simp_all
    · intro reason mem
      obtain ⟨raw, listed, rfl⟩ := List.mem_map.mp mem
      refine strip_isNonEmptyString ?_
      split at listed
      · rw [List.mem_singleton.mp listed]
        decide +kernel
      · obtain ⟨r, matched, rfl⟩ := List.mem_map.mp listed
        exact reasons r matched
  · intro t mem
    have time : t = evaluation.evaluatedAt := by
      simpa [EventEnvelope.instants, Payload.instants, buildAlertMessage] using mem
    rw [time]
    exact ⟨le_trans first skew, late⟩
  · rfl
  · have earliest : evaluation.evaluatedAt.subtract maxProducerClockSkew =
        .ok (evaluation.evaluatedAt - maxProducerClockSkew) :=
      if_pos ⟨first, le_trans skew late⟩
    simp only [validateContractConsistency, buildAlertMessage, earliest]
    rw [if_neg (by simp [EventEnvelope.eventType])]
    exact if_neg (not_lt.mpr skew)

/-- An alert is rebuilt from its evaluation, the id and the correlation of its source. -/
theorem buildAlertMessage_congr {source' : EventEnvelope} (sameId : source'.eventId = source.eventId)
    (sameCorrelation : source'.correlationId = source.correlationId) :
    buildAlertMessage rt evaluation source' = buildAlertMessage rt evaluation source := by
  simp only [buildAlertMessage, sameId, sameCorrelation]

/-- The row that `persist` stores for an evaluation that is not approved. -/
theorem persistEvaluation_outbox {arith : Arithmetic} {config : FraudConfig} {now : Instant}
    {db : Db} {ws ws' : List Write} {counts : RowCounts}
    (flagged : evaluation.decision ≠ .approve)
    (ran : alone (D := database arith) (persistEvaluation rt config evaluation source now) db ws =
      .ok (counts, ws')) (stored : (Table.fraudOutbox, 1) ∈ counts) :
    ((database arith).view db ws').fraudOutbox.get? (buildAlertMessage rt evaluation source).outboxId =
      some (outboxRow config (buildAlertMessage rt evaluation source) now) := by
  have rest := alone_read rfl ran
  split at rest
  · split at rest
    · cases rest
      simp at stored
    · cases rest
  · obtain ⟨-, rest⟩ := alone_sql.mp rest
    rw [if_neg flagged] at rest
    obtain ⟨-, rest⟩ := alone_sql.mp rest
    split at rest
    · obtain ⟨-, rest⟩ := alone_sql.mp rest
      cases rest
      rw [view_append]
      exact Dict.get?_set_self _ _ _
    · cases rest
      simp at stored

end

/-! ### The record of an alert -/

/-- The `event_id` that `parse_event` reads from the bytes, or the text of its error. -/
def parsedEventId (v : Validator) (text : PyException → String) (bytes : List UInt8) :
    Except String UUID :=
  match v.parseEvent bytes with
  | .ok event => .ok event.eventId
  | .error e => .error (text e)

/-- What `publish` hands to `produce`, as it is consumed. -/
def produced (record : Outbox.OutboxRecord) (partition offset : Int) (timestamp : Option Instant) :
    ConsumedMessage :=
  ⟨record.topic, partition, offset, timestamp, some record.messageKey, some record.payloadBytes,
    record.headers.map fun header => (header.1, some header.2)⟩

/-- The record of an outbox row is the message of the alert: topic, key, headers in their
order and bytes; `publish` finds the row's event in it, and a consumer accepts it. -/
structure Publishes (v : Validator) (text : PyException → String) (config : FraudConfig)
    (message : FraudAlertMessage) (record : Outbox.OutboxRecord) : Prop where
  topic : record.topic = config.alertTopic
  key : record.messageKey = message.key
  headers : record.headers = message.headers.map fun header => (header.1, header.2.toUTF8.toList)
  payload : record.payloadBytes = message.payloadBytes
  identity : Outbox.checkIdentity (parsedEventId v text) record = .ok ()
  accepted : ∀ partition offset timestamp,
    v.validateMessage (produced record partition offset timestamp) = .ok (.valid message.event)

section

variable {v : Validator} {rt : Runtime} {evaluation : FraudEvaluation} {source : EventEnvelope}

theorem headerText_alert {message : ConsumedMessage}
    (sent : message.headers = (buildAlertMessage rt evaluation source).headers.map fun header =>
      (header.1, some header.2.toUTF8.toList)) {header : String × String}
    (mem : header ∈ (buildAlertMessage rt evaluation source).event.messageHeaders) :
    headerText message header.1 = some (Text.ofString header.2) := by
  have values : headerValues message header.1 = [some header.2.toUTF8.toList] := by
    rw [headerValues, sent]
    simp only [EventEnvelope.messageHeaders, List.mem_cons, List.not_mem_nil, or_false] at mem
    rcases mem with rfl | rfl | rfl | rfl | rfl | rfl <;>
      simp [buildAlertMessage, EventEnvelope.messageHeaders]
  exact headerText_single values

theorem buildAlertMessage_encoded (rt : Runtime) (evaluation : FraudEvaluation)
    (source : EventEnvelope) :
    (Text.ofString (rt.canonicalJson (buildAlertMessage rt evaluation source).event)).encode =
      .ok (buildAlertMessage rt evaluation source).payloadBytes := by
  simp only [buildAlertMessage, toUTF8_toList]
  exact if_pos (Text.encodable_of_scalar (Text.ofString_scalar _))

/-- The bytes of an alert are parsed back to its event. -/
theorem parseEvent_alert (conforms : Conforms v.toParser) (alertable : Alertable evaluation)
    (denotes : Denotes v.py (buildAlertMessage rt evaluation source).event)
    (renders : rt.Renders (buildAlertMessage rt evaluation source).event) :
    v.parseEvent (buildAlertMessage rt evaluation source).payloadBytes =
      .ok (buildAlertMessage rt evaluation source).event :=
  (parseEvent_canonical conforms
    (buildAlertMessage_wellFormed rt evaluation source v.context alertable) denotes renders
    (buildAlertMessage_encoded rt evaluation source)).2

/-- A record that carries the stored row of an alert publishes the alert. -/
theorem publishes_of_copies (conforms : Conforms v.toParser)
    (text : PyException → String) (config : FraudConfig) (alertable : Alertable evaluation)
    (denotes : Denotes v.py (buildAlertMessage rt evaluation source).event)
    (renders : rt.Renders (buildAlertMessage rt evaluation source).event) {now : Instant}
    {record : Outbox.OutboxRecord}
    (copies : record.Copies (outboxRow config (buildAlertMessage rt evaluation source) now).toRow) :
    Publishes v text config (buildAlertMessage rt evaluation source) record := by
  obtain ⟨eventId, topic, key, payload, headers⟩ := copies
  have parsed := parseEvent_alert conforms alertable denotes renders
  constructor
  · exact topic
  · exact key
  · exact headers
  · exact payload
  · have same : record.payloadBytes = (buildAlertMessage rt evaluation source).payloadBytes := payload
    have id : record.eventId = (buildAlertMessage rt evaluation source).event.eventId := eventId
    simp only [Outbox.checkIdentity, parsedEventId, same, parsed, id, ne_eq, not_true_eq_false,
      if_false]
  · intro partition offset timestamp
    refine validateMessage_canonical conforms
      (buildAlertMessage_wellFormed rt evaluation source v.context alertable) denotes rfl renders
      (buildAlertMessage_encoded rt evaluation source) ?_ ?_ ?_
    · exact congrArg some key
    · exact congrArg some payload
    · intro header mem
      refine headerText_alert ?_ mem
      simp only [produced]
      rw [headers, List.map_map]
      rfl

end

/-- For every evaluation that asks for an alert and every source event: `persist` stores the
message of the alert as the outbox row; every record of this row that any publisher holds,
in any run of the outbox, is published as the message, passes the identity check and is
accepted; the bytes parse to the event of the alert, whose payload carries the evaluation;
and rebuilding the message gives the same message. -/
theorem alert_byte_identity (v : Validator) (conforms : Conforms v.toParser)
    (text : PyException → String) (rt : Runtime) (config : FraudConfig)
    (evaluation : FraudEvaluation) (source : EventEnvelope)
    (flagged : evaluation.decision = .review ∨ evaluation.decision = .block)
    (alertable : Alertable evaluation)
    (denotes : Denotes v.py (buildAlertMessage rt evaluation source).event)
    (renders : rt.Renders (buildAlertMessage rt evaluation source).event) :
    let message := buildAlertMessage rt evaluation source
    (∀ arith now db ws ws' counts,
      alone (D := database arith) (persistEvaluation rt config evaluation source now) db ws =
        .ok (counts, ws') → (Table.fraudOutbox, 1) ∈ counts →
      ((database arith).view db ws').fraudOutbox.get? message.outboxId =
        some (outboxRow config message now)) ∧
    (∀ (π : Type) [DecidableEq π] (outbox : Outbox.Config) now (as : List (Outbox.Act π)) s,
      (Outbox.machine outbox (parsedEventId v text)).run {} as = some s →
      .insert message.outboxId (outboxRow config message now).toRow ∈ as →
      ∀ p, ∀ record ∈ (s.phase p).held, record.outboxId = message.outboxId →
        Publishes v text config message record) ∧
    v.parseEvent message.payloadBytes = .ok message.event ∧
    message.event.eventId = message.alertEventId ∧
    (∃ payload, message.event.payload = .fraudAlertCreated payload ∧ Carries evaluation payload) ∧
    ∀ source' : EventEnvelope, source'.eventId = source.eventId →
      source'.correlationId = source.correlationId → buildAlertMessage rt evaluation source' = message := by
  intro message
  have notApproved : evaluation.decision ≠ .approve := by
    rcases flagged with review | block
    · rw [review]
      decide
    · rw [block]
      decide
  refine ⟨?_, ?_, parseEvent_alert conforms alertable denotes renders, rfl,
    buildAlertMessage_carries rt evaluation source,
    fun source' => buildAlertMessage_congr rt evaluation source⟩
  · intro arith now db ws ws' counts ran stored
    exact persistEvaluation_outbox rt evaluation source notApproved ran stored
  · intro π _ outbox now as s ran inserted p record held of
    exact publishes_of_copies conforms text config alertable denotes renders
      (Outbox.run_copies ran inserted held of)

/-! ### An alert -/

section

/-- A payment that does not match its order is blocked. -/
def blockedPayment : FraudEvaluation where
  evaluationId := .ofNat 1
  sourceEventId := .ofNat 2
  customerId := .ofNat 3
  orderId := none
  paymentId := none
  totalScore := 100
  decision := .block
  severity := .critical
  ruleResults :=
    [⟨"payment_amount_mismatch", "1.0", true, 100, .critical, "PAYMENT_AMOUNT_MISMATCH", "", [], 0⟩]
  evaluatedAt := 0
  engineVersion := "1.0.0"
  rulesetVersion := "2026-08"

theorem blockedPayment_alertable : Alertable blockedPayment where
  score := by decide
  reasons := by
    have matched : blockedPayment.matchedRules.map (·.reasonCode) = ["PAYMENT_AMOUNT_MISMATCH"] := rfl
    intro r mem
    have code := List.mem_map_of_mem (f := (·.reasonCode)) mem
    rw [matched, List.mem_singleton] at code
    rw [code]
    decide +kernel
  time := by decide

/-- pydantic on the document of this alert. -/
def alertValidator : Validator :=
  { sampleValidator with
    py := { samplePydantic with
      decimal
        | .str text => if text = Text.ofString "100" then some { coefficient := 100 } else none
        | _ => none } }

theorem alertValidator_conforms : Conforms alertValidator.toParser :=
  sampleValidator_conforms.congr (by decide) rfl rfl

/-- The alert of the blocked payment. -/
def blockedAlert : FraudAlertMessage :=
  buildAlertMessage sampleRuntime blockedPayment (samplePayment ⟨false, 1050, -2⟩)

theorem blockedAlert_denotes : Denotes alertValidator.py blockedAlert.event where
  uuid := uuidOfText_str
  instants := by
    have text : Text.ofString (serializeUtc 0) = Text.ofString "1970-01-01T00:00:00Z" := by
      decide +kernel
    simp [blockedAlert, buildAlertMessage, blockedPayment, EventEnvelope.instants, Payload.instants,
      alertValidator, samplePydantic, utcJson, strJson, text]
  decimals := by
    have score : alertValidator.py.decimal (moneyJson { coefficient := 100 }) =
        some { coefficient := 100 } := by decide +kernel
    simpa [blockedAlert, buildAlertMessage, blockedPayment, Payload.decimals] using score
  addresses := by simp [blockedAlert, buildAlertMessage, Payload.addresses]

theorem blockedAlert_renders : sampleRuntime.Renders blockedAlert.event := by
  have short : blockedAlert.event.modelDump.shortInts = true := by
    have version : (Json.dumpNat 1).length ≤ Json.maxStrDigits := by
      simp [Json.dumpNat, Json.maxStrDigits]
    simpa [blockedAlert, buildAlertMessage, blockedPayment, FraudEvaluation.matchedRules,
      EventEnvelope.modelDump, EventEnvelope.fields, dictJson, Payload.modelDump, Json.shortInts,
      Json.shortMembers, Json.shortItems, uuidJson, optionalUuidJson, strJson, utcJson, moneyJson,
      memberJson] using version
  exact sampleRuntime_renders_of (if_pos short)

/-- The first claim of the row publishes the alert. -/
theorem alert_byte_identity_blocked :
    ∃ record : Outbox.OutboxRecord, record.claimToken = .ofNat 9 ∧
      Publishes alertValidator (fun _ => "") {} blockedAlert record := by
  let row := (outboxRow {} blockedAlert 0).toRow
  let as : List (Outbox.Act Unit) :=
    [.insert blockedAlert.outboxId row, .claim () (.ofNat 9) 1 [] .committed]
  have single := @Outbox.claim_single {} (.ofNat 9) 1 ((∅ : Outbox.Table).set blockedAlert.outboxId row)
    blockedAlert.outboxId row rfl (by decide) rfl
  have ran : ∃ s, (Outbox.machine {} (parsedEventId alertValidator fun _ => "")).run {} as = some s ∧
      s.phase () = .next [Outbox.toRecord (.ofNat 9) (blockedAlert.outboxId, row.recover {} 1)] := by
    refine ⟨_, rfl, ?_⟩
    exact congrArg (fun claimed => Outbox.Phase.next claimed.2) single
  obtain ⟨s, ran, holding⟩ := ran
  have identity := alert_byte_identity alertValidator alertValidator_conforms (fun _ => "")
    sampleRuntime {} blockedPayment (samplePayment ⟨false, 1050, -2⟩) (Or.inr rfl)
    blockedPayment_alertable blockedAlert_denotes blockedAlert_renders
  refine ⟨_, rfl, identity.2.1 Unit {} 0 as s ran List.mem_cons_self () (Outbox.toRecord (.ofNat 9)
    (blockedAlert.outboxId, row.recover {} 1)) ?_ rfl⟩
  rw [holding, Outbox.Phase.held_next]
  exact List.mem_singleton_self _

end

end CommercePlatform.Fraud
