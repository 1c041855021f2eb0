import CommercePlatform.Processor.Execution
import Mathlib.Algebra.Order.BigOperators.Group.List

/-!
The size of a dead-letter record.

The value of the message, the allow-listed headers and the error text are cut to fixed
lengths. The key, the event type that the body names and the anomaly tag are copied whole,
so the size of a record is bounded by the configuration exactly as far as these three are.
-/

namespace CommercePlatform.Processor

open Contract Persistence

/-! ### Lengths of rendered text -/

theorem length_ofString (s : String) : (Text.ofString s).length = s.length := by
  rw [Text.ofString, List.length_map, String.length_toList]

theorem length_renderChar (c : Nat) : 1 ≤ (renderChar c).length ∧ (renderChar c).length ≤ 6 := by
  unfold renderChar
  repeat' split
  all_goals simp [Text.ofString]

theorem length_renderString (t : Text) :
    t.length ≤ (renderString t).length ∧ (renderString t).length ≤ 6 * t.length + 2 := by
  have body : t.length ≤ (t.flatMap renderChar).length ∧
      (t.flatMap renderChar).length ≤ 6 * t.length := by
    induction t with
    | nil => simp
    | cons c t ih =>
      have here := length_renderChar c
      simp only [List.flatMap_cons, List.length_append, List.length_cons]
      omega
  simp only [renderString, List.cons_append, List.length_cons, List.length_append, List.length_nil]
  omega

theorem length_encodePoint (c : Nat) :
    1 ≤ (Text.encodePoint c).length ∧ (Text.encodePoint c).length ≤ 4 := by
  unfold Text.encodePoint
  repeat' split
  all_goals simp

theorem length_encode {t : Text} {bytes : List UInt8} (encoded : t.encode = .ok bytes) :
    t.length ≤ bytes.length ∧ bytes.length ≤ 4 * t.length := by
  unfold Text.encode at encoded
  split at encoded
  · cases encoded
    induction t with
    | nil => simp
    | cons c t ih =>
      have here := length_encodePoint c
      rename_i encodable
      have rest := ih (List.all_eq_true.mpr fun x mem =>
        List.all_eq_true.mp encodable x (List.mem_cons_of_mem _ mem))
      simp only [List.flatMap_cons, List.length_append, List.length_cons]
      omega
  · cases encoded

theorem length_b64encode (bytes : List UInt8) :
    bytes.length ≤ (b64encode bytes).length ∧ (b64encode bytes).length ≤ 4 * bytes.length := by
  induction bytes using b64encode.induct with
  | case1 => simp [b64encode]
  | case2 a => simp [b64encode]
  | case3 a b => simp [b64encode]
  | case4 a b c rest ih =>
    simp only [b64encode, List.length_cons]
    omega

/-! ### Objects -/

theorem sum_le {α : Type} {l : List α} {f : α → Nat} {c : Nat} (each : ∀ a ∈ l, f a ≤ c) :
    (l.map f).sum ≤ l.length * c := by
  have total := List.sum_le_card_nsmul (l.map f) c (by
    intro n mem
    obtain ⟨a, held, rfl⟩ := List.mem_map.mp mem
    exact each a held)
  rw [List.length_map] at total
  exact total

/-- The members of an object between its commas. -/
theorem length_intersperse (parts : List Text) (separator : Nat) :
    ((parts.intersperse [separator]).flatten).length ≤ (parts.map fun p => p.length + 1).sum := by
  induction parts with
  | nil => simp
  | cons p rest ih =>
    cases rest with
    | nil => simp
    | cons q rest =>
      simp only [List.intersperse_cons_cons, List.flatten_cons, List.length_append, List.length_cons,
        List.map_cons, List.sum_cons] at ih ⊢
      simp only [List.length_nil]
      omega

theorem length_le_intersperse {parts : List Text} {separator : Nat} {p : Text} (mem : p ∈ parts) :
    p.length ≤ ((parts.intersperse [separator]).flatten).length := by
  induction parts with
  | nil => cases mem
  | cons q rest ih =>
    cases rest with
    | nil =>
      rw [List.mem_singleton.mp mem]
      simp
    | cons r rest =>
      simp only [List.intersperse_cons_cons, List.flatten_cons, List.length_append]
      rcases List.mem_cons.mp mem with rfl | later
      · omega
      · have := ih later
        omega

/-- An object of members whose names and values are short. -/
theorem length_renderObject {members : List (String × Text)} {names values : Nat}
    (short : ∀ m ∈ members, m.1.length ≤ names ∧ m.2.length ≤ values) :
    (renderObject members).length ≤ 2 + members.length * (6 * names + values + 4) := by
  have parts := length_intersperse
    (members.map fun m => renderString (Text.ofString m.1) ++ 0x3A :: m.2) 0x2C
  have sum := @sum_le _ (members.map fun m => renderString (Text.ofString m.1) ++ 0x3A :: m.2)
    (fun p => p.length + 1) (6 * names + values + 4) (by
      intro p mem
      obtain ⟨m, held, rfl⟩ := List.mem_map.mp mem
      have here := short m held
      have name := (length_renderString (Text.ofString m.1)).2
      rw [length_ofString] at name
      simp only [List.length_append, List.length_cons]
      omega)
  rw [List.length_map] at sum
  simp only [renderObject, List.cons_append, List.length_cons, List.length_append, List.length_nil]
  omega

theorem length_le_renderObject {members : List (String × Text)} {m : String × Text}
    (mem : m ∈ members) : m.2.length ≤ (renderObject members).length := by
  have part : renderString (Text.ofString m.1) ++ 0x3A :: m.2 ∈
      members.map fun m => renderString (Text.ofString m.1) ++ 0x3A :: m.2 :=
    List.mem_map.mpr ⟨m, mem, rfl⟩
  have inside := @length_le_intersperse _ 0x2C _ part
  simp only [List.length_append, List.length_cons] at inside
  simp only [renderObject, List.cons_append, List.length_cons, List.length_append, List.length_nil]
  omega

/-! ### Short texts -/

theorem length_toUTF8 (s : String) : s.toUTF8.toList.length ≤ 4 * s.length := by
  have encoded : (Text.ofString s).encode = .ok s.toUTF8.toList := by
    rw [toUTF8_toList]
    exact if_pos (Text.ofString_encodable s)
  have bytes := (length_encode encoded).2
  rwa [length_ofString] at bytes

theorem length_uuid (u : UUID) : u.str.length = 36 := by
  rw [UUID.str, String.length_ofList]
  simp [UUID.chars, u.length_eq]

theorem length_toString_nat {n : Nat} (small : n < 10 ^ 19) : (toString n).length ≤ 19 :=
  (Nat.length_repr_le_iff (by decide)).mpr small

theorem length_toString_int {n : Int} (nonneg : 0 ≤ n) (small : n < 10 ^ 19) :
    (toString n).length ≤ 19 := by
  obtain ⟨m, rfl⟩ := Int.eq_ofNat_of_zero_le nonneg
  exact length_toString_nat (by exact_mod_cast small)

theorem length_category (category : ValidationCategory) : category.value.length ≤ 32 := by
  cases category <;> decide

theorem length_className (cls : ErrorClass) : (className cls).length ≤ 32 := by
  cases cls <;> decide

theorem length_clip (message : String) : (clip message).length ≤ 512 := by
  rw [clip, String.length_ofList]
  exact List.length_take_le ..

/-! ### Records -/

/-- The errors for which a message is dead-lettered. -/
inductive Produced (processor : MessageProcessor) (message : ConsumedMessage) :
    ValidationErrorInfo → Prop
  | rejected {error : ValidationErrorInfo}
      (invalid : processor.validator.validateMessage message = .ok (.invalid error)) :
      Produced processor message error
  | failed {event : EventEnvelope} (e : ProcessorError) (category : ValidationCategory)
      (valid : processor.validator.validateMessage message = .ok (.valid event)) :
      Produced processor message (processingError event e category)

/-- A dead-letter record and its bytes, for the settings and the topic that a bound may
depend on. Partitions and offsets are those of Kafka, and the attempts those that
`ProcessorConfig` accepts. -/
structure DeadLetter (maximumPayloadBytes : Nat) (topic consumerGroup instanceId : String) where
  processor : MessageProcessor
  message : ConsumedMessage
  error : ValidationErrorInfo
  attempts : Nat
  failedAt : Instant
  value : List UInt8
  payload_eq : processor.config.dlqMaxPayloadBytes = maximumPayloadBytes
  group_eq : processor.config.consumerGroup = consumerGroup
  instance_eq : processor.instanceId = instanceId
  topic_eq : message.topic = topic
  partition_range : 0 ≤ message.partition ∧ message.partition < 2 ^ 31
  offset_range : 0 ≤ message.offset ∧ message.offset < 2 ^ 63
  attempts_le : attempts ≤ 20
  instant_le : ∀ t, (processor.renderInstant t).length ≤ 32
  produced : Produced processor message error
  encoded : (buildDlqEnvelope processor.rt processor.config processor.instanceId message error
    attempts failedAt).canonicalBytes processor.renderInstant = .ok value

/-- What `_error` builds. -/
def ValidationResult.isPermanent : ValidationResult → Bool
  | valid _ => true
  | invalid error => error.errorType = "PermanentMessageError"

theorem metadata_permanent {v : Validator} {message : ConsumedMessage} {result : ValidationResult}
    (failed : v.metadata message = .error result) : result.isPermanent = true := by
  unfold Validator.metadata at failed
  repeat' split at failed
  all_goals first
    | (cases failed; rfl)
    | cases failed

theorem precheck_permanent {decoded : Json} {hints : Hints} {anomaly : Option Text}
    {result : ValidationResult} (failed : Validator.precheck decoded hints anomaly = some result) :
    result.isPermanent = true := by
  unfold Validator.precheck at failed
  repeat' split at failed
  all_goals first
    | (cases failed; rfl)
    | cases failed

theorem agree_permanent {message : ConsumedMessage} {headers : List (String × Text)}
    {event : EventEnvelope} {anomaly : Option Text} :
    (Validator.agree message headers event anomaly).isPermanent = true := by
  unfold Validator.agree
  simp only
  repeat' split
  all_goals rfl

theorem validateMessage_permanent {v : Validator} {message : ConsumedMessage}
    {result : ValidationResult} (validated : v.validateMessage message = .ok result) :
    result.isPermanent = true := by
  unfold Validator.validateMessage at validated
  split at validated
  · cases validated; rfl
  · cases validated; rfl
  · split at validated
    · rename_i failed
      cases validated
      exact metadata_permanent failed
    · simp only [Validator.validateBody, bind, Except.bind] at validated
      repeat' split at validated
      all_goals first
        | (cases validated; rfl)
        | (cases validated; exact precheck_permanent ‹_›)
        | (cases validated; exact agree_permanent)
        | cases validated

theorem Produced.errorType_le {processor : MessageProcessor} {message : ConsumedMessage}
    {error : ValidationErrorInfo} (produced : Produced processor message error) :
    error.errorType.length ≤ 32 := by
  cases produced with
  | rejected invalid =>
    have permanent := of_decide_eq_true (validateMessage_permanent invalid)
    rw [permanent]
    decide
  | failed e category valid => exact length_className e.cls

/-- The headers that are kept: seven at most, cut to 256 characters. -/
theorem sourceHeaders_short (message : ConsumedMessage) :
    ∀ h ∈ safeHeaderNames.filterMap (sanitizedHeader message), h.1.length ≤ 17 ∧ h.2.length ≤ 256 := by
  intro h mem
  obtain ⟨name, listed, kept⟩ := List.mem_filterMap.mp mem
  have names : ∀ name ∈ safeHeaderNames, name.length ≤ 17 := by decide
  unfold sanitizedHeader at kept
  cases found : (headerValues message name).findSome? id with
  | none =>
    rw [found] at kept
    cases kept
  | some raw =>
    rw [found] at kept
    simp only [Option.bind_eq_bind, Option.bind_some] at kept
    split at kept
    · cases kept
      exact ⟨names name listed, List.length_take_le ..⟩
    · cases kept
      exact ⟨names name listed, show (Text.ofString "<invalid-utf8>").length ≤ 256 by decide⟩

namespace DeadLetter

variable {payload : Nat} {topic group instanceId : String}
  (letter : DeadLetter payload topic group instanceId)

def record : DlqEnvelope :=
  buildDlqEnvelope letter.processor.rt letter.processor.config letter.processor.instanceId
    letter.message letter.error letter.attempts letter.failedAt

/-- The bytes handed to the producer: value, key and headers. -/
def size : Nat :=
  letter.value.length + letter.record.kafkaKey.length +
    (letter.record.kafkaHeaders.map fun h => h.1.toUTF8.toList.length + h.2.toUTF8.toList.length).sum

/-- The length of what is copied whole: the key, the event type that the body names, and
the anomaly tag. -/
def copied : Nat :=
  (letter.message.key.getD []).length + (letter.error.eventType.getD []).length +
    (letter.error.anomalyType.getD []).length

/-- A length that no text of the record passes, when at most `limit` is copied whole. -/
def width (payload : Nat) (topic group instanceId : String) (limit : Nat) : Nat :=
  4 * payload + topic.length + group.length + instanceId.length + 4 * limit + 12000

/-- The rendered headers. -/
theorem length_sourceHeaders :
    (renderObject (letter.record.sourceHeaders.map fun h => (h.1, renderString h.2))).length ≤
      12000 := by
  have members := @length_renderObject
    (letter.record.sourceHeaders.map fun h => (h.1, renderString h.2)) 17 1538 (by
      intro m mem
      obtain ⟨h, held, rfl⟩ := List.mem_map.mp mem
      obtain ⟨name, text⟩ := sourceHeaders_short letter.message h held
      have rendered := (length_renderString h.2).2
      exact ⟨name, rendered.trans (by omega)⟩)
  have seven : letter.record.sourceHeaders.length ≤ 7 :=
    List.length_filterMap_le _ safeHeaderNames
  rw [List.length_map] at members
  omega

theorem length_renderText {s : String} {w : Nat} (short : s.length ≤ w) :
    (renderString (Text.ofString s)).length ≤ 6 * w + 2 := by
  have rendered := (length_renderString (Text.ofString s)).2
  rw [length_ofString] at rendered
  omega

theorem length_renderOptional {α : Type} {render : α → Text} {o : Option α} {w : Nat}
    (short : ∀ a ∈ o, (render a).length ≤ 6 * w + 2) (wide : 12000 ≤ w) :
    (renderOptional render o).length ≤ 6 * w + 2 := by
  cases o with
  | none => exact le_trans (show (Text.ofString "null").length ≤ 4 by decide) (by omega)
  | some a => exact short a rfl

/-- The key is copied whole. -/
theorem key_short {limit : Nat} (small : letter.copied ≤ limit) :
    ∀ s ∈ letter.record.sourceKeyBase64, s.length ≤ 4 * limit := by
  intro s mem
  obtain ⟨key, held, rfl⟩ := Option.mem_map.mp mem
  rw [String.length_ofList]
  have encoded := (length_b64encode key).2
  have counted : key.length ≤ letter.copied := by
    rw [copied, show letter.message.key = some key from held, Option.getD_some]
    omega
  omega

/-- The value is cut. -/
theorem value_short : ∀ s ∈ letter.record.originalValueBase64, s.length ≤ 4 * payload := by
  intro s mem
  obtain ⟨bytes, held, rfl⟩ := Option.mem_map.mp mem
  obtain ⟨value, -, rfl⟩ := Option.mem_map.mp held
  rw [String.length_ofList, letter.payload_eq]
  have encoded := (length_b64encode (value.take payload)).2
  have cut := List.length_take_le payload value
  omega

theorem hint_short {limit : Nat} (small : letter.copied ≤ limit) :
    ∀ t ∈ letter.error.eventType, t.length ≤ limit := by
  intro t mem
  rw [copied, show letter.error.eventType = some t from mem, Option.getD_some] at small
  omega

theorem tag_short {limit : Nat} (small : letter.copied ≤ limit) :
    ∀ t ∈ letter.error.anomalyType, t.length ≤ limit := by
  intro t mem
  rw [copied, show letter.error.anomalyType = some t from mem, Option.getD_some] at small
  omega

/-- No member is longer than the width allows. -/
theorem members_short {limit : Nat} (small : letter.copied ≤ limit) :
    ∀ m ∈ letter.record.members letter.processor.renderInstant,
      m.1.length ≤ 30 ∧ m.2.length ≤ 6 * width payload topic group instanceId limit + 2 := by
  obtain ⟨w, wide⟩ : ∃ w, w = width payload topic group instanceId limit := ⟨_, rfl⟩
  rw [← wide]
  unfold width at wide
  have text : ∀ s : String, s.length ≤ w → (renderString (Text.ofString s)).length ≤ 6 * w + 2 :=
    fun s short => length_renderText short
  have uuid : ∀ u : UUID, (renderString (Text.ofString u.str)).length ≤ 6 * w + 2 :=
    fun u => text _ (by rw [length_uuid]; omega)
  have instant : ∀ t, (renderString (Text.ofString (letter.processor.renderInstant t))).length ≤
      6 * w + 2 :=
    fun t => text _ ((letter.instant_le t).trans (by omega))
  have int : ∀ n : Int, 0 ≤ n → n < 10 ^ 19 →
      (Text.ofString (toString n)).length ≤ 6 * w + 2 := by
    intro n nonneg small
    rw [length_ofString]
    have digits := length_toString_int nonneg small
    omega
  have copy : ∀ t : Text, t.length ≤ limit → (renderString t).length ≤ 6 * w + 2 := by
    intro t short
    have rendered := (length_renderString t).2
    omega
  intro m mem
  simp only [DlqEnvelope.members, List.mem_cons, List.not_mem_nil, or_false] at mem
  rcases mem with rfl | rfl | rfl | rfl | rfl | rfl | rfl | rfl | rfl | rfl | rfl | rfl | rfl |
    rfl | rfl | rfl | rfl | rfl | rfl | rfl | rfl
  all_goals refine ⟨by dsimp only; decide, ?_⟩
  · exact length_renderOptional (fun t mem => copy t (letter.tag_short small t mem)) (by omega)
  · exact text _ (by rw [show letter.record.consumerGroup = _ from letter.group_eq]; omega)
  · exact uuid _
  · have one : letter.record.dlqSchemaVersion = 1 := rfl
    dsimp only
    rw [one]
    exact int 1 (by decide) (by decide)
  · exact text _ ((length_category _).trans (by omega))
  · exact text _ ((length_clip _).trans (by omega))
  · exact text _ (letter.produced.errorType_le.trans (by omega))
  · exact instant _
  · exact length_renderOptional (fun u _ => uuid u) (by omega)
  · exact length_renderOptional (fun u _ => uuid u) (by omega)
  · exact length_renderOptional (fun t mem => copy t (letter.hint_short small t mem)) (by omega)
  · exact length_renderOptional
      (fun s mem => text s ((letter.value_short s mem).trans (by omega))) (by omega)
  · rw [length_ofString]
    split
    · exact le_trans (show "true".length ≤ 5 by decide) (by omega)
    · exact le_trans (show "false".length ≤ 5 by decide) (by omega)
  · have few := letter.attempts_le
    exact int letter.attempts (by omega) (by omega)
  · exact text _ (by rw [show letter.record.processorInstanceId = _ from letter.instance_eq]; omega)
  · exact letter.length_sourceHeaders.trans (by omega)
  · exact length_renderOptional
      (fun s mem => text s ((letter.key_short small s mem).trans (by omega))) (by omega)
  · exact int _ letter.offset_range.1 (letter.offset_range.2.trans (by decide))
  · exact int _ letter.partition_range.1 (letter.partition_range.2.trans (by decide))
  · exact length_renderOptional (fun t _ => instant t) (by omega)
  · exact text _ (by rw [show letter.record.sourceTopic = _ from letter.topic_eq]; omega)

theorem members_length (record : DlqEnvelope) (instant : Instant → String) :
    (record.members instant).length = 21 := rfl

/-- The value of the record. -/
theorem value_le {limit : Nat} (small : letter.copied ≤ limit) :
    letter.value.length ≤
      4 * (2 + 21 * (6 * 30 + (6 * width payload topic group instanceId limit + 2) + 4)) := by
  have bytes := (length_encode letter.encoded).2
  have text := length_renderObject (letter.members_short small)
  rw [members_length] at text
  exact bytes.trans (Nat.mul_le_mul_left 4 text)

theorem kafkaKey_le : letter.record.kafkaKey.length ≤ 4 * (topic.length + 40) := by
  unfold DlqEnvelope.kafkaKey
  split
  · rename_i eventId _
    have bytes := length_toUTF8 eventId.str
    rw [length_uuid] at bytes
    omega
  · refine (length_toUTF8 _).trans (Nat.mul_le_mul_left 4 ?_)
    have partition := length_toString_int letter.partition_range.1
      (letter.partition_range.2.trans (by decide))
    have offset := length_toString_int letter.offset_range.1
      (letter.offset_range.2.trans (by decide))
    simp only [String.length_append]
    rw [show letter.record.sourceTopic = topic from letter.topic_eq]
    change topic.length + 1 + (toString letter.message.partition).length + 1 +
      (toString letter.message.offset).length ≤ _
    omega

/-- The headers have names and values of their own. -/
theorem kafkaHeaders_le : ∀ h ∈ letter.record.kafkaHeaders,
    h.1.toUTF8.toList.length + h.2.toUTF8.toList.length ≤ 4 * (topic.length + 100) := by
  have short : ∀ name value : String, name.length ≤ 30 → value.length ≤ topic.length + 40 →
      name.toUTF8.toList.length + value.toUTF8.toList.length ≤ 4 * (topic.length + 100) := by
    intro name value named valued
    have first := length_toUTF8 name
    have second := length_toUTF8 value
    omega
  have uuid : ∀ u : UUID, u.str.length ≤ topic.length + 40 := by
    intro u
    rw [length_uuid]
    omega
  intro h mem
  rcases List.mem_append.mp mem with fixed | named
  · simp only [List.mem_cons, List.not_mem_nil, or_false] at fixed
    rcases fixed with rfl | rfl | rfl | rfl | rfl | rfl | rfl
    all_goals refine short _ _ (by dsimp only; decide) ?_
    · exact uuid _
    · exact (length_category _).trans (by omega)
    · exact le_trans (le_of_eq (congrArg String.length letter.topic_eq)) (by omega)
    · exact (length_toString_int letter.partition_range.1
        (letter.partition_range.2.trans (by decide))).trans (by omega)
    · exact (length_toString_int letter.offset_range.1
        (letter.offset_range.2.trans (by decide))).trans (by omega)
    · exact le_trans (show "application/json".length ≤ 16 by decide) (by omega)
    · exact le_trans (show (toString 1).length ≤ 1 by decide) (by omega)
  · split at named
    · rw [List.mem_singleton.mp named]
      exact short _ _ (by dsimp only; decide) (uuid _)
    · cases named

/-- What is copied whole bounds the record. -/
theorem size_le {limit : Nat} (small : letter.copied ≤ limit) :
    letter.size ≤ 4 * (2 + 21 * (6 * 30 + (6 * width payload topic group instanceId limit + 2) + 4)) +
      4 * (topic.length + 40) + 8 * (4 * (topic.length + 100)) := by
  have value := letter.value_le small
  have key := letter.kafkaKey_le
  have headers := sum_le letter.kafkaHeaders_le
  have eight : letter.record.kafkaHeaders.length ≤ 8 := by
    unfold DlqEnvelope.kafkaHeaders
    split <;> simp
  have total := headers.trans (Nat.mul_le_mul_right (4 * (topic.length + 100)) eight)
  unfold size
  omega

/-- A member is no longer than the record. -/
theorem member_le_size {m : String × Text}
    (mem : m ∈ letter.record.members letter.processor.renderInstant) : m.2.length ≤ letter.size := by
  have text := length_le_renderObject mem
  have bytes := (length_encode letter.encoded).1
  have whole : (renderObject (letter.record.members letter.processor.renderInstant)).length ≤
      letter.value.length := bytes
  unfold size
  omega

/-- The record is at least as long as each text that is copied whole. -/
theorem copied_le_size : letter.copied ≤ 3 * letter.size := by
  have key : (letter.message.key.getD []).length ≤ letter.size := by
    cases held : letter.message.key with
    | none => exact Nat.zero_le _
    | some key =>
      have member := @member_le_size _ _ _ _ letter
        ("source_key_base64", renderOptional (fun s => renderString (Text.ofString s))
          letter.record.sourceKeyBase64) (by simp [DlqEnvelope.members])
      have base64 : letter.record.sourceKeyBase64 = some (String.ofList (b64encode key)) := by
        rw [record, buildDlqEnvelope, held]
        rfl
      rw [base64] at member
      have rendered := (length_renderString (Text.ofString (String.ofList (b64encode key)))).1
      rw [length_ofString, String.length_ofList] at rendered
      exact ((length_b64encode key).1.trans rendered).trans member
  have hint : (letter.error.eventType.getD []).length ≤ letter.size := by
    cases held : letter.error.eventType with
    | none => exact Nat.zero_le _
    | some text =>
      have member := @member_le_size _ _ _ _ letter
        ("original_event_type", renderOptional renderString letter.record.originalEventType)
        (by simp [DlqEnvelope.members])
      rw [show letter.record.originalEventType = some text from held] at member
      exact (length_renderString text).1.trans member
  have tag : (letter.error.anomalyType.getD []).length ≤ letter.size := by
    cases held : letter.error.anomalyType with
    | none => exact Nat.zero_le _
    | some text =>
      have member := @member_le_size _ _ _ _ letter
        ("anomaly_type", renderOptional renderString letter.record.anomalyType)
        (by simp [DlqEnvelope.members])
      rw [show letter.record.anomalyType = some text from held] at member
      exact (length_renderString text).1.trans member
  unfold copied
  omega

end DeadLetter

/-- The sizes of dead-letter records have a bound for their settings and topic if and only
if the keys, the event types named by the bodies and the anomaly tags have one. -/
theorem dlq_records_bounded (payload : Nat) (topic group instanceId : String)
    (letters : Set (DeadLetter payload topic group instanceId)) :
    (∃ bound, ∀ letter ∈ letters, letter.size ≤ bound) ↔
      ∃ limit, ∀ letter ∈ letters, letter.copied ≤ limit := by
  constructor
  · rintro ⟨bound, within⟩
    refine ⟨3 * bound, fun letter mem => ?_⟩
    exact letter.copied_le_size.trans (Nat.mul_le_mul_left 3 (within letter mem))
  · rintro ⟨limit, within⟩
    exact ⟨_, fun letter mem => letter.size_le (within letter mem)⟩

/-- A message without a value, and with a key of `n` bytes. -/
def keyedMessage (n : Nat) : ConsumedMessage :=
  ⟨"t", 0, 0, none, some (List.replicate n 0), none, []⟩

theorem keyedMessage_letter (n : Nat) :
    ∃ letter : DeadLetter 65536 "t" "commerce-event-processor-v1" "p", letter.copied = n := by
  have invalid : plainProcessor.validator.validateMessage (keyedMessage n) =
      .ok (rejection .missingValue "Kafka value is required" {} none) := rfl
  obtain ⟨value, encoded⟩ := @canonicalBytes_ok
    (buildDlqEnvelope plainProcessor.rt plainProcessor.config plainProcessor.instanceId
      (keyedMessage n)
      { category := .missingValue, message := clip "Kafka value is required"
        errorType := "PermanentMessageError" } 1 0)
    plainProcessor.renderInstant (fun _ none_ => by cases none_) (fun _ none_ => by cases none_)
    (fun h mem => by cases mem)
  have zero : (0 : Int) ≤ 0 ∧ (0 : Int) < 2 ^ 31 := by decide
  have first : (0 : Int) ≤ 0 ∧ (0 : Int) < 2 ^ 63 := by decide
  have instant : "1970-01-01T00:00:00Z".length ≤ 32 := by decide
  refine ⟨⟨plainProcessor, keyedMessage n, _, 1, 0, value, rfl, rfl, rfl, rfl, zero, first,
    by decide, fun _ => instant, .rejected invalid, encoded⟩, ?_⟩
  simp [DeadLetter.copied, keyedMessage]

/-- No bound holds for all messages. -/
theorem not_dlq_records_bounded :
    ¬ ∃ bound, ∀ letter : DeadLetter 65536 "t" "commerce-event-processor-v1" "p",
      letter.size ≤ bound := by
  rintro ⟨bound, within⟩
  obtain ⟨letter, long⟩ := keyedMessage_letter (3 * bound + 1)
  have copied := letter.copied_le_size
  have small := within letter
  omega

end CommercePlatform.Processor
