import CommercePlatform.Lib.Dict
import CommercePlatform.Models

/-!
The Redis idempotency store (`idempotency.py`).

The three Lua scripts are functions of the keyspace; each of them is atomic. A
stored value is the JSON object the store writes, as a record, with the expiry
that `SET .. EX` gives it. `Link` says what became of a call on the wire: the
script may have run although its reply was lost.

`Op` adds expiry and eviction, at any time and of any key, to the calls of an
unbounded number of workers; `Workers.after` runs a list of them. Every step is
enabled in every state, so a run is a plain fold.
-/

namespace CommercePlatform.Idempotency

/-- The settings the store reads. -/
structure Config where
  consumerGroup : String
  keyPrefix : String
  processingTtlSeconds : Nat
  completedTtlSeconds : Nat

/-- The JSON object stored under a key; its `status` is the constructor. -/
inductive Value where
  | processing (token consumerGroup topic : String) (partition offset : Int) (firstSeenAt : Instant)
  | completed (consumerGroup : String) (completedAt : Instant)
  deriving DecidableEq

/-- A value with its time to live. -/
structure Slot where
  value : Value
  ex : Nat
  deriving DecidableEq

/-- The keyspace. -/
abbrev Store := Dict String Slot

inductive ReservationState where
  | reserved
  | completed
  | processing
  deriving DecidableEq, Repr

structure Reservation where
  state : ReservationState
  token : Option String
  existing : Option Value := none
  deriving DecidableEq

/-- The entry is a processing entry written with this token: what `COMPLETE_SCRIPT`
and `RELEASE_SCRIPT` check. -/
def Slot.heldBy (token : String) (slot : Slot) : Bool :=
  match slot.value with
  | .processing t .. => t = token
  | .completed .. => false

/-! ### The scripts -/

/-- `RESERVE_SCRIPT`. -/
def reserveScript (s : Store) (key : String) (value : Value) (ttl : Nat) :
    Store × ReservationState × Value :=
  match s.get? key with
  | none => (s.set key ⟨value, ttl⟩, .reserved, value)
  | some current =>
    match current.value with
    | .completed .. => (s, .completed, current.value)
    | .processing .. => (s, .processing, current.value)

/-- `COMPLETE_SCRIPT`. -/
def completeScript (s : Store) (key token : String) (value : Value) (ttl : Nat) : Store × Bool :=
  match s.get? key with
  | none => (s, false)
  | some current => if current.heldBy token then (s.set key ⟨value, ttl⟩, true) else (s, false)

/-- `RELEASE_SCRIPT`. -/
def releaseScript (s : Store) (key token : String) : Store × Bool :=
  match s.get? key with
  | none => (s, false)
  | some current => if current.heldBy token then (s.erase key, true) else (s, false)

/-! ### The store's methods -/

/-- What becomes of one call: answered, executed without its reply arriving, or
never executed. The last two raise `RedisError` in the client. -/
inductive Link where
  | answered
  | replyLost
  | unreached
  deriving DecidableEq, Repr

/-- Run a script over the link; a `RedisError` becomes `RetryableProcessingError`. -/
def Link.eval {α : Type} (link : Link) (failure : String) (s : Store) (ran : Store × α) :
    Store × Except ProcessorError α :=
  match link with
  | .answered => (ran.1, .ok ran.2)
  | .replyLost => (ran.1, .error ⟨.retryableProcessingError, failure⟩)
  | .unreached => (s, .error ⟨.retryableProcessingError, failure⟩)

namespace Config

variable (config : Config)

def keyFor (eventId : UUID) : String := config.keyPrefix ++ ":" ++ eventId.str

/-- The value `reserve` writes. -/
def processingSlot (token : String) (message : ConsumedMessage) (firstSeenAt : Instant) : Slot :=
  ⟨.processing token config.consumerGroup message.topic message.partition message.offset
    firstSeenAt, config.processingTtlSeconds⟩

/-- The value `complete` writes. -/
def completedSlot (completedAt : Instant) : Slot :=
  ⟨.completed config.consumerGroup completedAt, config.completedTtlSeconds⟩

def reserve (link : Link) (s : Store) (eventId : UUID) (token : String)
    (message : ConsumedMessage) (firstSeenAt : Instant) : Store × Except ProcessorError Reservation :=
  let slot := config.processingSlot token message firstSeenAt
  let (s', raw) := link.eval "Redis reservation failed" s
    (reserveScript s (config.keyFor eventId) slot.value slot.ex)
  (s', raw.map fun (state, current) =>
    { state
      token := if state = .reserved then some token else none
      existing := if state = .reserved then none else some current })

def complete (link : Link) (s : Store) (eventId : UUID) (token : String) (completedAt : Instant) :
    Store × Except ProcessorError Bool :=
  let slot := config.completedSlot completedAt
  link.eval "Redis completion failed" s
    (completeScript s (config.keyFor eventId) token slot.value slot.ex)

def release (link : Link) (s : Store) (eventId : UUID) (token : String) :
    Store × Except ProcessorError Bool :=
  link.eval "Redis release failed" s (releaseScript s (config.keyFor eventId) token)

end Config

/-! ### Calls of many workers -/

/-- One atomic step on the keyspace. Each worker has its own token and may belong
to its own consumer group; all of them share the key prefix. -/
inductive Op (ω : Type) where
  | reserve (worker : ω) (link : Link) (eventId : UUID) (message : ConsumedMessage) (now : Instant)
  | complete (worker : ω) (link : Link) (eventId : UUID) (now : Instant)
  | release (worker : ω) (link : Link) (eventId : UUID)
  /-- Expiry or eviction of a key. -/
  | expire (key : String)

/-- The workers: their tokens, and their stores' settings under one key prefix. -/
structure Workers (ω : Type) where
  token : ω → String
  config : ω → Config
  keyPrefix : String
  shared : ∀ w, (config w).keyPrefix = keyPrefix

namespace Workers

variable {ω : Type} (ws : Workers ω)

def keyFor (eventId : UUID) : String := ws.keyPrefix ++ ":" ++ eventId.str

/-- The key does not depend on the worker's consumer group. -/
@[simp] theorem config_keyFor (w : ω) (eventId : UUID) :
    (ws.config w).keyFor eventId = ws.keyFor eventId := by
  rw [Config.keyFor, ws.shared]; rfl

theorem keyFor_ne {e e' : UUID} (h : e ≠ e') : ws.keyFor e ≠ ws.keyFor e' := by
  intro eq
  have := congrArg String.toList eq
  exact h (UUID.str_injective (String.ext (by simpa [keyFor] using this)))

/-- The keyspace after one step. -/
def next (s : Store) : Op ω → Store
  | .reserve w link e message now => ((ws.config w).reserve link s e (ws.token w) message now).1
  | .complete w link e now => ((ws.config w).complete link s e (ws.token w) now).1
  | .release w link e => ((ws.config w).release link s e (ws.token w)).1
  | .expire key => s.erase key

/-- The keyspace after a list of steps: any interleaving of calls and expiries. -/
def after (s : Store) (ops : List (Op ω)) : Store := ops.foldl ws.next s

@[simp] theorem after_nil (s : Store) : ws.after s [] = s := rfl

@[simp] theorem after_cons (s : Store) (op : Op ω) (ops : List (Op ω)) :
    ws.after s (op :: ops) = ws.after (ws.next s op) ops := rfl

theorem after_append (s : Store) (ops ops' : List (Op ω)) :
    ws.after s (ops ++ ops') = ws.after (ws.after s ops) ops' := by
  simp [after]

end Workers

end CommercePlatform.Idempotency
