import Mathlib.Algebra.Group.Nat.Defs
import Mathlib.Data.List.Basic
import Mathlib.Data.List.Induction
import Mathlib.Data.Fintype.Basic

/-!
Types shared by the services: UUIDs, instants, Kafka records (`models.py`) and the
processor's error taxonomy (`errors.py`).

A Python class hierarchy is an enumeration of its classes with the base class of
each; `ErrorClass.isInstance` walks it as `isinstance` and `except` do.
-/

namespace CommercePlatform

instance neZero_sixteen : @NeZero Nat Zero.ofOfNat0 16 := ⟨by decide⟩

/-- A UUID: the 32 hexadecimal digits of its integer. -/
structure UUID where
  hex : List (Fin 16)
  length_eq : hex.length = 32
  deriving DecidableEq

namespace UUID

/-- `UUID(int=n)`. -/
def ofNat (n : Nat) : UUID :=
  ⟨(List.range 32).map fun i => Fin.ofNat 16 (n / 16 ^ (31 - i)), by simp⟩

def hexDigit (d : Fin 16) : Char :=
  ['0', '1', '2', '3', '4', '5', '6', '7', '8', '9', 'a', 'b', 'c', 'd', 'e', 'f'].getD d.val '0'

theorem hexDigit_injective : Function.Injective hexDigit := by decide

theorem hexDigit_ne_dash (d : Fin 16) : hexDigit d ≠ '-' := by revert d; decide

/-- `str(event_id)`: the digits in groups of 8, 4, 4, 4 and 12. -/
def chars (u : UUID) : List Char :=
  let h := u.hex.map hexDigit
  h.take 8 ++ '-' :: ((h.drop 8).take 4 ++ '-' :: ((h.drop 12).take 4 ++
    '-' :: ((h.drop 16).take 4 ++ '-' :: h.drop 20)))

def str (u : UUID) : String := String.ofList u.chars

theorem filter_dash_hex (l : List (Fin 16)) :
    (l.map hexDigit).filter (· ≠ '-') = l.map hexDigit := by
  refine List.filter_eq_self.mpr ?_
  intro c mem
  obtain ⟨d, -, rfl⟩ := List.mem_map.mp mem
  simpa using hexDigit_ne_dash d

/-- Dropping the dashes gives the digits back. -/
theorem filter_dash_chars (u : UUID) : u.chars.filter (· ≠ '-') = u.hex.map hexDigit := by
  have cut : ∀ n m, (u.hex.drop n).take m ++ u.hex.drop (n + m) = u.hex.drop n := by
    intro n m
    rw [← List.drop_drop]
    exact List.take_append_drop m _
  have parts : u.hex.take 8 ++ ((u.hex.drop 8).take 4 ++ ((u.hex.drop 12).take 4 ++
      ((u.hex.drop 16).take 4 ++ u.hex.drop 20))) = u.hex := by
    rw [cut 16 4, cut 12 4, cut 8 4, List.take_append_drop]
  have dash : ∀ l : List Char, ('-' :: l).filter (· ≠ '-') = l.filter (· ≠ '-') := fun l => rfl
  simp only [chars, List.filter_append, dash, ← List.map_take, ← List.map_drop, filter_dash_hex]
  simp only [← List.map_append, parts]

theorem str_injective : Function.Injective str := by
  intro u v h
  have chars : u.chars = v.chars := String.ofList_injective h
  have digits := congrArg (List.filter (· ≠ '-')) chars
  rw [filter_dash_chars, filter_dash_chars] at digits
  have hex : u.hex = v.hex := hexDigit_injective.list_map digits
  cases u
  cases v
  simpa using hex

end UUID

/-- A timezone-aware instant, in microseconds since the epoch. -/
abbrev Instant := Int

/-- `KafkaHeaders`. -/
abbrev KafkaHeaders := List (String × Option (List UInt8))

/-- One record as the consumer hands it out. -/
structure ConsumedMessage where
  topic : String
  partition : Int
  offset : Int
  timestamp : Option Instant
  key : Option (List UInt8)
  value : Option (List UInt8)
  headers : KafkaHeaders
  deriving DecidableEq

/-! ### The error taxonomy -/

/-- The classes of `errors.py`. -/
inductive ErrorClass where
  | processorError
  | permanentMessageError
  | retryableProcessingError
  | permanentProcessingError
  | fatalInfrastructureError
  | retryableDatabaseError
  | missingBusinessDependencyError
  | permanentDatabaseIntegrityError
  | alreadyPersistedEvent
  | startupDatabaseError
  | fraudContextDependencyError
  | fraudRuleConfigurationError
  | fraudEvaluationIntegrityError
  | fraudOutboxRetryableError
  | fraudOutboxPermanentError
  deriving DecidableEq, Repr

namespace ErrorClass

/-- The base class, inside the taxonomy. -/
def base : ErrorClass → Option ErrorClass
  | processorError => none
  | permanentMessageError | retryableProcessingError | permanentProcessingError
  | fatalInfrastructureError | alreadyPersistedEvent => some processorError
  | retryableDatabaseError | missingBusinessDependencyError | fraudOutboxRetryableError =>
      some retryableProcessingError
  | permanentDatabaseIntegrityError | fraudEvaluationIntegrityError | fraudOutboxPermanentError =>
      some permanentProcessingError
  | startupDatabaseError | fraudRuleConfigurationError => some fatalInfrastructureError
  | fraudContextDependencyError => some missingBusinessDependencyError

/-- The class and its bases. The longest chain of the taxonomy has four members. -/
def mro (c : ErrorClass) : List ErrorClass :=
  let up (l : Option ErrorClass) := l.bind base
  [some c, c.base, up c.base, up (up c.base)].filterMap id

def isInstance (c target : ErrorClass) : Bool := decide (target ∈ c.mro)

end ErrorClass

/-- An instance of one of the classes, with its text. -/
structure ProcessorError where
  cls : ErrorClass
  message : String
  deriving DecidableEq

def ProcessorError.isInstance (e : ProcessorError) (target : ErrorClass) : Bool :=
  e.cls.isInstance target

/-- An exception, as far as some `except` clause of the services tells it apart. -/
inductive PyException where
  | processor (error : ProcessorError)
  | poolTimeout
  /-- A `psycopg.Error`, with its SQLSTATE if it has one. -/
  | psycopg (sqlstate : Option String)
  | overflowError
  | decimalOverflow
  | valueError
  | jsonDecodeError
  | unicodeDecodeError
  | unicodeEncodeError
  /-- pydantic's `ValidationError`. -/
  | validationError
  | recursionError
  | assertionError
  | kafkaException
  deriving DecidableEq

namespace PyException

def raised (cls : ErrorClass) (message : String) : PyException := .processor ⟨cls, message⟩

/-- `except target` catches the exception, for a class of the taxonomy. -/
def isInstance (e : PyException) (target : ErrorClass) : Bool :=
  match e with
  | .processor error => error.isInstance target
  | _ => false

theorem isInstance_processorError {e : PyException} {target : ErrorClass}
    (is : e.isInstance target = true) : e.isInstance .processorError = true := by
  have every : ∀ c : ErrorClass, c.isInstance .processorError = true := by
    intro c
    cases c <;> rfl
  cases e with
  | processor error => exact every error.cls
  | _ => cases is

/-- `except ValueError` catches the exception. -/
def isValueError : PyException → Bool
  | valueError | jsonDecodeError | unicodeDecodeError | unicodeEncodeError | validationError => true
  | _ => false

end PyException

/-! ### Instants -/

namespace Instant

/-- `datetime.min` and `datetime.max` in UTC. -/
def minimum : Instant := -62135596800000000

def maximum : Instant := 253402300799999999

/-- `instant - timedelta`, which leaves the years 1 to 9999 only by raising. -/
def subtract (instant : Instant) (microseconds : Int) : Except PyException Instant :=
  if minimum ≤ instant - microseconds ∧ instant - microseconds ≤ maximum then
    .ok (instant - microseconds)
  else .error .overflowError

/-- `int((later - earlier).total_seconds())`. -/
def secondsBetween (later earlier : Instant) : Int := (later - earlier).tdiv 1000000

end Instant

end CommercePlatform
