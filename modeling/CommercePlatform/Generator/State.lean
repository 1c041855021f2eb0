import CommercePlatform.Generator.Config
import CommercePlatform.Generator.Personas
import CommercePlatform.Lib.Dict
import CommercePlatform.Lib.Stateful

/-!
The primitives of the generator (`event_generator/generator.py`) and the customer pool
(`event_generator/state.py`).

What a generator draws comes from a `Source`: the results of the calls on its
`random.Random` and on its UUID factory, and the readings of its clock, each in the order
of the calls. A draw of the RNG has a result for each way it can be read; `random()` takes
the number and `randint`, `choice` and the like the index.
-/

namespace CommercePlatform.Generator

open Contract

/-! ### What is drawn -/

structure Source where
  random : Nat → Rat
  pick : Nat → Nat
  uuids : Nat → UUID
  clock : Nat → Instant

inductive GeneratorError where
  | valueError (message : String)
  | indexError
  | overflowError
  deriving DecidableEq, Repr

/-! ### state.py: customers -/

structure AbandonedCart where
  cartId : UUID
  productId : UUID
  deriving DecidableEq

structure CustomerState where
  customerId : UUID
  persona : CustomerPersona
  registrationTimestamp : Instant
  knownDeviceIds : List UUID
  knownIpAddresses : List IpAddress
  homeCountry : String
  preferredCurrency : Currency
  previousSessionIds : List UUID := []
  previousOrderIds : List UUID := []
  previousPaymentIds : List UUID := []
  totalJourneys : Nat := 0
  totalProductViews : Nat := 0
  totalCartAdditions : Nat := 0
  totalCheckouts : Nat := 0
  successfulPayments : Nat := 0
  failedPayments : Nat := 0
  refunds : Nat := 0
  accumulatedSpend : Rat := 0
  lastActivityTimestamp : Option Instant := none
  lastViewedProducts : List UUID := []
  abandonedCart : Option AbandonedCart := none
  priorNormalHistory : Bool := false

/-- A builder between two calls: how much it has drawn, its customers and its clock. -/
structure World where
  draws : Nat := 0
  drawnUuids : Nat := 0
  readings : Nat := 0
  customers : Dict UUID CustomerState := ∅
  cursor : Instant := 0
  seedingTakeover : Bool := false

/-- An exception, and the builder as it was when it was raised. -/
structure Raised where
  error : GeneratorError
  world : World

/-- Code of the generator. -/
abbrev Gen := StateT World (Except Raised)

/-- `raise`. The generator catches nothing. -/
def raiseError {α : Type} (error : GeneratorError) : Gen α := do
  let world ← get
  throw { error, world }

/-! ### generator.py -/

section

variable {α : Type} (source : Source)

/-- The index of a draw of the RNG. -/
def draw : Gen Nat := do
  let world ← get
  modify fun w => { w with draws := w.draws + 1 }
  return world.draws

/-- `uuids.new()`. -/
def newUuid : Gen UUID := do
  let world ← get
  modify fun w => { w with drawnUuids := w.drawnUuids + 1 }
  return source.uuids world.drawnUuids

def chance (probability : Rat) : Gen Bool := do
  let i ← draw
  return decide (source.random i < probability)

/-- `random.randint`. -/
def randint (low high : Nat) : Gen Nat :=
  if high < low then raiseError (.valueError "empty range in randrange")
  else do
    let i ← draw
    return low + source.pick i % (high - low + 1)

/-- `random.choice`. -/
def choice (population : List α) : Gen α := do
  let i ← draw
  match population[source.pick i % population.length]? with
  | some a => return a
  | none => raiseError .indexError

/-- The last entry, or the first whose cumulative weight is above `x`. -/
def bisect (x : Rat) : List (α × Rat) → Rat → Option α
  | [], _ => none
  | [entry], _ => some entry.1
  | entry :: rest, below =>
    if x < below + entry.2 then some entry.1 else bisect x rest (below + entry.2)

/-- The weights, when all are numbers. -/
def finiteWeights (weights : List (α × PyFloat)) : Option (List (α × Rat)) :=
  weights.mapM fun entry =>
    match entry.2 with
    | .finite value => some (entry.1, value)
    | _ => none

/-- `random.choices(.., k=1)[0]`. -/
def choices (weights : List (α × PyFloat)) : Gen α :=
  match finiteWeights weights with
  | none => raiseError (.valueError "Total of weights must be finite")
  | some weights => do
    let total := (weights.map Prod.snd).sum
    if total ≤ 0 then raiseError (.valueError "Total of weights must be greater than zero")
    else
      let i ← draw
      match bisect (source.random i * total) weights 0 with
      | some a => return a
      | none => raiseError .indexError

def quantity (product : Product) : Gen Nat := randint source 1 (min product.availableQuantity 3)

def paymentMethod : Gen PaymentMethod :=
  choice source [.creditCard, .debitCard, .bankTransfer, .digitalWallet]

def paymentFailureReason : Gen PaymentFailureReason :=
  choice source [.insufficientFunds, .declined, .expiredCard, .invalidDetails, .processorError,
    .fraudSuspected]

def deviceType : Gen DeviceType := choice source [.desktop, .mobile, .tablet]

theorem toString_plain (n : Nat) : '/' ∉ (toString n).toList := by
  intro mem
  rw [show toString n = n.repr from rfl, Nat.toList_repr] at mem
  exact absurd (Nat.isDigit_of_mem_toDigits (by decide) (by decide) mem) (by decide)

/-- An address of the documentation network. -/
def hostAddress (host : Nat) : IpAddress where
  text := "198.51.100." ++ toString host
  plain := by
    rw [String.toList_append, List.mem_append]
    rintro (network | digits)
    · exact absurd network (by decide)
    · exact toString_plain host digits

def ipAddress : Gen IpAddress := do
  let host ← randint source 1 254
  return hostAddress host

def emailHash (rt : Runtime) (customerId : UUID) : String := rt.sha256Hex customerId.str

/-! ### journey.py: the clock -/

/-- `_aware_now`. -/
def awareNow : Gen Instant := do
  let world ← get
  modify fun w => { w with readings := w.readings + 1 }
  return source.clock world.readings

/-- `instant + delay`. -/
def later (instant : Instant) (delay : Int) : Gen Instant :=
  if Instant.minimum ≤ instant + delay ∧ instant + delay ≤ Instant.maximum then
    return instant + delay
  else raiseError .overflowError

/-- `_next_timestamp`. -/
def nextTimestamp (delay : Int) : Gen Instant := do
  let world ← get
  let cursor ← later world.cursor delay
  modify fun w => { w with cursor }
  return cursor

end

/-! ### state.py: the pool -/

section

variable (source : Source) (maximumSize : Nat)

/-- `create`. -/
def createCustomer (persona : CustomerPersona) (timestamp : Instant) : Gen CustomerState := do
  let world ← get
  if maximumSize ≤ world.customers.entries.length then
    raiseError (.valueError "customer pool is full")
  else
    let customerId ← newUuid source
    let deviceId ← newUuid source
    let address ← ipAddress source
    return {
      customerId, persona
      registrationTimestamp := timestamp
      knownDeviceIds := [deviceId]
      knownIpAddresses := [address]
      homeCountry := "TR"
      preferredCurrency := .try_ }

/-- `random.choice(candidates)`, or nothing to choose from. -/
def candidate (p : CustomerState → Bool) : Gen (Option CustomerState) := do
  let world ← get
  let candidates := world.customers.values.filter p
  if candidates = [] then return none
  else
    let customer ← choice source candidates
    return some customer

/-- `returning`. -/
def returningCustomer (persona : CustomerPersona) : Gen (Option CustomerState) :=
  candidate source fun customer => customer.persona = persona

/-- `takeover_candidate`. -/
def takeoverCandidate : Gen (Option CustomerState) := do
  let customer ← candidate source fun customer => customer.priorNormalHistory
  return customer.map fun c => { c with persona := .accountTakeover }

/-- The activity of a customer would move backwards. -/
def movesBackwards (current customer : CustomerState) : Bool :=
  match current.lastActivityTimestamp, customer.lastActivityTimestamp with
  | some before, some after => after < before
  | _, _ => false

/-- `commit`. -/
def commitCustomer (customer : CustomerState) : Gen Unit := do
  let world ← get
  let current := world.customers.get? customer.customerId
  if current.isNone ∧ maximumSize ≤ world.customers.entries.length then
    raiseError (.valueError "customer pool is full")
  else if current.any fun c => movesBackwards c customer then
    raiseError (.valueError "customer activity cannot move backwards")
  else modify fun w => { w with customers := w.customers.set customer.customerId customer }

end

end CommercePlatform.Generator
