import Mathlib.Data.List.Sort
import Mathlib.Tactic.NormNum
import Mathlib.Tactic.Ring
import CommercePlatform.Contract.Events

/-!
The catalogue (`event_generator/generator.py`) and the personas
(`event_generator/personas`).

Probabilities are rationals: the builder only compares them, with one another and with
the draws of `random()`. Delays are in microseconds.
-/

namespace CommercePlatform.Contract.Decimal

/-! ### Decimal arithmetic

The operators on finite decimals whose results have at most 28 digits, which the default
context computes exactly. -/

/-- An amount in hundredths. -/
def cents (n : Nat) : Decimal := { coefficient := n, exponent := -2 }

def ofNat (n : Nat) : Decimal := { coefficient := n }

/-- `a * b`. -/
def mul (a b : Decimal) : Decimal :=
  { negative := a.negative != b.negative
    coefficient := a.coefficient * b.coefficient
    exponent := a.exponent + b.exponent }

/-- The coefficient with its sign, scaled to a smaller exponent. -/
def scaled (d : Decimal) (exponent : Int) : Int :=
  (if d.negative then -1 else 1) * (d.coefficient * 10 ^ (d.exponent - exponent).toNat : Nat)

/-- `a - b`. -/
def sub (a b : Decimal) : Decimal :=
  let exponent := min a.exponent b.exponent
  let difference := a.scaled exponent - b.scaled exponent
  { negative := decide (difference < 0), coefficient := difference.natAbs, exponent }

/-- `d / Decimal(2)`, up to the trailing zeros of the result. -/
def half (d : Decimal) : Decimal :=
  { d with coefficient := d.coefficient * 5, exponent := d.exponent - 1 }

/-- The quotient rounded to the nearest, ties to even. -/
def halfEven (n d : Nat) : Nat :=
  if 2 * (n % d) < d ∨ (2 * (n % d) = d ∧ n / d % 2 = 0) then n / d else n / d + 1

/-- `d.quantize(Decimal("0.01"))`. -/
def quantizeCents (d : Decimal) : Decimal :=
  { negative := d.negative
    coefficient :=
      if -2 ≤ d.exponent then d.coefficient * 10 ^ (d.exponent + 2).toNat
      else halfEven d.coefficient (10 ^ (-2 - d.exponent).toNat)
    exponent := -2 }

@[simp] theorem cents_mul_ofNat (a q : Nat) : (cents a).mul (ofNat q) = cents (a * q) := rfl

@[simp] theorem cents_value (n : Nat) : (cents n).value = n / 100 := by
  have shift : (10 : Rat) ^ (-2 : Int) = 1 / 100 := by norm_num
  simp only [value, cents, Bool.false_eq_true, if_false, shift]
  ring

theorem quantizeCents_mul_cents (a r : Nat) :
    ((cents a).mul (cents r)).quantizeCents = cents (halfEven (a * r) 100) := rfl

theorem quantizeCents_mul_ofNat (a r : Nat) :
    ((cents a).mul (ofNat r)).quantizeCents = cents (a * r) := by
  show ({ coefficient := a * r * 10 ^ 0, exponent := -2 } : Decimal) = cents (a * r)
  rw [pow_zero, Nat.mul_one]
  rfl

theorem quantizeCents_half (a : Nat) : (cents a).half.quantizeCents = cents (halfEven (a * 5) 10) :=
  rfl

theorem cents_sub {a b : Nat} (le : b ≤ a) : (cents a).sub (cents b) = cents (a - b) := by
  have difference : (cents a).scaled (-2) - (cents b).scaled (-2) = ((a - b : Nat) : Int) := by
    simp only [scaled, cents, Bool.false_eq_true, if_false, Int.sub_self, Int.toNat_zero, pow_zero]
    omega
  show ({ negative := _, coefficient := _, exponent := -2 } : Decimal) = _
  rw [show min (cents a).exponent (cents b).exponent = -2 from rfl, difference]
  simp [cents]

theorem div_le_halfEven (n d : Nat) : n / d ≤ halfEven n d := by
  unfold halfEven
  split <;> omega

theorem halfEven_le (n d : Nat) : halfEven n d ≤ n / d + 1 := by
  unfold halfEven
  split <;> omega

end CommercePlatform.Contract.Decimal

namespace CommercePlatform.Generator

open Contract

/-! ### generator.py -/

structure Product where
  productId : UUID
  category : String
  price : Decimal
  currency : Currency
  availableQuantity : Nat
  deriving DecidableEq

/-- `PRODUCT_CATALOGUE`. -/
def productCatalogue : List Product :=
  [{ productId := .ofNat 0x10000000000040008000000000000001
     category := "electronics", price := .cents 129990, currency := .try_, availableQuantity := 20 },
   { productId := .ofNat 0x10000000000040008000000000000002
     category := "books", price := .cents 24950, currency := .try_, availableQuantity := 50 },
   { productId := .ofNat 0x10000000000040008000000000000003
     category := "home", price := .cents 79900, currency := .try_, availableQuantity := 12 },
   { productId := .ofNat 0x10000000000040008000000000000004
     category := "apparel", price := .cents 44990, currency := .try_, availableQuantity := 35 }]

/-! ### personas/base.py -/

structure PersonaProfile where
  persona : CustomerPersona
  minViews : Nat
  maxViews : Nat
  addProbability : Rat
  checkoutProbability : Rat
  paymentSuccessProbability : Rat
  refundProbability : Rat
  discountProbability : Rat
  discountRate : Decimal
  actionDelay : Int
  returnDelay : Int
  deviceChangeProbability : Rat := 0
  countryChangeProbability : Rat := 0
  retryProbability : Rat := 0
  highValue : Bool := false
  repeatViews : Bool := false
  reuseAbandonedCart : Bool := false

/-- How `rank_products` orders the catalogue. -/
inductive Ranking where
  | catalogue
  | cheapestFirst
  | dearestFirst
  deriving DecidableEq, Repr

structure PersonaStrategy where
  profile : PersonaProfile
  ranking : Ranking := .catalogue

/-- `rank_products`; both sorts are stable. -/
def PersonaStrategy.rankProducts (strategy : PersonaStrategy) (products : List Product) :
    List Product :=
  match strategy.ranking with
  | .catalogue => products
  | .cheapestFirst => products.insertionSort fun a b => a.price.value ≤ b.price.value
  | .dearestFirst => products.insertionSort fun a b => b.price.value ≤ a.price.value

/-! ### The strategies -/

def milliseconds (n : Int) : Int := n * 1000

def seconds (n : Int) : Int := milliseconds (n * 1000)

def minutes (n : Int) : Int := seconds (n * 60)

def hours (n : Int) : Int := minutes (n * 60)

def days (n : Int) : Int := hours (n * 24)

def normalStrategy : PersonaStrategy where
  profile :=
    { persona := .normal
      minViews := 1
      maxViews := 3
      addProbability := 0.60
      checkoutProbability := 0.78
      paymentSuccessProbability := 0.92
      refundProbability := 0.03
      discountProbability := 0.25
      discountRate := .cents 5
      actionDelay := seconds 30
      returnDelay := hours 6 }

def indecisiveStrategy : PersonaStrategy where
  profile :=
    { persona := .indecisive
      minViews := 4
      maxViews := 8
      addProbability := 0.62
      checkoutProbability := 0.32
      paymentSuccessProbability := 0.88
      refundProbability := 0.06
      discountProbability := 0.25
      discountRate := .cents 8
      actionDelay := minutes 12
      returnDelay := days 1
      repeatViews := true
      reuseAbandonedCart := true }

def discountHunterStrategy : PersonaStrategy where
  profile :=
    { persona := .discountHunter
      minViews := 2
      maxViews := 5
      addProbability := 0.82
      checkoutProbability := 0.72
      paymentSuccessProbability := 0.90
      refundProbability := 0.10
      discountProbability := 0.75
      discountRate := .cents 20
      actionDelay := minutes 3
      returnDelay := hours 18
      reuseAbandonedCart := true }
  ranking := .cheapestFirst

def suspiciousStrategy : PersonaStrategy where
  profile :=
    { persona := .suspicious
      minViews := 1
      maxViews := 3
      addProbability := 0.92
      checkoutProbability := 0.94
      paymentSuccessProbability := 0.45
      refundProbability := 0.28
      discountProbability := 0.10
      discountRate := .cents 5
      actionDelay := seconds 2
      returnDelay := minutes 5
      deviceChangeProbability := 0.75
      countryChangeProbability := 0.45
      retryProbability := 0.80
      highValue := true }
  ranking := .dearestFirst

def botStrategy : PersonaStrategy where
  profile :=
    { persona := .bot
      minViews := 8
      maxViews := 20
      addProbability := 0.03
      checkoutProbability := 0.05
      paymentSuccessProbability := 0.50
      refundProbability := 0
      discountProbability := 0
      discountRate := .ofNat 0
      actionDelay := milliseconds 50
      returnDelay := seconds 5
      repeatViews := true }

def accountTakeoverStrategy : PersonaStrategy where
  profile :=
    { persona := .accountTakeover
      minViews := 1
      maxViews := 2
      addProbability := 1
      checkoutProbability := 1
      paymentSuccessProbability := 0.55
      refundProbability := 0.20
      discountProbability := 0
      discountRate := .ofNat 0
      actionDelay := milliseconds 500
      returnDelay := minutes 1
      deviceChangeProbability := 1
      countryChangeProbability := 1
      retryProbability := 0.90
      highValue := true }
  ranking := .dearestFirst

/-- `strategy_for`: the entries of `PERSONA_REGISTRY`. -/
def strategyFor : CustomerPersona → PersonaStrategy
  | .normal => normalStrategy
  | .indecisive => indecisiveStrategy
  | .discountHunter => discountHunterStrategy
  | .suspicious => suspiciousStrategy
  | .bot => botStrategy
  | .accountTakeover => accountTakeoverStrategy

/-- Ranking only changes the order. -/
theorem mem_rankProducts {strategy : PersonaStrategy} {products : List Product} {product : Product} :
    product ∈ strategy.rankProducts products ↔ product ∈ products := by
  unfold PersonaStrategy.rankProducts
  split
  · rfl
  · exact List.mem_insertionSort _
  · exact List.mem_insertionSort _

end CommercePlatform.Generator
