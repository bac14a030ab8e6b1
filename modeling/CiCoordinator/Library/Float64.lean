import Mathlib.Data.Rat.Defs
import Mathlib.Algebra.Order.Ring.Rat
import CiCoordinator.Library.Decimal

/- Binary64 numbers, correct rounding to them and their shortest decimal notation. -/

namespace CiCoordinator.Library

/-- A significand has 53 bits, or fewer at the least exponent. -/
def NormalSignificand (significand : Nat) (exponent : Int) : Prop :=
  (2 ^ 52 ≤ significand ∧ significand < 2 ^ 53 ∧ -1074 ≤ exponent ∧ exponent ≤ 971) ∨
    (significand < 2 ^ 52 ∧ exponent = -1074)

instance (significand : Nat) (exponent : Int) : Decidable (NormalSignificand significand exponent) :=
  inferInstanceAs (Decidable (_ ∨ _))

/-- A finite number is a sign, a significand and a binary exponent in their one normal form. -/
structure FiniteFloat where
  negative : Bool
  significand : Nat
  exponent : Int
  normal : NormalSignificand significand exponent
  deriving DecidableEq

/-- A binary64 number is finite, infinite or not a number. -/
inductive Float64 where
  | nan
  | infinity (negative : Bool)
  | finite (number : FiniteFloat)
  deriving DecidableEq

/-- The quotient of two naturals, with ties rounded to the even one. -/
def divideRoundEven (numerator denominator : Nat) : Nat :=
  let quotient := numerator / denominator
  let remainder := numerator % denominator
  if 2 * remainder < denominator then quotient
  else if denominator < 2 * remainder then quotient + 1
  else quotient + quotient % 2

/-- The exponent of the power of two just below a positive ratio. -/
def binaryExponent (numerator denominator : Nat) : Int :=
  let guess : Int := Nat.log2 numerator - Nat.log2 denominator
  if denominator * 2 ^ guess.toNat ≤ numerator * 2 ^ (-guess).toNat then guess else guess - 1

/-- The exponent of the power of ten just below a positive ratio. -/
def decimalExponent (numerator denominator : Nat) : Int :=
  let guess : Int := (decimal numerator).length - (decimal denominator).length
  if denominator * 10 ^ guess.toNat ≤ numerator * 10 ^ (-guess).toNat then guess else guess - 1

namespace Float64

/-- A significand and exponent beyond the largest exponent is an overflow. -/
def ofParts (negative : Bool) (significand : Nat) (exponent : Int) : Float64 :=
  if normal : NormalSignificand significand exponent then .finite ⟨negative, significand, exponent, normal⟩
  else .infinity negative

/-- The binary64 number nearest to a ratio, with ties to the even significand. -/
def round (negative : Bool) (numerator denominator : Nat) : Float64 :=
  if numerator = 0 then ofParts negative 0 (-1074)
  else
    let exponent := max (-1074) (binaryExponent numerator denominator - 52)
    let significand := divideRoundEven (numerator * 2 ^ (-exponent).toNat) (denominator * 2 ^ exponent.toNat)
    if significand = 2 ^ 53 then ofParts negative (2 ^ 52) (exponent + 1)
    else ofParts negative significand exponent

/-- The binary64 number nearest to a decimal with an exponent of ten. -/
def roundDecimal (negative : Bool) (digits : Nat) (exponent : Int) : Float64 :=
  round negative (digits * 10 ^ exponent.toNat) (10 ^ (-exponent).toNat)

/-- The binary64 number nearest to an integer. -/
def ofInt (number : Int) : Float64 :=
  round (number < 0) number.natAbs 1

end Float64

namespace FiniteFloat

/-- The numerator of a magnitude. -/
def numerator (number : FiniteFloat) : Nat :=
  number.significand * 2 ^ number.exponent.toNat

/-- The denominator of a magnitude. -/
def denominator (number : FiniteFloat) : Nat :=
  2 ^ (-number.exponent).toNat

/-- The rational number that a finite number stands for. -/
def value (number : FiniteFloat) : ℚ :=
  mkRat (if number.negative then -number.numerator else number.numerator) number.denominator

/-- A decimal with an exponent of ten reads back as a magnitude. -/
def readsBack (number : FiniteFloat) (digits : Nat) (exponent : Int) : Bool :=
  Float64.roundDecimal number.negative digits exponent = .finite number

/-- The decimals of a precision around a magnitude, the nearer one first. -/
def decimalsAround (number : FiniteFloat) (precision : Nat) : List (Nat × Int) :=
  let exponent := decimalExponent number.numerator number.denominator - precision + 1
  let scaled := number.numerator * 10 ^ (-exponent).toNat
  let unit := number.denominator * 10 ^ exponent.toNat
  let below := scaled / unit
  if divideRoundEven scaled unit = below then [(below, exponent), (below + 1, exponent)]
  else [(below + 1, exponent), (below, exponent)]

/-- The exact decimal of a magnitude. -/
def exactDecimal (number : FiniteFloat) : Nat × Int :=
  if 0 ≤ number.exponent then (number.numerator, 0)
  else (number.significand * 5 ^ (-number.exponent).toNat, number.exponent)

/-- The first precision at which a nearby decimal reads back, searched from below. -/
def searchDecimal (number : FiniteFloat) : Nat → Nat → Nat × Int
  | 0, _ => number.exactDecimal
  | fuel + 1, precision =>
    match (number.decimalsAround precision).find? fun decimal => number.readsBack decimal.1 decimal.2 with
    | some decimal => decimal
    | none => searchDecimal number fuel (precision + 1)

/-- A decimal without trailing zeros among its digits. -/
def trimZeros : Nat → Nat × Int → Nat × Int
  | 0, decimal => decimal
  | fuel + 1, (digits, exponent) =>
    if digits % 10 = 0 ∧ digits ≠ 0 then trimZeros fuel (digits / 10, exponent + 1) else (digits, exponent)

/-- The shortest decimal that reads back as the number. -/
def shortestDecimal (number : FiniteFloat) : Nat × Int :=
  let found := number.searchDecimal 17 1
  trimZeros (Nat.log2 found.1 + 1) found

end FiniteFloat

namespace Float64

/-- Finite numbers are neither infinite nor undefined. -/
def isFinite : Float64 → Bool
  | .finite _ => true
  | _ => false

/-- The order of the extended rationals, in which an undefined number takes no part. -/
def le : Float64 → Float64 → Bool
  | .nan, _ => false
  | _, .nan => false
  | .infinity true, _ => true
  | _, .infinity false => true
  | .infinity false, _ => false
  | _, .infinity true => false
  | .finite left, .finite right => left.value ≤ right.value

/-- The strict order of the extended rationals. -/
def lt (left right : Float64) : Bool :=
  left.le right && !right.le left

/-- Numeric equality identifies the two zeros. -/
def numericEq (left right : Float64) : Bool :=
  left.le right && right.le left

end Float64

end CiCoordinator.Library
