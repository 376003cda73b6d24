/-!
Double-precision numbers as 64-bit words, with exact meaning. A finite word stands for
`significand * 2 ^ exponent` with a sign; words are compared by their rank, which is an integer, so
that the order of numbers is the order of integers. Rounding goes through an exact quotient of
natural numbers. No machine arithmetic takes part.
-/

namespace IntentRollout

/-- A double-precision number: one bit of sign, eleven of exponent, fifty-two of fraction. -/
structure Binary64 where
  bits : UInt64
  deriving DecidableEq, Inhabited

namespace Binary64

/-- How many fractions there are. -/
def fractions : Nat := Nat.pow 2 52

def signWeight : Nat := Nat.pow 2 63

/-- The magnitude of the infinities; greater magnitudes are no numbers. -/
def infiniteMagnitude : Nat := 2047 * fractions

/-- The word without its sign. -/
def magnitude (number : Binary64) : Nat := number.bits.toNat % signWeight

def negative (number : Binary64) : Bool := decide (signWeight ≤ number.bits.toNat)

def isNaN (number : Binary64) : Bool := decide (infiniteMagnitude < number.magnitude)

def isFinite (number : Binary64) : Bool := decide (number.magnitude < infiniteMagnitude)

def isZero (number : Binary64) : Bool := decide (number.magnitude = 0)

/-- The word with a sign and a magnitude. -/
def ofMagnitude (negative : Bool) (magnitude : Nat) : Binary64 :=
  ⟨UInt64.ofNat (if negative then signWeight + magnitude else magnitude)⟩

def zero (negative : Bool) : Binary64 := ofMagnitude negative 0

def infinite (negative : Bool) : Binary64 := ofMagnitude negative infiniteMagnitude

def notANumber (negative : Bool) : Binary64 :=
  ofMagnitude negative (infiniteMagnitude + fractions / 2)

def neg (number : Binary64) : Binary64 := ofMagnitude (!number.negative) number.magnitude

/-- Place in the order of numbers; the two zeros share one place. -/
def rank (number : Binary64) : Int :=
  if number.negative then -(number.magnitude : Int) else number.magnitude

def le (first second : Binary64) : Bool :=
  !first.isNaN && !second.isNaN && decide (first.rank ≤ second.rank)

def lt (first second : Binary64) : Bool :=
  !first.isNaN && !second.isNaN && decide (first.rank < second.rank)

/-- Equality of values: the zeros are equal, and what is no number differs from all. -/
def same (first second : Binary64) : Bool :=
  !first.isNaN && !second.isNaN && decide (first.rank = second.rank)

def significand (number : Binary64) : Nat :=
  let fraction := number.magnitude % fractions
  if number.magnitude < fractions then fraction else fractions + fraction

/-- The power of two of a finite word. -/
def exponent (number : Binary64) : Int :=
  (max (number.magnitude / fractions) 1 : Nat) - 1075

/-- The magnitude of a finite word as numerator and denominator. -/
def ratio (number : Binary64) : Nat × Nat :=
  (number.significand * Nat.pow 2 number.exponent.toNat, Nat.pow 2 (-number.exponent).toNat)

/-- The quotient rounded to the nearest natural number, a half to the even one. -/
def roundedQuotient (numerator denominator : Nat) : Nat :=
  let quotient := numerator / denominator
  let twice := 2 * (numerator % denominator)
  if denominator < twice ∨ (twice = denominator ∧ quotient % 2 = 1) then quotient + 1 else quotient

/-- Power of two of the last place that a quotient keeps: fifty-three binary places, fewer near zero. -/
def lastPlace (numerator denominator : Nat) : Int :=
  let guess : Int := (numerator.log2 : Int) - denominator.log2 - 53
  let reached := denominator * Nat.pow 2 (guess + 53).toNat ≤
    numerator * Nat.pow 2 (-(guess + 53)).toNat
  max (if reached then guess + 1 else guess) (-1074)

/-- The number nearest to a quotient, of two the one with an even significand; a quotient beyond
the largest finite number becomes infinite. -/
def ofRatio (negative : Bool) (numerator denominator : Nat) : Binary64 :=
  if numerator = 0 then zero negative
  else
    let place := lastPlace numerator denominator
    let significand := roundedQuotient (numerator * Nat.pow 2 (-place).toNat)
      (denominator * Nat.pow 2 place.toNat)
    let magnitude := (place + 1074).toNat * fractions + significand
    ofMagnitude negative (min magnitude infiniteMagnitude)

def ofNat (value : Nat) : Binary64 := ofRatio false value 1

def ofInt (value : Int) : Binary64 := ofRatio (decide (value < 0)) value.natAbs 1

/-- The number nearest to `coefficient * 10 ^ power`. Powers far outside the range of numbers are
answered without being computed. -/
def ofDecimal (negative : Bool) (coefficient : Nat) (power : Int) : Binary64 :=
  if coefficient = 0 then zero negative
  else
    let leading := power + (Nat.toDigits 10 coefficient).length
    if 310 < leading then infinite negative
    else if leading < -326 then zero negative
    else ofRatio negative (coefficient * Nat.pow 10 power.toNat) (Nat.pow 10 (-power).toNat)

/-- The rounded product of finite numbers. -/
def mul (first second : Binary64) : Binary64 :=
  ofRatio (first.negative != second.negative) (first.ratio.1 * second.ratio.1)
    (first.ratio.2 * second.ratio.2)

/-- The rounded quotient of finite numbers, the second not zero. -/
def div (first second : Binary64) : Binary64 :=
  ofRatio (first.negative != second.negative) (first.ratio.1 * second.ratio.2)
    (first.ratio.2 * second.ratio.1)

def isWhole (number : Binary64) : Bool :=
  number.isFinite && decide (number.ratio.1 % number.ratio.2 = 0)

end Binary64

end IntentRollout
