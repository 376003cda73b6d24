import IntentRollout.Binary64.Basic

/-!
The fewest decimal digits that read back as a given number. On the grid of multiples of a power of
ten, only the two neighbours of a number can be the nearest to it; the search takes the coarsest grid
on which one of them still rounds to the number, and there the nearer one.
-/

namespace IntentRollout

/-- What happens to a number half-way between two decimals of one length. -/
inductive DecimalTie where
  | up
  | even
  deriving DecidableEq

/-- A decimal magnitude `coefficient * 10 ^ power`. -/
structure Decimal where
  coefficient : Nat
  power : Int
  deriving DecidableEq

namespace Binary64

/-- The magnitudes that round to a number, in quarters of its last place. -/
structure Basin where
  low : Nat
  middle : Nat
  high : Nat
  /-- Whether the two ends round to the number as well. -/
  closed : Bool

/-- Below a power of two the next number is only half as far away. -/
def basin (number : Binary64) : Basin where
  low := 4 * number.significand -
    (if number.magnitude % fractions = 0 ∧ 2 * fractions ≤ number.magnitude then 1 else 2)
  middle := 4 * number.significand
  high := 4 * number.significand + 2
  closed := number.significand % 2 = 0

/-- The decimal on the grid of one power of ten that rounds to the number, the nearer one if both
neighbours do. -/
def onGrid? (tie : DecimalTie) (number : Binary64) (power : Int) : Option Decimal :=
  let basin := number.basin
  let quarter := number.exponent - 2
  let unit := Nat.pow 2 quarter.toNat * Nat.pow 10 (-power).toNat
  let step := Nat.pow 10 power.toNat * Nat.pow 2 (-quarter).toNat
  let below := basin.middle * unit / step
  let rest := basin.middle * unit % step
  let rounds (coefficient : Nat) : Bool :=
    if basin.closed then
      decide (basin.low * unit ≤ coefficient * step ∧ coefficient * step ≤ basin.high * unit)
    else decide (basin.low * unit < coefficient * step ∧ coefficient * step < basin.high * unit)
  let upper : Bool :=
    decide (step < 2 * rest) || (decide (2 * rest = step) &&
      (match tie with | .up => true | .even => decide (below % 2 = 1)))
  match rounds below, rounds (below + 1) with
  | true, true => some ⟨if upper then below + 1 else below, power⟩
  | true, false => some ⟨below, power⟩
  | false, true => some ⟨below + 1, power⟩
  | false, false => none

/-- Searches ever finer grids. -/
def shortestFrom (tie : DecimalTie) (number : Binary64) : Nat → Int → Decimal
  | 0, power => ⟨number.basin.middle, power⟩
  | tries + 1, power =>
    match number.onGrid? tie power with
    | some decimal => decimal
    | none => shortestFrom tie number tries (power - 1)

/-- The shortest decimal of a finite number that is not zero. The first grid is coarser than the
number itself, and seventeen digits always suffice. -/
def shortest (tie : DecimalTie) (number : Binary64) : Decimal :=
  let leading := ((number.significand.log2 : Int) + number.exponent) * 30103 / 100000
  shortestFrom tie number 21 (leading + 2)

end Binary64

end IntentRollout
