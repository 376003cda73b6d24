import IntentRollout.Binary64.Shortest

/-!
Texts of numbers. The plain text is positional for every magnitude and drops an empty fraction; the
exchange text always shows that the number is not an integer, and is positional only from a hundred
thousandth to below ten quadrillions.
-/

namespace IntentRollout

/-- The digits of a decimal with a point, and zeros where they are needed. -/
def Decimal.positional (decimal : Decimal) : String :=
  let digits := Nat.toDigits 10 decimal.coefficient
  if 0 ≤ decimal.power then
    String.ofList (digits ++ List.replicate decimal.power.toNat '0')
  else
    let places := (-decimal.power).toNat
    if places < digits.length then
      String.ofList (digits.take (digits.length - places) ++ '.' :: digits.drop (digits.length - places))
    else
      String.ofList ('0' :: '.' :: List.replicate (places - digits.length) '0' ++ digits)

/-- One digit, a fraction if there are more, and a signed power of ten. -/
def Decimal.scientific (decimal : Decimal) : String :=
  let digits := Nat.toDigits 10 decimal.coefficient
  let power := decimal.power + digits.length - 1
  let lead := match digits with
    | [] => "0"
    | [digit] => String.singleton digit
    | digit :: more => String.ofList (digit :: '.' :: more)
  lead ++ (if power < 0 then "e-" else "e+") ++ toString power.natAbs

namespace Binary64

/-- Positional text without an exponent and without an empty fraction. -/
def plainText (number : Binary64) : String :=
  if number.isNaN then "NaN"
  else
    let sign := if number.negative then "-" else ""
    if !number.isFinite then sign ++ "inf"
    else if number.isZero then sign ++ "0"
    else sign ++ (number.shortest .up).positional

/-- Text of a finite number in an exchange document. -/
def exchangeText (number : Binary64) : String :=
  let sign := if number.negative then "-" else ""
  if number.isZero then sign ++ "0.0"
  else
    let decimal := number.shortest .even
    let length := (Nat.toDigits 10 decimal.coefficient).length
    let point := decimal.power + length
    if -5 < point ∧ point ≤ 16 then
      sign ++ decimal.positional ++ (if 0 ≤ decimal.power then ".0" else "")
    else sign ++ decimal.scientific

end Binary64

end IntentRollout
