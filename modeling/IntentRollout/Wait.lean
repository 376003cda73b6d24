import IntentRollout.Text.Blank

/-!
Waits in milliseconds and their written form: a number of seconds, or a number with the unit `ms`,
`s` or `m`.
-/

namespace IntentRollout.Wait

/-- A natural number below 2 ^ 64 in decimal digits, with an optional plus sign. -/
def readNatural? (characters : List Char) : Option Nat :=
  let digits := match characters with
    | '+' :: rest => rest
    | all => all
  if digits.isEmpty || !digits.all Char.isDigit then none
  else
    let value := digits.foldl (fun total digit => total * 10 + (digit.toNat - '0'.toNat)) 0
    if value < UInt64.size then some value else none

/-- The characters before a unit, if the text ends with it. -/
def beforeUnit? (unit characters : List Char) : Option (List Char) :=
  if unit.isSuffixOf characters then some (characters.take (characters.length - unit.length)) else none

inductive Fault where
  /-- The text is not a number of 64 bits with a unit. -/
  | malformed
  /-- The seconds of so many minutes cannot be counted in 64 bits. -/
  | overflow
  deriving DecidableEq

def readNumber (characters : List Char) : Except Fault Nat :=
  match readNatural? characters with
  | some number => .ok number
  | none => .error .malformed

def secondsOfMinutes (minutes : Nat) : Except Fault Nat :=
  if minutes * 60 < UInt64.size then .ok (minutes * 60) else .error .overflow

def read (text : String) : Except Fault Nat :=
  let characters := trimBlank text.toList
  match beforeUnit? ['m', 's'] characters with
  | some number => readNumber number
  | none =>
    match beforeUnit? ['s'] characters with
    | some number => (readNumber number).map (· * 1000)
    | none =>
      match beforeUnit? ['m'] characters with
      | some number => ((readNumber number).bind secondsOfMinutes).map (· * 1000)
      | none => (readNumber characters).map (· * 1000)

/-- The longest wait in a unit of which a second has so many: as many seconds as 64 bits count, and all but the last
unit of the next one. -/
def longestIn (perSecond : Nat) : Nat := (UInt64.size - 1) * perSecond + (perSecond - 1)

end IntentRollout.Wait
