import IntentRollout.Binary64.Text
import IntentRollout.Json.Basic
import IntentRollout.Text.Blank
import IntentRollout.Text.Pieces
import IntentRollout.Text.Quoted

/-!
Service-level objectives: constraints on metrics, written as clauses between commas. A clause is the
name of a metric, an operator and a decimal number, with white space allowed around each; empty clauses
are skipped. One malformed clause makes the whole text invalid.
-/

namespace IntentRollout

inductive Operator where
  | le
  | ge
  | lt
  | gt
  | eq
  deriving DecidableEq, Inhabited

namespace Operator

/-- A longer symbol stands before the shorter one that it begins with. -/
def all : List Operator := [.le, .ge, .lt, .gt, .eq]

def symbol : Operator → String
  | .le => "<="
  | .ge => ">="
  | .eq => "=="
  | .lt => "<"
  | .gt => ">"

def ofSymbol? (symbol : String) : Option Operator := all.find? (·.symbol = symbol)

/-- Whether a value stands in the relation to a threshold. -/
def holds : Operator → Binary64 → Binary64 → Bool
  | .le, actual, threshold => actual.le threshold
  | .ge, actual, threshold => threshold.le actual
  | .eq, actual, threshold => actual.same threshold
  | .lt, actual, threshold => actual.lt threshold
  | .gt, actual, threshold => threshold.lt actual

end Operator

/-- A metric must stand in a relation to a threshold. -/
structure Constraint where
  metric : String
  operator : Operator
  threshold : Binary64
  deriving DecidableEq, Inhabited

namespace Constraint

def written (constraint : Constraint) : String :=
  constraint.metric ++ constraint.operator.symbol ++ constraint.threshold.plainText

def toJson (constraint : Constraint) : Json := .object [
  ("metric", .text constraint.metric), ("operator", .text constraint.operator.symbol),
  ("threshold", .finite constraint.threshold)]

end Constraint

namespace Slo

inductive Fault where
  | blank
  | noClause
  | malformed (clause : String)
  /-- The number in a clause is too large. -/
  | overflow (clause number : String)
  deriving DecidableEq

def Fault.message : Fault → String
  | .blank => "invalid SLO format: empty expression"
  | .noClause => "invalid SLO format: no valid constraints found"
  | .malformed clause => "invalid SLO format: " ++ quoted clause
  | .overflow clause number =>
    "invalid SLO format: threshold " ++ quoted number ++ " in " ++ quoted clause ++
      " is not a finite number"

/-- A short word for the kind of fault. -/
def Fault.kind : Fault → String
  | .blank => "Empty"
  | .noClause => "NoConstraints"
  | .malformed _ => "InvalidClause"
  | .overflow _ _ => "InvalidThreshold"

/-! ### Tokens of a clause -/

def startsMetric (character : Char) : Bool := character.isAlpha || character = '_'

def continuesMetric (character : Char) : Bool := character.isAlphanum || character = '_'

def takeMetric? : List Char → Option (List Char × List Char)
  | [] => none
  | first :: rest =>
    if startsMetric first then
      some (first :: rest.takeWhile continuesMetric, rest.dropWhile continuesMetric)
    else none

/-- The characters after a symbol, if they start with it. -/
def dropSymbol? : List Char → List Char → Option (List Char)
  | [], rest => some rest
  | _ :: _, [] => none
  | mark :: marks, character :: rest => if character = mark then dropSymbol? marks rest else none

def takeOperator? (characters : List Char) : Option (Operator × List Char) :=
  Operator.all.findSome? fun operator =>
    (dropSymbol? operator.symbol.toList characters).map fun rest => (operator, rest)

/-- Sign, digits before the point and digits after it. -/
structure Numeral where
  negative : Bool
  whole : List Char
  fraction : List Char
  deriving DecidableEq

/-- The numeral that some characters spell. There is a digit before the point, or no digit before it
and one after it. -/
def readNumeral? (characters : List Char) : Option Numeral :=
  let (negative, digits) := match characters with
    | '-' :: rest => (true, rest)
    | '+' :: rest => (false, rest)
    | rest => (false, rest)
  let whole := digits.takeWhile Char.isDigit
  match digits.dropWhile Char.isDigit with
  | [] => if whole.isEmpty then none else some ⟨negative, whole, []⟩
  | '.' :: fraction =>
    if fraction.all Char.isDigit && !(whole.isEmpty && fraction.isEmpty) then
      some ⟨negative, whole, fraction⟩
    else none
  | _ => none

def decimalValue (digits : List Char) : Nat :=
  digits.foldl (fun value digit => value * 10 + (digit.toNat - '0'.toNat)) 0

def Numeral.value (numeral : Numeral) : Binary64 :=
  Binary64.ofDecimal numeral.negative (decimalValue (numeral.whole ++ numeral.fraction))
    (-numeral.fraction.length)

/-! ### Clauses -/

/-- Reads a clause that has no white space at its ends. -/
def readClause (clause : List Char) : Except Fault Constraint :=
  let tokens := do
    let (metric, rest) ← takeMetric? clause
    let (operator, rest) ← takeOperator? (rest.dropWhile blank)
    let spelling := rest.dropWhile blank
    let numeral ← readNumeral? spelling
    some (metric, operator, spelling, numeral)
  match tokens with
  | none => .error (.malformed (String.ofList clause))
  | some (metric, operator, spelling, numeral) =>
    if numeral.value.isFinite then .ok ⟨String.ofList metric, operator, numeral.value⟩
    else .error (.overflow (String.ofList clause) (String.ofList spelling))

/-- The clauses of a text that are not empty. -/
def clauses (characters : List Char) : List (List Char) :=
  ((pieces ',' characters).map trimBlank).filter fun clause => !clause.isEmpty

/-- The constraints that a text states, in its order. -/
def readConstraints (text : String) : Except Fault (List Constraint) :=
  if (trimBlank text.toList).isEmpty then .error .blank
  else
    match clauses text.toList with
    | [] => .error .noClause
    | clauses => clauses.mapM readClause

end Slo

end IntentRollout
