import IntentRollout.Text.Pieces
import IntentRollout.Text.Blank

/-!
Words of a command line as options and operands. An option is given by its name after two dashes or by
its letter after one; its value follows an equals sign or is the next word. An option of several values
takes all words up to the next option, and each may hold several values between commas. After two dashes
alone every word is an operand.
-/

namespace IntentRollout.CommandLine

inductive OptionForm where
  | flag
  | single
  | several
  deriving DecidableEq

structure OptionRule where
  name : String
  letter : Option Char := none
  form : OptionForm
  /-- Whether a value may be given. -/
  accepts : String → Bool := fun _ => true

/-- The words that have been read so far. -/
structure Given where
  /-- Each option with the values that it was given. -/
  options : List (String × List String) := []
  operands : List String := []
  deriving DecidableEq

namespace Given

def values (given : Given) (name : String) : List String :=
  (given.options.filter (·.1 = name)).flatMap (·.2)

def value? (given : Given) (name : String) : Option String := (given.values name).getLast?

def has (given : Given) (name : String) : Bool := given.options.any (·.1 = name)

end Given

inductive Halted where
  | misused
  /-- A flag that is answered at once. -/
  | asked (flag : String)
  deriving DecidableEq

structure Scan where
  rules : List OptionRule
  /-- The flags that are answered at once. -/
  questions : List String
  given : Given := {}
  /-- The option that may take the next word, with the values it has. -/
  pending : Option (OptionRule × List String) := none
  onlyOperands : Bool := false

namespace Scan

/-- Adds an option with its values. Only an option of several values may be given again. -/
def add (scan : Scan) (rule : OptionRule) (values : List String) : Except Halted Scan :=
  let values := match rule.form with
    | .several => values.flatMap fun value => (pieces ',' value.toList).map String.ofList
    | _ => values
  if scan.questions.contains rule.name then .error (.asked rule.name)
  else if rule.form ≠ .several && scan.given.has rule.name then .error .misused
  else if !values.all rule.accepts then .error .misused
  else
    .ok { scan with
      given := { scan.given with options := scan.given.options ++ [(rule.name, values)] }
      pending := none }

def settle (scan : Scan) : Except Halted Scan :=
  match scan.pending with
  | none => .ok scan
  | some (_, []) => .error .misused
  | some (rule, values) => scan.add rule values

/-- An option with the value after its equals sign, if there is one. -/
def option (scan : Scan) (rule : OptionRule) (attached : Option String) : Except Halted Scan :=
  match rule.form, attached with
  | .flag, none => scan.add rule []
  | .flag, some _ => .error .misused
  | _, some value => scan.add rule [value]
  | _, none => .ok { scan with pending := some (rule, []) }

def long (scan : Scan) (body : List Char) : Except Halted Scan :=
  let name := String.ofList (body.takeWhile (· ≠ '='))
  let attached := match body.dropWhile (· ≠ '=') with
    | [] => none
    | _ :: value => some (String.ofList value)
  match scan.rules.find? (·.name = name) with
  | some rule => scan.option rule attached
  | none => .error .misused

/-- Options by their letters. What follows the letter of an option with a value is its value. -/
def short (scan : Scan) : List Char → Except Halted Scan
  | [] => .ok scan
  | letter :: rest =>
    match scan.rules.find? (·.letter = some letter) with
    | none => .error .misused
    | some rule =>
      match rule.form, rest with
      | .flag, _ => do
        let scan ← scan.add rule []
        scan.short rest
      | _, [] => scan.option rule none
      | _, '=' :: value => scan.option rule (some (String.ofList value))
      | _, value => scan.option rule (some (String.ofList value))

def plain (scan : Scan) (word : String) : Except Halted Scan :=
  match scan.pending with
  | some (rule, values) =>
    if rule.form = .several then .ok { scan with pending := some (rule, values ++ [word]) }
    else scan.add rule [word]
  | none => .ok { scan with given := { scan.given with operands := scan.given.operands ++ [word] } }

def word (scan : Scan) (word : String) : Except Halted Scan :=
  if scan.onlyOperands then scan.plain word
  else
    match word.toList with
    | ['-', '-'] => do
      let scan ← scan.settle
      .ok { scan with onlyOperands := true }
    | '-' :: '-' :: body => do
      let scan ← scan.settle
      scan.long body
    | '-' :: letter :: rest => do
      let scan ← scan.settle
      scan.short (letter :: rest)
    | _ => scan.plain word

def words (scan : Scan) (list : List String) : Except Halted Given := do
  let scan ← list.foldlM Scan.word scan
  let scan ← scan.settle
  .ok scan.given

/-- Reads words up to the first operand; gives it with the words after it. It must not stand after two
dashes alone. -/
def untilOperand (scan : Scan) : List String → Except Halted (Given × Option (String × List String))
  | [] => do
    let scan ← scan.settle
    .ok (scan.given, none)
  | next :: rest => do
    let scan ← scan.word next
    match scan.given.operands with
    | [] => scan.untilOperand rest
    | operand :: _ =>
      if scan.onlyOperands then .error .misused else .ok (scan.given, some (operand, rest))

end Scan

end IntentRollout.CommandLine
