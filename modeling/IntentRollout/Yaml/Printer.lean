import IntentRollout.Binary64.Text
import IntentRollout.Json.Basic
import IntentRollout.Yaml.Scalar

/-!
Documents as resource files. Members stand on lines of their own, and what is inside them is indented by
two spaces; the items of a list are not indented further than their key.
-/

namespace IntentRollout.Yaml

/-- Ends a value with a line end, unless it is a block that has one. -/
def ended (characters : List Char) : List Char :=
  if characters.getLast?.any isBreak then characters else characters ++ ['\n']

/-- The written form of a value without parts. -/
def leaf (indent : Nat) : Json → List Char
  | .null => "null".toList
  | .bool value => if value then "true".toList else "false".toList
  | .number (.integer value) => (toString value).toList
  | .number (.float value) => value.exchangeText.toList
  | .text value => scalar indent value.toList
  | .array _ => "[]".toList
  | .object _ => "\x7b\x7d".toList

/-- Whether a value has parts that stand on lines of their own. -/
def hasLines : Json → Bool
  | .array (_ :: _) => true
  | .object (_ :: _) => true
  | _ => false

def isList : Json → Bool
  | .array _ => true
  | _ => false

mutual

/-- The lines of a value at a level of indentation; the first line is not indented. -/
def lines (indent : Nat) : Json → List Char
  | .array (item :: rest) => itemLines indent (item :: rest)
  | .object (member :: rest) => memberLines indent (member :: rest)
  | value => ended (leaf indent value)
termination_by value => 2 * sizeOf value

def itemLines (indent : Nat) : List Json → List Char
  | [] => []
  | [item] => '-' :: ' ' :: lines (indent + 2) item
  | item :: rest => '-' :: ' ' :: lines (indent + 2) item ++ spaces indent ++ itemLines indent rest
termination_by items => 2 * sizeOf items

def memberLines (indent : Nat) : List (String × Json) → List Char
  | [] => []
  | [(name, value)] => key name.toList ++ ':' :: memberValue indent value
  | (name, value) :: rest =>
    key name.toList ++ ':' :: memberValue indent value ++ spaces indent ++ memberLines indent rest
termination_by members => 2 * sizeOf members

def memberValue (indent : Nat) (value : Json) : List Char :=
  if hasLines value then
    let inner := if isList value then indent else indent + 2
    '\n' :: spaces inner ++ lines inner value
  else ' ' :: ended (leaf (indent + 2) value)
termination_by 2 * sizeOf value + 1

end

def print (document : Json) : String := String.ofList (lines 0 document)

end IntentRollout.Yaml
