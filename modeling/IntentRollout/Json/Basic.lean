import IntentRollout.Binary64.Basic
import IntentRollout.Table

/-!
Values of exchange documents. The members of an object stand in a list; documents that were read
have them in the order of their keys, and records that are written keep the order of their fields.
-/

namespace IntentRollout

/-- A number keeps whether it was written as an integer. -/
inductive Json.Number where
  | integer (value : Int)
  | float (value : Binary64)
  deriving DecidableEq, Inhabited

inductive Json where
  | null
  | bool (value : Bool)
  | number (value : Json.Number)
  | text (value : String)
  | array (items : List Json)
  | object (members : List (String × Json))
  deriving Inhabited

namespace Json

def Number.toBinary64 : Number → Binary64
  | .integer value => Binary64.ofInt value
  | .float value => value

/-- An object whose members are in the order of their keys; of several with one key the last stays. -/
def ofMembers (members : List (String × Json)) : Json := .object (Entries.ofList members)

def natural (value : Nat) : Json := .number (.integer value)

def float (value : Binary64) : Json := .number (.float value)

/-- A number that the notation has; what is not finite becomes null. -/
def finite (value : Binary64) : Json := if value.isFinite then float value else .null

def texts (values : List String) : Json := .array (values.map .text)

def optionalText : Option String → Json
  | some value => .text value
  | none => .null

def members? : Json → Option (List (String × Json))
  | .object members => some members
  | _ => none

/-- The value of a member; nothing when there is none, or no object. -/
def member? (document : Json) (key : String) : Option Json :=
  document.members?.bind (Entries.get? · key)

def text? : Json → Option String
  | .text value => some value
  | _ => none

def bool? : Json → Option Bool
  | .bool value => some value
  | _ => none

def array? : Json → Option (List Json)
  | .array items => some items
  | _ => none

def natural? : Json → Option Nat
  | .number (.integer (.ofNat value)) => some value
  | _ => none

def integer? : Json → Option Int
  | .number (.integer value) => some value
  | _ => none

/-- The value of a number, integer or not. -/
def float? : Json → Option Binary64
  | .number value => some value.toBinary64
  | _ => none

end Json

end IntentRollout
