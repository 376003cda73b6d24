import IntentRollout.Json.Basic

/-!
Values of configuration texts. The entries of a table stand in the order of the text.
-/

namespace IntentRollout

inductive Toml where
  | text (value : String)
  | integer (value : Int)
  | float (value : Binary64)
  | bool (value : Bool)
  /-- A date, a time, or both, as written; no setting uses one. -/
  | moment (written : String)
  | array (items : List Toml)
  | table (entries : List (String × Toml))
  deriving Inhabited

namespace Toml

def entries? : Toml → Option (List (String × Toml))
  | .table entries => some entries
  | _ => none

def text? : Toml → Option String
  | .text value => some value
  | _ => none

/-- The value of a number; an integer stands for itself. -/
def float? : Toml → Option Binary64
  | .float value => some value
  | .integer value => some (Binary64.ofInt value)
  | _ => none

/-- An integer from zero to below a limit. -/
def naturalBelow? (limit : Nat) : Toml → Option Nat
  | .integer value => if 0 ≤ value ∧ value < limit then some value.toNat else none
  | _ => none

def array? : Toml → Option (List Toml)
  | .array items => some items
  | _ => none

mutual

/-- A document as a tree of settings. Members that are null are left out, since a setting is there or not. -/
def ofJson : Json → Toml
  | .null => .text ""
  | .bool value => .bool value
  | .number (.integer value) => .integer value
  | .number (.float value) => .float value
  | .text value => .text value
  | .array items => .array (ofItems items)
  | .object members => .table (ofMembers members)

def ofItems : List Json → List Toml
  | [] => []
  | item :: items => ofJson item :: ofItems items

def ofMembers : List (String × Json) → List (String × Toml)
  | [] => []
  | (_, .null) :: members => ofMembers members
  | (name, value) :: members => (name, ofJson value) :: ofMembers members

end

end Toml

end IntentRollout
