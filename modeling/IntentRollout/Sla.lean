import IntentRollout.Json.Schema

/-!
Service-level agreements. All parts of an agreement are optional; what is there must be a number.
-/

namespace IntentRollout

/-- What a service must keep to; all of it is optional. -/
structure Sla where
  /-- In percent. -/
  availability : Option Binary64 := none
  /-- At most so many milliseconds. -/
  latency : Option Binary64 := none
  /-- At least so many megabits a second. -/
  throughput : Option Binary64 := none
  connections : Option Nat := none
  deriving DecidableEq

/-- How a message names a value of a type that was not expected. -/
def Json.found : Json → Json.Found
  | .null => .null
  | .bool value => .bool value
  | .number (.integer value) => .integer value
  | .number (.float value) => .float value
  | .text value => .text value
  | .array _ => .list
  | .object _ => .object

namespace Sla

/-- A number that may be absent or null. -/
def float? (document : Json) (name : String) : Except Json.Mismatch (Option Binary64) :=
  match document.member? name with
  | none => .ok none
  | some .null => .ok none
  | some (.number value) => .ok (some value.toBinary64)
  | some other => .error (.type other.found "f64")

/-- A natural number of 64 bits that may be absent or null. -/
def natural? (document : Json) (name : String) : Except Json.Mismatch (Option Nat) :=
  match document.member? name with
  | none => .ok none
  | some .null => .ok none
  | some (.number (.integer value)) =>
    if 0 ≤ value ∧ value < UInt64.size then .ok (some value.toNat)
    else .error (.value (.integer value) "u64")
  | some other => .error (.type other.found "u64")

/-- Reads the members in the order of their names. -/
def ofJson (document : Json) : Except Json.Mismatch Sla := do
  let availability ← float? document "availability"
  let connections ← natural? document "connections"
  let latency ← float? document "latency"
  let throughput ← float? document "throughput"
  .ok { availability, latency, throughput, connections }

/-- The shape of the text of an agreement. -/
def schema : Json.Schema := .record "Sla" false [
  ("availability", .optional .float), ("latency", .optional .float), ("throughput", .optional .float),
  ("connections", .optional (.natural "u64"))]

/-- What is wrong with the text of an agreement. -/
inductive Fault where
  | text (error : Json.Error)
  | shape (mismatch : Json.Mismatch)

def Fault.message : Fault → String
  | .text error => error.message
  | .shape mismatch => mismatch.message

def read (text : String) : Except Fault Sla := do
  let document ← (schema.read text).mapError .text
  (ofJson document).mapError .shape

end Sla

end IntentRollout
