import IntentRollout.Json.Basic
import IntentRollout.Text.Blank
import IntentRollout.Text.Quoted

/-!
Phases of a rollout. The delivery tree is remembered, the intent checked and compiled; then each target is
published, waited for and gated. Some phases are checkpoints, at which consent may be asked for; cleaning
up never is one.
-/

namespace IntentRollout

inductive Phase where
  | init
  | snapshot
  | validate
  | render
  | publish (target : String)
  | verify (target : String)
  | gate (target : String)
  | rollback
  | report
  deriving DecidableEq, Inhabited

namespace Phase

def name : Phase → String
  | .init => "INIT"
  | .snapshot => "SNAPSHOT"
  | .validate => "VALIDATE"
  | .render => "RENDER"
  | .publish _ => "PUBLISH"
  | .verify _ => "VERIFY"
  | .gate _ => "GATE"
  | .rollback => "ROLLBACK"
  | .report => "REPORT"

def target? : Phase → Option String
  | .publish target => some target
  | .verify target => some target
  | .gate target => some target
  | _ => none

/-- Whether consent may be asked for before the phase is entered. -/
def isCheckpoint : Phase → Bool
  | .snapshot => true
  | .validate => true
  | .render => true
  | .publish _ => true
  | .gate _ => true
  | _ => false

def written (phase : Phase) : String :=
  match phase.target? with
  | some target => phase.name ++ " " ++ target
  | none => phase.name

/-- The phase of a name, with its target if it has one. -/
def ofName? (name target : String) : Option Phase :=
  [init, snapshot, validate, render, publish target, verify target, gate target, rollback, report].find?
    (·.name = name)

/-- The name with a capital first letter only, and the target if there is one. -/
def toJson (phase : Phase) : Json :=
  let word := String.ofList <| match phase.name.toList with
    | [] => []
    | first :: rest => first :: rest.map Char.toLower
  match phase.target? with
  | some target => .object [(word, .object [("target", .text target)])]
  | none => .text word

end Phase

inductive Outcome where
  | succeeded
  | failed
  /-- Consent was refused at a checkpoint. -/
  | declined
  /-- Shutdown was requested. -/
  | cancelled
  deriving DecidableEq, Inhabited

namespace Outcome

def all : List Outcome := [.succeeded, .failed, .declined, .cancelled]

def name : Outcome → String
  | .succeeded => "Succeeded"
  | .failed => "Failed"
  | .declined => "Declined"
  | .cancelled => "Cancelled"

def exitCode : Outcome → Nat
  | .succeeded => 0
  | .failed => 1
  | .declined => 1
  | .cancelled => 130

end Outcome

inductive Mode where
  | safe
  | headless
  deriving DecidableEq, Inhabited

namespace Mode

def all : List Mode := [.safe, .headless]

def name : Mode → String
  | .safe => "safe"
  | .headless => "headless"

/-- The mode of a name, whatever its case. -/
def read? (text : String) : Option Mode := all.find? fun mode => lowered text = mode.name

def unknownMessage (text : String) : String :=
  "unknown mode " ++ quoted (lowered text) ++ " (expected safe or headless)"

end Mode

end IntentRollout
