import IntentRollout.Rollout.Failure

/-!
Complaints: what is shown when a command gives up. A complaint is a message with the causes behind it,
each the cause of the one before; only a program that breaks off has none.
-/

namespace IntentRollout

def ConfigError.causes : ConfigError → List String
  | .unreadable _ fault => [fault.message]
  | _ => []

def IntentError.causes : IntentError → List String
  | .unreadable _ fault => [fault.message]
  | .notJson error => [error.message]
  | _ => []

def CompileError.causes : CompileError → List String
  | .malformed error => error.message :: error.causes
  | .notJson error => [error.message]
  | .file _ fault => [fault.message]
  | .walk path fault => [CompileError.walkMessage path fault]
  | _ => []

def DeliveryError.causes : DeliveryError → List String
  | .spawn _ reason => [reason]
  | .file _ reason => [reason]
  | _ => []

def RolloutError.causes : RolloutError → List String
  | .config error => error.message :: error.causes
  | .intent error => error.message :: error.causes
  | .compile error => error.message :: error.causes
  | .delivery error => error.message :: error.causes
  | .gate _ error => [error.message]
  | .report _ fault => [fault.message]
  | .notJson error => [error.message]
  | _ => []

namespace CommandLine

inductive Complaint where
  | told (message : String) (causes : List String)
  | brokenOff

namespace Complaint

def ofConfig : ConfigError → Complaint
  | .overflow => .brokenOff
  | error => .told error.message error.causes

def ofCompile (error : CompileError) : Complaint := .told error.message error.causes

def ofRollout : RolloutError → Complaint
  | .config .overflow => .brokenOff
  | error => .told error.message error.causes

/-- A cause with a mark before its first line, and its other lines below the first. -/
def indented (mark : String) (text : String) : String :=
  let margin := String.ofList (List.replicate mark.length ' ')
  let lines := (pieces '\n' text.toList).map String.ofList
  mark ++ joined "\n" ((lines.take 1) ++ (lines.drop 1).map (margin ++ ·))

/-- The causes, numbered from zero if there are several. -/
def causeLines (causes : List String) : List String :=
  match causes with
  | [cause] => [indented "    " cause]
  | several => several.zipIdx.map fun (cause, number) => indented ("    " ++ toString number ++ ": ") cause

def written : Complaint → String
  | .told message causes =>
    let head := "Error: " ++ message ++ "\n"
    if causes.isEmpty then head else head ++ "\nCaused by:\n" ++ joined "\n" (causeLines causes) ++ "\n"
  | .brokenOff => ""

def exitCode : Complaint → Nat
  | .told _ _ => 1
  | .brokenOff => 101

end Complaint

end CommandLine

end IntentRollout
