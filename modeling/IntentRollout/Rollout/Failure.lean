import IntentRollout.Bundle.Compilation
import IntentRollout.Rollout.Phase
import IntentRollout.Slo.Gate

/-!
What can go wrong in a rollout. Failures of the delivery tree that another attempt could mend are
transient: a command that failed or could not be started, and a worker that was lost. A missing
directory and a file that cannot be written would fail again.
-/

namespace IntentRollout

inductive DeliveryError where
  | missingSite (path : String)
  | command (line stderr : String)
  | spawn (line reason : String)
  | file (path reason : String)
  | task (reason : String)
  deriving DecidableEq

namespace DeliveryError

def message : DeliveryError → String
  | .missingSite path => "delivery directory not found: " ++ path
  | .command line stderr => "`" ++ line ++ "` failed: " ++ stderr
  | .spawn line reason => "failed to run `" ++ line ++ "`: " ++ reason
  | .file path reason => "I/O error on " ++ path ++ ": " ++ reason
  | .task reason => "delivery task aborted: " ++ reason

/-- A short word for the kind of error. -/
def kind : DeliveryError → String
  | .missingSite _ => "MissingSiteDir"
  | .command _ _ => "Command"
  | .spawn _ _ => "Spawn"
  | .file _ _ => "Io"
  | .task _ => "Task"

def isTransient : DeliveryError → Bool
  | .command _ _ => true
  | .spawn _ _ => true
  | .task _ => true
  | _ => false

end DeliveryError

inductive SyncState where
  | synced
  | pending
  | failed (reason : String)
  deriving DecidableEq

inductive Convergence where
  | synced
  /-- The state of the target cannot be asked for, and the wait is over. -/
  | gracePeriodElapsed
  | timedOut
  | failed (reason : String)
  | cancelled
  deriving DecidableEq

namespace Convergence

def isSuccess : Convergence → Bool
  | .synced => true
  | .gracePeriodElapsed => true
  | _ => false

def written : Convergence → String
  | .synced => "Synced"
  | .gracePeriodElapsed => "GracePeriodElapsed"
  | .timedOut => "TimedOut"
  | .failed reason => "Failed(" ++ quoted reason ++ ")"
  | .cancelled => "Cancelled"

end Convergence

inductive RolloutError where
  | config (error : ConfigError)
  | intent (error : IntentError)
  | missingFields (fields : List String)
  | unknownTarget (target known : String)
  | compile (error : CompileError)
  | delivery (error : DeliveryError)
  | verify (target : String) (convergence : Convergence)
  | gate (target : String) (error : GateError)
  | noSnapshot
  | report (path : String) (fault : FileFault)
  | notJson (error : Json.Error)

def RolloutError.message : RolloutError → String
  | .config error => "invalid configuration: " ++ error.message
  | .intent error => "invalid intent: " ++ error.message
  | .missingFields fields => "intent is missing required fields: " ++ joined ", " fields
  | .unknownTarget target known => "unknown target " ++ quoted target ++ " (configured: " ++ known ++ ")"
  | .compile error => "render failed: " ++ error.message
  | .delivery error => "delivery failed: " ++ error.message
  | .verify target convergence => target ++ " did not converge: " ++ convergence.written
  | .gate target error => "gate failed for " ++ target ++ ": " ++ error.message
  | .noSnapshot => "rollback impossible: no snapshot was captured"
  | .report path fault => "failed to write report to " ++ path ++ ": " ++ fault.message
  | .notJson error => "failed to encode report: " ++ error.message

/-- A short word for the kind of error. -/
def RolloutError.kind : RolloutError → String
  | .config _ => "Config"
  | .intent _ => "Intent"
  | .missingFields _ => "MissingFields"
  | .unknownTarget _ _ => "UnknownTarget"
  | .compile _ => "Render"
  | .delivery _ => "Delivery"
  | .verify _ _ => "Verify"
  | .gate _ _ => "Gate"
  | .noSnapshot => "NoSnapshot"
  | .report _ _ => "Report"
  | .notJson _ => "Json"

end IntentRollout
