import IntentRollout.Config.Validity
import IntentRollout.Http.Fetch
import IntentRollout.Slo.Constraint

/-!
Judging metrics by objectives. A metric that is missing is neither a pass nor a violation: it means that
nothing can be said. All constraints are judged, and every one that does not hold is listed.
-/

namespace IntentRollout

abbrev Metrics := Table String Binary64

namespace Metrics

/-- The members of an object that are numbers. -/
def ofJson : Json → Except Http.FetchFault Metrics
  | .object members => .ok <| Table.ofList <| members.filterMap fun (name, value) =>
    match value with
    | .number number => some (name, number.toBinary64)
    | _ => none
  | other => .error (.notObject other)

def toJson (metrics : Metrics) : Json :=
  .object (metrics.entries.map fun (name, value) => (name, .finite value))

end Metrics

/-- A constraint that does not hold, and the value of its metric. -/
structure Violation where
  constraint : Constraint
  actual : Binary64
  deriving DecidableEq

namespace Violation

def message (violation : Violation) : String :=
  violation.constraint.metric ++ " " ++ violation.constraint.operator.symbol ++ " " ++
    violation.constraint.threshold.plainText ++ " (actual: " ++ violation.actual.plainText ++ ")"

def toJson (violation : Violation) : Json := .object [
  ("metric", .text violation.constraint.metric),
  ("operator", .text violation.constraint.operator.symbol),
  ("threshold", .finite violation.constraint.threshold), ("actual", .finite violation.actual)]

end Violation

inductive GateError where
  | slo (fault : Slo.Fault)
  | missingMetric (metric : String) (available : List String)
  | fetch (error : Http.FetchError)
  | violated (violations : List Violation)

namespace GateError

def message : GateError → String
  | .slo fault => fault.message
  | .missingMetric metric available =>
    "required metric " ++ quoted metric ++ " not found in metrics data (available: " ++
      joined ", " available ++ ")"
  | .fetch error => error.message
  | .violated violations => "SLO violations: " ++ joined ", " (violations.map Violation.message)

/-- A short word for the kind of error. -/
def kind : GateError → String
  | .slo _ => "parse_error"
  | .missingMetric _ _ => "missing_metric"
  | .fetch _ => "metrics_fetch_error"
  | .violated _ => "slo_violation"

/-- Whether nothing can be said about the objectives. -/
def isCheckFailure : GateError → Bool
  | .violated _ => false
  | _ => true

end GateError

/-- Objectives with the text that states them. -/
structure Gate where
  text : String
  constraints : List Constraint
  deriving DecidableEq

namespace Gate

def read (text : String) : Except Slo.Fault Gate := do
  .ok ⟨trimmed text, ← Slo.readConstraints text⟩

/-- The violation of a constraint by metrics that have a value for it. -/
def violation? (metrics : Metrics) (constraint : Constraint) : Option Violation := do
  let actual ← metrics.get? constraint.metric
  if constraint.operator.holds actual constraint.threshold then none else some ⟨constraint, actual⟩

/-- All violations, provided that no metric is missing. -/
def evaluate (gate : Gate) (metrics : Metrics) : Except GateError (List Violation) :=
  match gate.constraints.find? fun constraint => !metrics.contains constraint.metric with
  | some missing => .error (.missingMetric missing.metric metrics.keys)
  | none => .ok (gate.constraints.filterMap (violation? metrics))

/-- Passes metrics that violate nothing. -/
def judge (gate : Gate) (metrics : Metrics) : Except GateError Unit := do
  match ← gate.evaluate metrics with
  | [] => .ok ()
  | violations => .error (.violated violations)

/-- Judges what was fetched; what could not be fetched cannot pass. -/
def check (gate : Gate) (fetched : Except Http.FetchError Metrics) : Except GateError Unit := do
  gate.judge (← fetched.mapError .fetch)

end Gate

def recordedMetrics (recorded : Table String Metrics) (target : String) :
    Except Http.FetchError Metrics :=
  match recorded.get? target with
  | some metrics => .ok metrics
  | none => .error ⟨"static://" ++ target, .noSnapshot⟩

/-- Endpoints of metrics by target, and how they are asked. -/
structure MetricsSource where
  endpoints : Table String String := Table.empty
  /-- The endpoint of targets that have none of their own. -/
  fallback : Option String := none
  timeout : Nat := 30000
  retry : RetryPolicy := RetryPolicy.single

namespace MetricsSource

def endpoint? (source : MetricsSource) (target : String) : Option String :=
  match source.endpoints.get? target with
  | some url => some url
  | none => source.fallback

/-- The endpoints of a configuration, asked as it says. -/
def ofConfig (config : Config) : Except ConfigError MetricsSource := do
  let timeout ← readWait config.rollout.gateTimeout
  let retry ← config.rollout.retry.policy
  .ok {
    endpoints := Table.ofList <| config.sites.entries.filterMap fun (name, site) =>
      site.metricsUrl.map fun url => (name, url)
    timeout, retry }

def fetchMetrics (network : Http.Network) (timeout : Nat) (url : String) :
    Except Http.FetchError Metrics := do
  (Metrics.ofJson (← Http.fetch network timeout url)).mapError (⟨url, ·⟩)

/-- The metrics of a target, asked for until they come or no attempt is left. -/
def fetch (source : MetricsSource) (network : Http.Network) (target : String) :
    Except Http.FetchError Metrics :=
  match source.endpoint? target with
  | none => .error ⟨"", .noEndpoint target⟩
  | some url =>
    source.retry.run (m := Id) (fun _ => true) (fun _ => ()) fun _ =>
      fetchMetrics network source.timeout url

end MetricsSource

end IntentRollout
