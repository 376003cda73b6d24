import IntentRollout.Config.Validity
import IntentRollout.Rollout.Phase

/-!
How an attempt is carried out: with or without consent, for real or not, and with which waits.
-/

namespace IntentRollout

/-- Waits until a target has taken over what was published, in milliseconds. -/
structure VerifySettings where
  /-- The wait for targets whose state cannot be asked for. -/
  gracePeriod : Nat := 5000
  pollInterval : Nat := 2000
  timeout : Nat := 120000
  deriving DecidableEq

structure Options where
  mode : Mode := .safe
  /-- Compile and report only, and change nothing. -/
  dryRun : Bool := false
  slo : String := "latency_p95_ms<=15,success_rate>=0.995"
  requiredFields : List String := ["intentId"]
  reportDirectory : String := "reports"
  verify : VerifySettings := {}
  retry : RetryPolicy := {}
  deriving DecidableEq

def Options.ofConfig (config : Config) : Except ConfigError Options := do
  let rollout := config.rollout
  let gracePeriod ← readWait rollout.verify.gracePeriod
  let pollInterval ← readWait rollout.verify.pollInterval
  let timeout ← readWait rollout.verify.timeout
  let retry ← rollout.retry.policy
  .ok {
    slo := rollout.slo
    requiredFields := rollout.requiredFields
    reportDirectory := rollout.reportDirectory
    verify := { gracePeriod, pollInterval, timeout }
    retry }

end IntentRollout
