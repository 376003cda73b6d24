import IntentRollout.Rollout.Options
import IntentRollout.Rollout.Plan

/-!
Waiting until a target has taken over what was published. A target that reports its state is asked again
and again, up to a timeout; for the others a fixed time passes. Shutdown ends either wait.
-/

namespace IntentRollout

namespace SyncState

/-- A member of a status, or another one if it is absent, as a text. -/
def statusText? (body : Json) (name other : String) : Option String :=
  match body.member? name with
  | some value => value.text?
  | none => (body.member? other).bind Json.text?

/-- What a status says about a revision. A revision that is reported decides; a bare word that all is done
counts only where no revisions can be compared. -/
def ofStatus (body : Json) (expected : Option String) : SyncState :=
  let applied := statusText? body "lastAppliedRevision" "revision"
  if applied.isSome && applied = expected then .synced
  else
    let state := raised ((statusText? body "syncState" "status").getD "")
    if state = "ERROR" || state = "FAILED" then
      .failed (((body.member? "message").bind Json.text?).getD "reconciliation failed")
    else if state = "SYNCED" && (applied.isNone || expected.isNone) then .synced
    else .pending

end SyncState

structure SyncSource where
  endpoints : Table String String := Table.empty
  timeout : Nat := 30000

namespace SyncSource

def ofConfig (config : Config) (timeout : Nat) : SyncSource where
  endpoints := Table.ofList <| config.sites.entries.filterMap fun (name, site) =>
    site.syncStatusUrl.map fun url => (name, url)
  timeout := timeout

/-- Whether the state of a target can be asked for. -/
def watches (source : SyncSource) (target : String) : Bool := source.endpoints.contains target

def status (source : SyncSource) (network : Http.Network) (target : String)
    (expected : Option String) : Except String SyncState :=
  match source.endpoints.get? target with
  | none => .error ("no sync status endpoint for " ++ target)
  | some url =>
    match Http.fetch network source.timeout url with
    | .ok body => .ok (SyncState.ofStatus body expected)
    | .error error => .error error.message

end SyncSource

namespace Convergence

/-- Asks for the state of a target and waits, as often as it is given. With an interval of zero no time passes while a
target is pending, and the bound on the queries stands in for a loop that does not end. -/
def poll (target : String) (revision : Option String) (interval deadline : Nat) :
    Nat → Timeline Convergence
  | 0 => pure .timedOut
  | tries + 1 => do
    match ← Timeline.ask (.status target revision) with
    | .ok .synced => pure .synced
    | .ok (.failed reason) => pure (.failed reason)
    | _ =>
      let now ← get
      if deadline ≤ now then pure .timedOut
      else if ← Timeline.ask (.wait (min interval (deadline - now))) then pure .cancelled
      else poll target revision interval deadline tries

/-- The queries for which there is time: one at the start, and one after each interval, the last of which
may be cut short. -/
def queries (settings : VerifySettings) : Nat := settings.timeout / max settings.pollInterval 1 + 2

/-- Waits for a target to take over a revision. The clock is an ideal one that reaches every deadline; one that counts
seconds in 64 bits has no such instant for timeouts near its own range. -/
def await (watched : Bool) (target : String) (revision : Option String) (settings : VerifySettings) :
    Timeline Convergence := do
  if watched then
    let start ← get
    poll target revision settings.pollInterval (start + settings.timeout) (queries settings)
  else if ← Timeline.ask (.wait settings.gracePeriod) then pure .cancelled
  else pure .gracePeriodElapsed

end Convergence

end IntentRollout
