import IntentRollout.Config.Basic
import IntentRollout.Text.Quoted
import IntentRollout.Volume.Basic

/-!
What makes a configuration unusable. Flaws are looked for in a fixed order, and the first one is
reported.
-/

namespace IntentRollout

inductive ConfigFlaw where
  | noSite
  | reservedName (site : String)
  | unnamedSite (site : String)
  | malformedPlmn (site plmn : String)
  | noFallbackProfile
  | unorderedBreakpoints
  | unknownDefault (target : String)
  | noAttempt
  deriving DecidableEq

def ConfigFlaw.message : ConfigFlaw → String
  | .noSite => "at least one site is required"
  | .reservedName site => "site name " ++ quoted site ++ " is reserved"
  | .unnamedSite site => "site " ++ site ++ " needs both cluster and namespace"
  | .malformedPlmn site plmn =>
    "site " ++ site ++ " plmn_id must be 5 or 6 digits, got " ++ quoted plmn
  | .noFallbackProfile => "profiles.embb is required as the fallback profile"
  | .unorderedBreakpoints => "qos.breakpoints must be strictly ascending by max_latency_ms"
  | .unknownDefault target => "default target site " ++ quoted target ++ " is not a configured site"
  | .noAttempt => "rollout.retry.max_attempts must be >= 1"

inductive ConfigError where
  | unreadable (path : String) (fault : FileFault)
  /-- The text is not well formed, or a setting has another type than it should. -/
  | malformed
  | invalidWait (text : String)
  /-- A wait has more minutes than can be counted as seconds. This is not reported: the program breaks off. -/
  | overflow
  | invalid (flaw : ConfigFlaw)
  deriving DecidableEq

def ConfigError.message : ConfigError → String
  | .unreadable path fault => "failed to read config " ++ path ++ ": " ++ fault.message
  | .malformed => "failed to parse config"
  | .invalidWait text => "invalid duration " ++ quoted text
  | .overflow => "attempt to multiply with overflow"
  | .invalid flaw => "invalid config: " ++ flaw.message

/-- A short word for the kind of error. -/
def ConfigError.kind : ConfigError → String
  | .unreadable _ _ => "Read"
  | .malformed => "Parse"
  | .invalidWait _ => "Duration"
  | .overflow => "Overflow"
  | .invalid _ => "Invalid"

/-- The milliseconds of a written wait. -/
def readWait (text : String) : Except ConfigError Nat :=
  (Wait.read text).mapError fun
    | .malformed => .invalidWait text
    | .overflow => .overflow

def RetryTexts.policy (texts : RetryTexts) : Except ConfigError RetryPolicy := do
  let initialPause ← readWait texts.initialPause
  let longestPause ← readWait texts.longestPause
  .ok (RetryPolicy.ofAttempts texts.attempts.toNat initialPause longestPause)

namespace Config

/-- Five or six digits. -/
def isPlmn (plmn : String) : Bool :=
  (plmn.length = 5 || plmn.length = 6) && plmn.toList.all Char.isDigit

def siteFlaw? (name : String) (site : Site) : Option ConfigFlaw :=
  if targetsAllSites name then some (.reservedName name)
  else if site.namespaceName.isEmpty || site.cluster.isEmpty then some (.unnamedSite name)
  else if !isPlmn site.plmn then some (.malformedPlmn name site.plmn)
  else none

def ascending : List Breakpoint → Bool
  | first :: second :: rest => first.ceiling.lt second.ceiling && ascending (second :: rest)
  | _ => true

def defaultFlaw? (config : Config) (target : String) : Option ConfigFlaw :=
  if targetsAllSites target || config.sites.contains target then none else some (.unknownDefault target)

def require (holds : Bool) (flaw : ConfigFlaw) : Option ConfigFlaw := if holds then none else some flaw

/-- The first broken rule. -/
def flaw? (config : Config) : Option ConfigFlaw :=
  [require (!config.sites.isEmpty) .noSite,
    config.sites.entries.findSome? fun (name, site) => siteFlaw? name site,
    require (config.profiles.contains Service.embb.key) .noFallbackProfile,
    require (ascending config.qos.breakpoints) .unorderedBreakpoints,
    (config.defaults.target :: config.defaults.byService.values).findSome? config.defaultFlaw?,
    require (config.rollout.retry.attempts ≠ 0) .noAttempt].findSome? id

/-- The written waits, in the order in which they are checked. -/
def waits (config : Config) : List String :=
  [config.rollout.retry.initialPause, config.rollout.retry.longestPause, config.rollout.gateTimeout,
    config.rollout.verify.gracePeriod, config.rollout.verify.pollInterval, config.rollout.verify.timeout]

def validate (config : Config) : Except ConfigError Unit :=
  match config.flaw? with
  | some flaw => .error (.invalid flaw)
  | none => config.waits.forM fun text => do
    let _ ← readWait text

end Config

end IntentRollout
