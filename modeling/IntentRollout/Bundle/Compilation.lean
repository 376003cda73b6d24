import IntentRollout.Bundle.Resource

/-!
Compiling an intent to one bundle for each of its sites. The bundle of a site depends on the intent, on
the entry of that site, on the profile of the service and on the instant, and on nothing else.
-/

namespace IntentRollout

inductive CompileWarning where
  /-- The service is unknown, and another one is taken. -/
  | unknownService (given : String) (fallback : Service)
  deriving DecidableEq

def CompileWarning.message : CompileWarning → String
  | .unknownService given fallback =>
    "unknown service type " ++ quoted given ++ ", using the " ++ fallback.key ++ " profile"

inductive CompileError where
  | malformed (error : IntentError)
  | unknownSite (site : String) (known : String)
  | missingProfile (service : Service)
  | notJson (error : Json.Error)
  | file (path : String) (fault : FileFault)
  /-- A directory cannot be walked through. -/
  | walk (path : String) (fault : FileFault)

def CompileError.walkMessage (path : String) (fault : FileFault) : String :=
  "IO error for operation on " ++ path ++ ": " ++ fault.message

def CompileError.message : CompileError → String
  | .malformed error => "malformed intent: " ++ error.message
  | .unknownSite site known => "unknown site " ++ quoted site ++ " (configured: " ++ known ++ ")"
  | .missingProfile service => "no resource profile configured for service type " ++ service.key
  | .notJson error => "failed to encode JSON: " ++ error.message
  | .file path fault => "I/O error on " ++ path ++ ": " ++ fault.message
  | .walk path fault =>
    "I/O error on " ++ path ++ ": " ++ CompileError.walkMessage path fault

/-- A short word for the kind of error. -/
def CompileError.kind : CompileError → String
  | .malformed _ => "MalformedIntent"
  | .unknownSite _ _ => "UnknownSite"
  | .missingProfile _ => "MissingProfile"
  | .notJson _ => "Json"
  | .file _ _ => "Io"
  | .walk _ _ => "Io"

structure Compilation where
  intentId : String
  instant : Instant
  service : Service
  /-- By the name of the site. -/
  bundles : Table String Bundle
  warnings : List CompileWarning

namespace Compilation

def timestamp (compilation : Compilation) : String := compilation.instant.text

def sites (compilation : Compilation) : List String := compilation.bundles.keys

/-- How many resources there are in all bundles. -/
def resourceCount (compilation : Compilation) : Nat :=
  (compilation.bundles.values.flatMap fun bundle => bundle.resources).length

/-- The key of a digest by site, kind and name. -/
def digestKey (site : String) (resource : Resource) : String :=
  site ++ "/" ++ resource.kind.name ++ "/" ++ resource.name

def checksums (compilation : Compilation) : Table String String :=
  Table.ofList <| compilation.bundles.entries.flatMap fun (site, bundle) =>
    bundle.resources.map fun resource =>
      (digestKey site resource, Digest.ofText resource.contents)

end Compilation

namespace Config

def resolveTarget (config : Config) (target : String) : Except CompileError (List String) :=
  match config.resolveTarget? target with
  | some sites => .ok sites
  | none => .error (.unknownSite target config.knownSites)

/-- The sites that some targets stand for, each where it first appears. -/
def resolveTargets (config : Config) (targets : List String) : Except CompileError (List String) := do
  .ok (← targets.mapM config.resolveTarget).flatten.eraseDups

/-- The target of an intent: its own, or the default of its service. -/
def intentTarget (config : Config) (intent : Intent) : String :=
  intent.targetSite.getD (config.defaultTarget intent.service)

def intentTargets (config : Config) (intent : Intent) : Except CompileError (List String) :=
  config.resolveTarget (config.intentTarget intent)

end Config

/-- The warning about a service that is not known. -/
def Intent.warnings (intent : Intent) : List CompileWarning :=
  match intent.serviceType with
  | none => []
  | some given => if (Service.resolve? given).isSome then [] else [.unknownService given .embb]

namespace Config

def siteBundle (config : Config) (instant : Instant) (intent : Intent) (profile : Profile)
    (siteName : String) : Except CompileError Bundle :=
  match config.sites.get? siteName with
  | none => .error (.unknownSite siteName config.knownSites)
  | some site =>
    .ok (SiteRequest.bundle
      ⟨intent, siteName, site, intent.service, profile, config.qos, instant⟩)

def compileSites (config : Config) (instant : Instant) (intent : Intent) (sites : List String) :
    Except CompileError Compilation := do
  match config.profile? intent.service with
  | none => .error (.missingProfile intent.service)
  | some profile =>
    let bundles ← sites.mapM fun site =>
      (config.siteBundle instant intent profile site).map fun bundle => (site, bundle)
    .ok {
      intentId := intent.id, instant, service := intent.service, bundles := Table.ofList bundles
      warnings := intent.warnings }

/-- Compiles for the sites that an intent names. -/
def compile (config : Config) (instant : Instant) (intent : Intent) :
    Except CompileError Compilation := do
  config.compileSites instant intent (← config.intentTargets intent)

/-- Compiles for the sites that some targets stand for. -/
def compileFor (config : Config) (instant : Instant) (intent : Intent) (targets : List String) :
    Except CompileError Compilation := do
  config.compileSites instant intent (← targets.mapM config.resolveTarget).flatten

/-- Compiles for the sites that some targets stand for, each taken once, or without any for those that an intent
names. -/
def compileRequested (config : Config) (instant : Instant) (intent : Intent) (requested : List String) :
    Except CompileError Compilation :=
  if requested.isEmpty then config.compile instant intent
  else do config.compileFor instant intent (← config.resolveTargets requested)

end Config

end IntentRollout
