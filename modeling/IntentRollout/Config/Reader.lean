import IntentRollout.Config.Validity
import IntentRollout.Toml.Printer
import IntentRollout.Toml.Reader

/-!
Configurations as texts. Settings may be given by name, or as a list in the order of their names here;
names that are not known are ignored. Whole sections may be left out, and so may the settings of
sections that have defaults, but a site, a profile or a breakpoint must be complete.
-/

namespace IntentRollout

namespace Config

/-- The settings of a section by name. In a list they stand in order, and all must be there if there are
no defaults. -/
def settings? (names : List String) (lenient : Bool) : Toml → Option (List (String × Toml))
  | .table entries => some entries
  | .array items => if lenient || names.length ≤ items.length then some (names.zip items) else none
  | .moment _ => if lenient then some [] else none
  | _ => none

def find? (settings : List (String × Toml)) (name : String) : Option Toml :=
  (settings.find? (·.1 == name)).map (·.2)

def required? {α : Type} (read? : Toml → Option α) (settings : List (String × Toml)) (name : String) :
    Option α := do
  read? (← find? settings name)

def optional? {α : Type} (read? : Toml → Option α) (settings : List (String × Toml)) (name : String) :
    Option (Option α) :=
  match find? settings name with
  | some value => (read? value).map some
  | none => some none

def defaulted? {α : Type} (read? : Toml → Option α) (settings : List (String × Toml)) (name : String)
    (default : α) : Option α :=
  (optional? read? settings name).map (·.getD default)

def table? {α : Type} (read? : Toml → Option α) (value : Toml) : Option (Table String α) := do
  let entries ← (← value.entries?).mapM fun (name, value) => (read? value).map fun value => (name, value)
  some (Table.ofList entries)

def list? {α : Type} (read? : Toml → Option α) (value : Toml) : Option (List α) := do
  (← value.array?).mapM read?

def siteSettings : List String :=
  ["cluster", "namespace", "plmn_id", "gnb_id", "tac", "metrics_url", "sync_status_url"]

def site? (value : Toml) : Option Site := do
  let settings ← settings? siteSettings false value
  some {
    cluster := ← required? Toml.text? settings "cluster"
    namespaceName := ← required? Toml.text? settings "namespace"
    plmn := ← required? Toml.text? settings "plmn_id"
    gnb := ← required? Toml.text? settings "gnb_id"
    trackingArea := ← required? Toml.text? settings "tac"
    metricsUrl := ← optional? Toml.text? settings "metrics_url"
    syncStatusUrl := ← optional? Toml.text? settings "sync_status_url" }

def profileSettings : List String := ["cpu", "memory", "storage", "network_profile", "slice_type"]

def readProfile? (value : Toml) : Option Profile := do
  let settings ← settings? profileSettings false value
  some {
    cpu := ← required? Toml.text? settings "cpu"
    memory := ← required? Toml.text? settings "memory"
    storage := ← required? Toml.text? settings "storage"
    networkProfile := ← required? Toml.text? settings "network_profile"
    sliceType := ← required? Toml.text? settings "slice_type" }

def byte? (value : Toml) : Option UInt8 := (value.naturalBelow? UInt8.size).map UInt8.ofNat

def word? (value : Toml) : Option UInt32 := (value.naturalBelow? UInt32.size).map UInt32.ofNat

def breakpoint? (value : Toml) : Option Breakpoint := do
  let settings ← settings? ["max_latency_ms", "five_qi"] false value
  some {
    ceiling := ← required? Toml.float? settings "max_latency_ms"
    fiveQi := ← required? byte? settings "five_qi" }

def qos? (value : Toml) : Option Qos := do
  let settings ← settings? ["breakpoints", "default_five_qi"] true value
  let standard : Qos := {}
  some {
    breakpoints := ← defaulted? (list? breakpoint?) settings "breakpoints" standard.breakpoints
    defaultFiveQi := ← defaulted? byte? settings "default_five_qi" standard.defaultFiveQi }

def defaults? (value : Toml) : Option DefaultTargets := do
  let settings ← settings? ["target_site", "target_site_by_service"] true value
  let standard : DefaultTargets := {}
  some {
    target := ← defaulted? Toml.text? settings "target_site" standard.target
    byService := ← defaulted? (table? Toml.text?) settings "target_site_by_service" standard.byService }

def verify? (value : Toml) : Option VerifyTexts := do
  let settings ← settings? ["grace_period", "poll_interval", "timeout"] true value
  let standard : VerifyTexts := {}
  some {
    gracePeriod := ← defaulted? Toml.text? settings "grace_period" standard.gracePeriod
    pollInterval := ← defaulted? Toml.text? settings "poll_interval" standard.pollInterval
    timeout := ← defaulted? Toml.text? settings "timeout" standard.timeout }

def retry? (value : Toml) : Option RetryTexts := do
  let settings ← settings? ["max_attempts", "initial_backoff", "max_backoff"] true value
  let standard : RetryTexts := {}
  some {
    attempts := ← defaulted? word? settings "max_attempts" standard.attempts
    initialPause := ← defaulted? Toml.text? settings "initial_backoff" standard.initialPause
    longestPause := ← defaulted? Toml.text? settings "max_backoff" standard.longestPause }

def rolloutSettings : List String :=
  ["slo", "delivery_root", "site_dir", "report_dir", "required_fields", "gate_timeout", "verify", "retry"]

def rollout? (value : Toml) : Option RolloutTexts := do
  let settings ← settings? rolloutSettings true value
  let standard : RolloutTexts := {}
  some {
    slo := ← defaulted? Toml.text? settings "slo" standard.slo
    deliveryRoot := ← defaulted? Toml.text? settings "delivery_root" standard.deliveryRoot
    siteDirectory := ← defaulted? Toml.text? settings "site_dir" standard.siteDirectory
    reportDirectory := ← defaulted? Toml.text? settings "report_dir" standard.reportDirectory
    requiredFields := ← defaulted? (list? Toml.text?) settings "required_fields" standard.requiredFields
    gateTimeout := ← defaulted? Toml.text? settings "gate_timeout" standard.gateTimeout
    verify := ← defaulted? verify? settings "verify" standard.verify
    retry := ← defaulted? retry? settings "retry" standard.retry }

/-- The configuration that a tree of settings describes. -/
def ofToml? (value : Toml) : Option Config := do
  let settings ← settings? ["sites", "profiles", "qos", "defaults", "rollout"] true value
  let standard : Config := {}
  some {
    sites := ← defaulted? (table? site?) settings "sites" standard.sites
    profiles := ← defaulted? (table? readProfile?) settings "profiles" standard.profiles
    qos := ← defaulted? qos? settings "qos" standard.qos
    defaults := ← defaulted? defaults? settings "defaults" standard.defaults
    rollout := ← defaulted? rollout? settings "rollout" standard.rollout }

def read (text : String) : Except ConfigError Config := do
  match (Toml.read? text).bind ofToml? with
  | none => .error .malformed
  | some config =>
    config.validate
    .ok config

def load (volume : Volume) (path : String) : Except ConfigError Config := do
  read (← (volume.readText path).mapError (.unreadable path))

end Config

/-! ### Writing -/

def optionalSetting (name : String) : Option String → List (String × Toml)
  | some value => [(name, .text value)]
  | none => []

def Site.toToml (site : Site) : Toml := .table <|
  [("cluster", .text site.cluster), ("namespace", .text site.namespaceName), ("plmn_id", .text site.plmn),
    ("gnb_id", .text site.gnb), ("tac", .text site.trackingArea)] ++
  optionalSetting "metrics_url" site.metricsUrl ++ optionalSetting "sync_status_url" site.syncStatusUrl

def Profile.toToml (profile : Profile) : Toml := .table [
  ("cpu", .text profile.cpu), ("memory", .text profile.memory), ("storage", .text profile.storage),
  ("network_profile", .text profile.networkProfile), ("slice_type", .text profile.sliceType)]

def Breakpoint.toToml (point : Breakpoint) : Toml := .table [
  ("max_latency_ms", .float point.ceiling), ("five_qi", .integer point.fiveQi.toNat)]

def Qos.toToml (qos : Qos) : Toml := .table [
  ("breakpoints", .array (qos.breakpoints.map Breakpoint.toToml)),
  ("default_five_qi", .integer qos.defaultFiveQi.toNat)]

def DefaultTargets.toToml (defaults : DefaultTargets) : Toml := .table [
  ("target_site", .text defaults.target),
  ("target_site_by_service", .table (defaults.byService.mapValues fun _ target => .text target).entries)]

def VerifyTexts.toToml (verify : VerifyTexts) : Toml := .table [
  ("grace_period", .text verify.gracePeriod), ("poll_interval", .text verify.pollInterval),
  ("timeout", .text verify.timeout)]

def RetryTexts.toToml (retry : RetryTexts) : Toml := .table [
  ("max_attempts", .integer retry.attempts.toNat), ("initial_backoff", .text retry.initialPause),
  ("max_backoff", .text retry.longestPause)]

def RolloutTexts.toToml (rollout : RolloutTexts) : Toml := .table [
  ("slo", .text rollout.slo), ("delivery_root", .text rollout.deliveryRoot),
  ("site_dir", .text rollout.siteDirectory), ("report_dir", .text rollout.reportDirectory),
  ("required_fields", .array (rollout.requiredFields.map .text)),
  ("gate_timeout", .text rollout.gateTimeout), ("verify", rollout.verify.toToml),
  ("retry", rollout.retry.toToml)]

namespace Config

/-- Every setting with its name; endpoints that are absent are left out. -/
def settings (config : Config) : List (String × Toml) := [
  ("sites", .table (config.sites.mapValues fun _ site => site.toToml).entries),
  ("profiles", .table (config.profiles.mapValues fun _ profile => profile.toToml).entries),
  ("qos", config.qos.toToml), ("defaults", config.defaults.toToml), ("rollout", config.rollout.toToml)]

def print (config : Config) : String := Toml.print config.settings

end Config

end IntentRollout
