import IntentRollout.Binary64.Basic
import IntentRollout.Retry
import IntentRollout.Service
import IntentRollout.Table

/-!
The configuration of compiler and rollout: the sites, the sizes of services, the classes of latency, and
how an attempt is carried out. What a configuration leaves out has a default, which describes two edge
sites.
-/

namespace IntentRollout

structure Site where
  cluster : String
  /-- Where every resource for the site is created. -/
  namespaceName : String
  /-- Three digits of the country and two or three of the network. -/
  plmn : String
  gnb : String
  trackingArea : String
  metricsUrl : Option String := none
  syncStatusUrl : Option String := none
  deriving DecidableEq, Inhabited

structure Profile where
  cpu : String
  memory : String
  storage : String
  networkProfile : String
  sliceType : String
  deriving DecidableEq, Inhabited

/-- A latency class with the highest latency in it, in milliseconds. -/
structure Breakpoint where
  ceiling : Binary64
  fiveQi : UInt8
  deriving DecidableEq, Inhabited

structure Qos where
  /-- In ascending order of their ceilings. -/
  breakpoints : List Breakpoint :=
    [⟨Binary64.ofNat 1, 1⟩, ⟨Binary64.ofNat 10, 5⟩, ⟨Binary64.ofNat 50, 7⟩]
  /-- The class above the last ceiling. -/
  defaultFiveQi : UInt8 := 9
  deriving DecidableEq, Inhabited

/-- The class of the first breakpoint whose ceiling is not exceeded. -/
def Qos.classify (qos : Qos) (latency : Binary64) : UInt8 :=
  match qos.breakpoints.find? fun point => latency.le point.ceiling with
  | some point => point.fiveQi
  | none => qos.defaultFiveQi

/-- Targets for intents that name none; a service may have its own. -/
structure DefaultTargets where
  target : String := "all"
  byService : Table String String := Table.empty
  deriving DecidableEq, Inhabited

/-- How long to wait until a target has taken over what was published, as written. -/
structure VerifyTexts where
  gracePeriod : String := "5s"
  pollInterval : String := "2s"
  timeout : String := "120s"
  deriving DecidableEq, Inhabited

/-- How a failed call is tried again, as written. -/
structure RetryTexts where
  attempts : UInt32 := 3
  initialPause : String := "1s"
  longestPause : String := "10s"
  deriving DecidableEq, Inhabited

structure RolloutTexts where
  /-- The thresholds that the metrics of each target must keep. -/
  slo : String := "latency_p95_ms<=15,success_rate>=0.995"
  deliveryRoot : String := "."
  /-- The directory below `<deliveryRoot>/<site>` that takes the files of a site. -/
  siteDirectory : String := "deployments"
  reportDirectory : String := "reports"
  requiredFields : List String := ["intentId"]
  gateTimeout : String := "30s"
  verify : VerifyTexts := {}
  retry : RetryTexts := {}
  deriving DecidableEq, Inhabited

namespace Config

def defaultSites : Table String Site := Table.ofList [
  ("edge1", ⟨"edge-cluster-01", "edge1", "00101", "00001", "0001",
    some "http://172.16.4.45:30090/metrics", none⟩),
  ("edge2", ⟨"edge-cluster-02", "edge2", "00102", "00002", "0002",
    some "http://172.16.4.176:30090/metrics", none⟩)]

def defaultProfiles : Table String Profile := Table.ofList [
  ("embb", ⟨"8", "16Gi", "100Gi", "embb", "eMBB"⟩),
  ("mmtc", ⟨"4", "8Gi", "50Gi", "mmtc", "mMTC"⟩),
  ("urllc", ⟨"16", "32Gi", "200Gi", "urllc", "URLLC"⟩),
  ("generic", ⟨"2", "4Gi", "20Gi", "generic", "eMBB"⟩)]

end Config

structure Config where
  sites : Table String Site := Config.defaultSites
  /-- By the key of a service. -/
  profiles : Table String Profile := Config.defaultProfiles
  qos : Qos := {}
  defaults : DefaultTargets := {}
  rollout : RolloutTexts := {}
  deriving DecidableEq, Inhabited

def targetsAllSites (target : String) : Bool := target = "all" || target = "both"

namespace Config

def siteNames (config : Config) : List String := config.sites.keys

def knownSites (config : Config) : String := ", ".intercalate config.siteNames

/-- The profile of a service; without one of its own, the one of mobile broadband. -/
def profile? (config : Config) (service : Service) : Option Profile :=
  match config.profiles.get? service.key with
  | some profile => some profile
  | none => config.profiles.get? Service.embb.key

/-- The target of intents for a service that name none. -/
def defaultTarget (config : Config) (service : Service) : String :=
  (config.defaults.byService.get? service.key).getD config.defaults.target

def resolveTarget? (config : Config) (target : String) : Option (List String) :=
  if targetsAllSites target then some config.siteNames
  else if config.sites.contains target then some [target]
  else none

end Config

end IntentRollout
