import IntentRollout.Binary64.Text
import IntentRollout.Config.Basic
import IntentRollout.Digest
import IntentRollout.Instant
import IntentRollout.Intent
import IntentRollout.Yaml.Printer

/-!
Resources of a site. A bundle has a provisioning request, a map that embeds the intent, a network slice if
the intent has a service-level agreement, and a list of the files of the others. The instant stands in
the provisioning request only.
-/

namespace IntentRollout

/-- Kinds of resources, in the order of a bundle. -/
inductive ResourceKind where
  | provisioningRequest
  | configMap
  | networkSlice
  | kustomization
  deriving DecidableEq, Inhabited

namespace ResourceKind

def all : List ResourceKind := [.provisioningRequest, .configMap, .networkSlice, .kustomization]

def name : ResourceKind → String
  | .provisioningRequest => "ProvisioningRequest"
  | .configMap => "ConfigMap"
  | .networkSlice => "NetworkSlice"
  | .kustomization => "Kustomization"

/-- The name of the resource of an intent for a site. -/
def resourceName (kind : ResourceKind) (intentId site : String) : String :=
  match kind with
  | .provisioningRequest => intentId ++ "-" ++ site
  | .configMap => "intent-" ++ intentId ++ "-" ++ site
  | .networkSlice => "slice-" ++ intentId ++ "-" ++ site
  | .kustomization => "kustomization-" ++ intentId ++ "-" ++ site

/-- The file of a resource inside the directory of its site. -/
def fileName (kind : ResourceKind) (resourceName : String) : String :=
  match kind with
  | .provisioningRequest => resourceName ++ "-provisioning-request.yaml"
  | .configMap => resourceName ++ "-configmap.yaml"
  | .networkSlice => resourceName ++ "-networkslice.yaml"
  | .kustomization => "kustomization.yaml"

end ResourceKind

structure Resource where
  kind : ResourceKind
  name : String
  document : Json
  deriving Inhabited

def Resource.fileName (resource : Resource) : String := resource.kind.fileName resource.name

/-- The contents of the file of a resource. -/
def Resource.contents (resource : Resource) : String := Yaml.print resource.document

/-- A file for the directory of a site. -/
structure RenderedFile where
  name : String
  kind : ResourceKind
  contents : String
  deriving DecidableEq, Inhabited

def Resource.rendered (resource : Resource) : RenderedFile :=
  ⟨resource.fileName, resource.kind, resource.contents⟩

structure Bundle where
  site : String
  resources : List Resource
  deriving Inhabited

namespace Bundle

def get? (bundle : Bundle) (kind : ResourceKind) : Option Resource :=
  bundle.resources.find? (·.kind = kind)

/-- The files of a bundle in its order. -/
def rendered (bundle : Bundle) : List RenderedFile := bundle.resources.map Resource.rendered

end Bundle

/-! ### Agreements -/

namespace Sla

/-- A rate in megabits a second. -/
def rateText (throughput : Binary64) : String := throughput.plainText ++ "Mbps"

def member (name : String) : Option String → List (String × Json)
  | some text => [(name, .text text)]
  | none => []

def requirements (sla : Sla) : Json := .ofMembers <|
  member "availability" (sla.availability.map fun value => value.plainText ++ "%") ++
  member "maxConnections" (sla.connections.map toString) ++
  member "maxLatency" (sla.latency.map fun value => value.plainText ++ "ms") ++
  member "minThroughput" (sla.throughput.map rateText)

/-- The class of the latency; without one, the class above all ceilings. -/
def fiveQi (sla : Sla) (qos : Qos) : UInt8 :=
  match sla.latency with
  | some latency => qos.classify latency
  | none => qos.defaultFiveQi

def qosParameters (sla : Sla) (qos : Qos) : Json := .ofMembers <|
  ("5qi", .natural (sla.fiveQi qos).toNat) :: member "gfbr" (sla.throughput.map rateText)

end Sla

/-! ### Documents -/

/-- What the resources of a site are made of. -/
structure SiteRequest where
  intent : Intent
  siteName : String
  site : Site
  service : Service
  profile : Profile
  qos : Qos
  instant : Instant

namespace SiteRequest

def resourceName (request : SiteRequest) (kind : ResourceKind) : String :=
  kind.resourceName request.intent.id request.siteName

def resource (request : SiteRequest) (kind : ResourceKind) (document : Json) : Resource :=
  ⟨kind, request.resourceName kind, document⟩

def labels (request : SiteRequest) : Json := .ofMembers [
  ("intent-id", .text request.intent.id), ("service-type", .text request.service.canonicalName),
  ("target-site", .text request.siteName)]

/-- Labels without the service. -/
def shortLabels (request : SiteRequest) : Json := .ofMembers [
  ("intent-id", .text request.intent.id), ("target-site", .text request.siteName)]

def networkConfig (request : SiteRequest) : Json := .ofMembers [
  ("gnbId", .text request.site.gnb), ("networkProfile", .text request.profile.networkProfile),
  ("plmnId", .text request.site.plmn), ("sliceType", .text request.profile.sliceType),
  ("tac", .text request.site.trackingArea)]

def resourceRequirements (request : SiteRequest) : Json := .ofMembers [
  ("cpu", .text request.profile.cpu), ("memory", .text request.profile.memory),
  ("storage", .text request.profile.storage)]

def description (request : SiteRequest) : String :=
  "Provisioning request for " ++ request.service.canonicalName ++ " service at " ++ request.siteName

def provisioningSpec (request : SiteRequest) : Json := .ofMembers <| [
  ("description", .text request.description), ("networkConfig", request.networkConfig),
  ("resourceRequirements", request.resourceRequirements),
  ("targetCluster", .text request.site.cluster)] ++
  (request.intent.sla.map fun sla => ("slaRequirements", sla.requirements)).toList

def provisioningRequest (request : SiteRequest) : Resource :=
  request.resource .provisioningRequest <| .ofMembers [
    ("apiVersion", .text "o2ims.provisioning.oran.org/v1alpha1"),
    ("kind", .text ResourceKind.provisioningRequest.name),
    ("metadata", .ofMembers [
      ("annotations", .ofMembers [
        ("generated-by", .text "edgeflow-compiler"),
        ("resource-profile", .text (request.intent.resourceProfile.getD "standard")),
        ("timestamp", .text request.instant.text)]),
      ("labels", request.labels),
      ("name", .text (request.resourceName .provisioningRequest)),
      ("namespace", .text request.site.namespaceName)]),
    ("spec", request.provisioningSpec)]

def configMap (request : SiteRequest) : Resource :=
  request.resource .configMap <| .ofMembers [
    ("apiVersion", .text "v1"),
    ("kind", .text ResourceKind.configMap.name),
    ("data", .ofMembers [
      ("intent.json", .text request.intent.document.pretty),
      ("serviceType", .text (request.intent.serviceType.getD "unknown")),
      ("site", .text request.siteName)]),
    ("metadata", .ofMembers [
      ("labels", request.shortLabels),
      ("name", .text (request.resourceName .configMap)),
      ("namespace", .text request.site.namespaceName)])]

/-- The characters whose codes fill exactly some bytes, and the others; nothing if a character would be
cut. -/
def splitBytes? : Nat → List Char → Option (List Char × List Char)
  | _, [] => none
  | bytes, character :: rest =>
    if bytes < character.utf8Size then none
    else if bytes = character.utf8Size then some ([character], rest)
    else (splitBytes? (bytes - character.utf8Size) rest).map fun (first, others) =>
      (character :: first, others)

/-- The codes of country and network: three bytes, and the others. -/
def plmnCodes (plmn : String) : String × String :=
  match splitBytes? 3 plmn.toList with
  | some (country, network) => (String.ofList country, String.ofList network)
  | none => (plmn, "")

def sliceSpec (request : SiteRequest) : Json :=
  let codes := plmnCodes request.site.plmn
  .ofMembers <| [
    ("plmn", .ofMembers [("mcc", .text codes.1), ("mnc", .text codes.2)]),
    ("sliceType", .text request.profile.sliceType)] ++
    (request.intent.sla.map fun sla => ("qos", sla.qosParameters request.qos)).toList

def networkSlice (request : SiteRequest) : Resource :=
  request.resource .networkSlice <| .ofMembers [
    ("apiVersion", .text "workload.nephio.org/v1alpha1"),
    ("kind", .text ResourceKind.networkSlice.name),
    ("metadata", .ofMembers [
      ("labels", request.labels),
      ("name", .text (request.resourceName .networkSlice)),
      ("namespace", .text request.site.namespaceName)]),
    ("spec", request.sliceSpec)]

/-- A list of the files of other resources, in the order of their names. -/
def kustomization (request : SiteRequest) (members : List Resource) : Resource :=
  request.resource .kustomization <| .ofMembers [
    ("apiVersion", .text "kustomize.config.k8s.io/v1beta1"),
    ("kind", .text ResourceKind.kustomization.name),
    ("commonLabels", request.shortLabels),
    ("metadata", .ofMembers [
      ("annotations", .ofMembers [("config.kubernetes.io/local-config", .text "true")]),
      ("name", .text (request.resourceName .kustomization))]),
    ("namespace", .text request.site.namespaceName),
    ("resources", .texts ((members.map Resource.fileName).mergeSort fun first second => first ≤ second))]

/-- The resources that a bundle lists in its last one. -/
def members (request : SiteRequest) : List Resource :=
  [request.provisioningRequest, request.configMap] ++
    (if request.intent.sla.isSome then [request.networkSlice] else [])

def bundle (request : SiteRequest) : Bundle :=
  ⟨request.siteName, request.members ++ [request.kustomization request.members]⟩

end SiteRequest

end IntentRollout
