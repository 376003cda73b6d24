import IntentRollout.Proofs.DigestKeys
import IntentRollout.Proofs.DocumentPlaces
import IntentRollout.Proofs.HashedBlocks
import IntentRollout.Proofs.PlainInstants
import IntentRollout.Proofs.RevisedFiles

/-! How far an instant reaches. Compilations at two instants fail alike, and are alike but for one annotation of each
provisioning request, whose file has the text of the instant in one place. So no other digest is new at another
instant, and no other file is written when a compilation is saved over an earlier one. -/

namespace IntentRollout

/-- Where the instant stands in the document of a provisioning request. -/
def Resource.stampPath : List String := ["metadata", "annotations", "timestamp"]

def Resource.stamped (instant : Instant) (resource : Resource) : Resource :=
  if resource.kind = .provisioningRequest then
    { resource with document := resource.document.put stampPath (.text instant.text) }
  else resource

def Bundle.stamped (instant : Instant) (bundle : Bundle) : Bundle :=
  { bundle with resources := bundle.resources.map (·.stamped instant) }

def Compilation.stamped (instant : Instant) (compilation : Compilation) : Compilation :=
  { compilation with instant, bundles := compilation.bundles.mapValues fun _ bundle => bundle.stamped instant }

namespace Resource

variable (instant : Instant) (resource : Resource)

@[simp] theorem kind_stamped : (resource.stamped instant).kind = resource.kind := by
  rw [stamped]
  split <;> rfl

@[simp] theorem fileName_stamped : (resource.stamped instant).fileName = resource.fileName := by
  rw [stamped]
  split <;> rfl

variable {resource}

private theorem stamped_of_eq (own : resource.kind = .provisioningRequest) : resource.stamped instant =
    { resource with document := resource.document.put stampPath (.text instant.text) } :=
  if_pos own

private theorem stamped_of_ne (other : resource.kind ≠ .provisioningRequest) : resource.stamped instant = resource :=
  if_neg other

end Resource

namespace SiteRequest

variable (request : SiteRequest) (instant : Instant)

def moved : SiteRequest := { request with instant }

private theorem provisioningRequest_moved :
    (request.moved instant).provisioningRequest = request.provisioningRequest.stamped instant := by
  rw [Resource.stamped_of_eq instant rfl, provisioningRequest, provisioningRequest, resource, resource]
  simp only [Resource.stampPath, Json.put_ofMembers, List.map_cons, List.map_nil, String.reduceEq, if_true, if_false,
    Json.put]
  rfl

private theorem provisioningRequest_instant :
    request.provisioningRequest.document.within? Resource.stampPath = some (.text request.instant.text) := by
  simp [Json.within?, provisioningRequest, resource, Json.member?_ofMembers, Entries.get?_cons, Resource.stampPath]

/-- The file of a provisioning request has the text of its instant in one place. -/
theorem provisioningRequest_contents : ∃ front back, ∀ instant : Instant,
    (request.provisioningRequest.stamped instant).contents = front ++ instant.text ++ back := by
  obtain ⟨front, depth, back, holds⟩ := Yaml.lines_put (by decide) request.provisioningRequest_instant 0
  refine ⟨.ofList front, .ofList ('\n' :: back), fun instant => ?_⟩
  have ending : Yaml.ended instant.text.toList = instant.text.toList ++ ['\n'] := by
    rw [Yaml.ended, instant.text_alphabet.2]
    rfl
  have leaf : Yaml.leaf depth (.text instant.text) = instant.text.toList := Yaml.scalar_instant depth instant
  rw [Resource.stamped_of_eq instant rfl, Resource.contents, Yaml.print, holds _ rfl, leaf, ending]
  apply String.toList_injective
  simp

private theorem provisioningRequest_of_mem {found : Resource} (member : found ∈ request.bundle.resources)
    (own : found.kind = .provisioningRequest) : found = request.provisioningRequest := by
  obtain rfl | rfl | ⟨_, rfl⟩ | rfl := eq_of_mem_resources member
  · rfl
  · cases own
  · cases own
  · cases own

/-- One file of a bundle is that of its provisioning request. -/
theorem filter_rendered : request.bundle.rendered.filter (·.kind = .provisioningRequest) =
    [request.provisioningRequest.rendered] := by
  rw [Bundle.rendered, bundle, members]
  split <;> rfl

variable {request instant} in
/-- An instant with the same text makes no difference. -/
theorem stamped_of_text (same : request.instant.text = instant.text) {found : Resource}
    (member : found ∈ request.bundle.resources) : found.stamped instant = found := by
  by_cases own : found.kind = .provisioningRequest
  · obtain rfl := request.provisioningRequest_of_mem member own
    rw [← provisioningRequest_moved, provisioningRequest, provisioningRequest]
    have told : (request.moved instant).instant.text = request.instant.text := same.symm
    rw [told]
    rfl
  · exact found.stamped_of_ne instant own

private theorem bundle_moved : (request.moved instant).bundle = request.bundle.stamped instant := by
  have members : (request.moved instant).members = request.members.map (·.stamped instant) := by
    rw [members, members, provisioningRequest_moved, List.map_append]
    change _ ++ (if request.intent.sla.isSome then _ else _) = _
    split <;> rfl
  have names : (request.moved instant).members.map Resource.fileName = request.members.map Resource.fileName := by
    rw [members, List.map_map]
    exact List.map_congr_left fun resource _ => Resource.fileName_stamped instant resource
  have list : (request.moved instant).kustomization (request.moved instant).members =
      (request.kustomization request.members).stamped instant := by
    rw [kustomization, names]
    rfl
  rw [bundle, list, members, Bundle.stamped, bundle, List.map_append]
  rfl

end SiteRequest

namespace Config

variable {config : Config} {intent : Intent} (one other : Instant)

private theorem compileSites_stamped (sites : List String) : config.compileSites other intent sites =
    (config.compileSites one intent sites).map (·.stamped other) := by
  have made (profile : Profile) (site : String) : ((config.siteBundle other intent profile site).map fun bundle =>
      (site, bundle)) = ((config.siteBundle one intent profile site).map fun bundle => (site, bundle)).map
        fun entry => (entry.1, entry.2.stamped other) := by
    rw [siteBundle, siteBundle]
    cases config.sites.get? site with
    | none => rfl
    | some entry =>
      have moved := SiteRequest.bundle_moved ⟨intent, site, entry, intent.service, profile, config.qos, one⟩ other
      exact congrArg (fun bundle => Except.ok (site, bundle)) moved
  rw [compileSites, compileSites]
  cases config.profile? intent.service with
  | none => rfl
  | some profile =>
    simp only [made, mapM_map_result]
    generalize (sites.mapM fun site => (config.siteBundle one intent profile site).map fun bundle => (site, bundle)) =
      bundles
    cases bundles with
    | error => rfl
    | ok bundles =>
      refine congrArg Except.ok ?_
      simp only [Compilation.stamped, Table.mapValues_ofList]

/-- Compilations for a list of targets fail alike at two instants, or are alike but for what the instant stamps. -/
theorem compileFor_stamped (targets : List String) : config.compileFor other intent targets =
    (config.compileFor one intent targets).map (·.stamped other) := by
  rw [compileFor, compileFor]
  cases targets.mapM config.resolveTarget with
  | error => rfl
  | ok groups => exact compileSites_stamped one other groups.flatten

private theorem compile_stamped : config.compile other intent = (config.compile one intent).map (·.stamped other) := by
  rw [compile, compile]
  cases config.intentTargets intent with
  | error => rfl
  | ok sites => exact compileSites_stamped one other sites

variable {one} {compilation : Compilation}

theorem Compiles.stamped (compiles : config.Compiles one intent compilation) :
    config.Compiles other intent (compilation.stamped other) := by
  obtain own | ⟨targets, listed⟩ := compiles
  · left
    rw [compile_stamped one, own]
    rfl
  · right
    refine ⟨targets, ?_⟩
    rw [compileFor_stamped one, listed]
    rfl

/-- In the file of a provisioning request there is one place for the text of an instant. -/
theorem Compiles.contents (compiles : config.Compiles one intent compilation) {entry : String × Bundle}
    (member : entry ∈ compilation.bundles.entries) {resource : Resource} (listed : resource ∈ entry.2.resources)
    (own : resource.kind = .provisioningRequest) :
    resource.document.within? Resource.stampPath = some (.text one.text) ∧
      ∃ front back, resource.contents = front ++ one.text ++ back ∧
        (resource.stamped other).contents = front ++ other.text ++ back := by
  obtain ⟨_, compiled⟩ := compiles.compiled
  obtain ⟨request, same, _, _, rfl, _⟩ := compiled.request (Table.get?_eq_some.mpr member)
  rw [← same] at listed
  obtain rfl := request.provisioningRequest_of_mem listed own
  obtain ⟨front, back, holds⟩ := request.provisioningRequest_contents
  have unmoved : request.provisioningRequest.stamped request.instant = request.provisioningRequest :=
    (request.provisioningRequest_moved request.instant).symm
  exact ⟨request.provisioningRequest_instant, front, back, unmoved ▸ holds request.instant, holds other⟩

end Config

namespace Compilation

variable {compilation : Compilation} {intent : Intent} {config : Config} {one other : Instant} {site : String}
  {file : RenderedFile}

private theorem mem_entries_stamped (other : Instant) {entry : String × Bundle}
    (member : entry ∈ compilation.bundles.entries) :
    (entry.1, entry.2.stamped other) ∈ (compilation.stamped other).bundles.entries :=
  List.mem_map_of_mem (f := fun entry : String × Bundle => (entry.1, entry.2.stamped other)) member

private theorem sites_stamped : (compilation.stamped other).sites = compilation.sites := by
  simp [sites, stamped, Table.keys, Table.mapValues]

private theorem renders_stamped : (compilation.stamped other).Renders site file ↔ ∃ bundle,
    (site, bundle) ∈ compilation.bundles.entries ∧ ∃ resource ∈ bundle.resources,
      (resource.stamped other).rendered = file := by
  simp [Renders, stamped, Table.mapValues, Bundle.rendered, Bundle.stamped]

private theorem follows_stamped : (compilation.stamped other).Follows compilation where
  sites site listed := sites_stamped ▸ listed
  names site file renders := by
    obtain ⟨bundle, member, resource, listed, rfl⟩ := renders_stamped.mp renders
    exact ⟨resource.rendered, ⟨bundle, member, List.mem_map_of_mem listed⟩, (resource.fileName_stamped other).symm⟩

/-- The resources that have no place for an instant keep their digests. -/
theorem digests_stamped (compiles : config.Compiles one intent compilation) {entry : String × Bundle}
    (member : entry ∈ compilation.bundles.entries) {resource : Resource} (listed : resource ∈ entry.2.resources)
    (foreign : resource.kind ≠ .provisioningRequest) :
    (∃ digest, compilation.checksums.get? (digestKey entry.1 resource) = some digest ∧
      (compilation.stamped other).checksums.get? (digestKey entry.1 resource) = some digest) ∧
    ∃ artifact, compilation.manifest.files.get? (artifactPath entry.1 resource.fileName) = some artifact ∧
      (compilation.stamped other).manifest.files.get? (artifactPath entry.1 resource.fileName) = some artifact := by
  have made := madeFor_of_compiles compiles
  have made' := madeFor_of_compiles (compiles.stamped other)
  have kept : resource ∈ (entry.2.stamped other).resources :=
    List.mem_map.mpr ⟨resource, listed, resource.stamped_of_ne other foreign⟩
  have member' := mem_entries_stamped other member
  refine ⟨⟨_, made.get?_checksums.mpr ⟨_, member, resource, listed, rfl, rfl⟩,
    made'.get?_checksums.mpr ⟨_, member', resource, kept, rfl, rfl⟩⟩, ?_⟩
  exact ⟨_, made.get?_files.mpr ⟨_, member, resource, listed, rfl, rfl⟩,
    made'.get?_files.mpr ⟨_, member', resource, kept, rfl, rfl⟩⟩

/-- The digest tells the files of a resource at two instants apart, if they are different. -/
def DigestsTell (compilation : Compilation) (other : Instant) : Prop :=
  ∀ entry ∈ compilation.bundles.entries, ∀ resource ∈ entry.2.resources,
    Digest.ofText (resource.stamped other).contents = Digest.ofText resource.contents →
      (resource.stamped other).contents = resource.contents

private theorem own_of_changed (renders : (compilation.stamped other).Renders site file)
    (changed : compilation.Changed site file) : file.kind = .provisioningRequest := by
  obtain ⟨bundle, member, resource, listed, rfl⟩ := renders_stamped.mp renders
  by_contra foreign
  have unstamped : resource.stamped other = resource :=
    resource.stamped_of_ne other fun own => foreign ((resource.kind_stamped other).trans own)
  rw [unstamped] at changed
  exact changed resource.rendered ⟨bundle, member, List.mem_map_of_mem listed⟩ rfl rfl

/-- If the texts of the instants differ, the files of provisioning requests are others. -/
theorem changed_of_own (compiles : config.Compiles one intent compilation) (orderly : compilation.Orderly)
    (differ : one.text ≠ other.text) (tell : compilation.DigestsTell other)
    (renders : (compilation.stamped other).Renders site file) (own : file.kind = .provisioningRequest) :
    compilation.Changed site file := by
  obtain ⟨bundle, member, resource, listed, rfl⟩ := renders_stamped.mp renders
  intro former renders' same digest
  have named : resource.rendered.name = (resource.stamped other).rendered.name := (resource.fileName_stamped other).symm
  obtain rfl := orderly.eq_of_name ⟨bundle, member, List.mem_map_of_mem listed⟩ renders' (named.trans same.symm)
  obtain ⟨_, front, back, before, after⟩ :=
    compiles.contents other member listed ((resource.kind_stamped other).symm.trans own)
  have contents := tell _ member resource listed digest.symm
  rw [before, after, String.append_left_inj, String.append_right_inj] at contents
  exact differ contents.symm

private theorem stamped_of_text (compiles : config.Compiles one intent compilation) (same : one.text = other.text) :
    compilation.stamped other = { compilation with instant := other } := by
  obtain ⟨_, compiled⟩ := compiles.compiled
  have bundles : (compilation.stamped other).bundles = compilation.bundles := by
    refine Table.ext ((List.map_congr_left fun entry member => ?_).trans (List.map_id _))
    obtain ⟨request, made, _, _, rfl, _⟩ := compiled.request (Table.get?_eq_some.mpr member)
    have resources : entry.2.resources.map (·.stamped other) = entry.2.resources := by
      rw [← made]
      refine (List.map_congr_left fun resource listed => ?_).trans (List.map_id _)
      exact SiteRequest.stamped_of_text same listed
    have bundle : entry.2.stamped other = entry.2 := by rw [Bundle.stamped, resources]
    exact congrArg (entry.1, ·) bundle
  exact congrArg (fun bundles => { compilation with instant := other, bundles }) bundles

def requestFile (intentId site : String) : String :=
  ResourceKind.provisioningRequest.fileName (ResourceKind.provisioningRequest.resourceName intentId site)

private theorem MadeFor.requestFile_eq (made : compilation.MadeFor intent) (renders : compilation.Renders site file)
    (own : file.kind = .provisioningRequest) : site ∈ compilation.sites ∧ file.name = requestFile intent.id site := by
  obtain ⟨bundle, member, listed⟩ := renders
  obtain ⟨resource, inside, rfl⟩ := List.mem_map.mp listed
  have kind : resource.kind = .provisioningRequest := own
  refine ⟨List.mem_map_of_mem member, ?_⟩
  change resource.kind.fileName resource.name = _
  rw [made.named member inside, kind]
  rfl

private theorem requestFiles (made : compilation.MadeFor intent) :
    (compilation.artifacts.filter (·.2.kind = .provisioningRequest)).map (·.1) =
      compilation.sites.map fun site => artifactPath site (requestFile intent.id site) := by
  have each : ∀ entry ∈ compilation.bundles.entries, (((entry.2.rendered.map fun file =>
      (artifactPath entry.1 file.name, file)).filter (·.2.kind = .provisioningRequest)).map (·.1)) =
        [artifactPath entry.1 (requestFile intent.id entry.1)] := by
    intro entry member
    obtain ⟨request, same, rfl, named⟩ := made entry member
    rw [List.filter_map, List.map_map, ← same, ← named]
    change (request.bundle.rendered.filter (·.kind = .provisioningRequest)).map _ = _
    rw [request.filter_rendered]
    rfl
  rw [artifacts, List.filter_flatMap, List.map_flatMap, List.flatMap_congr each, ← List.map_eq_flatMap, sites,
    Table.keys, List.map_map]
  rfl

/-- What comes of saving a compilation, as it is made at another instant, over itself, and skipping what is right. -/
structure Resaved (compilation : Compilation) (intentId : String) (other : Instant) (output : String)
    (base : List String) (middle : Volume) (again : Saved) (last : Volume) : Prop where
  done : ((compilation.stamped other).save output true).on middle = (.ok again, last)
  before : compilation.SavedAt output base middle
  after : (compilation.stamped other).SavedAt output base last
  confined : again.written.Sublist (compilation.sites.map fun site => artifactPath site (requestFile intentId site))
  idle : compilation.timestamp = other.text → again.written = [] ∧ last = middle
  stamped : compilation.timestamp ≠ other.text → compilation.DigestsTell other →
    again.written = compilation.sites.map fun site => artifactPath site (requestFile intentId site)
  kept : ∀ place, (∀ site ∈ compilation.sites, place ≠ base ++ [site, requestFile intentId site]) →
    place ≠ base ++ [Manifest.fileName] → last.file? place = middle.file? place

private theorem resaved (compiles : config.Compiles one intent compilation) (orderly : compilation.Orderly)
    (orderly' : (compilation.stamped other).Orderly) {output : String} {skip : Bool} {before middle : Volume}
    {report : Saved} (done : (compilation.save output skip).on before = (.ok report, middle)) :
    ∃ base again last, compilation.Resaved intent.id other output base middle again last := by
  have settled := settled_of_save orderly done
  obtain ⟨base, savedAt⟩ := savedAt_of_save orderly done
  have resaving : Resaving compilation (compilation.stamped other) output base middle :=
    ⟨orderly, orderly', follows_stamped, settled, savedAt⟩
  obtain ⟨again, last, saved, savedAt', kept⟩ := resaving.exists_save
  have timestamp : compilation.timestamp = one.text := by
    obtain ⟨_, compiled⟩ := compiles.compiled
    rw [compiled.shaped]
    rfl
  have requests := requestFiles (madeFor_of_compiles (compiles.stamped other))
  rw [sites_stamped] at requests
  refine ⟨base, again, last, saved, savedAt, savedAt', ?_, fun same => ?_, fun differ tell => ?_,
    fun place apart foreign => ?_⟩
  · rw [← requests]
    refine resaving.written_sublist saved savedAt' (·.2.kind = .provisioningRequest) fun site file renders changed => ?_
    exact decide_eq_true (own_of_changed renders changed)
  · have unstamped := stamped_of_text compiles (timestamp.symm.trans same)
    have manifest : (compilation.stamped other).manifest = compilation.manifest := by
      have stamp : { compilation with instant := other }.timestamp = compilation.timestamp := same.symm
      rw [unstamped, Compilation.manifest, Compilation.manifest, stamp]
      rfl
    have settled' : (compilation.stamped other).Settled output middle := by
      refine ⟨?_, ?_, ?_⟩
      · rw [unstamped]
        exact settled.made
      · rw [unstamped]
        exact settled.right
      · rw [manifest]
        exact settled.manifest
    obtain ⟨report', saved', none⟩ := save_of_settled settled'
    rw [saved] at saved'
    cases saved'
    exact ⟨none, rfl⟩
  · rw [timestamp] at differ
    rw [resaving.written_of_save saved savedAt' (·.2.kind = .provisioningRequest)]
    · exact requests
    · intro site file renders
      rw [decide_eq_true_iff]
      exact ⟨changed_of_own compiles orderly differ tell renders, own_of_changed renders⟩
  · refine kept place ?_ foreign
    rintro ⟨site, file, renders, changed, rfl⟩
    have made := madeFor_of_compiles (compiles.stamped other)
    obtain ⟨listed, named⟩ := made.requestFile_eq renders (own_of_changed renders changed)
    exact apart site (sites_stamped ▸ listed) (named ▸ rfl)

end Compilation

/-- What is left of a difference between two instants. -/
structure Config.Confined (config : Config) (intent : Intent) (one other : Instant) : Prop where
  targeted : ∀ targets, config.compileFor other intent targets =
    (config.compileFor one intent targets).map (·.stamped other)
  own : config.compile other intent = (config.compile one intent).map (·.stamped other)
  contents : ∀ compilation, config.Compiles one intent compilation → ∀ entry ∈ compilation.bundles.entries,
    ∀ resource ∈ entry.2.resources, resource.kind = .provisioningRequest →
      resource.document.within? Resource.stampPath = some (.text one.text) ∧
        ∃ front back, resource.contents = front ++ one.text ++ back ∧
          (resource.stamped other).contents = front ++ other.text ++ back
  digests : ∀ compilation, config.Compiles one intent compilation → ∀ entry ∈ compilation.bundles.entries,
    ∀ resource ∈ entry.2.resources, resource.kind ≠ .provisioningRequest →
      (∃ digest, compilation.checksums.get? (Compilation.digestKey entry.1 resource) = some digest ∧
        (compilation.stamped other).checksums.get? (Compilation.digestKey entry.1 resource) = some digest) ∧
      ∃ artifact, compilation.manifest.files.get? (artifactPath entry.1 resource.fileName) = some artifact ∧
        (compilation.stamped other).manifest.files.get? (artifactPath entry.1 resource.fileName) = some artifact
  /-- Only whole seconds count. -/
  seconds : one.seconds = other.seconds → (1000000000 ≤ one.nanos ↔ 1000000000 ≤ other.nanos) → one.text = other.text
  saving : ∀ document compilation, Intent.ofJson document = .ok intent → config.Compiles one intent compilation →
    (∀ site ∈ compilation.sites, Path.Plain site) → ∀ output skip before report middle,
      (compilation.save output skip).on before = (.ok report, middle) →
        ∃ base again last, compilation.Resaved intent.id other output base middle again last

theorem Config.instants_confined (config : Config) (intent : Intent) (one other : Instant) :
    config.Confined intent one other where
  targeted := compileFor_stamped one other
  own := compile_stamped one other
  contents compilation compiles entry member resource listed own := compiles.contents other member listed own
  digests compilation compiles entry member resource listed foreign :=
    Compilation.digests_stamped compiles member listed foreign
  seconds := Instant.text_congr
  saving document compilation read compiles plain output skip before report middle done := by
    have orderly := (Compilation.madeFor_of_compiles compiles).orderly read plain
    have plain' : ∀ site ∈ (compilation.stamped other).sites, Path.Plain site := by
      rwa [Compilation.sites_stamped]
    have orderly' := (Compilation.madeFor_of_compiles (compiles.stamped other)).orderly read plain'
    exact Compilation.resaved compiles orderly orderly' done

namespace Compilation

/-- The states after the blocks that come before the instant. -/
def sharedStates : List Digest.State := [
  ⟨0x7f2c4535, 0x4effc23b, 0x87a622a4, 0x0bfb2f40, 0x26c4b3d8, 0x8cec7544, 0xd3b147b4, 0x752629eb⟩,
  ⟨0x33dd03c0, 0x265872c1, 0x01ed251a, 0x9a917820, 0xee385383, 0x80e6769e, 0xd0c9fd2e, 0x2ce855d2⟩,
  ⟨0x682cc4a1, 0x7ee0bfc6, 0xc2913910, 0x202eb0dc, 0x01962ade, 0xf2af0986, 0x96a5fd77, 0x0075e3b8⟩]

def firstStates : List Digest.State := [
  ⟨0x049a766f, 0x9e801fa9, 0xd3fc3c5e, 0x275c77aa, 0xbb601a78, 0x141b6528, 0x24a96849, 0x7a5c614d⟩,
  ⟨0xb20f75a2, 0xf35da717, 0xed44dbc8, 0x9a9f1f5b, 0xde9ff8a2, 0x3755f85e, 0x15b67fbe, 0xacdb3794⟩,
  ⟨0x3bb89007, 0xa4a0eb39, 0x65a9e7ae, 0x496ed523, 0x5b1b9e68, 0x827bb9f1, 0x90059fc5, 0x04dd55a1⟩,
  ⟨0x85564152, 0x0170e047, 0x9e757d81, 0x9c4b8401, 0x988d7c10, 0x628251cb, 0x9349e04e, 0x61b4ae06⟩,
  ⟨0x3a938181, 0xf7f6a3d7, 0x9b509363, 0xf2c7331a, 0xb24ef336, 0xd80c49e0, 0xeacf9efc, 0xdc3b67c1⟩,
  ⟨0xce074b26, 0x75cf5d60, 0x51b63177, 0xf291d5c8, 0xb5d1d6b0, 0xf0d1e95a, 0x7092babc, 0x63f9194f⟩,
  ⟨0xf1c9b015, 0xd873a045, 0x9b76a673, 0xa8300a0e, 0x9225de07, 0x7b76eee1, 0x06217a19, 0x2f98c856⟩,
  ⟨0xf8500783, 0xfdbad20f, 0x79c6f807, 0x889fb6a9, 0xa1ce2b57, 0x5b19ffa1, 0x66f3d745, 0xb5423a6f⟩]

def secondStates : List Digest.State := [
  ⟨0x0281a796, 0x49d71c90, 0x45dae9ba, 0xf694f139, 0xf0b5d56c, 0xd7ab4205, 0x6ba0fc05, 0x93e8b099⟩,
  ⟨0x9d2500c3, 0x05a2832e, 0x4c33555e, 0x3489fd6a, 0x044a8ae2, 0xd133fafe, 0x4fd3679b, 0x4ce161ee⟩,
  ⟨0x71d374fe, 0x3f3039eb, 0xdf8204d4, 0x24afacb3, 0x47d46bc2, 0x7479be3e, 0x0636fdb1, 0x761cd8e5⟩,
  ⟨0x79157e14, 0x1e2f2bf6, 0x78a28e17, 0xd55e6172, 0x15e1e126, 0x467ed763, 0x19f665c6, 0x39fdfa47⟩,
  ⟨0x1743f476, 0x7bf45377, 0xaaa3419c, 0xd3112ec0, 0x238ecf0a, 0x78657180, 0x9a92f6d2, 0x789526d5⟩,
  ⟨0xaf82bd9d, 0xc0340441, 0x30db7645, 0x7d405b95, 0xdec49a39, 0xef260c49, 0x2d090049, 0x49d7418d⟩,
  ⟨0x7874b415, 0xec9184cc, 0x936a6327, 0x407f21fd, 0x82b498da, 0xc5475b9e, 0xe759cead, 0x6216d266⟩,
  ⟨0x86fa16a5, 0x4c8eb20c, 0x488061a2, 0x7e79375a, 0x2a1ebb52, 0xc90b81c3, 0xabe4712a, 0x2851cf62⟩]

private theorem leadsThrough_seconds :
    ∀ second ∈ [("1970-01-01T00:00:00Z", firstStates), ("1970-01-01T00:00:01Z", secondStates)],
      Digest.leadsThrough (sharedStates ++ second.2) Digest.initial
        (Digest.message (Yaml.lines 0 (stampedDocument second.1))) = true := by
  simp only [List.forall_mem_cons, stampedDocument, Yaml.lines, Yaml.memberLines, Yaml.memberValue, Yaml.hasLines,
    Yaml.isList, Yaml.leaf, reduceIte, Bool.false_eq_true, String.reduceToList, Nat.reduceAdd]
  exact ⟨by decide +kernel, by decide +kernel, List.forall_mem_nil _⟩

private theorem text_firstSecond : Instant.text ⟨0, 0⟩ = "1970-01-01T00:00:00Z" := by
  decide +kernel

private theorem text_nextSecond : Instant.text ⟨1, 0⟩ = "1970-01-01T00:00:01Z" := by
  decide +kernel

private theorem bareRequest_contents (instant : Instant) : (bareRequest.provisioningRequest.stamped instant).contents =
    String.ofList (Yaml.lines 0 (stampedDocument instant.text)) := by
  have stamped (former : String) :
      (stampedDocument former).put Resource.stampPath (.text instant.text) = stampedDocument instant.text := rfl
  rw [Resource.stamped_of_eq instant rfl, Resource.contents, Yaml.print, bareRequest_document, stamped]

/-- The digest tells the first two seconds apart. -/
theorem bare_digestsTell : bare.DigestsTell ⟨1, 0⟩ := by
  intro entry member resource listed same
  obtain rfl : entry = ("edge1", bareRequest.bundle) := List.mem_singleton.mp member
  by_cases own : resource.kind = .provisioningRequest
  · obtain rfl := bareRequest.provisioningRequest_of_mem listed own
    have unmoved : bareRequest.provisioningRequest.stamped ⟨0, 0⟩ = bareRequest.provisioningRequest :=
      (bareRequest.provisioningRequest_moved ⟨0, 0⟩).symm
    have differ : ((sharedStates ++ secondStates).getLastD Digest.initial).text ≠
        ((sharedStates ++ firstStates).getLastD Digest.initial).text := by decide +kernel
    rw [← unmoved, bareRequest_contents, text_firstSecond] at same
    obtain ⟨led, later, -⟩ := List.forall_mem_cons.mp leadsThrough_seconds |>.imp_right List.forall_mem_cons.mp
    rw [unmoved, bareRequest_contents, text_nextSecond, Digest.ofText_of_leadsThrough led,
      Digest.ofText_of_leadsThrough later] at same
    exact absurd same differ
  · rw [resource.stamped_of_ne _ own]

/-- A second later the provisioning request is written again and nothing else; within a second nothing is. -/
theorem bare_resaved : bareSaved.1.toOption.isSome = true ∧
    (∃ again last, ((bare.stamped ⟨1, 0⟩).save "out" true).on bareSaved.2 = (.ok again, last) ∧
      again.written = ["edge1/i1-edge1-provisioning-request.yaml"]) ∧
    ∃ again, ((bare.stamped ⟨0, 5⟩).save "out" true).on bareSaved.2 = (.ok again, bareSaved.2) ∧ again.written = [] := by
  have kept : bareSaved.1.toOption.isSome = true := by decide +kernel
  obtain ⟨report, saved⟩ := Option.isSome_iff_exists.mp kept
  have read : Intent.ofJson (.object [("intentId", .text "i1")]) = .ok Config.bareIntent := rfl
  have compiles : Config.Compiles {} ⟨0, 0⟩ Config.bareIntent bare := .inr ⟨_, bare_compiled⟩
  have sites : bare.sites = ["edge1"] := rfl
  have plain : ∀ site ∈ bare.sites, Path.Plain site := by
    rw [sites]
    decide
  have done : (bare.save "out" true).on (.ofDirectory ["work"]) = (.ok report, bareSaved.2) := run_eq_ok saved
  have again (other : Instant) := (Config.instants_confined {} Config.bareIntent ⟨0, 0⟩ other).saving _ bare read
    compiles plain "out" true _ report _ done
  have zero : bare.timestamp = "1970-01-01T00:00:00Z" := text_firstSecond
  refine ⟨kept, ?_, ?_⟩
  · obtain ⟨_, again, last, resaved⟩ := again ⟨1, 0⟩
    refine ⟨again, last, resaved.done, ?_⟩
    rw [resaved.stamped (by rw [zero, text_nextSecond]; decide) bare_digestsTell, sites]
    rfl
  · obtain ⟨_, again, last, resaved⟩ := again ⟨0, 5⟩
    have same : Instant.text ⟨0, 5⟩ = "1970-01-01T00:00:00Z" := by decide +kernel
    obtain ⟨none, unchanged⟩ := resaved.idle (zero.trans same.symm)
    have saved := resaved.done
    rw [unchanged] at saved
    exact ⟨again, saved, none⟩

end Compilation

end IntentRollout
