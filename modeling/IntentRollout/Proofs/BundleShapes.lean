import IntentRollout.Proofs.ArtifactNames

/-! The shape of a bundle. The last resource of a bundle lists the files of the others, and it is made before the
bundle is; so it is proved here of the bundle as it is rendered that no file is missing from the list and that
nothing else is in it. -/

namespace IntentRollout

def ResourceKind.listed (agreed : Bool) : List ResourceKind :=
  [.provisioningRequest, .configMap] ++ (if agreed then [.networkSlice] else []) ++ [.kustomization]

/-- A document tells the kind and the name of its resource. The list of files has the namespace for all of them
beside its metadata; every other document has it among its metadata. -/
structure Resource.Labelled (resource : Resource) (namespaceName : String) : Prop where
  kind : resource.document.member? "kind" = some (.text resource.kind.name)
  name : resource.document.within? ["metadata", "name"] = some (.text resource.name)
  inside : resource.document.within? ["metadata", "namespace"] =
    if resource.kind = .kustomization then none else some (.text namespaceName)
  beside : resource.document.member? "namespace" =
    if resource.kind = .kustomization then some (.text namespaceName) else none

structure Bundle.Shaped (bundle : Bundle) (site namespaceName : String) (agreed : Bool) : Prop where
  own : bundle.site = site
  kinds : bundle.resources.map (·.kind) = ResourceKind.listed agreed
  distinct : (bundle.rendered.map (·.name)).Nodup
  /-- The names of the other files stand in increasing order, each of them once. -/
  grouped : ∃ names, ((bundle.get? .kustomization).bind fun list => list.document.member? "resources") =
      some (.texts names) ∧ names.Pairwise (· < ·) ∧
    ∀ name, name ∈ names ↔ ∃ file ∈ bundle.rendered, file.kind ≠ .kustomization ∧ file.name = name
  labelled : ∀ resource ∈ bundle.resources, resource.Labelled namespaceName

/-- Names that are put in order increase strictly, if each of them is there once. -/
theorem increasing_mergeSort {names : List String} (distinct : names.Nodup) :
    (names.mergeSort fun first second => first ≤ second).Pairwise (· < ·) := by
  have ordered : (names.mergeSort fun first second => first ≤ second).Pairwise (· ≤ ·) := by
    refine (List.pairwise_mergeSort ?_ ?_ names).imp of_decide_eq_true
    · intro first second third below above
      exact decide_eq_true (String.le_trans (of_decide_eq_true below) (of_decide_eq_true above))
    · intro first second
      rw [Bool.or_eq_true, decide_eq_true_iff, decide_eq_true_iff]
      exact String.le_total first second
  have differ := (List.mergeSort_perm names fun first second => first ≤ second).nodup_iff.mpr distinct
  refine ordered.imp₂ ?_ differ
  intro first second below differ
  rcases KeyOrder.trichotomy first second with increasing | same | decreasing
  · exact increasing
  · exact absurd same differ
  · exact absurd decreasing (String.not_lt.mpr below)

namespace SiteRequest

variable (request : SiteRequest)

private theorem kind_ne_of_mem_members {resource : Resource} (member : resource ∈ request.members) :
    resource.kind ≠ .kustomization := by
  intro same
  rw [members, List.mem_append, List.mem_pair] at member
  obtain (rfl | rfl) | sliced := member
  · cases same
  · cases same
  · split at sliced
    · obtain rfl := List.mem_singleton.mp sliced
      cases same
    · cases sliced

private theorem kinds_eq : request.bundle.resources.map (·.kind) = ResourceKind.listed request.intent.sla.isSome := by
  rw [bundle, members, ResourceKind.listed]
  split <;> rfl

private theorem get?_kustomization :
    request.bundle.get? .kustomization = some (request.kustomization request.members) := by
  rw [Bundle.get?, bundle, List.find?_append, List.find?_eq_none.mpr]
  · rfl
  · intro resource member same
    exact request.kind_ne_of_mem_members member (of_decide_eq_true same)

private theorem kustomization_resources (members : List Resource) :
    (request.kustomization members).document.member? "resources" =
      some (.texts ((members.map Resource.fileName).mergeSort fun first second => first ≤ second)) := by
  simp [kustomization, resource, Json.member?_ofMembers, Entries.get?_cons]

/-- The files that the list is made from are those of the bundle that are not the list. -/
theorem mem_fileName_members {name : String} : name ∈ request.members.map Resource.fileName ↔
    ∃ file ∈ request.bundle.rendered, file.kind ≠ .kustomization ∧ file.name = name := by
  rw [Bundle.rendered, List.mem_map]
  constructor
  · rintro ⟨resource, member, rfl⟩
    exact ⟨resource.rendered, List.mem_map_of_mem (List.mem_append_left _ member),
      request.kind_ne_of_mem_members member, rfl⟩
  · rintro ⟨file, listed, other, rfl⟩
    obtain ⟨resource, member, rfl⟩ := List.mem_map.mp listed
    rcases List.mem_append.mp member with member | last
    · exact ⟨resource, member, rfl⟩
    · obtain rfl := List.mem_singleton.mp last
      exact absurd rfl other

private theorem nodup_fileName_members : (request.members.map Resource.fileName).Nodup := by
  have distinct := Compilation.nodup_rendered request
  rw [Bundle.rendered, bundle, List.map_map, List.map_append] at distinct
  exact distinct.of_append_left

private theorem labelled {resource : Resource} (member : resource ∈ request.bundle.resources) :
    resource.Labelled request.site.namespaceName := by
  obtain rfl | rfl | ⟨_, rfl⟩ | rfl := eq_of_mem_resources member
  all_goals
    constructor <;> simp [provisioningRequest, configMap, networkSlice, kustomization, SiteRequest.resource,
      Json.within?, Json.member?_ofMembers, Entries.get?_cons, Entries.get?_nil]

theorem shaped : request.bundle.Shaped request.siteName request.site.namespaceName request.intent.sla.isSome where
  own := rfl
  kinds := request.kinds_eq
  distinct := Compilation.nodup_rendered request
  grouped := by
    refine ⟨_, ?_, increasing_mergeSort request.nodup_fileName_members, ?_⟩
    · rw [request.get?_kustomization]
      exact request.kustomization_resources request.members
    · intro name
      rw [List.mem_mergeSort]
      exact request.mem_fileName_members
  labelled _ := request.labelled

end SiteRequest

/-- An intent has an agreement if its document has an object there, be it an empty one. -/
theorem Intent.sla_of_ofJson {document : Json} {intent : Intent} (read : ofJson document = .ok intent) :
    intent.sla.isSome = true ↔ ∃ members, document.member? IntentField.sla.name = some (.object members) := by
  have agreed := (parts_of_ofJson read).2
  rw [readSla] at agreed
  split at agreed
  next absent =>
    rw [absent, ← Except.ok.inj agreed]
    exact iff_of_false nofun nofun
  next null =>
    rw [null, ← Except.ok.inj agreed]
    exact iff_of_false nofun nofun
  next members found =>
    split at agreed
    next sla _ =>
      rw [← Except.ok.inj agreed]
      exact iff_of_true rfl ⟨members, found⟩
    · cases agreed
  · cases agreed

namespace Config

/-- Whatever is compiled, each site has a bundle of its own that lists all its other files. -/
theorem bundles_shaped {config : Config} {instant : Instant} {intent : Intent} {compilation : Compilation}
    (compiles : config.Compiles instant intent compilation) :
    (∀ name bundle, compilation.bundles.get? name = some bundle → ∃ site, config.sites.get? name = some site ∧
      bundle.Shaped name site.namespaceName intent.sla.isSome) ∧
    ∀ document, Intent.ofJson document = .ok intent → (intent.sla.isSome = true ↔
      ∃ members, document.member? IntentField.sla.name = some (.object members)) := by
  refine ⟨?_, fun document read => Intent.sla_of_ofJson read⟩
  intro name bundle held
  obtain ⟨_, compiled⟩ := compiles.compiled
  obtain ⟨request, rfl, rfl, rfl, _, known⟩ := compiled.request held
  exact ⟨request.site, known, request.shaped⟩

def agreedIntent : Intent :=
  ⟨"i1", none, none, none, some {}, [], .object [("intentId", .text "i1"), ("sla", .object [])]⟩

theorem empty_agreement_sliced : ∃ compilation, Config.compile {} ⟨0, 0⟩ agreedIntent = .ok compilation ∧
    compilation.sites = ["edge1", "edge2"] ∧
    (∀ name bundle, compilation.bundles.get? name = some bundle → ∃ site, defaultSites.get? name = some site ∧
      bundle.Shaped name site.namespaceName true) ∧
    Intent.ofJson agreedIntent.document = .ok agreedIntent ∧
    ∃ members, agreedIntent.document.member? IntentField.sla.name = some (.object members) := by
  have read : Intent.ofJson agreedIntent.document = .ok agreedIntent := rfl
  obtain ⟨compilation, done, sites⟩ : ∃ compilation,
      Config.compile {} ⟨0, 0⟩ agreedIntent = .ok compilation ∧ compilation.sites = ["edge1", "edge2"] :=
    ⟨_, rfl, rfl⟩
  have shaped := bundles_shaped (.inl done)
  exact ⟨compilation, done, sites, shaped.1, read, (shaped.2 _ read).mp rfl⟩

end Config

end IntentRollout
