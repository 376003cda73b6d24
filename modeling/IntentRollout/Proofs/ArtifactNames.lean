import IntentRollout.Bundle.Manifest
import IntentRollout.Proofs.PathNames
import IntentRollout.Proofs.ResourceDocuments
import IntentRollout.Proofs.SiteIndependence

/-! Names of artifacts. The files of a bundle have different names, each of which leads one step down; so the
path of an artifact tells its site and its file. -/

namespace IntentRollout

namespace Intent

theorem isIdCharacter_of_idFault? {id : String} (sound : idFault? id = none) :
    ∀ character ∈ id.toList, isIdCharacter character = true := by
  rw [idFault?] at sound
  split at sound
  · cases sound
  · split at sound
    · cases sound
    next none =>
      intro character member
      simpa using List.find?_eq_none.mp none character member

variable {document : Json} {intent : Intent}

/-- Identifier and agreement are those that are read from the document. -/
theorem parts_of_ofJson (read : ofJson document = .ok intent) :
    readId document = .ok intent.id ∧ readSla document = .ok intent.sla := by
  cases document with
  | object members =>
    simp only [ofJson, bind_eq_ok] at read
    obtain ⟨id, named, sla, agreed, _, _, _, _, _, _, same⟩ := read
    cases same
    exact ⟨named, agreed⟩
  | _ => cases read

private theorem idFault?_of_ofJson (read : ofJson document = .ok intent) : idFault? intent.id = none := by
  have named := (parts_of_ofJson read).1
  rw [readId] at named
  split at named
  · split at named
    · cases named
    · split at named
      · cases named
      next sound => exact Except.ok.inj named ▸ sound
  all_goals cases named

theorem not_mem_id (read : ofJson document = .ok intent) {character : Char}
    (refused : isIdCharacter character = false) : character ∉ intent.id.toList := by
  intro member
  rw [isIdCharacter_of_idFault? (idFault?_of_ofJson read) character member] at refused
  cases refused

theorem slashless_id (read : ofJson document = .ok intent) : '/' ∉ intent.id.toList := not_mem_id read (by decide)

end Intent

namespace ResourceKind

def ending : ResourceKind → List Char
  | .provisioningRequest => ['t', '.', 'y', 'a', 'm', 'l']
  | .configMap => ['p', '.', 'y', 'a', 'm', 'l']
  | .networkSlice => ['e', '.', 'y', 'a', 'm', 'l']
  | .kustomization => ['n', '.', 'y', 'a', 'm', 'l']

theorem fileName_ends (kind : ResourceKind) (name : String) :
    ∃ front, (kind.fileName name).toList = front ++ kind.ending := by
  cases kind with
  | provisioningRequest => exact ⟨name.toList ++ "-provisioning-reques".toList, by simp [fileName, ending]⟩
  | configMap => exact ⟨name.toList ++ "-configma".toList, by simp [fileName, ending]⟩
  | networkSlice => exact ⟨name.toList ++ "-networkslic".toList, by simp [fileName, ending]⟩
  | kustomization => exact ⟨"kustomizatio".toList, by simp [fileName, ending]⟩

/-- Texts that end as the files of two kinds do are different, whatever stands before. -/
theorem kind_of_ending {kind other : ResourceKind} {front front' : List Char}
    (same : front ++ kind.ending = front' ++ other.ending) : kind = other := by
  have alike : kind.ending = other.ending := by
    refine (List.append_inj' same ?_).2
    cases kind <;> cases other <;> rfl
  cases kind <;> cases other <;> first | rfl | cases alike

private theorem kind_of_fileName {kind other : ResourceKind} {name name' : String}
    (same : kind.fileName name = other.fileName name') : kind = other := by
  obtain ⟨front, ends⟩ := kind.fileName_ends name
  obtain ⟨front', ends'⟩ := other.fileName_ends name'
  rw [same, ends'] at ends
  exact (kind_of_ending ends).symm

theorem plain_fileName (kind : ResourceKind) {name : String} (slashless : '/' ∉ name.toList) :
    Path.Plain (kind.fileName name) := by
  have long : 2 < (kind.fileName name).toList.length := by
    obtain ⟨front, ends⟩ := kind.fileName_ends name
    have six : kind.ending.length = 6 := by cases kind <;> rfl
    rw [ends, List.length_append, six]
    omega
  refine ⟨?_, ?_, ?_, ?_⟩
  · intro same
    rw [same] at long
    simp at long
  · cases kind <;> simp [fileName, slashless]
  · intro same
    rw [same] at long
    simp at long
  · intro same
    rw [same] at long
    simp at long

theorem slashless_resourceName (kind : ResourceKind) {id site : String} (slashless : '/' ∉ id.toList)
    (plain : Path.Plain site) : '/' ∉ (kind.resourceName id site).toList := by
  have inner := plain.slashless
  rw [resourceName.eq_def]
  cases kind <;> simp [slashless, inner]

end ResourceKind

namespace SiteRequest

theorem kinds_nodup (request : SiteRequest) : (request.bundle.resources.map (·.kind)).Nodup := by
  rw [bundle, members]
  dsimp only
  split
  · change [ResourceKind.provisioningRequest, .configMap, .networkSlice, .kustomization].Nodup
    decide
  · change [ResourceKind.provisioningRequest, .configMap, .kustomization].Nodup
    decide

theorem name_of_mem (request : SiteRequest) {resource : Resource} (member : resource ∈ request.bundle.resources) :
    resource.name = resource.kind.resourceName request.intent.id request.siteName := by
  obtain rfl | rfl | ⟨_, rfl⟩ | rfl := eq_of_mem_resources member
  all_goals rfl

end SiteRequest

namespace Compilation

/-- Sites and files have names that lead one step down, and no two files of a site have one name. -/
structure Orderly (compilation : Compilation) : Prop where
  sites : ∀ entry ∈ compilation.bundles.entries, Path.Plain entry.1
  names : ∀ entry ∈ compilation.bundles.entries, ∀ file ∈ entry.2.rendered, Path.Plain file.name
  distinct : ∀ entry ∈ compilation.bundles.entries, (entry.2.rendered.map (·.name)).Nodup

theorem nodup_rendered (request : SiteRequest) : (request.bundle.rendered.map (·.name)).Nodup := by
  have kinds := List.pairwise_map.mp request.kinds_nodup
  rw [Bundle.rendered, List.map_map]
  refine List.pairwise_map.mpr (kinds.imp fun differs same => differs ?_)
  exact ResourceKind.kind_of_fileName same

/-- The bundles are those of requests for their own sites, all about one intent. -/
def MadeFor (compilation : Compilation) (intent : Intent) : Prop :=
  ∀ entry ∈ compilation.bundles.entries,
    ∃ request : SiteRequest, request.bundle = entry.2 ∧ request.intent = intent ∧ request.siteName = entry.1

theorem madeFor_of_compiled {config : Config} {instant : Instant} {intent : Intent} {sites : List String}
    {compilation : Compilation} (compiled : config.Compiled instant intent sites compilation) :
    compilation.MadeFor intent := by
  intro entry member
  obtain ⟨request, same, about, named, _⟩ := compiled.request (Table.get?_eq_some.mpr member)
  exact ⟨request, same, about, named⟩

theorem madeFor_of_compiles {config : Config} {instant : Instant} {intent : Intent}
    {compilation : Compilation} (compiles : config.Compiles instant intent compilation) :
    compilation.MadeFor intent := by
  obtain ⟨_, compiled⟩ := compiles.compiled
  exact madeFor_of_compiled compiled

theorem MadeFor.nodup_names {compilation : Compilation} {intent : Intent} (made : compilation.MadeFor intent)
    {entry : String × Bundle} (member : entry ∈ compilation.bundles.entries) :
    (entry.2.rendered.map (·.name)).Nodup := by
  obtain ⟨request, same, _⟩ := made entry member
  rw [← same]
  exact nodup_rendered request

/-- What is made for the intent of a document is orderly, if the sites have plain names. -/
theorem MadeFor.orderly {compilation : Compilation} {document : Json} {intent : Intent}
    (made : compilation.MadeFor intent) (read : Intent.ofJson document = .ok intent)
    (plain : ∀ site ∈ compilation.sites, Path.Plain site) : compilation.Orderly := by
  have slashless := Intent.slashless_id read
  have sites (entry : String × Bundle) (member : entry ∈ compilation.bundles.entries) : Path.Plain entry.1 :=
    plain entry.1 (List.mem_map_of_mem member)
  refine ⟨sites, ?_, fun entry member => made.nodup_names member⟩
  intro entry member file listed
  obtain ⟨request, same, about, named⟩ := made entry member
  rw [← same] at listed
  obtain ⟨resource, inside, rfl⟩ := List.mem_map.mp listed
  refine ResourceKind.plain_fileName resource.kind ?_
  rw [request.name_of_mem inside, about, named]
  exact resource.kind.slashless_resourceName slashless (sites entry member)

theorem orderly_of_compileFor {config : Config} {instant : Instant} {intent : Intent} {targets : List String}
    {document : Json} {compilation : Compilation} (read : Intent.ofJson document = .ok intent)
    (compiled : config.compileFor instant intent targets = .ok compilation)
    (plain : ∀ site ∈ compilation.sites, Path.Plain site) : compilation.Orderly := by
  obtain ⟨_, _, _, bundles⟩ := Config.compiled_of_compileFor compiled
  exact (madeFor_of_compiled bundles).orderly read plain

def Renders (compilation : Compilation) (site : String) (file : RenderedFile) : Prop :=
  ∃ bundle, (site, bundle) ∈ compilation.bundles.entries ∧ file ∈ bundle.rendered

namespace Orderly

variable {compilation : Compilation} {site : String} {file : RenderedFile}

theorem plain_site (orderly : compilation.Orderly) (renders : compilation.Renders site file) : Path.Plain site := by
  obtain ⟨bundle, member, _⟩ := renders
  exact orderly.sites _ member

theorem plain_name (orderly : compilation.Orderly) (renders : compilation.Renders site file) :
    Path.Plain file.name := by
  obtain ⟨bundle, member, listed⟩ := renders
  exact orderly.names _ member file listed

end Orderly

end Compilation

private theorem Path.pieces_ofParts {names : List String} (some : names ≠ [])
    (slashless : ∀ name ∈ names, '/' ∉ name.toList) :
    pieces '/' (Path.ofParts names).toList = names.map String.toList := by
  induction names with
  | nil => exact absurd rfl some
  | cons name rest ih =>
    rw [List.forall_mem_cons] at slashless
    cases rest with
    | nil =>
      have alone : Path.ofParts [name] = name := rfl
      rw [alone, pieces_of_not_mem slashless.1]
      rfl
    | cons next rest =>
      have cut : Path.ofParts (name :: next :: rest) = name ++ "/" ++ Path.ofParts (next :: rest) :=
        String.intercalate_cons_cons
      have slash : (name ++ "/" ++ Path.ofParts (next :: rest)).toList =
          name.toList ++ '/' :: (Path.ofParts (next :: rest)).toList := by simp
      rw [cut, slash, pieces_append, pieces_of_not_mem slashless.1, ih (List.cons_ne_nil _ _) slashless.2]
      rfl

theorem Path.ofParts_injective {first second : List String} (some : first ≠ []) (some' : second ≠ [])
    (slashless : ∀ name ∈ first, '/' ∉ name.toList) (slashless' : ∀ name ∈ second, '/' ∉ name.toList)
    (same : Path.ofParts first = Path.ofParts second) : first = second := by
  have cut := pieces_ofParts some slashless
  rw [same, pieces_ofParts some' slashless'] at cut
  exact (List.map_injective_iff.mpr fun _ _ => String.toList_injective) cut.symm

theorem artifactPath_eq (site name : String) : artifactPath site name = Path.ofParts [site, name] := by
  rw [artifactPath, Path.ofParts, String.intercalate_cons_cons, String.intercalate_singleton]

private theorem artifactPath_injective {site site' name name' : String} (plain : Path.Plain site)
    (plain' : Path.Plain site')
    (named : Path.Plain name) (named' : Path.Plain name') (same : artifactPath site name = artifactPath site' name') :
    site = site' ∧ name = name' := by
  rw [artifactPath_eq, artifactPath_eq] at same
  have parts : [site, name] = [site', name'] := by
    refine Path.ofParts_injective (List.cons_ne_nil _ _) (List.cons_ne_nil _ _) ?_ ?_ same
    · simp [plain.slashless, named.slashless]
    · simp [plain'.slashless, named'.slashless]
  simpa using parts

namespace Compilation

variable {compilation : Compilation} {path : String} {artifact : Artifact}

theorem mem_artifacts {file : RenderedFile} : (path, file) ∈ compilation.artifacts ↔
    ∃ site, compilation.Renders site file ∧ path = artifactPath site file.name := by
  rw [artifacts, List.mem_flatMap]
  constructor
  · rintro ⟨⟨site, bundle⟩, member, listed⟩
    obtain ⟨other, inside, same⟩ := List.mem_map.mp listed
    cases same
    exact ⟨site, ⟨bundle, member, inside⟩, rfl⟩
  · rintro ⟨site, ⟨bundle, member, inside⟩, rfl⟩
    exact ⟨(site, bundle), member, List.mem_map.mpr ⟨file, inside, rfl⟩⟩

namespace Orderly

theorem nodup_paths (orderly : compilation.Orderly) : (compilation.artifacts.map (·.1)).Nodup := by
  rw [artifacts, List.map_flatMap, List.nodup_flatMap]
  constructor
  · rintro ⟨site, bundle⟩ member
    have names := List.pairwise_map.mp (orderly.distinct _ member)
    have plain := orderly.sites _ member
    have named := orderly.names _ member
    rw [List.map_map]
    refine List.pairwise_map.mpr (names.imp_of_mem ?_)
    intro first second listed listed' differs same
    exact differs (artifactPath_injective plain plain (named first listed) (named second listed') same).2
  · have keys := List.pairwise_map.mp compilation.bundles.nodup_keys
    refine keys.imp_of_mem ?_
    rintro ⟨site, bundle⟩ ⟨site', bundle'⟩ member member' differs
    refine List.disjoint_left.mpr fun path one two => ?_
    simp only [List.map_map, List.mem_map, Function.comp_apply] at one two
    obtain ⟨file, listed, rfl⟩ := one
    obtain ⟨file', listed', same⟩ := two
    have sites := artifactPath_injective (orderly.sites _ member') (orderly.sites _ member)
      (orderly.names _ member' file' listed') (orderly.names _ member file listed) same
    exact differs sites.1.symm

/-- The manifest lists what was rendered, under its path. -/
theorem mem_files (orderly : compilation.Orderly) : (path, artifact) ∈ compilation.manifest.files.entries ↔
    ∃ site file, compilation.Renders site file ∧ path = artifactPath site file.name ∧ artifact = file.artifact := by
  rw [← Table.get?_eq_some, manifest, Table.get?_ofList_eq_some, List.mem_map]
  constructor
  · rintro ⟨⟨path', file⟩, member, same⟩
    cases same
    obtain ⟨site, renders, rfl⟩ := mem_artifacts.mp member
    exact ⟨site, file, renders, rfl, rfl⟩
  · rintro ⟨site, file, renders, rfl, rfl⟩
    exact ⟨(_, file), mem_artifacts.mpr ⟨site, renders, rfl⟩, rfl⟩
  · rw [List.map_map]
    exact orderly.nodup_paths

theorem contains_files (orderly : compilation.Orderly) : compilation.manifest.files.contains path = true ↔
    ∃ site file, compilation.Renders site file ∧ path = artifactPath site file.name := by
  rw [Table.contains_iff, Table.mem_keys]
  simp only [Table.get?_eq_some, orderly.mem_files]
  constructor
  · rintro ⟨_, site, file, renders, same, _⟩
    exact ⟨site, file, renders, same⟩
  · rintro ⟨site, file, renders, same⟩
    exact ⟨_, site, file, renders, same, rfl⟩

end Orderly

end Compilation

end IntentRollout
