import IntentRollout.Proofs.ArtifactNames

/-! Keys of digests. A key and a path tell the site and the kind of what they stand for, whatever characters the
name of the site is made of; so no two resources of a compilation share a key, and no two of its files a path. -/

namespace IntentRollout

namespace ResourceKind

def start : ResourceKind → String
  | .provisioningRequest => ""
  | .configMap => "intent-"
  | .networkSlice => "slice-"
  | .kustomization => "kustomization-"

theorem resourceName_eq (kind : ResourceKind) (id site : String) :
    kind.resourceName id site = kind.start ++ id ++ "-" ++ site := by
  cases kind with
  | provisioningRequest =>
    rw [start, String.empty_append]
    rfl
  | configMap | networkSlice | kustomization => rfl

/-- What stands in a key between the site and the intent. -/
def middle (kind : ResourceKind) : List Char := ("/" ++ kind.name ++ "/" ++ kind.start).toList

private theorem middle_head (kind : ResourceKind) : kind.middle.head? = some '/' := by
  cases kind <;> decide

private theorem middle_length (kind : ResourceKind) : 18 ≤ kind.middle.length ∧ kind.middle.length ≤ 29 := by
  cases kind <;> decide

private theorem not_mem_middle (kind : ResourceKind) : '/' ∉ (kind.middle.drop 1).take 5 := by
  cases kind <;> decide

private theorem eq_of_middle_length {kind other : ResourceKind} (same : kind.middle.length = other.middle.length) :
    kind = other := by
  revert same
  cases kind <;> cases other <;> decide

/-- The slash after the site does not come back among the next characters. -/
theorem ne_middle_append {kind : ResourceKind} {more rest tail : List Char} (nonempty : more ≠ [])
    (short : more.length ≤ 5) (slash : rest.head? = some '/') : kind.middle ++ tail ≠ more ++ rest := by
  intro same
  have long := kind.middle_length
  have positive : 0 < more.length := List.length_pos_of_ne_nil nonempty
  apply kind.not_mem_middle
  apply List.mem_of_getElem? (i := more.length - 1)
  calc ((kind.middle.drop 1).take 5)[more.length - 1]?
      = kind.middle[more.length]? := by
        rw [List.getElem?_take_of_lt (by omega), List.getElem?_drop, Nat.add_sub_cancel' positive]
    _ = (kind.middle ++ tail)[more.length]? := (List.getElem?_append_left (by omega)).symm
    _ = rest.head? := by rw [same, List.getElem?_append_right (Nat.le_refl _), Nat.sub_self, List.head?_eq_getElem?]
    _ = some '/' := slash

private theorem eq_nil_of_key {kind other : ResourceKind} {id site more : List Char}
    (same : kind.middle ++ (id ++ '-' :: site) = more ++ (other.middle ++ (id ++ '-' :: (site ++ more)))) :
    more = [] ∧ kind = other := by
  have lengths := congrArg List.length same
  simp only [List.length_append, List.length_cons] at lengths
  have long := kind.middle_length
  have long' := other.middle_length
  by_cases empty : more = []
  · subst empty
    exact ⟨rfl, eq_of_middle_length (by simp at lengths; omega)⟩
  · refine absurd same (ne_middle_append empty (by omega) ?_)
    rw [List.head?_append, other.middle_head]
    rfl

end ResourceKind

namespace Compilation

/-- Of two sites with one key, one starts with the other and has nothing more. -/
theorem digestKey_injective {first second : Resource} {id site site' : String}
    (named : first.name = first.kind.resourceName id site) (named' : second.name = second.kind.resourceName id site')
    (same : digestKey site first = digestKey site' second) : site = site' ∧ first.kind = second.kind := by
  have spelled {resource : Resource} {site : String} (named : resource.name = resource.kind.resourceName id site) :
      (digestKey site resource).toList =
        site.toList ++ (resource.kind.middle ++ (id.toList ++ '-' :: site.toList)) := by
    rw [digestKey, named, ResourceKind.resourceName_eq, ResourceKind.middle]
    simp only [String.toList_append, List.append_assoc]
    rfl
  have texts := congrArg String.toList same
  rw [spelled named, spelled named'] at texts
  obtain ⟨more, longer, rest⟩ | ⟨more, longer, rest⟩ := List.append_eq_append_iff.mp texts
  · rw [longer] at rest
    obtain ⟨rfl, kinds⟩ := ResourceKind.eq_nil_of_key rest
    rw [List.append_nil] at longer
    exact ⟨String.toList_injective longer.symm, kinds⟩
  · rw [longer] at rest
    obtain ⟨rfl, kinds⟩ := ResourceKind.eq_nil_of_key rest
    rw [List.append_nil] at longer
    exact ⟨String.toList_injective longer, kinds.symm⟩

private theorem artifactPath_injective_of_named {first second : Resource} {id site site' : String}
    (named : first.name = first.kind.resourceName id site) (named' : second.name = second.kind.resourceName id site')
    (same : artifactPath site first.fileName = artifactPath site' second.fileName) :
    site = site' ∧ first.kind = second.kind := by
  have spelled (site name : String) : (artifactPath site name).toList = site.toList ++ '/' :: name.toList := by
    simp [artifactPath]
  have texts := congrArg String.toList same
  rw [spelled, spelled, Resource.fileName, Resource.fileName, named, named'] at texts
  have kinds : first.kind = second.kind := by
    obtain ⟨front, ends⟩ := first.kind.fileName_ends (first.kind.resourceName id site)
    obtain ⟨front', ends'⟩ := second.kind.fileName_ends (second.kind.resourceName id site')
    rw [ends, ends'] at texts
    simp only [← List.cons_append, ← List.append_assoc] at texts
    exact ResourceKind.kind_of_ending texts
  refine ⟨?_, kinds⟩
  have lengths := congrArg List.length texts
  rw [← kinds] at lengths
  have sites : site.toList.length = site'.toList.length := by
    cases kind : first.kind with
    | provisioningRequest | configMap | networkSlice | kustomization =>
      simp [kind, ResourceKind.fileName, ResourceKind.resourceName_eq] at lengths
      omega
  exact String.toList_injective (List.append_inj texts sites).1

variable {compilation : Compilation} {intent : Intent}

namespace MadeFor

theorem named (made : compilation.MadeFor intent) {entry : String × Bundle}
    (member : entry ∈ compilation.bundles.entries) {resource : Resource} (listed : resource ∈ entry.2.resources) :
    resource.name = resource.kind.resourceName intent.id entry.1 := by
  obtain ⟨request, same, rfl, site⟩ := made entry member
  rw [← same] at listed
  rw [request.name_of_mem listed, site]

/-- Keys that tell the site and the kind are different for all resources of a compilation. -/
theorem nodup_keys (made : compilation.MadeFor intent) (key : String → Resource → String)
    (injective : ∀ entry ∈ compilation.bundles.entries, ∀ first ∈ entry.2.resources,
      ∀ other ∈ compilation.bundles.entries, ∀ second ∈ other.2.resources, key entry.1 first = key other.1 second →
      entry.1 = other.1 ∧ first.kind = second.kind) :
    (compilation.bundles.entries.flatMap fun entry => entry.2.resources.map (key entry.1)).Nodup := by
  rw [List.nodup_flatMap]
  constructor
  · intro entry member
    obtain ⟨request, same, _⟩ := made entry member
    have kinds := List.pairwise_map.mp request.kinds_nodup
    rw [same] at kinds
    refine List.pairwise_map.mpr (kinds.imp_of_mem ?_)
    intro first second listed listed' differ alike
    exact differ (injective entry member first listed entry member second listed' alike).2
  · have sites := List.pairwise_map.mp compilation.bundles.nodup_keys
    refine sites.imp_of_mem ?_
    intro entry other member member' differ
    refine List.disjoint_left.mpr fun text one two => ?_
    obtain ⟨first, listed, rfl⟩ := List.mem_map.mp one
    obtain ⟨second, listed', alike⟩ := List.mem_map.mp two
    exact differ (injective other member' second listed' entry member first listed alike).1.symm

theorem nodup_digestKeys (made : compilation.MadeFor intent) :
    (compilation.bundles.entries.flatMap fun entry => entry.2.resources.map (digestKey entry.1)).Nodup := by
  refine made.nodup_keys digestKey fun entry member first listed other member' second listed' same => ?_
  exact digestKey_injective (made.named member listed) (made.named member' listed') same

theorem nodup_paths (made : compilation.MadeFor intent) : (compilation.artifacts.map (·.1)).Nodup := by
  rw [artifacts, List.map_flatMap]
  simp only [Bundle.rendered, List.map_map]
  refine made.nodup_keys (fun site resource => artifactPath site resource.fileName)
    fun entry member first listed other member' second listed' same => ?_
  exact artifactPath_injective_of_named (made.named member listed) (made.named member' listed') same

/-- A digest is that of the contents of the resource which its key names. -/
theorem get?_checksums (made : compilation.MadeFor intent) {key digest : String} :
    compilation.checksums.get? key = some digest ↔
      ∃ entry ∈ compilation.bundles.entries, ∃ resource ∈ entry.2.resources,
        key = digestKey entry.1 resource ∧ digest = Digest.ofText resource.contents := by
  rw [checksums, Table.get?_ofList_eq_some]
  · simp only [List.mem_flatMap, List.mem_map, Prod.mk.injEq, @eq_comm _ _ key, @eq_comm _ _ digest]
  · rw [List.map_flatMap]
    simp only [List.map_map]
    exact made.nodup_digestKeys

/-- The manifest lists the file of every resource under its path. -/
theorem get?_files (made : compilation.MadeFor intent) {path : String} {artifact : Artifact} :
    compilation.manifest.files.get? path = some artifact ↔
      ∃ entry ∈ compilation.bundles.entries, ∃ resource ∈ entry.2.resources,
        path = artifactPath entry.1 resource.fileName ∧ artifact = resource.rendered.artifact := by
  have listed : (compilation.artifacts.map fun entry => (entry.1, entry.2.artifact)) =
      compilation.bundles.entries.flatMap fun entry => entry.2.resources.map fun resource =>
        (artifactPath entry.1 resource.fileName, resource.rendered.artifact) := by
    rw [artifacts, List.map_flatMap]
    simp only [Bundle.rendered, List.map_map]
    rfl
  change (Table.ofList (compilation.artifacts.map fun entry => (entry.1, entry.2.artifact))).get? path = _ ↔ _
  rw [Table.get?_ofList_eq_some, listed]
  · simp only [List.mem_flatMap, List.mem_map, Prod.mk.injEq, @eq_comm _ _ path, @eq_comm _ _ artifact]
  · rw [List.map_map]
    exact made.nodup_paths

end MadeFor

end Compilation

end IntentRollout
