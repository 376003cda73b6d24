import Mathlib.Algebra.GroupWithZero.Nat
import IntentRollout.Proofs.DigestKeys

/-! No digest is lost. Digests are put into tables under keys that are written together from names, and an entry
would give way to another one with its key; but no two resources of a compilation share a key. So each of them has
a digest under its name and one under its file, and all of them are counted. -/

namespace IntentRollout

namespace Compilation

variable {compilation : Compilation} {intent : Intent}

private theorem length_artifacts (compilation : Compilation) :
    compilation.artifacts.length = compilation.resourceCount := by
  simp [artifacts, resourceCount, Table.values, Bundle.rendered, List.length_flatMap, List.flatMap_map]

private theorem resourceCount_eq_sum (compilation : Compilation) :
    compilation.resourceCount = compilation.manifest.resourceCounts.values.sum := by
  simp [resourceCount, manifest, Table.values, Table.mapValues, List.length_flatMap, List.flatMap_map, Function.comp_def]

/-- All resources are counted, and each of them has the digest of its contents under its name and under its file. -/
structure Inventoried (compilation : Compilation) : Prop where
  checksums : compilation.checksums.size = compilation.resourceCount
  files : compilation.manifest.files.size = compilation.resourceCount
  digests : ∀ entry ∈ compilation.bundles.entries, ∀ resource ∈ entry.2.resources,
    compilation.checksums.get? (digestKey entry.1 resource) = some (Digest.ofText resource.contents) ∧
      compilation.manifest.files.get? (artifactPath entry.1 resource.fileName) =
        some ⟨Digest.ofText resource.contents, resource.contents.toUTF8.size, resource.kind.name⟩
  counts : ∀ entry ∈ compilation.bundles.entries,
    compilation.manifest.resourceCounts.get? entry.1 = some entry.2.resources.length
  totals : compilation.manifest.totals = ⟨compilation.manifest.files.size, compilation.manifest.sites.length,
    compilation.manifest.resourceCounts.values.sum⟩

private theorem MadeFor.inventoried (made : compilation.MadeFor intent) : compilation.Inventoried where
  checksums := by
    rw [checksums, Table.size_ofList]
    · simp [resourceCount, Table.values, List.length_flatMap, List.flatMap_map]
    · rw [List.map_flatMap]
      simp only [List.map_map]
      exact made.nodup_digestKeys
  files := by
    change (Table.ofList (compilation.artifacts.map fun entry => (entry.1, entry.2.artifact))).size = _
    rw [Table.size_ofList, List.length_map, length_artifacts]
    rw [List.map_map]
    exact made.nodup_paths
  digests := by
    intro entry member resource listed
    constructor
    · exact made.get?_checksums.mpr ⟨entry, member, resource, listed, rfl, rfl⟩
    · exact made.get?_files.mpr ⟨entry, member, resource, listed, rfl, rfl⟩
  counts := by
    intro entry member
    apply Table.get?_eq_some.mpr
    exact List.mem_map_of_mem (f := fun entry : String × Bundle => (entry.1, entry.2.resources.length)) member
  totals := by
    rw [← resourceCount_eq_sum]
    simp [manifest, sites, Table.keys, Table.size]

end Compilation

namespace Config

/-- Whatever sites and intents are called, a compilation loses no digest. -/
theorem digests_counted {config : Config} {instant : Instant} {intent : Intent} {compilation : Compilation}
    (compiles : config.Compiles instant intent compilation) : compilation.Inventoried :=
  (Compilation.madeFor_of_compiles compiles).inventoried

def slashedSites : Config where
  sites := Table.ofList [("north", ⟨"cluster-a", "metro", "310260", "00001", "0001", none, none⟩),
    ("north/ConfigMap/intent-i1-north", ⟨"cluster-b", "metro", "310260", "00002", "0002", none, none⟩)]

theorem slashed_digests_counted : ∃ compilation,
    slashedSites.compile ⟨0, 0⟩ bareIntent = .ok compilation ∧ compilation.resourceCount = 6 ∧
      compilation.Inventoried := by
  obtain ⟨compilation, done, count⟩ : ∃ compilation,
      slashedSites.compile ⟨0, 0⟩ bareIntent = .ok compilation ∧ compilation.resourceCount = 6 := by
    refine ⟨_, rfl, by decide +kernel⟩
  exact ⟨compilation, done, count, digests_counted (.inl done)⟩

end Config

end IntentRollout
