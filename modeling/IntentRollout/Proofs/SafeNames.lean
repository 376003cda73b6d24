import IntentRollout.Proofs.DigestKeys
import IntentRollout.Proofs.FilledVolumes
import IntentRollout.Proofs.ValidConfigurations
import Mathlib.Data.String.Basic

/-! Which names are safe. The name of an intent is checked when it is read, but the name of a site is checked
nowhere; so a compilation can be saved just if its sites have single names which are short enough for the intent. -/

namespace IntentRollout

private theorem length_le_utf8ByteSize (text : String) : text.length ≤ text.utf8ByteSize := by
  have each (characters : List Char) : characters.length ≤ String.utf8Len characters := by
    induction characters with
    | nil => exact Nat.le_refl 0
    | cons character rest ih =>
      rw [List.length_cons, String.utf8Len_cons]
      have := character.utf8Size_pos
      omega
  have size := each text.toList
  rwa [← String.utf8ByteSize_ofList, String.ofList_toList, String.length_toList] at size

/-- The name of a site that goes with an intent. The longest of its files has 27 bytes more than both names. -/
structure Fits (id site : String) : Prop extends Path.Plain site where
  clean : '\x00' ∉ site.toList
  apart : site ≠ Manifest.fileName
  short : id.utf8ByteSize + site.utf8ByteSize ≤ 228

instance {id site : String} : Decidable (Fits id site) :=
  decidable_of_iff (Path.Plain site ∧ '\x00' ∉ site.toList ∧ site ≠ Manifest.fileName ∧
      id.utf8ByteSize + site.utf8ByteSize ≤ 228)
    ⟨fun ⟨plain, clean, apart, short⟩ => ⟨plain, clean, apart, short⟩,
      fun fits => ⟨fits.toPlain, fits.clean, fits.apart, fits.short⟩⟩

namespace ResourceKind

variable {id site : String}

private theorem size_provisioningRequest (id site : String) :
    (provisioningRequest.fileName (provisioningRequest.resourceName id site)).utf8ByteSize =
      id.utf8ByteSize + site.utf8ByteSize + 27 := by
  have constants : "".utf8ByteSize = 0 ∧ "-".utf8ByteSize = 1 ∧ "-provisioning-request.yaml".utf8ByteSize = 26 := by
    decide
  simp only [fileName, resourceName_eq, start, String.utf8ByteSize_append]
  omega

private theorem size_fileName_le (kind : ResourceKind) (id site : String) :
    (kind.fileName (kind.resourceName id site)).utf8ByteSize ≤ id.utf8ByteSize + site.utf8ByteSize + 27 := by
  have dash : "-".utf8ByteSize = 1 := by decide
  cases kind with
  | provisioningRequest => exact (size_provisioningRequest id site).le
  | configMap =>
    have both : "intent-".utf8ByteSize = 7 ∧ "-configmap.yaml".utf8ByteSize = 15 := by decide
    simp only [fileName, resourceName_eq, start, String.utf8ByteSize_append]
    omega
  | networkSlice =>
    have both : "slice-".utf8ByteSize = 6 ∧ "-networkslice.yaml".utf8ByteSize = 18 := by decide
    simp only [fileName, resourceName_eq, start, String.utf8ByteSize_append]
    omega
  | kustomization =>
    have whole : "kustomization.yaml".utf8ByteSize ≤ 27 := by decide
    exact Nat.le_trans whole (Nat.le_add_left _ _)

private theorem size_resourceName_le (kind : ResourceKind) (id site : String) :
    (kind.resourceName id site).utf8ByteSize ≤ id.utf8ByteSize + site.utf8ByteSize + 15 := by
  have start : kind.start.utf8ByteSize ≤ 14 := by cases kind <;> decide
  have dash : "-".utf8ByteSize = 1 := by decide
  simp only [resourceName_eq, String.utf8ByteSize_append]
  omega

private theorem usable_fileName (kind : ResourceKind) (slashless : '/' ∉ id.toList) (clean : '\x00' ∉ id.toList)
    (fits : Fits id site) : Path.Usable (kind.fileName (kind.resourceName id site)) where
  toPlain := kind.plain_fileName (kind.slashless_resourceName slashless fits.toPlain)
  clean := by
    have inner := fits.clean
    cases kind <;> simp [fileName, resourceName_eq, start, clean, inner]
  short := by
    have size := kind.size_fileName_le id site
    have short := fits.short
    change _ ≤ 255
    omega

end ResourceKind

theorem Fits.usable {id site : String} (fits : Fits id site) : Path.Usable site where
  toPlain := fits.toPlain
  clean := fits.clean
  short := by
    have short := fits.short
    change _ ≤ 255
    omega

namespace Compilation

def bundleLayout (base : List String) (entry : String × Bundle) : List (List String × Entry) :=
  (base ++ [entry.1], .directory) ::
    entry.2.rendered.map fun file => (base ++ [entry.1, file.name], .file file.contents.toUTF8)

def layout (compilation : Compilation) (base : List String) : List (List String × Entry) :=
  compilation.bundles.entries.flatMap (bundleLayout base) ++
    [(base ++ [Manifest.fileName], .file compilation.manifest.toJson.pretty.toUTF8)]

/-- Sites and files have names that a volume can hold, and no two of these get in each other's way. -/
structure Savable (compilation : Compilation) : Prop where
  sites : ∀ entry ∈ compilation.bundles.entries, Path.Usable entry.1
  names : ∀ entry ∈ compilation.bundles.entries, ∀ file ∈ entry.2.rendered, Path.Usable file.name
  distinct : ∀ entry ∈ compilation.bundles.entries, (entry.2.rendered.map (·.name)).Nodup
  apart : ∀ entry ∈ compilation.bundles.entries, entry.1 ≠ Manifest.fileName

variable {compilation : Compilation} {intent : Intent} {volume before after : Volume} {output : String}
  {base place : List String} {entry : String × Bundle}

private theorem mem_bundleLayout (member : place ∈ (bundleLayout base entry).map (·.1)) :
    ∃ rest, place = base ++ entry.1 :: rest := by
  rw [bundleLayout, List.map_cons, List.mem_cons, List.map_map, List.mem_map] at member
  obtain rfl | ⟨file, _, rfl⟩ := member
  · exact ⟨[], rfl⟩
  · exact ⟨[file.name], rfl⟩

private theorem nodup_bundleLayout (distinct : (entry.2.rendered.map (·.name)).Nodup) :
    ((bundleLayout base entry).map (·.1)).Nodup := by
  rw [bundleLayout, List.map_cons, List.map_map, List.nodup_cons]
  constructor
  · simp
  · refine List.pairwise_map.mpr ((List.pairwise_map.mp distinct).imp fun differ same => differ ?_)
    simpa using same

namespace Savable

theorem orderly (savable : compilation.Savable) : compilation.Orderly where
  sites entry member := (savable.sites entry member).toPlain
  names entry member file listed := (savable.names entry member file listed).toPlain
  distinct := savable.distinct

private theorem nodup_layout (savable : compilation.Savable) (base : List String) :
    ((compilation.layout base).map (·.1)).Nodup := by
  rw [layout, List.map_append, List.map_flatMap, List.nodup_append]
  refine ⟨?_, List.nodup_singleton _, ?_⟩
  · rw [List.nodup_flatMap]
    refine ⟨fun entry member => nodup_bundleLayout (savable.distinct entry member), ?_⟩
    refine (List.pairwise_map.mp compilation.bundles.nodup_keys).imp fun {first second} differ => ?_
    refine List.disjoint_left.mpr fun place one two => ?_
    obtain ⟨rest, rfl⟩ := mem_bundleLayout one
    obtain ⟨rest', same⟩ := mem_bundleLayout two
    exact differ (List.cons.inj (List.append_cancel_left same)).1
  · intro place inside other last same
    obtain ⟨entry, member, listed⟩ := List.mem_flatMap.mp inside
    obtain ⟨rest, rfl⟩ := mem_bundleLayout listed
    obtain rfl := List.mem_singleton.mp last
    exact savable.apart entry member (List.cons.inj (List.append_cancel_left same)).1

theorem fresh (savable : compilation.Savable) (vacant : volume.Vacant output base) :
    volume.Fresh (compilation.layout base) where
  distinct := savable.nodup_layout base
  free := by
    intro entry member
    have listed : entry.1 ∈ (compilation.layout base).map (·.1) := List.mem_map_of_mem member
    rw [layout, List.map_append, List.mem_append, List.map_flatMap, List.mem_flatMap] at listed
    obtain ⟨bundle, _, inside⟩ | last := listed
    · obtain ⟨rest, same⟩ := mem_bundleLayout inside
      rw [same]
      exact vacant.free (List.cons_ne_nil _ _)
    · rw [List.mem_singleton.mp last]
      exact vacant.free (List.cons_ne_nil _ _)

end Savable

private theorem isUnchanged_of_free {path contents : String} (located : volume.locate path = .ok place)
    (free : volume.entry? place = none) : isUnchanged volume path contents = false := by
  have absent : volume.file? place = none := by rw [Volume.file?, free]
  rw [Bool.eq_false_iff, ne_eq, isUnchanged_iff]
  rintro ⟨bytes, read, _⟩
  obtain ⟨place', located', held⟩ := Volume.readBytes_eq_ok.mp read
  obtain rfl := Except.ok.inj (located.symm.trans located')
  rw [absent] at held
  cases held

private theorem saveFile_of_free {directory : String} {file : RenderedFile} (opens : volume.Opens directory place)
    (usable : Path.Usable file.name) (free : volume.entry? (place ++ [file.name]) = none) (skip : Bool) :
    (saveFile skip (Path.join directory file.name) file).on volume =
      (.ok true, volume.put (place ++ [file.name]) (.file file.contents.toUTF8)) := by
  rw [saveFile, Filing.on_get_bind, isUnchanged_of_free (opens.locate_join usable) free, Bool.and_false,
    if_neg Bool.false_ne_true, Filing.on_bind_eq_ok]
  exact ⟨(), _, Filing.on_write_of_ok _ (opens.write_join usable free _), rfl⟩

private theorem saveBundle_of_fresh (usable : Path.Usable entry.1)
    (named : ∀ file ∈ entry.2.rendered, Path.Usable file.name)
    (opens : volume.Opens output base) (fresh : volume.Fresh (bundleLayout base entry)) (skip : Bool) :
    (saveBundle output skip entry.1 entry.2).on volume =
      (.ok (entry.2.rendered.map fun file => (artifactPath entry.1 file.name, true)),
        volume.fill (bundleLayout base entry)) := by
  have made := opens.makeDirectories_join usable fresh.head
  have inner : (volume.put (base ++ [entry.1]) .directory).Opens (Path.join output entry.1) (base ++ [entry.1]) :=
    opens.put_join usable fresh.head
  rw [saveBundle, Filing.on_bind_eq_ok]
  refine ⟨(), _, Filing.on_makeDirectories made, ?_⟩
  let laid (file : RenderedFile) := [(base ++ [entry.1, file.name], Entry.file file.contents.toUTF8)]
  have files : bundleLayout base entry = (base ++ [entry.1], .directory) :: entry.2.rendered.flatMap laid := by
    rw [bundleLayout, List.map_eq_flatMap]
  rw [files] at fresh ⊢
  refine Filing.on_mapM_fill ?_ inner fresh.tail
  intro file member current opens fresh
  have put := saveFile_of_free opens (named file member) (by simpa using fresh.head) skip
  rw [Filing.on_bind_eq_ok]
  refine ⟨true, _, put, ?_⟩
  rw [List.append_assoc]
  rfl

/-- Into an empty directory everything is written. -/
theorem save_of_vacant (savable : compilation.Savable) (vacant : volume.Vacant output base) (skip : Bool) :
    (compilation.save output skip).on volume =
      (.ok ⟨Path.join output Manifest.fileName, compilation.manifest, compilation.artifacts.map (·.1), []⟩,
        volume.fill (compilation.layout base)) := by
  have fresh := savable.fresh vacant
  have bundles := Filing.on_mapM_fill
    (fun entry member current opens fresh => saveBundle_of_fresh (savable.sites entry member)
      (savable.names entry member) opens fresh skip)
    vacant.toOpens fresh.front
  have manifest : Path.Usable Manifest.fileName := ⟨by decide, by decide, by decide⟩
  have wrote := (vacant.toOpens.fill fresh.front).write_join manifest fresh.back.head
    compilation.manifest.toJson.pretty.toUTF8
  rw [save, Filing.on_bind_eq_ok]
  refine ⟨_, _, bundles, ?_⟩
  rw [Filing.on_bind_eq_ok]
  refine ⟨(), _, Filing.on_write_of_ok _ wrote, ?_⟩
  have results : (compilation.bundles.entries.map fun entry => entry.2.rendered.map fun file =>
      (artifactPath entry.1 file.name, true)).flatten = compilation.artifacts.map fun path => (path.1, true) := by
    rw [artifacts, List.map_flatMap, List.flatMap_def]
    simp only [List.map_map]
    rfl
  have written : ((compilation.artifacts.map fun path => (path.1, true)).filter (·.2)).map (·.1) =
      compilation.artifacts.map (·.1) := by
    simp [List.filter_map, Function.comp_def]
  have unchanged : ((compilation.artifacts.map fun path => (path.1, true)).filter (!·.2)).map (·.1) = [] := by
    simp
  rw [results, written, unchanged, layout, Volume.fill_append]
  rfl

/-- What there is after a compilation was saved into an empty directory at a place: each artifact at a path of its
own, the manifest, and nothing else that was not there before. -/
structure LaidOut (compilation : Compilation) (output : String) (base : List String) (saved : Saved)
    (before after : Volume) : Prop where
  written : saved.written = compilation.artifacts.map (·.1)
  unchanged : saved.unchanged = []
  own : (compilation.artifacts.map (·.1)).Nodup
  sites : ∀ site ∈ compilation.sites, after.entry? (base ++ [site]) = some .directory
  artifacts : ∀ site file, compilation.Renders site file →
    after.locate (Path.join output (artifactPath site file.name)) = .ok (base ++ [site, file.name]) ∧
      after.file? (base ++ [site, file.name]) = some file.contents.toUTF8
  manifest : after.locate (Path.join output Manifest.fileName) = .ok (base ++ [Manifest.fileName]) ∧
    after.file? (base ++ [Manifest.fileName]) = some compilation.manifest.toJson.pretty.toUTF8
  others : ∀ place, after.entry? place ≠ before.entry? place →
    (∃ site ∈ compilation.sites, place = base ++ [site]) ∨
      (∃ site file, compilation.Renders site file ∧ place = base ++ [site, file.name]) ∨
      place = base ++ [Manifest.fileName]

private theorem mem_layout {put : List String × Entry} : put ∈ compilation.layout base ↔
    (∃ site ∈ compilation.sites, put = (base ++ [site], .directory)) ∨
      (∃ site file, compilation.Renders site file ∧
        put = (base ++ [site, file.name], .file file.contents.toUTF8)) ∨
      put = (base ++ [Manifest.fileName], .file compilation.manifest.toJson.pretty.toUTF8) := by
  rw [layout, List.mem_append, List.mem_flatMap, List.mem_singleton, ← or_assoc]
  refine or_congr_left ?_
  simp only [bundleLayout, List.mem_cons, List.mem_map, sites, Table.keys, Renders]
  constructor
  · rintro ⟨⟨site, bundle⟩, member, rfl | ⟨file, listed, rfl⟩⟩
    · exact .inl ⟨site, ⟨(site, bundle), member, rfl⟩, rfl⟩
    · exact .inr ⟨site, file, ⟨bundle, member, listed⟩, rfl⟩
  · rintro (⟨site, ⟨entry, member, rfl⟩, rfl⟩ | ⟨site, file, ⟨bundle, member, listed⟩, rfl⟩)
    · exact ⟨entry, member, .inl rfl⟩
    · exact ⟨(site, bundle), member, .inr ⟨file, listed, rfl⟩⟩

private theorem laidOut_of_vacant (savable : compilation.Savable) (vacant : volume.Vacant output base) (skip : Bool) :
    ∃ saved after, (compilation.save output skip).on volume = (.ok saved, after) ∧
      compilation.LaidOut output base saved volume after := by
  have done := save_of_vacant savable vacant skip
  have fresh := savable.fresh vacant
  obtain ⟨base', stored⟩ := savedAt_of_save savable.orderly done
  have home : base' = base := by
    have grown := vacant.toOpens.fill fresh
    exact Except.ok.inj (stored.home.symm.trans grown.approached.2.2)
  subst home
  refine ⟨_, _, done, rfl, rfl, savable.orderly.nodup_paths, ?_, ?_, ⟨stored.manifest, stored.text⟩, ?_⟩
  · intro site member
    exact fresh.entry?_of_mem (mem_layout.mpr (.inl ⟨site, member, rfl⟩))
  · intro site file renders
    refine ⟨stored.located site file renders, Volume.file?_eq_some.mpr ?_⟩
    exact fresh.entry?_of_mem (mem_layout.mpr (.inr (.inl ⟨site, file, renders, rfl⟩)))
  · intro place changed
    have listed : place ∈ (compilation.layout base').map (·.1) := by
      by_contra absent
      exact changed (fresh.entry?_of_not_mem absent)
    obtain ⟨put, member, rfl⟩ := List.mem_map.mp listed
    obtain ⟨site, among, rfl⟩ | ⟨site, file, renders, rfl⟩ | rfl := mem_layout.mp member
    · exact .inl ⟨site, among, rfl⟩
    · exact .inr (.inl ⟨site, file, renders, rfl⟩)
    · exact .inr (.inr rfl)

/-- Names stay within their limits and in their directories, so that what was compiled can be saved. -/
structure Safe (compilation : Compilation) : Prop where
  /-- As many characters as the name of an object may have. -/
  resources : ∀ entry ∈ compilation.bundles.entries, ∀ resource ∈ entry.2.resources, resource.name.length ≤ 253
  files : ∀ site file, compilation.Renders site file → Path.Plain file.name
  sites : ∀ site ∈ compilation.sites, Path.Plain site
  saved : ∀ volume output base skip, volume.Vacant output base → ∃ saved after,
    (compilation.save output skip).on volume = (.ok saved, after) ∧ compilation.LaidOut output base saved volume after

section Fitting

variable (made : compilation.MadeFor intent) (slashless : '/' ∉ intent.id.toList) (clean : '\x00' ∉ intent.id.toList)
  (fit : ∀ site ∈ compilation.sites, Fits intent.id site)

include made slashless clean fit

private theorem savable_of_fits : compilation.Savable := by
  have fits (entry : String × Bundle) (member : entry ∈ compilation.bundles.entries) : Fits intent.id entry.1 :=
    fit entry.1 (List.mem_map_of_mem member)
  refine ⟨fun entry member => (fits entry member).usable, ?_, fun entry member => made.nodup_names member,
    fun entry member => (fits entry member).apart⟩
  intro entry member file listed
  obtain ⟨resource, inside, rfl⟩ := List.mem_map.mp listed
  change Path.Usable (resource.kind.fileName resource.name)
  rw [made.named member inside]
  exact resource.kind.usable_fileName slashless clean (fits entry member)

private theorem safe_of_fits : compilation.Safe := by
  have savable := savable_of_fits made slashless clean fit
  refine ⟨?_, fun site file renders => savable.orderly.plain_name renders,
    fun site member => (fit site member).toPlain, fun volume output base skip vacant => laidOut_of_vacant savable vacant skip⟩
  intro entry member resource listed
  have size := resource.kind.size_resourceName_le intent.id entry.1
  have short := (fit entry.1 (List.mem_map_of_mem member)).short
  have length := length_le_utf8ByteSize resource.name
  rw [made.named member listed] at length ⊢
  omega

end Fitting

end Compilation

private theorem Volume.short_of_locate_join {volume : Volume} {directory name : String} {place : List String}
    (plain : Path.Plain name) (located : volume.locate (Path.join directory name) = .ok place) :
    name.utf8ByteSize ≤ Volume.longestName := by
  have led := approach_eq_ok (locate_eq_ok.mp located).1
  rw [start_join plain, plain.parts_join, follow_append] at led
  obtain ⟨above, _, last⟩ := bind_eq_ok.mp led
  rw [follow] at last
  split at last
  · cases last
  · cases last
  · rw [if_neg plain.not_dots] at last
    split at last
    · cases last
    next short => exact Nat.not_lt.mp short

namespace Compilation

variable {compilation : Compilation} {intent : Intent} {before after : Volume} {output : String} {saved : Saved}

/-- The file of the request of a site is rendered, whatever the intent asks for. -/
theorem MadeFor.renders_request (made : compilation.MadeFor intent) {site : String}
    (member : site ∈ compilation.sites) : ∃ file, compilation.Renders site file ∧
      file.name = ResourceKind.provisioningRequest.fileName
        (ResourceKind.provisioningRequest.resourceName intent.id site) := by
  obtain ⟨entry, listed, rfl⟩ := List.mem_map.mp member
  obtain ⟨request, same, rfl, named⟩ := made entry listed
  refine ⟨request.provisioningRequest.rendered, ⟨entry.2, listed, ?_⟩, ?_⟩
  · rw [← same]
    exact List.mem_map_of_mem List.mem_cons_self
  · rw [← named]
    rfl

/-- What could be saved had names that fit. -/
theorem fits_of_save (made : compilation.MadeFor intent) (orderly : compilation.Orderly) {skip : Bool}
    (done : (compilation.save output skip).on before = (.ok saved, after)) :
    ∀ site ∈ compilation.sites, Fits intent.id site := by
  intro site member
  obtain ⟨base, stored⟩ := savedAt_of_save orderly done
  obtain ⟨file, renders, name⟩ := made.renders_request member
  have plain := orderly.plain_site renders
  have named := orderly.plain_name renders
  have located := stored.located site file renders
  refine ⟨plain, ?_, ?_, ?_⟩
  · intro zero
    have approached := Volume.approach_eq_ok_iff.mp (Volume.locate_eq_ok.mp located).1
    apply approached.2.1
    obtain ⟨front, joined⟩ := Path.join_ends output (artifactPath site file.name)
    rw [joined, artifactPath]
    simp [zero]
  · rintro rfl
    obtain ⟨base', home, there, same⟩ := locate_artifact plain named located
    obtain rfl := Except.ok.inj (stored.home.symm.trans home)
    have text := stored.text
    rw [Volume.file?_eq_none_of_directory there] at text
    cases text
  · rw [← Path.join_join plain named] at located
    have short := Volume.short_of_locate_join named located
    rw [name, ResourceKind.size_provisioningRequest] at short
    change _ ≤ 255 at short
    omega

end Compilation

namespace Config

variable {config : Config} {document : Json} {intent : Intent}

theorem mem_sites_of_compileFor {instant : Instant} {targets : List String} {compilation : Compilation}
    (done : config.compileFor instant intent targets = .ok compilation) {site : String} :
    site ∈ compilation.sites ↔
      ∃ target ∈ targets, ∃ group, config.resolveTarget target = .ok group ∧ site ∈ group := by
  obtain ⟨groups, resolved, found, compiled⟩ := compiled_of_compileFor done
  rw [Compilation.sites, compiled.mem_keys found (configured_of_mapM resolved), List.mem_flatten]
  simp only [mem_of_mapM resolved]
  constructor
  · rintro ⟨group, ⟨target, listed, stands⟩, inside⟩
    exact ⟨target, listed, group, stands, inside⟩
  · rintro ⟨target, listed, group, stands, inside⟩
    exact ⟨group, ⟨target, listed, stands⟩, inside⟩

/-- The only site of a configuration is the only one that all its sites are compiled to. -/
theorem mem_sites_of_alone {instant : Instant} {compilation : Compilation} {alone : String}
    (only : config.siteNames = [alone]) (done : config.compileFor instant intent ["all"] = .ok compilation)
    {site : String} : site ∈ compilation.sites ↔ site = alone := by
  have all : config.resolveTarget "all" = .ok [alone] := by rw [← only]; rfl
  simp only [mem_sites_of_compileFor done, List.mem_singleton, exists_eq_left, all, Except.ok.injEq, exists_eq_left']

/-- A configuration that is accepted compiles every intent for its sites, but does not make sure that the names are
safe: they are just if each of these sites fits. -/
theorem names_safe_iff (accepted : config.validate = .ok ()) (read : Intent.ofJson document = .ok intent)
    (instant : Instant) (targets : List String) (known : ∀ target ∈ targets, target ∈ config.targetNames) :
    ∃ compilation, config.compileFor instant intent targets = .ok compilation ∧
      (compilation.Safe ↔ ∀ site ∈ compilation.sites, Fits intent.id site) := by
  obtain ⟨compilation, done⟩ := (validate_eq_ok.mp accepted).exists_compileFor_iff.mpr known
  obtain ⟨_, _, _, compiled⟩ := compiled_of_compileFor done
  have made := Compilation.madeFor_of_compiled compiled
  refine ⟨compilation, done, fun safe => ?_, fun fit => ?_⟩
  · have vacant : Volume.Vacant {} "/" [] := ⟨⟨rfl, rfl⟩, rfl⟩
    obtain ⟨saved, after, wrote, _⟩ := safe.saved {} "/" [] false vacant
    exact Compilation.fits_of_save made (Compilation.orderly_of_compileFor read done safe.sites) wrote
  · exact Compilation.safe_of_fits made (Intent.slashless_id read) (Intent.not_mem_id read (by decide)) fit

/-- The name of the laboratory is safe. -/
theorem laboratory_safe : laboratory.validate = .ok () ∧
    Intent.ofJson (.object [("intentId", .text "i1")]) = .ok bareIntent ∧
    ∃ compilation, laboratory.compileFor ⟨0, 0⟩ bareIntent ["all"] = .ok compilation ∧ compilation.Safe := by
  have accepted : laboratory.validate = .ok () := by decide +kernel
  have read : Intent.ofJson (.object [("intentId", .text "i1")]) = .ok bareIntent := rfl
  obtain ⟨compilation, done, safe⟩ := names_safe_iff accepted read ⟨0, 0⟩ ["all"] (by decide)
  refine ⟨accepted, read, compilation, done, safe.mpr fun site member => ?_⟩
  rw [mem_sites_of_alone rfl done] at member
  rw [member]
  decide

def metropolis : Config where
  sites := Table.ofList [("northern-metropolitan-aggregation-site-7",
    ⟨"cluster-a", "metro", "310260", "00001", "0001", none, none⟩)]

def longIntent : Intent :=
  let id := String.ofList (List.replicate longestId 'i')
  ⟨id, none, none, none, none, [], .object [("intentId", .text id)]⟩

private theorem toList_longIntent : longIntent.id.toList = List.replicate longestId 'i' := String.toList_ofList

private theorem read_longIntent : Intent.ofJson longIntent.document = .ok longIntent := by
  have sound : Intent.idFault? longIntent.id = none := by
    rw [Intent.idFault?, toList_longIntent]
    decide +kernel
  have filled : (trimmed longIntent.id).isEmpty = false := by
    rw [trimmed, toList_longIntent]
    decide +kernel
  have named : Intent.readId longIntent.document = .ok longIntent.id := by
    have held : longIntent.document.member? IntentField.intentId.name = some (.text longIntent.id) := rfl
    rw [Intent.readId, held]
    simp only [filled, sound, Bool.false_eq_true, if_false]
  exact bind_eq_ok.mpr ⟨_, named, rfl⟩

/-- An accepted intent is compiled with an accepted configuration to a name that is too long, and can be saved
nowhere. -/
theorem metropolis_unsafe : metropolis.validate = .ok () ∧ Intent.ofJson longIntent.document = .ok longIntent ∧
    ∃ compilation, metropolis.compileFor ⟨0, 0⟩ longIntent ["all"] = .ok compilation ∧ ¬ compilation.Safe ∧
      (∃ entry ∈ compilation.bundles.entries, ∃ resource ∈ entry.2.resources, 253 < resource.name.length) ∧
      ∀ before output skip saved after, (compilation.save output skip).on before ≠ (.ok saved, after) := by
  have accepted : metropolis.validate = .ok () := by decide +kernel
  have read := read_longIntent
  obtain ⟨compilation, done⟩ := (validate_eq_ok.mp accepted).exists_compileFor_iff.mpr
    (show ∀ target ∈ ["all"], target ∈ metropolis.targetNames by decide)
  have sites {site : String} : site ∈ compilation.sites ↔ site = "northern-metropolitan-aggregation-site-7" :=
    mem_sites_of_alone rfl done
  obtain ⟨_, _, _, compiled⟩ := compiled_of_compileFor done
  have made := Compilation.madeFor_of_compiled compiled
  have orderly : compilation.Orderly := by
    refine Compilation.orderly_of_compileFor read done fun site member => ?_
    rw [sites.mp member]
    decide
  have unsaved : ∀ before output skip saved after, (compilation.save output skip).on before ≠ (.ok saved, after) := by
    intro before output skip saved after wrote
    have fits := Compilation.fits_of_save made orderly wrote _ (sites.mpr rfl)
    exact absurd fits.short (by decide +kernel)
  refine ⟨accepted, read, compilation, done, fun safe => ?_, ?_, unsaved⟩
  · obtain ⟨saved, after, wrote, _⟩ := safe.saved {} "/" [] false ⟨⟨rfl, rfl⟩, rfl⟩
    exact unsaved _ _ _ _ _ wrote
  · obtain ⟨entry, member, same⟩ := List.mem_map.mp (sites.mpr rfl)
    obtain ⟨request, bundle, about, _⟩ := made entry member
    have last : request.kustomization request.members ∈ entry.2.resources := by
      rw [← bundle]
      exact List.mem_append_right _ (List.mem_singleton_self _)
    refine ⟨entry, member, _, last, ?_⟩
    rw [made.named member last, same]
    change 253 < (ResourceKind.kustomization.resourceName longIntent.id _).length
    rw [← String.length_toList, ResourceKind.resourceName_eq]
    simp only [String.toList_append, toList_longIntent]
    decide +kernel

end Config

end IntentRollout
