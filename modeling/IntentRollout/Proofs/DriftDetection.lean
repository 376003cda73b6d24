import IntentRollout.Proofs.SavedFiles
import Mathlib.Data.String.Basic

/-! Drift is what there is. Between a manifest and the files below it, exactly the artifacts that changed, those
that are gone, and the resource files of others are reported, each under its path. -/

namespace IntentRollout

namespace Volume

variable {volume : Volume} {base names place : List String} {path : String} {bytes : ByteArray}

private theorem mem_below {entry : Entry} : (names, entry) ∈ volume.below base ↔
    names ≠ [] ∧ volume.entries.get? (base ++ names) = some entry := by
  rw [below, List.mem_filterMap, Table.get?_eq_some]
  constructor
  · rintro ⟨⟨other, entry'⟩, member, kept⟩
    dsimp only at kept
    split at kept
    next inside =>
      rw [Bool.and_eq_true, List.isPrefixOf_iff_prefix, decide_eq_true_iff] at inside
      obtain ⟨⟨rest, rfl⟩, longer⟩ := inside
      cases kept
      rw [List.drop_left]
      refine ⟨?_, member⟩
      rintro rfl
      simp at longer
    · cases kept
  · rintro ⟨some, member⟩
    have positive := List.length_pos_iff.mpr some
    refine ⟨_, member, ?_⟩
    dsimp only
    rw [if_pos (by simp [positive]), List.drop_left]

private theorem mem_filesBelow : names ∈ volume.filesBelow base ↔
    names ≠ [] ∧ ∃ bytes, volume.file? (base ++ names) = some bytes := by
  rw [filesBelow, List.mem_filterMap]
  constructor
  · rintro ⟨⟨names', entry⟩, member, kept⟩
    obtain ⟨some, there⟩ := mem_below.mp member
    cases entry with
    | directory => cases kept
    | file bytes =>
      cases kept
      refine ⟨some, bytes, ?_⟩
      rw [file?_eq_some, entry?_of_ne_nil (by simp [some])]
      exact there
  · rintro ⟨some, bytes, held⟩
    rw [file?_eq_some, entry?_of_ne_nil (by simp [some])] at held
    exact ⟨(names, .file bytes), mem_below.mpr ⟨some, held⟩, rfl⟩

/-- Nothing below a place is found twice. -/
theorem nodup_below (volume : Volume) (base : List String) : ((volume.below base).map (·.1)).Nodup := by
  have keys := List.pairwise_map.mp volume.entries.nodup_keys
  refine List.pairwise_map.mpr (List.Pairwise.filterMap _ ?_ keys)
  have placed {other : List String} {entry : Entry} {found : List String × Entry}
      (kept : (if base.isPrefixOf other && base.length < other.length then some (other.drop base.length, entry)
        else none) = some found) : other = base ++ found.1 := by
    split at kept
    next inside =>
      rw [Bool.and_eq_true, List.isPrefixOf_iff_prefix] at inside
      obtain ⟨rest, rfl⟩ := inside.1
      cases kept
      rw [List.drop_left]
    · cases kept
  rintro ⟨first, entry⟩ ⟨second, entry'⟩ differs found kept found' kept' same
  refine differs ?_
  rw [placed kept, placed kept', same]

private theorem nodup_filesBelow (volume : Volume) (base : List String) : (volume.filesBelow base).Nodup := by
  refine List.Pairwise.filterMap _ ?_ (List.pairwise_map.mp (nodup_below volume base))
  rintro ⟨first, entry⟩ ⟨second, entry'⟩ differs names kept names' kept' same
  cases entry with
  | directory => cases kept
  | file bytes =>
    cases entry' with
    | directory => cases kept'
    | file bytes' =>
      cases kept
      cases kept'
      exact differs same

private theorem readBytes_of_none (located : volume.locate path = .ok place) (gone : volume.entry? place = none) :
    volume.readBytes path = .error .notFound := by
  simp [readBytes, find, located, gone, bind, Except.bind]

private theorem readBytes_of_directory (located : volume.locate path = .ok place)
    (there : volume.entry? place = some .directory) : volume.readBytes path = .error .isDirectory := by
  simp [readBytes, find, located, there, bind, Except.bind]

end Volume

namespace Manifest

open Volume

variable {manifest : Manifest} {volume : Volume} {root path : String} {artifact : Artifact} {place base : List String}

private theorem mem_listedDrift {list : List Drift} (located : volume.locate (Path.join root path) = .ok place)
    (done : listedDrift volume root path artifact = .ok list) (drift : Drift) : drift ∈ list ↔
      (∃ bytes, volume.file? place = some bytes ∧ Digest.ofBytes bytes ≠ artifact.checksum ∧
        drift = .modified path artifact.checksum (Digest.ofBytes bytes)) ∨
      (volume.entry? place = none ∧ drift = .missing path) := by
  unfold listedDrift at done
  cases there : volume.entry? place with
  | none =>
    rw [readBytes_of_none located there] at done
    cases done
    simp [file?, there]
  | some entry =>
    cases entry with
    | directory =>
      rw [readBytes_of_directory located there] at done
      cases done
    | file bytes =>
      have held := file?_eq_some.mpr there
      rw [readBytes_eq_ok.mpr ⟨place, located, held⟩] at done
      cases done
      by_cases same : Digest.ofBytes bytes = artifact.checksum <;> simp [held, same]

/-- At most one difference is reported about a listed file, under its path. -/
theorem paths_listedDrift {list : List Drift} (done : listedDrift volume root path artifact = .ok list) :
    (list.map Drift.path).Sublist [path] := by
  unfold listedDrift at done
  split at done
  · cases done
    split
    · exact List.nil_sublist _
    · exact List.Sublist.refl _
  · cases done
    exact List.Sublist.refl _
  · cases done

private theorem paths_flatten {entries : List (String × Artifact)} {lists : List (List Drift)}
    (done : entries.mapM (fun (path, artifact) => listedDrift volume root path artifact) = .ok lists) :
    (lists.flatten.map Drift.path).Sublist (entries.map (·.1)) := by
  have all := mapM_eq_ok.mp done
  clear done
  induction all with
  | nil => exact List.Sublist.refl _
  | cons here _ ih =>
    rw [List.flatten_cons, List.map_append, List.map_cons, ← List.singleton_append]
    exact (paths_listedDrift here).append ih

private theorem resourceFiles_eq_ok (home : volume.follow (volume.start root) (Path.parts root) = .ok base)
    (there : volume.entry? base = some .directory) {found : List (List String)}
    (done : resourceFiles volume root = .ok found) : found = (volume.filesBelow base).filter isResourceFile := by
  obtain ⟨place, located, done⟩ := bind_eq_ok.mp done
  rw [mapError_eq_ok] at located
  have led := approach_eq_ok (locate_eq_ok.mp located).1
  obtain rfl := Except.ok.inj (home.symm.trans led)
  rw [there] at done
  cases done
  rfl

private theorem verify_eq_ok {drifts : List Drift} : manifest.verify volume root = .ok drifts ↔
    ∃ lists found, manifest.files.entries.mapM (fun (path, artifact) => listedDrift volume root path artifact) =
        .ok lists ∧ resourceFiles volume root = .ok found ∧
      drifts = lists.flatten ++
        ((found.map Path.ofParts).filter fun path => !manifest.files.contains path).map .unlisted := by
  rw [verify, bind_eq_ok]
  constructor
  · rintro ⟨lists, listed, done⟩
    obtain ⟨found, walked, done⟩ := bind_eq_ok.mp done
    cases done
    exact ⟨lists, found, listed, walked, rfl⟩
  · rintro ⟨lists, found, listed, walked, rfl⟩
    exact ⟨lists, listed, bind_eq_ok.mpr ⟨found, walked, rfl⟩⟩

end Manifest

namespace Compilation

open Volume

variable {compilation : Compilation} {output : String} {base : List String} {saved later : Volume}

/-- Files were changed, taken away and added, but not the manifest; names hold no slash. -/
structure Edited (base : List String) (before later : Volume) : Prop where
  grows : before.Grows (· ≠ base ++ [Manifest.fileName]) later
  named : ∀ names bytes, later.file? (base ++ names) = some bytes → ∀ name ∈ names, '/' ∉ name.toList

/-- How the files below a directory differ from those of a compilation. -/
inductive Drifted (compilation : Compilation) (base : List String) (later : Volume) : Drift → Prop where
  | modified {site : String} {file : RenderedFile} {bytes : ByteArray} (renders : compilation.Renders site file)
      (held : later.file? (base ++ [site, file.name]) = some bytes)
      (differs : Digest.ofBytes bytes ≠ Digest.ofText file.contents) :
      Drifted compilation base later
        (.modified (artifactPath site file.name) (Digest.ofText file.contents) (Digest.ofBytes bytes))
  | missing {site : String} {file : RenderedFile} (renders : compilation.Renders site file)
      (gone : later.entry? (base ++ [site, file.name]) = none) :
      Drifted compilation base later (.missing (artifactPath site file.name))
  | unlisted {names : List String} {bytes : ByteArray} (held : later.file? (base ++ names) = some bytes)
      (yaml : Manifest.isResourceFile names = true)
      (foreign : ∀ site file, compilation.Renders site file → names ≠ [site, file.name]) :
      Drifted compilation base later (.unlisted (Path.ofParts names))

namespace SavedAt

private theorem load_eq (savedAt : compilation.SavedAt output base saved) (sized : compilation.manifest.Sized)
    (edited : Edited base saved later) :
    Manifest.load later (Path.join output Manifest.fileName) = .ok compilation.manifest := by
  have held : later.file? (base ++ [Manifest.fileName]) = some compilation.manifest.toJson.pretty.toUTF8 := by
    rw [edited.grows.files _ (by simp)]
    exact savedAt.text
  have text := readText_of_file (edited.grows.locate savedAt.manifest) held
  rw [Manifest.load, text]
  simp only [Except.mapError, bind, Except.bind, Manifest.read_pretty sized]

private theorem home_later (savedAt : compilation.SavedAt output base saved) (edited : Edited base saved later) :
    later.follow (later.start output) (Path.parts output) = .ok base := edited.grows.reach savedAt.home

/-- The files that are found in the directory and are not listed are those of others. -/
theorem mem_unlisted (orderly : compilation.Orderly) (edited : Edited base saved later) (drift : Drift) :
    drift ∈ ((((later.filesBelow base).filter Manifest.isResourceFile).map Path.ofParts).filter
        fun path => !compilation.manifest.files.contains path).map Drift.unlisted ↔
      ∃ names bytes, later.file? (base ++ names) = some bytes ∧ Manifest.isResourceFile names = true ∧
        (∀ site file, compilation.Renders site file → names ≠ [site, file.name]) ∧
        drift = .unlisted (Path.ofParts names) := by
  have foreign {names : List String} {bytes : ByteArray} (some : names ≠ [])
      (held : later.file? (base ++ names) = Option.some bytes) :
      (!compilation.manifest.files.contains (Path.ofParts names)) = true ↔
        ∀ site file, compilation.Renders site file → names ≠ [site, file.name] := by
    rw [Bool.not_eq_true', Bool.eq_false_iff, ne_eq, orderly.contains_files]
    constructor
    · rintro absent site file renders rfl
      exact absent ⟨site, file, renders, (artifactPath_eq _ _).symm⟩
    · rintro apart ⟨site, file, renders, same⟩
      rw [artifactPath_eq] at same
      refine apart site file renders ?_
      refine Path.ofParts_injective some (List.cons_ne_nil _ _) (edited.named _ _ held) ?_ same
      simp [(orderly.plain_site renders).slashless, (orderly.plain_name renders).slashless]
  simp only [List.mem_map, List.mem_filter]
  constructor
  · rintro ⟨_, ⟨⟨names, ⟨found, yaml⟩, rfl⟩, absent⟩, rfl⟩
    obtain ⟨some, bytes, held⟩ := mem_filesBelow.mp found
    exact ⟨names, bytes, held, yaml, (foreign some held).mp absent, rfl⟩
  · rintro ⟨names, bytes, held, yaml, apart, rfl⟩
    have some : names ≠ [] := by
      rintro rfl
      cases yaml
    exact ⟨_, ⟨⟨names, ⟨mem_filesBelow.mpr ⟨some, bytes, held⟩, yaml⟩, rfl⟩, (foreign some held).mpr apart⟩, rfl⟩

/-- What is reported about listed files is what happened to artifacts. -/
theorem mem_listed (orderly : compilation.Orderly) (savedAt : compilation.SavedAt output base saved)
    (edited : Edited base saved later) {lists : List (List Drift)}
    (done : compilation.manifest.files.entries.mapM
      (fun (path, artifact) => Manifest.listedDrift later output path artifact) = .ok lists) (drift : Drift) :
    drift ∈ lists.flatten ↔ ∃ site file, compilation.Renders site file ∧
      ((∃ bytes, later.file? (base ++ [site, file.name]) = some bytes ∧
          Digest.ofBytes bytes ≠ Digest.ofText file.contents ∧
          drift = .modified (artifactPath site file.name) (Digest.ofText file.contents) (Digest.ofBytes bytes)) ∨
        (later.entry? (base ++ [site, file.name]) = none ∧ drift = .missing (artifactPath site file.name))) := by
  have located {site : String} {file : RenderedFile} (renders : compilation.Renders site file) :
      later.locate (Path.join output (artifactPath site file.name)) = .ok (base ++ [site, file.name]) :=
    edited.grows.locate (savedAt.located site file renders)
  rw [List.mem_flatten]
  constructor
  · rintro ⟨list, member, inside⟩
    obtain ⟨⟨path, artifact⟩, listed, same⟩ := (mem_of_mapM done).mp member
    obtain ⟨site, file, renders, rfl, rfl⟩ := orderly.mem_files.mp listed
    exact ⟨site, file, renders, (Manifest.mem_listedDrift (located renders) same drift).mp inside⟩
  · rintro ⟨site, file, renders, happened⟩
    have listed := orderly.mem_files.mpr ⟨site, file, renders, rfl, rfl⟩
    obtain ⟨list, same⟩ := exists_mapM_eq_ok.mp ⟨lists, done⟩ _ listed
    exact ⟨list, (mem_of_mapM done).mpr ⟨_, listed, same⟩,
      (Manifest.mem_listedDrift (located renders) same drift).mpr happened⟩

theorem nodup_paths (savedAt : compilation.SavedAt output base saved)
    (edited : Edited base saved later) {drifts : List Drift}
    (done : compilation.manifest.verify later output = .ok drifts) : (drifts.map Drift.path).Nodup := by
  obtain ⟨lists, found, listed, walked, rfl⟩ := Manifest.verify_eq_ok.mp done
  obtain rfl := Manifest.resourceFiles_eq_ok (savedAt.home_later edited)
    (edited.grows.directories base savedAt.there) walked
  have paths := Manifest.paths_flatten listed
  rw [List.map_append, List.map_map, List.nodup_append']
  refine ⟨paths.nodup compilation.manifest.files.nodup_keys, ?_, ?_⟩
  · have same : (Drift.path ∘ Drift.unlisted) = id := rfl
    rw [same, List.map_id]
    refine List.Nodup.filter _ (List.Nodup.map_on ?_ ((nodup_filesBelow later base).filter _))
    intro first member second member' alike
    obtain ⟨some, bytes, held⟩ := mem_filesBelow.mp (List.mem_of_mem_filter member)
    obtain ⟨some', bytes', held'⟩ := mem_filesBelow.mp (List.mem_of_mem_filter member')
    exact Path.ofParts_injective some some' (edited.named _ _ held) (edited.named _ _ held') alike
  · rw [List.disjoint_left]
    intro path one two
    have known : path ∈ compilation.manifest.files.keys := paths.subset one
    obtain ⟨other, member, rfl⟩ := List.mem_map.mp two
    have absent := (List.mem_filter.mp member).2
    rw [Bool.not_eq_true', Bool.eq_false_iff, ne_eq, Table.contains_iff] at absent
    exact absent known

private theorem mem_verify (orderly : compilation.Orderly) (savedAt : compilation.SavedAt output base saved)
    (edited : Edited base saved later) {drifts : List Drift}
    (done : compilation.manifest.verify later output = .ok drifts) (drift : Drift) :
    drift ∈ drifts ↔ compilation.Drifted base later drift := by
  obtain ⟨lists, found, listed, walked, rfl⟩ := Manifest.verify_eq_ok.mp done
  obtain rfl := Manifest.resourceFiles_eq_ok (savedAt.home_later edited)
    (edited.grows.directories base savedAt.there) walked
  rw [List.mem_append, mem_listed orderly savedAt edited listed, mem_unlisted orderly edited]
  constructor
  · rintro (⟨site, file, renders, ⟨bytes, held, differs, rfl⟩ | ⟨gone, rfl⟩⟩ |
      ⟨names, bytes, held, yaml, foreign, rfl⟩)
    · exact .modified renders held differs
    · exact .missing renders gone
    · exact .unlisted held yaml foreign
  · rintro (⟨renders, held, differs⟩ | ⟨renders, gone⟩ | ⟨held, yaml, foreign⟩)
    · exact .inl ⟨_, _, renders, .inl ⟨_, held, differs, rfl⟩⟩
    · exact .inl ⟨_, _, renders, .inr ⟨gone, rfl⟩⟩
    · exact .inr ⟨_, _, held, yaml, foreign, rfl⟩

/-- The output directory itself is found by its path, unless that is empty. -/
theorem locate_home (savedAt : compilation.SavedAt output base saved) (some : output ≠ "") :
    saved.locate output = .ok base := by
  have approached := (locate_eq_ok.mp savedAt.manifest).1
  have clean : ¬ output.toList.contains '\x00' = true := by
    intro zero
    rw [approach] at approached
    split at approached
    · cases approached
    · split at approached
      · cases approached
      next free =>
        apply free
        rw [List.contains_iff_mem] at zero ⊢
        have relative : Path.isAbsolute Manifest.fileName = false := by decide
        obtain ⟨empty, _⟩ | ⟨front, _, joined⟩ | joined := Path.join_cases output relative
        · exact absurd empty some
        · simp [joined, zero]
        · simp [joined, zero]
  have nonempty : ¬ output.isEmpty = true := fun empty => some (String.isEmpty_iff.mp empty)
  refine locate_eq_ok.mpr ⟨?_, fun _ => savedAt.there⟩
  rw [approach, if_neg nonempty, if_neg clean]
  exact savedAt.home

private theorem resourceFiles_saved (savedAt : compilation.SavedAt output base saved) (some : output ≠ "") :
    Manifest.resourceFiles saved output = .ok ((saved.filesBelow base).filter Manifest.isResourceFile) := by
  rw [Manifest.resourceFiles, savedAt.locate_home some]
  simp only [Except.mapError, bind, Except.bind, savedAt.there]

private theorem listedDrift_saved (orderly : compilation.Orderly) (savedAt : compilation.SavedAt output base saved)
    {entry : String × Artifact} (member : entry ∈ compilation.manifest.files.entries) :
    Manifest.listedDrift saved output entry.1 entry.2 = .ok [] := by
  obtain ⟨site, file, renders, path, artifact⟩ := orderly.mem_files.mp member
  obtain ⟨bytes, held, same⟩ := savedAt.stored site file renders
  have read := readBytes_eq_ok.mpr ⟨_, savedAt.located site file renders, held⟩
  unfold Manifest.listedDrift
  rw [path, read, artifact]
  exact congrArg Except.ok (if_pos same)

/-- After a compilation was saved nothing is reported, unless there are resource files of others. -/
theorem verify_untouched (orderly : compilation.Orderly) (savedAt : compilation.SavedAt output base saved)
    (some : output ≠ "")
    (alone : ∀ names bytes, saved.file? (base ++ names) = Option.some bytes → Manifest.isResourceFile names = true →
      ∃ site file, compilation.Renders site file ∧ names = [site, file.name]) :
    compilation.manifest.verify saved output = .ok [] := by
  have quiet (entry : String × Artifact) (member : entry ∈ compilation.manifest.files.entries) :=
    savedAt.listedDrift_saved orderly member
  obtain ⟨lists, listed⟩ : ∃ lists, compilation.manifest.files.entries.mapM
      (fun (path, artifact) => Manifest.listedDrift saved output path artifact) = .ok lists :=
    exists_mapM_eq_ok.mpr fun entry member => ⟨[], quiet entry member⟩
  refine Manifest.verify_eq_ok.mpr ⟨lists, _, listed, savedAt.resourceFiles_saved some, ?_⟩
  symm
  rw [List.append_eq_nil_iff, List.flatten_eq_nil_iff, List.map_eq_nil_iff, List.filter_eq_nil_iff]
  constructor
  · intro list member
    obtain ⟨entry, inside, same⟩ := (mem_of_mapM listed).mp member
    exact (Except.ok.inj ((quiet entry inside).symm.trans same)).symm
  · intro path member absent
    obtain ⟨names, found, rfl⟩ := List.mem_map.mp member
    obtain ⟨found, yaml⟩ := List.mem_filter.mp found
    obtain ⟨_, bytes, held⟩ := mem_filesBelow.mp found
    obtain ⟨site, file, renders, rfl⟩ := alone names bytes held yaml
    rw [Bool.not_eq_true', Bool.eq_false_iff, ne_eq, orderly.contains_files] at absent
    exact absent ⟨site, file, renders, (artifactPath_eq _ _).symm⟩

end SavedAt

/-- Drift detection is exact. Wherever a compilation was saved, and however files below were changed since, the
manifest is loaded as it was made; and what it reports, each path once, is how the files differ from those of
the compilation. If nothing was changed, and no resource file of others was there, nothing is reported. An
intent that is compiled for its own target is compiled for a list of sites, too. -/
theorem drift_exact {config : Config} {instant : Instant} {document : Json} {intent : Intent} {targets : List String}
    {skip : Bool} {before : Volume} {report : Saved} (read : Intent.ofJson document = .ok intent)
    (compiled : config.compileFor instant intent targets = .ok compilation)
    (plain : ∀ site ∈ compilation.sites, Path.Plain site) (sized : compilation.manifest.Sized)
    (done : (compilation.save output skip).on before = (.ok report, saved)) :
    ∃ base, saved.follow (saved.start output) (Path.parts output) = .ok base ∧ saved.entry? base = some .directory ∧
      (∀ later, Edited base saved later →
        Manifest.load later (Path.join output Manifest.fileName) = .ok compilation.manifest ∧
        ∀ drifts, compilation.manifest.verify later output = .ok drifts →
          (drifts.map Drift.path).Nodup ∧ ∀ drift, drift ∈ drifts ↔ compilation.Drifted base later drift) ∧
      (output ≠ "" →
        (∀ names bytes, saved.file? (base ++ names) = some bytes → Manifest.isResourceFile names = true →
          ∃ site file, compilation.Renders site file ∧ names = [site, file.name]) →
        compilation.manifest.verify saved output = .ok []) := by
  have orderly := orderly_of_compileFor read compiled plain
  obtain ⟨base, savedAt⟩ := savedAt_of_save orderly done
  refine ⟨base, savedAt.home, savedAt.there, ?_, savedAt.verify_untouched orderly⟩
  intro later edited
  refine ⟨savedAt.load_eq sized edited, fun drifts found => ⟨savedAt.nodup_paths edited found, ?_⟩⟩
  exact savedAt.mem_verify orderly edited found

def bareRequest : SiteRequest where
  intent := Config.bareIntent
  siteName := "edge1"
  site := { cluster := "edge-cluster-01", namespaceName := "edge1", plmn := "00101", gnb := "00001",
            trackingArea := "0001", metricsUrl := some "http://172.16.4.45:30090/metrics" }
  service := .embb
  profile := { cpu := "8", memory := "16Gi", storage := "100Gi", networkProfile := "embb", sliceType := "eMBB" }
  qos := ({} : Config).qos
  instant := ⟨0, 0⟩

def bare : Compilation := ⟨"i1", ⟨0, 0⟩, .embb, .ofList [("edge1", bareRequest.bundle)], []⟩

def bareSaved : Except CompileError Saved × Volume := (bare.save "out" true).on (.ofDirectory ["work"])

theorem bare_compiled : Config.compileFor {} ⟨0, 0⟩ Config.bareIntent ["edge1"] = .ok bare := by
  rfl

private theorem bare_orderly : bare.Orderly := by
  have read : Intent.ofJson (.object [("intentId", .text "i1")]) = .ok Config.bareIntent := rfl
  exact orderly_of_compileFor read bare_compiled (by decide +kernel)

private theorem bare_renders {site : String} {file : RenderedFile} :
    bare.Renders site file ↔ site = "edge1" ∧ file ∈ bareRequest.bundle.rendered := by
  have entries : bare.bundles.entries = [("edge1", bareRequest.bundle)] := rfl
  rw [Renders, entries]
  constructor
  · rintro ⟨bundle, member, listed⟩
    cases List.mem_singleton.mp member
    exact ⟨rfl, listed⟩
  · rintro ⟨rfl, listed⟩
    exact ⟨_, List.mem_singleton_self _, listed⟩

def stampedDocument (stamp : String) : Json := .object [
  ("apiVersion", .text "o2ims.provisioning.oran.org/v1alpha1"), ("kind", .text "ProvisioningRequest"),
  ("metadata", .object [
    ("annotations", .object [("generated-by", .text "edgeflow-compiler"), ("resource-profile", .text "standard"),
      ("timestamp", .text stamp)]),
    ("labels", .object [("intent-id", .text "i1"), ("service-type", .text "enhanced-mobile-broadband"),
      ("target-site", .text "edge1")]),
    ("name", .text "i1-edge1"), ("namespace", .text "edge1")]),
  ("spec", .object [
    ("description", .text "Provisioning request for enhanced-mobile-broadband service at edge1"),
    ("networkConfig", .object [("gnbId", .text "00001"), ("networkProfile", .text "embb"), ("plmnId", .text "00101"),
      ("sliceType", .text "eMBB"), ("tac", .text "0001")]),
    ("resourceRequirements", .object [("cpu", .text "8"), ("memory", .text "16Gi"), ("storage", .text "100Gi")]),
    ("targetCluster", .text "edge-cluster-01")])]

theorem bareRequest_document :
    bareRequest.provisioningRequest.document = stampedDocument "1970-01-01T00:00:00Z" := by
  rfl

private theorem size_bare {resource : Resource} (member : resource ∈ bareRequest.bundle.resources) :
    resource.contents.utf8ByteSize < UInt64.size := by
  have names : (bareRequest.members.map Resource.fileName).mergeSort (fun first second => first ≤ second) =
      bareRequest.members.map Resource.fileName := List.mergeSort_of_pairwise (by decide +kernel)
  have listed : bareRequest.bundle.resources = [bareRequest.provisioningRequest, bareRequest.configMap,
    bareRequest.kustomization bareRequest.members] := rfl
  rw [Resource.contents, Yaml.print, String.utf8ByteSize_ofList]
  simp only [listed, List.mem_cons, List.not_mem_nil, or_false] at member
  rcases member with rfl | rfl | rfl
  · rw [bareRequest_document]
    simp only [stampedDocument, Yaml.lines, Yaml.memberLines, Yaml.memberValue, Yaml.hasLines, Yaml.isList, Yaml.leaf,
      reduceIte, Bool.false_eq_true, String.reduceToList, Nat.reduceAdd]
    decide +kernel
  · decide +kernel
  · rw [SiteRequest.kustomization, names]
    decide +kernel

private theorem bare_sized : bare.manifest.Sized := by
  refine ⟨by decide +kernel, ?_, by decide +kernel, by decide +kernel, by decide +kernel⟩
  rintro ⟨path, artifact⟩ member
  obtain ⟨site, file, renders, rfl, rfl⟩ := bare_orderly.mem_files.mp member
  obtain ⟨resource, listed, rfl⟩ := List.mem_map.mp (bare_renders.mp renders).2
  exact size_bare listed

private theorem bare_kept : bareSaved.1.toOption.isSome = true ∧
    (bareSaved.2.follow (bareSaved.2.start "out") (Path.parts "out")).toOption = some ["work", "out"] ∧
    ∀ place ∈ bareSaved.2.entries.keys, Manifest.isResourceFile (place.drop 2) = true →
      ∃ file ∈ bareRequest.bundle.rendered, place.drop 2 = ["edge1", file.name] := by
  decide +kernel

/-- About a compilation that was just saved nothing is reported. -/
theorem saved_without_drift : bareSaved.1.toOption.isSome = true ∧ bare.manifest.verify bareSaved.2 "out" = .ok [] := by
  obtain ⟨kept, home, alone⟩ := bare_kept
  have read : Intent.ofJson (.object [("intentId", .text "i1")]) = .ok Config.bareIntent := rfl
  have plain : ∀ site ∈ bare.sites, Path.Plain site := by decide +kernel
  obtain ⟨report, done⟩ := Option.isSome_iff_exists.mp kept
  have saved : bareSaved = (.ok report, bareSaved.2) := run_eq_ok done
  obtain ⟨base, found, _, _, quiet⟩ := drift_exact read bare_compiled plain bare_sized saved
  obtain rfl := Except.ok.inj (found.symm.trans (toOption_eq_some.mp home))
  refine ⟨kept, quiet (by decide) fun names bytes held yaml => ?_⟩
  have inner : ["work", "out"] ++ names ≠ [] := List.cons_ne_nil _ _
  rw [file?_eq_some, entry?_of_ne_nil inner] at held
  have listed : ["work", "out"] ++ names ∈ bareSaved.2.entries.keys := Table.mem_keys.mpr ⟨_, held⟩
  obtain ⟨file, inside, same⟩ := alone _ listed yaml
  exact ⟨"edge1", file, bare_renders.mpr ⟨rfl, inside⟩, same⟩

end Compilation

end IntentRollout
