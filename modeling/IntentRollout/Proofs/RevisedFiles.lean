import IntentRollout.Proofs.SkippedFiles

/-! Saving one compilation over another. If it has files of the same names for the same sites, all directories are
there and every path leads to a file already; so saving comes to its end, and with skipping only those files
are written whose digests are new. -/

namespace IntentRollout

namespace Volume

variable {before volume : Volume} {places : List String → Prop} {place : List String}

/-- Files at some places may have got other contents, and nothing else was changed. -/
structure Revised (places : List String → Prop) (before after : Volume) : Prop extends before.Grows places after where
  held : ∀ place, places place → ∃ bytes, after.file? place = some bytes

namespace Revised

theorem refl (held : ∀ place, places place → ∃ bytes, volume.file? place = some bytes) : volume.Revised places volume :=
  ⟨.refl, held⟩

theorem put_file (revised : before.Revised places volume) (inside : places place) (bytes : ByteArray) :
    before.Revised places (volume.put place (.file bytes)) := by
  obtain ⟨_, there⟩ := revised.held place inside
  have free := not_directory_of_file there
  refine ⟨revised.toGrows.trans (.put_file bytes free inside), fun other listed => ?_⟩
  by_cases here : place = other
  · exact ⟨bytes, here ▸ file?_put_file bytes free⟩
  · have below : place ≠ [] := by
      rintro rfl
      exact free rfl
    have elsewhere : (volume.put place (.file bytes)).file? other = volume.file? other := by
      apply file?_congr
      rw [entry?_put _ below, if_neg here]
    rw [elsewhere]
    exact revised.held other listed

end Revised

end Volume

namespace Filing

variable {ε α β : Type} {kind : Volume → Prop}

def Succeeds (kind : Volume → Prop) (work : Filing ε α) : Prop :=
  ∀ volume, kind volume → ∃ value after, work.on volume = (.ok value, after) ∧ kind after

theorem Succeeds.pure (value : α) : Succeeds kind (Pure.pure value : Filing ε α) :=
  fun volume held => ⟨value, volume, rfl, held⟩

theorem Succeeds.bind {work : Filing ε α} {next : α → Filing ε β} (first : Succeeds kind work)
    (rest : ∀ value, Succeeds kind (next value)) : Succeeds kind (work >>= next) := by
  intro volume held
  obtain ⟨value, middle, begun, kept⟩ := first volume held
  obtain ⟨result, after, done, last⟩ := rest value middle kept
  exact ⟨result, after, on_bind_eq_ok.mpr ⟨value, middle, begun, done⟩, last⟩

theorem Succeeds.mapM {items : List α} {work : α → Filing ε β} (each : ∀ item ∈ items, Succeeds kind (work item)) :
    Succeeds kind (items.mapM work) := by
  induction items with
  | nil => exact .pure []
  | cons item rest ih =>
    rw [List.forall_mem_cons] at each
    rw [List.mapM_cons]
    exact each.1.bind fun _ => (ih each.2).bind fun _ => .pure _

end Filing

namespace Compilation

open Volume

variable {first second : Compilation} {output site : String} {file : RenderedFile} {skip : Bool}
  {before middle volume last : Volume} {base : List String}

/-- One compilation has files for sites of another one, and under names of its files. -/
structure Follows (second first : Compilation) : Prop where
  sites : ∀ site ∈ second.sites, site ∈ first.sites
  names : ∀ site file, second.Renders site file → ∃ other, first.Renders site other ∧ other.name = file.name

def Changed (compilation : Compilation) (site : String) (file : RenderedFile) : Prop :=
  ∀ other, compilation.Renders site other → other.name = file.name →
    Digest.ofText other.contents ≠ Digest.ofText file.contents

def ChangedPlaces (first second : Compilation) (base : List String) (place : List String) : Prop :=
  ∃ site file, second.Renders site file ∧ first.Changed site file ∧ place = base ++ [site, file.name]

private theorem written_eq_filter {artifacts : List (String × RenderedFile)} {entries : List (String × Bool)}
    (reports : List.Forall₂ (Reported output true before last) artifacts entries)
    (changed : String × RenderedFile → Bool)
    (told : ∀ artifact ∈ artifacts, changed artifact = true ↔ ¬ Right output before last artifact) :
    (entries.filter (·.2)).map (·.1) = (artifacts.filter changed).map (·.1) := by
  induction reports with
  | nil => rfl
  | @cons artifact entry artifacts entries reported _ ih =>
    rw [List.forall_mem_cons] at told
    have same : entry.2 = changed artifact := by
      rw [Bool.eq_iff_iff, told.1, ← Bool.not_eq_false, reported.skipped]
      simp
    rw [List.filter_cons, List.filter_cons, same]
    split
    · rw [List.map_cons, List.map_cons, ih told.2, reported.path]
    · exact ih told.2

structure Resaving (first second : Compilation) (output : String) (base : List String) (middle : Volume) : Prop where
  orderly : first.Orderly
  other : second.Orderly
  follows : second.Follows first
  settled : first.Settled output middle
  savedAt : first.SavedAt output base middle

namespace Resaving

variable (resaving : Resaving first second output base middle)

include resaving

theorem located (renders : second.Renders site file) :
    middle.locate (Path.join output (artifactPath site file.name)) = .ok (base ++ [site, file.name]) := by
  obtain ⟨other, listed, same⟩ := resaving.follows.names site file renders
  rw [← same]
  exact resaving.savedAt.located site other listed

/-- Where a file is to stand there is one, and whether it has the right digest is known from its name. -/
theorem stored (renders : second.Renders site file) : ∃ bytes, middle.file? (base ++ [site, file.name]) = some bytes ∧
    (Digest.ofBytes bytes = Digest.ofText file.contents ↔ ¬ first.Changed site file) := by
  obtain ⟨other, listed, same⟩ := resaving.follows.names site file renders
  obtain ⟨bytes, held, digest⟩ := resaving.savedAt.stored site other listed
  refine ⟨bytes, same ▸ held, ?_⟩
  rw [digest]
  constructor
  · exact fun equal changed => changed other listed same equal
  · intro unchanged
    by_contra differs
    refine unchanged fun another listed' same' => ?_
    obtain rfl := resaving.orderly.eq_of_name listed listed' (same.trans same'.symm)
    exact differs

private theorem revised_refl : middle.Revised (first.ChangedPlaces second base) middle := by
  refine .refl ?_
  rintro place ⟨site, file, renders, _, rfl⟩
  obtain ⟨bytes, held, _⟩ := resaving.stored renders
  exact ⟨bytes, held⟩

omit resaving in
private theorem manifest_unchanged : ¬ first.ChangedPlaces second base (base ++ [Manifest.fileName]) := by
  rintro ⟨site, file, _, _, same⟩
  cases List.append_cancel_left same

private theorem succeeds_saveFile (renders : second.Renders site file) :
    Filing.Succeeds (middle.Revised (first.ChangedPlaces second base))
      (saveFile true (Path.join (Path.join output site) file.name) file) := by
  intro volume revised
  have plain := resaving.other.plain_site renders
  have named := resaving.other.plain_name renders
  have located := revised.locate (resaving.located renders)
  rw [← Path.join_join plain named] at located
  cases right : isUnchanged volume (Path.join (Path.join output site) file.name) file.contents with
  | true => exact ⟨false, volume, on_saveFile_of_unchanged right, revised⟩
  | false =>
    have changed : first.ChangedPlaces second base (base ++ [site, file.name]) := by
      by_contra unchanged
      obtain ⟨bytes, held, digest⟩ := resaving.stored renders
      rw [← revised.files _ unchanged] at held
      have same := digest.mpr fun changed => unchanged ⟨site, file, renders, changed, rfl⟩
      rw [isUnchanged_iff.mpr ⟨bytes, readBytes_eq_ok.mpr ⟨_, located, held⟩, same⟩] at right
      cases right
    obtain ⟨_, there⟩ := revised.held _ changed
    have wrote := write_of_located (Path.endsWithSlash_join named _) located (not_directory_of_file there)
      file.contents.toUTF8
    exact ⟨true, _, on_saveFile_of_write (by rw [right, Bool.and_false]) wrote, revised.put_file changed _⟩

private theorem succeeds_saveBundles :
    Filing.Succeeds (middle.Revised (first.ChangedPlaces second base)) (second.saveBundles output true) := by
  refine Filing.Succeeds.mapM ?_
  rintro ⟨site, bundle⟩ listed
  refine Filing.Succeeds.bind (fun volume revised => ?_) fun _ => Filing.Succeeds.mapM fun file member => ?_
  · obtain ⟨entry, known, rfl⟩ := List.mem_map.mp (resaving.follows.sites site (List.mem_map_of_mem listed))
    have made := makeDirectories_again (Path.endsWithDot_join (resaving.orderly.sites _ known) output)
      (resaving.settled.made entry known) revised.toGrows
    exact ⟨(), volume, Filing.on_makeDirectories_eq_ok.mpr made, revised⟩
  · exact (resaving.succeeds_saveFile ⟨bundle, listed, member⟩).bind fun _ => .pure _

/-- Saving comes to its end, and nothing but the changed files and the manifest is touched. -/
theorem exists_save : ∃ report last, (second.save output true).on middle = (.ok report, last) ∧
    second.SavedAt output base last ∧ ∀ place, ¬ first.ChangedPlaces second base place →
      place ≠ base ++ [Manifest.fileName] → last.file? place = middle.file? place := by
  obtain ⟨results, volume, bundles, revised⟩ := resaving.succeeds_saveBundles middle resaving.revised_refl
  have located := revised.locate resaving.savedAt.manifest
  have there : volume.file? (base ++ [Manifest.fileName]) = some first.manifest.toJson.pretty.toUTF8 :=
    (revised.files _ manifest_unchanged).trans resaving.savedAt.text
  have free := not_directory_of_file there
  have wrote := write_of_located (Path.endsWithSlash_join (by decide) output) located free
    second.manifest.toJson.pretty.toUTF8
  have grows : volume.Grows (· = base ++ [Manifest.fileName]) _ :=
    .put_file second.manifest.toJson.pretty.toUTF8 free rfl
  have saved := save_eq_ok.mpr ⟨results, volume, bundles, wrote, rfl⟩
  refine ⟨_, _, saved, ?_, fun place unchanged other => ?_⟩
  · obtain ⟨base', savedAt⟩ := savedAt_of_save resaving.other saved
    have home := grows.reach (revised.reach resaving.savedAt.home)
    obtain rfl := Except.ok.inj (home.symm.trans savedAt.home)
    exact savedAt
  · exact (grows.files place other).trans (revised.files place unchanged)

/-- A file is reported as written if its digest is new. -/
theorem right_iff_unchanged (savedAt : second.SavedAt output base last) (renders : second.Renders site file) :
    Right output middle last (artifactPath site file.name, file) ↔ ¬ first.Changed site file := by
  obtain ⟨bytes, held, digest⟩ := resaving.stored renders
  have leads := savedAt.located site file renders
  rw [← digest]
  constructor
  · rintro ⟨place, bytes', located, held', right⟩
    obtain rfl := Except.ok.inj (leads.symm.trans located)
    rw [held] at held'
    obtain rfl := Option.some_inj.mp held'
    exact right
  · exact fun right => ⟨_, bytes, leads, held, right⟩

open Classical in
/-- No other files are reported as written than such as may be changed. -/
theorem written_sublist {report : Saved} (done : (second.save output true).on middle = (.ok report, last))
    (savedAt : second.SavedAt output base last) (allowed : String × RenderedFile → Bool)
    (told : ∀ site file, second.Renders site file → first.Changed site file →
      allowed (artifactPath site file.name, file) = true) :
    report.written.Sublist ((second.artifacts.filter allowed).map (·.1)) := by
  obtain ⟨entries, reports, written, _⟩ := entries_of_save resaving.other done savedAt
  rw [written, written_eq_filter reports (fun artifact => decide (¬ Right output middle last artifact))
    fun _ _ => decide_eq_true_iff]
  have among : second.artifacts.filter (fun artifact => decide (¬ Right output middle last artifact)) =
      (second.artifacts.filter allowed).filter fun artifact => decide (¬ Right output middle last artifact) := by
    rw [List.filter_filter]
    refine List.filter_congr ?_
    rintro ⟨path, file⟩ member
    obtain ⟨site, renders, rfl⟩ := mem_artifacts.mp member
    by_cases changed : first.Changed site file
    · rw [told site file renders changed, Bool.and_true]
    · have right := (resaving.right_iff_unchanged savedAt renders).mpr changed
      rw [decide_eq_false (not_not_intro right), Bool.false_and]
  rw [among]
  exact List.filter_sublist.map _

theorem written_of_save {report : Saved} (done : (second.save output true).on middle = (.ok report, last))
    (savedAt : second.SavedAt output base last) (changed : String × RenderedFile → Bool)
    (told : ∀ site file, second.Renders site file →
      (changed (artifactPath site file.name, file) = true ↔ first.Changed site file)) :
    report.written = (second.artifacts.filter changed).map (·.1) := by
  obtain ⟨entries, reports, written, _⟩ := entries_of_save resaving.other done savedAt
  rw [written]
  refine written_eq_filter reports changed ?_
  rintro ⟨path, file⟩ member
  obtain ⟨site, renders, rfl⟩ := mem_artifacts.mp member
  rw [told site file renders, resaving.right_iff_unchanged savedAt renders, not_not]

end Resaving

end Compilation

end IntentRollout
