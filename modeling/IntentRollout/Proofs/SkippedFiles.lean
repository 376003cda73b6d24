import IntentRollout.Proofs.DriftDetection
import IntentRollout.Proofs.FilledVolumes
import IntentRollout.Proofs.SettledVolumes

/-! Saving with and without skipping. Whether a file with the right digest is left alone or written again makes no
difference to the volume, as long as no other contents have that digest; so both ways leave the same files. What
is reported as unchanged is what was right before, and once a compilation was saved there is nothing left to
write. -/

namespace IntentRollout.Compilation

open Volume

variable {compilation : Compilation} {output site path : String} {file : RenderedFile} {skip : Bool}
  {volume before after last : Volume}

/-- No contents but those of an artifact have its digest, among the files that stand where it could be saved. -/
def Unmistaken (compilation : Compilation) (volume : Volume) : Prop :=
  ∀ site file, compilation.Renders site file → ∀ place bytes, [site, file.name] <:+ place →
    volume.file? place = some bytes → Digest.ofBytes bytes = Digest.ofText file.contents →
    bytes = file.contents.toUTF8

def Placed (compilation : Compilation) (output : String) (volume : Volume) (place : List String) : Prop :=
  ∃ site file, compilation.Renders site file ∧
    volume.locate (Path.join output (artifactPath site file.name)) = .ok place

/-- Contents with the right digest stood where the path of an artifact leads in the end. -/
def Right (output : String) (before last : Volume) (artifact : String × RenderedFile) : Prop :=
  ∃ place bytes, last.locate (Path.join output artifact.1) = .ok place ∧ before.file? place = some bytes ∧
    Digest.ofBytes bytes = Digest.ofText artifact.2.contents

/-- What is reported of an artifact: it was written, unless it may be skipped and was right. -/
structure Reported (output : String) (skip : Bool) (before last : Volume) (artifact : String × RenderedFile)
    (entry : String × Bool) : Prop where
  path : entry.1 = artifact.1
  skipped : entry.2 = false ↔ skip = true ∧ Right output before last artifact

theorem Unmistaken.of_grows (unmistaken : compilation.Unmistaken before)
    (grows : before.Grows (fun _ => False) after) : compilation.Unmistaken after :=
  fun site file renders place bytes ends held =>
    unmistaken site file renders place bytes ends ((grows.files place id).symm.trans held)

inductive Filed (skip : Bool) (path : String) (file : RenderedFile) (volume : Volume) :
    Except CompileError Bool × Volume → Prop where
  | skipped (skips : skip = true) (right : isUnchanged volume path file.contents = true) :
      Filed skip path file volume (.ok false, volume)
  | written {place : List String} (needed : (skip && isUnchanged volume path file.contents) = false)
      (located : volume.locate path = .ok place) (free : volume.entry? place ≠ some .directory) :
      Filed skip path file volume (.ok true, volume.put place (.file file.contents.toUTF8))
  | failed (error : CompileError) : Filed skip path file volume (.error error, volume)

theorem on_saveFile_of_unchanged (right : isUnchanged volume path file.contents = true) :
    (saveFile true path file).on volume = (.ok false, volume) := by
  rw [saveFile, Filing.on_get_bind, right]
  rfl

theorem on_saveFile_of_write (needed : (skip && isUnchanged volume path file.contents) = false)
    (wrote : volume.write path file.contents.toUTF8 = .ok after) :
    (saveFile skip path file).on volume = (.ok true, after) := by
  rw [saveFile, Filing.on_get_bind, needed, if_neg Bool.false_ne_true, Filing.on_bind, Filing.on_write_of_ok _ wrote]
  rfl

theorem filed (skip : Bool) (path : String) (file : RenderedFile) (volume : Volume) :
    Filed skip path file volume ((saveFile skip path file).on volume) := by
  cases needed : skip && isUnchanged volume path file.contents with
  | true =>
    obtain ⟨rfl, right⟩ := Bool.and_eq_true_iff.mp needed
    rw [on_saveFile_of_unchanged right]
    exact .skipped rfl right
  | false =>
    cases wrote : volume.write path file.contents.toUTF8 with
    | error fault =>
      rw [saveFile, Filing.on_get_bind, needed, if_neg Bool.false_ne_true, Filing.on_bind,
        Filing.on_write_of_error _ wrote]
      exact .failed _
    | ok changed =>
      rw [on_saveFile_of_write needed wrote]
      obtain ⟨place, located, free, rfl⟩ := write_eq_ok wrote
      exact .written needed located free

/-- The files of a site are told by their names. -/
theorem Orderly.eq_of_name (orderly : compilation.Orderly) {other : RenderedFile}
    (renders : compilation.Renders site file) (renders' : compilation.Renders site other)
    (same : file.name = other.name) : file = other := by
  obtain ⟨bundle, member, listed⟩ := renders
  obtain ⟨bundle', member', listed'⟩ := renders'
  have one := Table.get?_eq_some.mpr member
  rw [Table.get?_eq_some.mpr member', Option.some.injEq] at one
  exact List.inj_on_of_nodup_map (orderly.distinct _ member) listed (one ▸ listed') same

section Files

variable (orderly : compilation.Orderly) (renders : compilation.Renders site file)

include orderly renders

private theorem suffix_of_locate {place : List String}
    (located : volume.locate (Path.join (Path.join output site) file.name) = .ok place) :
    [site, file.name] <:+ place := by
  rw [Path.join_join (orderly.plain_site renders) (orderly.plain_name renders)] at located
  obtain ⟨base, _, _, rfl⟩ := locate_artifact (orderly.plain_site renders) (orderly.plain_name renders) located
  exact List.suffix_append _ _

private theorem keeps_saveFile (output : String) (skip : Bool) : Filing.Keeps compilation.Unmistaken
    (saveFile skip (Path.join (Path.join output site) file.name) file) := by
  intro volume unmistaken
  have step := filed skip (Path.join (Path.join output site) file.name) file volume
  generalize (saveFile skip (Path.join (Path.join output site) file.name) file).on volume = done at step ⊢
  cases step with
  | skipped | failed => exact unmistaken
  | @written place _ located free =>
    intro site' file' renders' place' bytes ends held digest
    by_cases here : place = place'
    · obtain rfl := here
      obtain ⟨rfl, names⟩ := names_of_suffix (suffix_of_locate orderly renders located) ends
      obtain rfl := orderly.eq_of_name renders renders' names
      exact (Option.some_inj.mp ((file?_put_file _ free).symm.trans held)).symm
    · have elsewhere : (volume.put place (.file file.contents.toUTF8)).file? place' = volume.file? place' := by
        apply file?_congr
        have below : place ≠ [] := by
          rintro rfl
          exact free rfl
        rw [entry?_put _ below, if_neg here]
      exact unmistaken site' file' renders' place' bytes ends (elsewhere ▸ held) digest

/-- Writing what has the right digest anyway changes nothing. -/
theorem alike_saveFile (output : String) : Filing.Alike compilation.Unmistaken
    (saveFile true (Path.join (Path.join output site) file.name) file)
    (saveFile false (Path.join (Path.join output site) file.name) file) := by
  intro volume unmistaken
  cases right : isUnchanged volume (Path.join (Path.join output site) file.name) file.contents with
  | false =>
    rw [Filing.ending, Filing.ending, saveFile, Filing.on_get_bind, right, saveFile, Filing.on_get_bind]
    rfl
  | true =>
    obtain ⟨bytes, read, digest⟩ := isUnchanged_iff.mp right
    obtain ⟨place, located, held⟩ := readBytes_eq_ok.mp read
    obtain rfl := unmistaken site file renders place bytes (suffix_of_locate orderly renders located) held digest
    have wrote := write_of_held (Path.endsWithSlash_join (orderly.plain_name renders) _) located held
    rw [Filing.ending, Filing.ending, on_saveFile_of_unchanged right, on_saveFile_of_write rfl wrote]
    rfl

private theorem aims_saveFile (output : String) (skip : Bool) : Filing.Aims (compilation.Placed output)
    (saveFile skip (Path.join (Path.join output site) file.name) file) := by
  intro before value after last done onward
  have step := filed skip (Path.join (Path.join output site) file.name) file before
  rw [done] at step
  cases step with
  | skipped => exact .refl
  | written _ located free =>
    have grows : before.Grows (fun _ => True) (before.put _ (.file file.contents.toUTF8)) := .put_file _ free trivial
    have leads := (grows.trans onward).locate located
    rw [Path.join_join (orderly.plain_site renders) (orderly.plain_name renders)] at leads
    exact .put_file _ free ⟨site, file, renders, leads⟩

private theorem reported_of_saveFile {written : Bool}
    (done : (saveFile skip (Path.join (Path.join output site) file.name) file).on before = (.ok written, after))
    (onward : after.Grows (fun _ => True) last) :
    Reported output skip before last (artifactPath site file.name, file) (artifactPath site file.name, written) := by
  refine ⟨rfl, ?_⟩
  have step := filed skip (Path.join (Path.join output site) file.name) file before
  rw [done] at step
  rw [Path.join_join (orderly.plain_site renders) (orderly.plain_name renders)] at step
  cases step with
  | skipped skips right =>
    obtain ⟨bytes, read, digest⟩ := isUnchanged_iff.mp right
    obtain ⟨place, located, held⟩ := readBytes_eq_ok.mp read
    exact iff_of_true rfl ⟨skips, place, bytes, onward.locate located, held, digest⟩
  | @written place needed located free =>
    refine iff_of_false Bool.noConfusion ?_
    rintro ⟨skips, place', bytes, leads, held, digest⟩
    have grows : before.Grows (fun _ => True) (before.put place (.file file.contents.toUTF8)) :=
      .put_file _ free trivial
    obtain rfl := Except.ok.inj (((grows.trans onward).locate located).symm.trans leads)
    have right := isUnchanged_iff.mpr ⟨bytes, readBytes_eq_ok.mpr ⟨place, located, held⟩, digest⟩
    rw [skips, right] at needed
    cases needed

/-- What is reported of an artifact depends on its own place alone. -/
theorem Reported.back {entry : String × Bool} {written : List String → Prop}
    (reported : Reported output skip after last (artifactPath site file.name, file) entry)
    (grows : before.Grows written after) (apart : ∀ place, [site, file.name] <:+ place → ¬ written place) :
    Reported output skip before last (artifactPath site file.name, file) entry := by
  refine ⟨reported.path, reported.skipped.trans (and_congr_right fun _ => ?_)⟩
  have same (place : List String)
      (leads : last.locate (Path.join output (artifactPath site file.name)) = .ok place) :
      after.file? place = before.file? place := by
    rw [← Path.join_join (orderly.plain_site renders) (orderly.plain_name renders)] at leads
    exact grows.files place (apart place (suffix_of_locate orderly renders leads))
  constructor
  · rintro ⟨place, bytes, leads, held, digest⟩
    exact ⟨place, bytes, leads, same place leads ▸ held, digest⟩
  · rintro ⟨place, bytes, leads, held, digest⟩
    exact ⟨place, bytes, leads, (same place leads).trans held, digest⟩

end Files

section Bundles

variable (orderly : compilation.Orderly) {bundle : Bundle} (listed : (site, bundle) ∈ compilation.bundles.entries)

include orderly listed

private theorem keeps_saveBundle (output : String) (skip : Bool) :
    Filing.Keeps compilation.Unmistaken (saveBundle output skip site bundle) := by
  refine Filing.Keeps.bind (fun volume unmistaken => unmistaken.of_grows (.makeDirectories volume _))
    fun _ => Filing.Keeps.mapM fun file member => ?_
  exact (keeps_saveFile orderly ⟨bundle, listed, member⟩ output skip).bind fun _ => .pure _

private theorem alike_saveBundle (output : String) : Filing.Alike compilation.Unmistaken
    (saveBundle output true site bundle) (saveBundle output false site bundle) := by
  refine (Filing.Alike.refl _).bind (fun volume unmistaken => unmistaken.of_grows (.makeDirectories volume _))
    fun _ _ => Filing.Alike.mapM (fun file member => ?_) fun file member => ?_
  · exact (alike_saveFile orderly ⟨bundle, listed, member⟩ output).bind
      (keeps_saveFile orderly ⟨bundle, listed, member⟩ output true) fun _ _ => .pure _ _
  · exact (keeps_saveFile orderly ⟨bundle, listed, member⟩ output true).bind fun _ => .pure _

private theorem aims_saveBundle (output : String) (skip : Bool) :
    Filing.Aims (compilation.Placed output) (saveBundle output skip site bundle) := by
  refine (Filing.Aims.of_grows .makeDirectories).bind fun _ => Filing.Aims.mapM fun file member => ?_
  exact (aims_saveFile orderly ⟨bundle, listed, member⟩ output skip).bind fun _ => .pure _

private theorem grows_saveFile_bind (output : String) (skip : Bool) (member : file ∈ bundle.rendered) :
    Filing.Grows (fun _ => True) (saveFile skip (Path.join (Path.join output site) file.name) file >>= fun written =>
      pure (artifactPath site file.name, written)) :=
  Filing.Grows.bind (fun volume => (grows_saveFile (orderly.sites _ listed) (orderly.names _ listed file member) skip
    volume).mono fun _ _ => trivial) fun _ => .pure _

/-- What is reported of the files of a site is the same, whatever is done elsewhere before. -/
theorem reports_back {written : List String → Prop} {results : List (String × Bool)} (grows : before.Grows written after)
    (apart : ∀ file ∈ bundle.rendered, ∀ place, [site, file.name] <:+ place → ¬ written place)
    (reports : List.Forall₂ (Reported output skip after last)
      (bundle.rendered.map fun file => (artifactPath site file.name, file)) results) :
    List.Forall₂ (Reported output skip before last)
      (bundle.rendered.map fun file => (artifactPath site file.name, file)) results := by
  rw [List.forall₂_map_left_iff] at reports ⊢
  refine ((List.forall₂_and_left _ _).mpr ⟨fun _ member => member, reports⟩).imp ?_
  rintro file entry ⟨member, reported⟩
  exact reported.back orderly ⟨bundle, listed, member⟩ grows (apart file member)

private theorem reported_of_saveBundle {results : List (String × Bool)}
    (done : (saveBundle output skip site bundle).on before = (.ok results, after))
    (onward : after.Grows (fun _ => True) last) :
    List.Forall₂ (Reported output skip before last)
      (bundle.rendered.map fun file => (artifactPath site file.name, file)) results := by
  obtain ⟨_, middle, made, files⟩ := Filing.on_bind_eq_ok.mp done
  have plain := orderly.sites _ listed
  have named := orderly.names _ listed
  have directories : before.Grows (fun _ => False) middle := Filing.Grows.after made .makeDirectories
  have distinct := List.pairwise_map.mp (orderly.distinct _ listed)
  refine reports_back orderly listed directories (fun _ _ _ _ => id) (List.forall₂_map_left_iff.mpr ?_)
  refine Filing.forall₂_of_mapM
    (fun file entry before last => Reported output skip before last (artifactPath site file.name, file) entry)
    ?_ ?_ (distinct.imp_of_mem ?_) files onward
  · exact fun file member => grows_saveFile_bind orderly listed output skip member
  · intro file member before value after last saved onward
    obtain ⟨_, _, wrote, finish⟩ := Filing.on_bind_eq_ok.mp saved
    cases finish
    exact reported_of_saveFile orderly ⟨bundle, listed, member⟩ wrote onward
  · intro earlier later member member' differs before value after saved entry last reported
    obtain ⟨_, _, wrote, finish⟩ := Filing.on_bind_eq_ok.mp saved
    cases finish
    refine reported.back orderly ⟨bundle, listed, member'⟩
      (Filing.Grows.after wrote (grows_saveFile plain (named earlier member) skip)) ?_
    exact fun place ends other => differs (names_of_suffix other ends).2

/-- The directory of a site need not be made again. -/
theorem made_of_saveBundle {results : List (String × Bool)}
    (done : (saveBundle output skip site bundle).on before = (.ok results, after)) :
    after.makeDirectories (Path.join output site) = (.ok (), after) := by
  obtain ⟨_, middle, made, files⟩ := Filing.on_bind_eq_ok.mp done
  have grows : middle.Grows (fun _ => True) after :=
    Filing.Grows.after files (Filing.Grows.mapM fun _ member => grows_saveFile_bind orderly listed output skip member)
  exact makeDirectories_again (Path.endsWithDot_join (orderly.sites _ listed) output)
    (Filing.on_makeDirectories_eq_ok.mp made) grows

end Bundles

def saveBundles (compilation : Compilation) (output : String) (skip : Bool) :
    Filing CompileError (List (List (String × Bool))) :=
  compilation.bundles.entries.mapM fun (site, bundle) => saveBundle output skip site bundle

def savedAs (compilation : Compilation) (output : String) (results : List (List (String × Bool))) : Saved where
  manifestPath := Path.join output Manifest.fileName
  manifest := compilation.manifest
  written := (results.flatten.filter (·.2)).map (·.1)
  unchanged := (results.flatten.filter (!·.2)).map (·.1)

private theorem save_eq_bind (compilation : Compilation) (output : String) (skip : Bool) :
    compilation.save output skip =
      (compilation.saveBundles output skip >>= fun results =>
        compilation.manifest.write (Path.join output Manifest.fileName) >>= fun _ =>
          pure (compilation.savedAs output results)) := rfl

theorem save_eq_ok {report : Saved} : (compilation.save output skip).on before = (.ok report, after) ↔
    ∃ results middle, (compilation.saveBundles output skip).on before = (.ok results, middle) ∧
      middle.write (Path.join output Manifest.fileName) compilation.manifest.toJson.pretty.toUTF8 = .ok after ∧
      report = compilation.savedAs output results := by
  rw [save_eq_bind, Filing.on_bind_eq_ok]
  constructor
  · rintro ⟨results, middle, bundles, done⟩
    obtain ⟨_, _, wrote, finish⟩ := Filing.on_bind_eq_ok.mp done
    cases finish
    exact ⟨results, middle, bundles, Filing.on_write_eq_ok.mp wrote, rfl⟩
  · rintro ⟨results, middle, bundles, wrote, rfl⟩
    exact ⟨results, middle, bundles,
      Filing.on_bind_eq_ok.mpr ⟨_, _, Filing.on_write_eq_ok.mpr wrote, rfl⟩⟩

/-- The files come first, and after them the manifest alone is written. -/
theorem bundles_of_save {report : Saved} {base : List String}
    (done : (compilation.save output skip).on before = (.ok report, after))
    (savedAt : compilation.SavedAt output base after) :
    ∃ results middle, (compilation.saveBundles output skip).on before = (.ok results, middle) ∧
      middle.Grows (· = base ++ [Manifest.fileName]) after ∧ report = compilation.savedAs output results := by
  obtain ⟨results, middle, bundles, wrote, reported⟩ := save_eq_ok.mp done
  obtain ⟨place, _, located, _, grows⟩ := found_of_write wrote
  obtain rfl := Except.ok.inj (located.symm.trans savedAt.manifest)
  exact ⟨results, middle, bundles, grows, reported⟩

section All

variable (orderly : compilation.Orderly)

include orderly

private theorem keeps_saveBundles (output : String) (skip : Bool) :
    Filing.Keeps compilation.Unmistaken (compilation.saveBundles output skip) :=
  Filing.Keeps.mapM fun _ listed => keeps_saveBundle orderly listed output skip

/-- Saving with and without skipping ends alike. -/
theorem alike_save (output : String) :
    Filing.Alike compilation.Unmistaken (compilation.save output true) (compilation.save output false) := by
  rw [save_eq_bind, save_eq_bind]
  have bundles : Filing.Alike compilation.Unmistaken (compilation.saveBundles output true)
      (compilation.saveBundles output false) :=
    Filing.Alike.mapM (fun _ listed => alike_saveBundle orderly listed output)
      fun _ listed => keeps_saveBundle orderly listed output true
  refine bundles.bind (keeps_saveBundles orderly output true) fun _ _ => ?_
  have manifest : Filing.Alike (fun _ => True) (compilation.manifest.write (Path.join output Manifest.fileName))
      (compilation.manifest.write (Path.join output Manifest.fileName)) := .refl _
  exact (manifest.bind (fun _ _ => trivial) fun _ _ => .pure _ _).mono fun _ _ => trivial

private theorem reported_of_saveBundles {results : List (List (String × Bool))}
    (done : (compilation.saveBundles output skip).on before = (.ok results, after))
    (onward : after.Grows (fun _ => True) last) :
    List.Forall₂ (Reported output skip before last) compilation.artifacts results.flatten := by
  have keys := List.pairwise_map.mp compilation.bundles.nodup_keys
  have reports := Filing.forall₂_of_mapM
    (fun entry results before last => List.Forall₂ (Reported output skip before last)
      (entry.2.rendered.map fun file => (artifactPath entry.1 file.name, file)) results)
    ?_ ?_ (keys.imp_of_mem ?_) done onward
  · rw [artifacts, List.flatMap]
    exact List.rel_flatten (List.forall₂_map_left_iff.mpr reports)
  · exact fun entry listed volume => (grows_saveBundle (orderly.sites _ listed) (orderly.names _ listed) skip
      volume).mono fun _ _ => trivial
  · intro entry listed before results after last saved onward
    exact reported_of_saveBundle orderly listed saved onward
  · intro earlier later member member' differs before value after saved results last reports
    refine reports_back orderly member'
      (Filing.Grows.after saved (grows_saveBundle (orderly.sites _ member) (orderly.names _ member) skip)) ?_ reports
    rintro file _ place ends ⟨other, _, ends'⟩
    exact differs (names_of_suffix ends' ends).1

/-- Nothing but artifacts and the manifest is touched. -/
theorem file?_of_save {report : Saved} {base : List String}
    (done : (compilation.save output skip).on before = (.ok report, after))
    (savedAt : compilation.SavedAt output base after) {place : List String}
    (foreign : ∀ site file, compilation.Renders site file → place ≠ base ++ [site, file.name])
    (other : place ≠ base ++ [Manifest.fileName]) : after.file? place = before.file? place := by
  obtain ⟨results, middle, bundles, grows, _⟩ := bundles_of_save done savedAt
  have aims : Filing.Aims (compilation.Placed output) (compilation.saveBundles output skip) :=
    Filing.Aims.mapM fun _ listed => aims_saveBundle orderly listed output skip
  rw [grows.files place other]
  refine (aims before results middle after bundles (grows.mono fun _ _ => trivial)).files place ?_
  rintro ⟨site, file, renders, leads⟩
  exact foreign site file renders (Except.ok.inj (leads.symm.trans (savedAt.located site file renders)))

/-- Every artifact is there, to the byte. -/
theorem held_of_save (unmistaken : compilation.Unmistaken before) {report : Saved} {base : List String}
    (done : (compilation.save output skip).on before = (.ok report, after))
    (savedAt : compilation.SavedAt output base after) (renders : compilation.Renders site file) :
    after.file? (base ++ [site, file.name]) = some file.contents.toUTF8 := by
  obtain ⟨results, middle, bundles, grows, _⟩ := bundles_of_save done savedAt
  obtain ⟨bytes, held, digest⟩ := savedAt.stored site file renders
  have kept : compilation.Unmistaken middle := by
    have keeps := keeps_saveBundles orderly output skip before unmistaken
    rwa [bundles] at keeps
  have before : middle.file? (base ++ [site, file.name]) = some bytes := by
    rw [← grows.files, held]
    simp
  rw [held, kept site file renders _ bytes (List.suffix_append _ _) before digest]

theorem entries_of_save {report : Saved} {base : List String}
    (done : (compilation.save output skip).on before = (.ok report, after))
    (savedAt : compilation.SavedAt output base after) :
    ∃ entries, List.Forall₂ (Reported output skip before after) compilation.artifacts entries ∧
      report.written = (entries.filter (·.2)).map (·.1) ∧ report.unchanged = (entries.filter (!·.2)).map (·.1) := by
  obtain ⟨results, middle, bundles, grows, rfl⟩ := bundles_of_save done savedAt
  exact ⟨results.flatten, reported_of_saveBundles orderly bundles (grows.mono fun _ _ => trivial), rfl, rfl⟩

end All

section Reports

variable {artifacts : List (String × RenderedFile)} {entries : List (String × Bool)}
  (reports : List.Forall₂ (Reported output skip before last) artifacts entries)

include reports

private theorem paths_of_reports : entries.map (·.1) = artifacts.map (·.1) := by
  induction reports with
  | nil => rfl
  | cons reported _ ih => rw [List.map_cons, List.map_cons, ih, reported.path]

private theorem exists_skipped : (∃ entry ∈ entries, entry.2 = false ∧ entry.1 = path) ↔
    ∃ artifact ∈ artifacts, (skip = true ∧ Right output before last artifact) ∧ artifact.1 = path := by
  induction reports with
  | nil => simp
  | cons reported _ ih =>
    rw [List.exists_mem_cons_iff, List.exists_mem_cons_iff, reported.path, reported.skipped, ih]

private theorem mem_unchanged : path ∈ (entries.filter (!·.2)).map (·.1) ↔
    ∃ artifact ∈ artifacts, (skip = true ∧ Right output before last artifact) ∧ artifact.1 = path := by
  rw [← exists_skipped reports]
  simp [and_assoc]

private theorem written_append_unchanged :
    ((entries.filter (·.2)).map (·.1) ++ (entries.filter (!·.2)).map (·.1)).Perm (artifacts.map (·.1)) := by
  rw [← List.map_append, ← paths_of_reports reports]
  exact (List.filter_append_perm (·.2) entries).map _

end Reports

/-- There is nothing left to do for a compilation. -/
structure Settled (compilation : Compilation) (output : String) (volume : Volume) : Prop where
  made : ∀ entry ∈ compilation.bundles.entries,
    volume.makeDirectories (Path.join output entry.1) = (.ok (), volume)
  right : ∀ site file, compilation.Renders site file →
    isUnchanged volume (Path.join (Path.join output site) file.name) file.contents = true
  manifest : volume.write (Path.join output Manifest.fileName) compilation.manifest.toJson.pretty.toUTF8 = .ok volume

theorem settled_of_save (orderly : compilation.Orderly) {report : Saved}
    (done : (compilation.save output skip).on before = (.ok report, after)) : compilation.Settled output after := by
  obtain ⟨base, savedAt⟩ := savedAt_of_save orderly done
  obtain ⟨results, middle, bundles, grows, _⟩ := bundles_of_save done savedAt
  refine ⟨fun entry listed => ?_, fun site file renders => ?_, ?_⟩
  · have dotless := Path.endsWithDot_join (orderly.sites _ listed) output
    have all := Filing.done_of_mapM
      (fun (entry : String × Bundle) volume => volume.makeDirectories (Path.join output entry.1) = (.ok (), volume))
      (fun entry listed _ _ _ saved => made_of_saveBundle orderly listed saved)
      (List.pairwise_of_forall_mem_list fun earlier member later member' _ _ _ made saved =>
        makeDirectories_again (Path.endsWithDot_join (orderly.sites _ member) output) made
          (Filing.Grows.after saved (grows_saveBundle (orderly.sites _ member') (orderly.names _ member') skip)))
      bundles
    exact makeDirectories_again dotless (all entry listed) grows
  · obtain ⟨bytes, held, digest⟩ := savedAt.stored site file renders
    rw [Path.join_join (orderly.plain_site renders) (orderly.plain_name renders)]
    exact isUnchanged_iff.mpr ⟨bytes, readBytes_eq_ok.mpr ⟨_, savedAt.located site file renders, held⟩, digest⟩
  · exact write_of_held (Path.endsWithSlash_join (by decide) output) savedAt.manifest savedAt.text

theorem save_of_settled (settled : compilation.Settled output volume) :
    ∃ report, (compilation.save output true).on volume = (.ok report, volume) ∧ report.written = [] := by
  have bundles : (compilation.saveBundles output true).on volume =
      (.ok (compilation.bundles.entries.map fun entry =>
        entry.2.rendered.map fun file => (artifactPath entry.1 file.name, false)), volume) := by
    refine Filing.on_mapM_of_same fun entry listed => ?_
    refine Filing.on_bind_eq_ok.mpr ⟨(), volume, Filing.on_makeDirectories_eq_ok.mpr (settled.made entry listed), ?_⟩
    refine Filing.on_mapM_of_same fun file member => ?_
    have right := settled.right entry.1 file ⟨entry.2, listed, member⟩
    exact Filing.on_bind_eq_ok.mpr ⟨_, _, on_saveFile_of_unchanged right, rfl⟩
  refine ⟨_, save_eq_ok.mpr ⟨_, _, bundles, settled.manifest, rfl⟩, ?_⟩
  rw [savedAs, List.map_eq_nil_iff, List.filter_eq_nil_iff]
  intro result member
  obtain ⟨results, inside, member⟩ := List.mem_flatten.mp member
  obtain ⟨entry, _, rfl⟩ := List.mem_map.mp inside
  obtain ⟨file, _, rfl⟩ := List.mem_map.mp member
  exact Bool.false_ne_true

/-- As long as no other contents have its digest, what was right of an artifact is the bytes. -/
theorem right_iff (unmistaken : compilation.Unmistaken before) {base : List String}
    (savedAt : compilation.SavedAt output base last) (renders : compilation.Renders site file) :
    Right output before last (artifactPath site file.name, file) ↔
      before.file? (base ++ [site, file.name]) = some file.contents.toUTF8 := by
  have leads := savedAt.located site file renders
  constructor
  · rintro ⟨place, bytes, located, held, digest⟩
    obtain rfl := Except.ok.inj (leads.symm.trans located)
    rw [held, unmistaken site file renders _ bytes (List.suffix_append _ _) held digest]
  · exact fun held => ⟨_, _, leads, held, rfl⟩

/-- Saving with and without skipping leaves the same volume. Every artifact is there to the byte, with the manifest,
and no other file is touched. Each artifact is reported once: as unchanged if it was right before and may be
skipped, and else as written. When a compilation is saved again with skipping, all is left as it is. -/
theorem skipping_eq_writing {config : Config} {instant : Instant} {document : Json} {intent : Intent}
    {targets : List String} {report full : Saved} {after' : Volume} (read : Intent.ofJson document = .ok intent)
    (compiled : config.compileFor instant intent targets = .ok compilation)
    (plain : ∀ site ∈ compilation.sites, Path.Plain site) (unmistaken : compilation.Unmistaken before)
    (skipped : (compilation.save output true).on before = (.ok report, after))
    (wrote : (compilation.save output false).on before = (.ok full, after')) :
    after = after' ∧
      ∃ base, compilation.SavedAt output base after ∧
        (∀ site file, compilation.Renders site file →
          after.file? (base ++ [site, file.name]) = some file.contents.toUTF8) ∧
        (∀ place, (∀ site file, compilation.Renders site file → place ≠ base ++ [site, file.name]) →
          place ≠ base ++ [Manifest.fileName] → after.file? place = before.file? place) ∧
        (compilation.artifacts.map (·.1)).Nodup ∧
        (report.written ++ report.unchanged).Perm (compilation.artifacts.map (·.1)) ∧
        (∀ site file, compilation.Renders site file → (artifactPath site file.name ∈ report.unchanged ↔
          before.file? (base ++ [site, file.name]) = some file.contents.toUTF8)) ∧
        full.written.Perm (compilation.artifacts.map (·.1)) ∧ full.unchanged = [] ∧
        ∃ again, (compilation.save output true).on after = (.ok again, after) ∧ again.written = [] := by
  have orderly := orderly_of_compileFor read compiled plain
  have same : after = after' := by
    have alike := alike_save orderly output before unmistaken
    rw [Filing.ending, Filing.ending, skipped, wrote] at alike
    exact congrArg Prod.snd alike
  subst same
  obtain ⟨base, savedAt⟩ := savedAt_of_save orderly skipped
  obtain ⟨entries, reports, written, unchanged⟩ := entries_of_save orderly skipped savedAt
  obtain ⟨entries', reports', written', unchanged'⟩ := entries_of_save orderly wrote savedAt
  have all := written_append_unchanged reports
  have all' := written_append_unchanged reports'
  have none : full.unchanged = [] := by
    rw [unchanged', List.eq_nil_iff_forall_not_mem]
    intro path member
    obtain ⟨_, _, ⟨skips, _⟩, _⟩ := (mem_unchanged reports').mp member
    cases skips
  rw [← written, ← unchanged] at all
  rw [← written', ← unchanged', none, List.append_nil] at all'
  refine ⟨rfl, base, savedAt, fun site file renders => held_of_save orderly unmistaken skipped savedAt renders,
    fun place foreign other => file?_of_save orderly skipped savedAt foreign other, orderly.nodup_paths, all,
    fun site file renders => ?_, all', none, save_of_settled (settled_of_save orderly skipped)⟩
  have listed := mem_artifacts.mpr ⟨site, renders, rfl⟩
  rw [← right_iff unmistaken savedAt renders, unchanged, mem_unchanged reports]
  constructor
  · rintro ⟨artifact, member, ⟨_, right⟩, same⟩
    obtain rfl := List.inj_on_of_nodup_map orderly.nodup_paths member listed same
    exact right
  · exact fun right => ⟨_, listed, ⟨rfl, right⟩, rfl⟩

/-- No file stands in an empty directory, so none can be mistaken. -/
theorem bare_unmistaken : bare.Unmistaken (.ofDirectory ["work"]) := by
  intro site file renders place bytes _ held
  have entries : (Volume.ofDirectory ["work"]).entries.entries = [(["work"], .directory)] := rfl
  rw [file?_eq_some] at held
  cases place with
  | nil => cases held
  | cons name rest =>
    have member := Table.get?_eq_some.mp held
    rw [entries] at member
    cases List.mem_singleton.mp member

theorem bare_saved_either_way : bareSaved.1.toOption.isSome = true ∧
    ∃ full, (bare.save "out" false).on (.ofDirectory ["work"]) = (.ok full, bareSaved.2) ∧ full.unchanged = [] ∧
      ∃ again, (bare.save "out" true).on bareSaved.2 = (.ok again, bareSaved.2) ∧ again.written = [] := by
  have kept : bareSaved.1.toOption.isSome = true ∧
      ((bare.save "out" false).on (.ofDirectory ["work"])).1.toOption.isSome = true := by decide +kernel
  have read : Intent.ofJson (.object [("intentId", .text "i1")]) = .ok Config.bareIntent := rfl
  obtain ⟨report, skipped⟩ := Option.isSome_iff_exists.mp kept.1
  obtain ⟨full, wrote⟩ := Option.isSome_iff_exists.mp kept.2
  obtain ⟨same, base, _, _, _, _, _, _, _, none, again⟩ := skipping_eq_writing read bare_compiled
    (by decide +kernel) bare_unmistaken (run_eq_ok skipped) (run_eq_ok wrote)
  have alike : bareSaved.2 = ((bare.save "out" false).on (.ofDirectory ["work"])).2 := same
  refine ⟨kept.1, full, ?_, none, again⟩
  rw [alike]
  exact run_eq_ok wrote

end IntentRollout.Compilation
