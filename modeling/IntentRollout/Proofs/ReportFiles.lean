import IntentRollout.Proofs.VolumeChanges
import IntentRollout.Rollout.Attempt

/-! What is found where a report was written. Other files of the report have other names, whatever sites and
intents are called, so none of them can take the place of the report. -/

namespace IntentRollout

theorem Resource.fileName_ends (resource : Resource) : ∃ front, resource.fileName = front ++ ".yaml" := by
  rw [Resource.fileName]
  cases resource.kind with
  | provisioningRequest => exact ⟨resource.name ++ "-provisioning-request", by rw [String.append_assoc]; rfl⟩
  | configMap => exact ⟨resource.name ++ "-configmap", by rw [String.append_assoc]; rfl⟩
  | networkSlice => exact ⟨resource.name ++ "-networkslice", by rw [String.append_assoc]; rfl⟩
  | kustomization => exact ⟨"kustomization", rfl⟩

/-- A place where the file of a report cannot be. -/
def Report.Aside (place : List String) : Prop := place.getLast? ≠ some Report.fileName

namespace Report

private theorem aside_of_name {volume : Volume} {directory name : String} {place : List String}
    (plain : Path.Plain name) (other : name ≠ fileName)
    (located : volume.locate (Path.join directory name) = .ok place) : Aside place := by
  obtain ⟨above, _, _, rfl⟩ := Volume.locate_join plain located
  rw [Aside, List.getLast?_concat]
  exact fun same => other (Option.some_inj.mp same)

/-- Files of resources have an ending of their own. -/
theorem aside_of_resource {volume : Volume} {directory : String} {resource : Resource} {place : List String}
    (located : volume.locate (Path.join directory resource.fileName) = .ok place) : Aside place := by
  obtain ⟨front, named⟩ := resource.fileName_ends
  obtain ⟨above, joined⟩ := Path.join_ends directory resource.fileName
  rw [joined, named, ← String.append_assoc] at located
  obtain ⟨before, last⟩ := Volume.locate_ending (by decide) (by decide) located
  rw [Aside, last]
  intro same
  have ending := congrArg (fun name => name.toList.getLast?) (Option.some_inj.mp same)
  simp [fileName] at ending

private theorem grows_writeFile {directory name text : String} (plain : Path.Plain name) (other : name ≠ fileName) :
    (writeFile directory name text).Grows Aside :=
  .write fun _ _ => aside_of_name plain other

private theorem grows_save (compilation : Compilation) (output : String) :
    (compilation.save output false).Grows Aside := by
  apply Filing.Grows.bind
  · apply Filing.Grows.mapM
    rintro ⟨site, bundle⟩ _
    refine Filing.Grows.makeDirectories.bind fun _ => Filing.Grows.mapM fun file member => ?_
    obtain ⟨resource, _, rfl⟩ := List.mem_map.mp member
    refine Filing.Grows.bind ?_ fun _ => .pure _
    apply Filing.Grows.get_bind
    intro _
    exact (Filing.Grows.write fun _ _ => aside_of_resource).bind fun _ => .pure _
  · intro results
    refine Filing.Grows.bind ?_ fun _ => .pure _
    exact .write fun _ _ => aside_of_name (by decide) (by decide)

/-- The directory that is given is the one whose name was found free. -/
theorem directory_of_write {report : Report} {root directory : String} {document : Option Json}
    {compilation : Option Compilation} {before after : Volume}
    (done : (report.write root document compilation).on before = (.ok directory, after)) :
    directory = uniqueDirectory before root report.timestamp := by
  rw [write, Filing.on_get_bind] at done
  generalize uniqueDirectory before root report.timestamp = home at done ⊢
  have finish : Filing.Gives home (pure home : Filing RolloutError String) := .pure home
  refine (Filing.Gives.bind fun _ => .bind fun _ => .bind fun _ => ?_ : Filing.Gives home _) _ _ _ done
  cases document with
  | none =>
    cases compilation with
    | none => exact finish
    | some => exact .bind fun _ => .bind fun _ => finish
  | some =>
    cases compilation with
    | none => exact .bind fun _ => finish
    | some => exact .bind fun _ => .bind fun _ => .bind fun _ => finish

/-- A report is found where it was written. -/
theorem readText_of_write {report : Report} {root directory : String} {document : Option Json}
    {compilation : Option Compilation} {before after : Volume}
    (done : (report.write root document compilation).on before = (.ok directory, after)) :
    after.readText (Path.join directory fileName) = .ok report.toJson.pretty := by
  rw [directory_of_write done]
  rw [write, Filing.on_get_bind] at done
  obtain ⟨_, made, _, done⟩ := Filing.on_bind_eq_ok.mp done
  obtain ⟨_, filed, writing, rest⟩ := Filing.on_bind_eq_ok.mp done
  generalize uniqueDirectory before root report.timestamp = home at writing rest ⊢
  obtain ⟨place, _, located, held, _⟩ := Volume.found_of_write (Filing.on_write_eq_ok.mp writing)
  have grows : filed.Grows Aside after := by
    refine Filing.Grows.after rest ((grows_writeFile (by decide) (by decide)).bind fun _ => ?_)
    have finish : Filing.Grows Aside (pure home : Filing RolloutError String) := .pure home
    have compiled : ∀ compilation : Compilation,
        Filing.Grows Aside (do
          writeFile home "checksums.json" (textsByName report.details.checksums).pretty
          let _ ← ExceptT.adapt RolloutError.compile (compilation.save (Path.join home "rendered") false)
          pure home) := fun compilation =>
      (grows_writeFile (by decide) (by decide)).bind fun _ =>
        (grows_save compilation _).adapt.bind fun _ => finish
    cases document with
    | none =>
      cases compilation with
      | none => exact finish
      | some compilation => exact compiled compilation
    | some =>
      refine (grows_writeFile (by decide) (by decide)).bind fun _ => ?_
      cases compilation with
      | none => exact finish
      | some compilation => exact compiled compilation
  have kept : after.file? place = some report.toJson.pretty.toUTF8 := by
    obtain ⟨above, _, _, rfl⟩ := Volume.locate_join (by decide) located
    rw [grows.files _ fun aside => aside List.getLast?_concat]
    exact held
  exact Volume.readText_of_file (grows.locate located) kept

end Report

theorem Conclusion.on_write_of_none {conclusion : Conclusion} (forgone : conclusion.report = none)
    (root : String) (volume : Volume) : (conclusion.write root).on volume = (.ok none, volume) := by
  rw [Conclusion.write, forgone]
  rfl

theorem Conclusion.readText_of_write {conclusion : Conclusion} {report : Report}
    (reported : conclusion.report = some report) {root directory : String} {before after : Volume}
    (done : (conclusion.write root).on before = (.ok (some directory), after)) :
    after.readText (Path.join directory Report.fileName) = .ok report.toJson.pretty := by
  rw [Conclusion.write, reported] at done
  obtain ⟨home, filed, wrote, finished⟩ := Filing.on_bind_eq_ok.mp done
  cases finished
  exact Report.readText_of_write wrote

end IntentRollout
