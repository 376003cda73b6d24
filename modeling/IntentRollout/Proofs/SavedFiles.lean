import IntentRollout.Proofs.ArtifactNames
import IntentRollout.Proofs.ManifestText
import IntentRollout.Proofs.VolumeChanges

/-! What is there after a compilation was saved: each artifact at its place below the output directory, whether
it was written or found as it should be, and the manifest beside the sites. -/

namespace IntentRollout

namespace Filing

variable {ε α β : Type} {work : α → Filing ε β} {items : List α} {before after : Volume} {values : List β}

/-- What the work on each item keeps is kept by the work on them all. -/
theorem kept_of_mapM {kept : Volume → Prop}
    (keeps : ∀ item ∈ items, ∀ before value after, kept before → (work item).on before = (.ok value, after) →
      kept after)
    (start : kept before) (done : (items.mapM work).on before = (.ok values, after)) : kept after := by
  induction items generalizing before values with
  | nil =>
    cases done
    exact start
  | cons item rest ih =>
    rw [List.forall_mem_cons] at keeps
    rw [List.mapM_cons] at done
    obtain ⟨value, middle, first, done⟩ := on_bind_eq_ok.mp done
    obtain ⟨others, _, later, finish⟩ := on_bind_eq_ok.mp done
    cases finish
    exact ih keeps.2 (keeps.1 before value middle start first) later

/-- What the work on an item does is done in the end, if the work on later items keeps it. -/
theorem done_of_mapM (done : α → Volume → Prop)
    (does : ∀ item ∈ items, ∀ before value after, (work item).on before = (.ok value, after) → done item after)
    (keeps : items.Pairwise fun earlier later => ∀ before value after, done earlier before →
      (work later).on before = (.ok value, after) → done earlier after)
    (all : (items.mapM work).on before = (.ok values, after)) : ∀ item ∈ items, done item after := by
  induction items generalizing before values with
  | nil => nofun
  | cons item rest ih =>
    rw [List.forall_mem_cons] at does
    obtain ⟨kept, keeps⟩ := List.pairwise_cons.mp keeps
    rw [List.mapM_cons] at all
    obtain ⟨value, middle, first, all⟩ := on_bind_eq_ok.mp all
    obtain ⟨others, _, later, finish⟩ := on_bind_eq_ok.mp all
    cases finish
    rw [List.forall_mem_cons]
    exact ⟨kept_of_mapM kept (does.1 before value middle first) later, ih does.2 keeps later⟩

end Filing

namespace Path

variable {output site name : String}

theorem endsWithSlash_append (plain : Plain site) (front : String) : endsWithSlash (front ++ site) = false := by
  have some : site.toList ≠ [] := fun same => plain.nonempty (String.toList_eq_nil_iff.mp same)
  rw [endsWithSlash, String.toList_append, List.getLast?_append_of_ne_nil _ some, decide_eq_false_iff_not]
  exact fun last => plain.slashless (List.mem_of_getLast? last)

private theorem join_append (plain : Plain site) (named : Plain name) (front : String) :
    join (front ++ site) name = front ++ site ++ "/" ++ name := by
  have some : (front ++ site).isEmpty = false := by
    rw [Bool.eq_false_iff, ne_eq, String.isEmpty_iff, String.append_eq_empty_iff]
    exact fun both => plain.nonempty both.2
  simp only [join, named.relative, some, endsWithSlash_append plain, Bool.or_false, Bool.false_eq_true, if_false]

private theorem artifactPath_eq_join (plain : Plain site) (named : Plain name) :
    artifactPath site name = join site name := by
  have joined := join_append plain named ""
  rw [String.empty_append] at joined
  exact joined.symm

/-- The path of an artifact below a directory leads through the directory of its site. -/
theorem join_join (plain : Plain site) (named : Plain name) (output : String) :
    join (join output site) name = join output (artifactPath site name) := by
  have relative : isAbsolute (artifactPath site name) = false := by
    rw [artifactPath_eq_join plain named, isAbsolute_join named.relative, plain.relative]
  obtain ⟨front, joined⟩ := join_ends output site
  rw [joined, join_append plain named, ← joined]
  simp only [join, relative, plain.relative, Bool.false_eq_true, if_false]
  split <;> simp only [artifactPath, String.append_assoc]

end Path

namespace Compilation

variable {output site : String} {file : RenderedFile} {volume before after : Volume}

def Stored (output site : String) (file : RenderedFile) (volume : Volume) : Prop :=
  ∃ place bytes, volume.locate (Path.join output (artifactPath site file.name)) = .ok place ∧
    volume.file? place = some bytes ∧ Digest.ofBytes bytes = Digest.ofText file.contents

/-- Where the path of an artifact leads below the place of the output directory. -/
theorem locate_artifact (plain : Path.Plain site) (named : Path.Plain file.name) {place : List String}
    (located : volume.locate (Path.join output (artifactPath site file.name)) = .ok place) :
    ∃ base, volume.follow (volume.start output) (Path.parts output) = .ok base ∧
      volume.entry? (base ++ [site]) = some .directory ∧ place = base ++ [site, file.name] := by
  rw [← Path.join_join plain named] at located
  obtain ⟨above, led, there, rfl⟩ := Volume.locate_join named located
  rw [Volume.start_join plain, plain.parts_join] at led
  obtain ⟨base, reached, _, rfl⟩ := Volume.follow_concat_eq_ok plain.not_dots led
  exact ⟨base, reached, there, by rw [List.append_assoc]; rfl⟩

theorem isUnchanged_iff {path contents : String} : isUnchanged volume path contents = true ↔
    ∃ bytes, volume.readBytes path = .ok bytes ∧ Digest.ofBytes bytes = Digest.ofText contents := by
  rw [isUnchanged]
  cases volume.readBytes path <;> simp

private theorem stored_of_saveFile (plain : Path.Plain site) (named : Path.Plain file.name) {skip written : Bool}
    (done : (saveFile skip (Path.join (Path.join output site) file.name) file).on before = (.ok written, after)) :
    Stored output site file after := by
  rw [Path.join_join plain named, saveFile, Filing.on_get_bind] at done
  split at done
  next unchanged =>
    cases done
    rw [Bool.and_eq_true, isUnchanged_iff] at unchanged
    obtain ⟨_, bytes, read, same⟩ := unchanged
    obtain ⟨place, located, held⟩ := Volume.readBytes_eq_ok.mp read
    exact ⟨place, bytes, located, held, same⟩
  · obtain ⟨_, _, wrote, finish⟩ := Filing.on_bind_eq_ok.mp done
    cases finish
    obtain ⟨place, _, located, held, _⟩ := Volume.found_of_write (Filing.on_write_eq_ok.mp wrote)
    exact ⟨place, _, located, held, rfl⟩

/-- Saving a file changes nothing but places with its names at their end. -/
theorem grows_saveFile (plain : Path.Plain site) (named : Path.Plain file.name) (skip : Bool) :
    (saveFile skip (Path.join (Path.join output site) file.name) file).Grows ([site, file.name] <:+ ·) := by
  rw [Path.join_join plain named]
  refine Filing.Grows.get_bind fun volume => ?_
  split
  · exact .pure _
  · refine Filing.Grows.bind (.write fun volume place located => ?_) fun _ => .pure _
    obtain ⟨base, _, _, rfl⟩ := locate_artifact plain named located
    exact List.suffix_append _ _

theorem Stored.kept (plain : Path.Plain site) (named : Path.Plain file.name) (stored : Stored output site file before)
    {written : List String → Prop} (grows : before.Grows written after)
    (apart : ∀ place, [site, file.name] <:+ place → ¬ written place) : Stored output site file after := by
  obtain ⟨place, bytes, located, held, same⟩ := stored
  refine ⟨place, bytes, grows.locate located, ?_, same⟩
  obtain ⟨base, _, _, rfl⟩ := locate_artifact plain named located
  rw [grows.files _ (apart _ (List.suffix_append _ _))]
  exact held

theorem names_of_suffix {site other name name' : String} {place : List String} (one : [site, name] <:+ place)
    (two : [other, name'] <:+ place) : site = other ∧ name = name' := by
  have same := (List.suffix_of_suffix_length_le one two (Nat.le_refl 2)).eq_of_length rfl
  simpa using same

section Bundles

variable {bundle : Bundle} (plain : Path.Plain site) (named : ∀ file ∈ bundle.rendered, Path.Plain file.name)
  (skip : Bool)

include plain named

theorem grows_saveBundle : (saveBundle output skip site bundle).Grows fun place =>
    ∃ file ∈ bundle.rendered, [site, file.name] <:+ place := by
  refine Filing.Grows.makeDirectories.bind fun _ => Filing.Grows.mapM fun file member => ?_
  refine Filing.Grows.bind (fun volume => ?_) fun _ => .pure _
  exact (grows_saveFile plain (named file member) skip volume).mono fun place ends => ⟨file, member, ends⟩

variable {skip}

private theorem stored_of_saveBundle (distinct : (bundle.rendered.map (·.name)).Nodup) {results : List (String × Bool)}
    (done : (saveBundle output skip site bundle).on before = (.ok results, after)) :
    ∀ file ∈ bundle.rendered, Stored output site file after := by
  obtain ⟨_, middle, _, files⟩ := Filing.on_bind_eq_ok.mp done
  have apart := List.pairwise_map.mp distinct
  refine Filing.done_of_mapM (Stored output site) ?_ (apart.imp_of_mem ?_) files
  · intro file member before result after saved
    obtain ⟨_, _, wrote, finish⟩ := Filing.on_bind_eq_ok.mp saved
    cases finish
    exact stored_of_saveFile plain (named file member) wrote
  · intro earlier later member member' differs before result after stored saved
    obtain ⟨_, _, wrote, finish⟩ := Filing.on_bind_eq_ok.mp saved
    cases finish
    refine stored.kept plain (named earlier member)
      (Filing.Grows.after wrote (grows_saveFile plain (named later member') skip)) ?_
    exact fun place ends other => differs (names_of_suffix ends other).2

end Bundles

/-- What is found below an output directory, whose place is known, after a compilation was saved there. -/
structure SavedAt (compilation : Compilation) (output : String) (base : List String) (volume : Volume) : Prop where
  home : volume.follow (volume.start output) (Path.parts output) = .ok base
  there : volume.entry? base = some .directory
  manifest : volume.locate (Path.join output Manifest.fileName) = .ok (base ++ [Manifest.fileName])
  text : volume.file? (base ++ [Manifest.fileName]) = some compilation.manifest.toJson.pretty.toUTF8
  located : ∀ site file, compilation.Renders site file →
    volume.locate (Path.join output (artifactPath site file.name)) = .ok (base ++ [site, file.name])
  stored : ∀ site file, compilation.Renders site file → ∃ bytes,
    volume.file? (base ++ [site, file.name]) = some bytes ∧ Digest.ofBytes bytes = Digest.ofText file.contents

variable {compilation : Compilation}

private theorem stored_of_bundles (orderly : compilation.Orderly) {skip : Bool} {results : List (List (String × Bool))}
    (done : (compilation.bundles.entries.mapM fun (site, bundle) => saveBundle output skip site bundle).on before =
      (.ok results, after)) {file : RenderedFile} (renders : compilation.Renders site file) :
    Stored output site file after := by
  have keys := List.pairwise_map.mp compilation.bundles.nodup_keys
  obtain ⟨bundle, member, listed⟩ := renders
  let all (entry : String × Bundle) (volume : Volume) : Prop :=
    ∀ file ∈ entry.2.rendered, Stored output entry.1 file volume
  refine Filing.done_of_mapM all ?_ (keys.imp_of_mem ?_) done _ member file listed
  · intro entry member before results after saved
    exact stored_of_saveBundle (orderly.sites _ member) (orderly.names _ member) (orderly.distinct _ member) saved
  · intro earlier later member member' differs before results after stored saved file listed
    refine (stored file listed).kept (orderly.sites _ member) (orderly.names _ member file listed)
      (Filing.Grows.after saved (grows_saveBundle (orderly.sites _ member') (orderly.names _ member') skip)) ?_
    rintro place ends ⟨other, _, ends'⟩
    exact differs (names_of_suffix ends ends').1

theorem savedAt_of_save (orderly : compilation.Orderly) {skip : Bool} {saved : Saved}
    (done : (compilation.save output skip).on before = (.ok saved, after)) :
    ∃ base, SavedAt compilation output base after := by
  obtain ⟨results, middle, bundles, done⟩ := Filing.on_bind_eq_ok.mp done
  obtain ⟨_, _, wrote, finish⟩ := Filing.on_bind_eq_ok.mp done
  cases finish
  obtain ⟨place, located, found, held, grows⟩ := Volume.found_of_write (Filing.on_write_eq_ok.mp wrote)
  obtain ⟨base, led, there, rfl⟩ := Volume.locate_join (by decide) located
  have artifacts (site : String) (file : RenderedFile) (renders : compilation.Renders site file) :
      middle.locate (Path.join output (artifactPath site file.name)) = .ok (base ++ [site, file.name]) ∧
        ∃ bytes, middle.file? (base ++ [site, file.name]) = some bytes ∧
          Digest.ofBytes bytes = Digest.ofText file.contents := by
    obtain ⟨place, bytes, located, held, same⟩ := stored_of_bundles orderly bundles renders
    obtain ⟨other, led', _, rfl⟩ := locate_artifact (orderly.plain_site renders) (orderly.plain_name renders) located
    obtain rfl := Except.ok.inj (led.symm.trans led')
    exact ⟨located, bytes, held, same⟩
  refine ⟨base, grows.reach led, grows.directories base there, found, held, ?_, ?_⟩
  · exact fun site file renders => grows.locate (artifacts site file renders).1
  · intro site file renders
    obtain ⟨_, bytes, held, same⟩ := artifacts site file renders
    refine ⟨bytes, ?_, same⟩
    rw [grows.files]
    · exact held
    · intro alike
      have ends := List.append_cancel_left alike
      cases ends

end Compilation

end IntentRollout
