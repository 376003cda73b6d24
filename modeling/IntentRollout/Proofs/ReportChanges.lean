import IntentRollout.Proofs.CarriedChanges
import IntentRollout.Proofs.ReportFiles

/-! Reports as changes to a volume. A report is a directory that is made and files that are written below it, so
whatever stood there before stays, wherever the writing stopped; and when it has come to its end the directory is
new and holds just what belongs to the report. -/

namespace IntentRollout

/-- The files of the sites, each in the directory of its site, and the manifest beside these. -/
def Compilation.changes (compilation : Compilation) : List Change :=
  (compilation.bundles.entries.flatMap fun (site, bundle) =>
    .directory ["rendered", site] ::
      bundle.rendered.map fun file => .file ["rendered", site, file.name] file.contents) ++
  [.file ["rendered", Manifest.fileName] compilation.manifest.toJson.pretty]

namespace Report

def contents (report : Report) (document : Option Json) (compilation : Option Compilation) : List Change :=
  [.file [fileName] report.toJson.pretty] ++ ([.file [logName] (joined "\n" report.log)] ++
    (document.toList.map (fun document => .file ["intent.json"] document.pretty) ++
      compilation.toList.flatMap fun compilation =>
        [.file ["checksums.json"] (textsByName report.details.checksums).pretty] ++ compilation.changes))

def changes (report : Report) (document : Option Json) (compilation : Option Compilation) : List Change :=
  .directory [] :: report.contents document compilation

end Report

namespace Compilation

variable {compilation : Compilation} {home : String}

private theorem carries_save (plain : ∀ site ∈ compilation.sites, Path.Plain site) :
    Filing.Carries home compilation.changes (compilation.save (Path.join home "rendered") false) := by
  refine Filing.Carries.bind (Filing.Carries.mapM ?_) fun results => ?_
  · rintro ⟨site, bundle⟩ member
    have dotless : Path.endsWithDot (Path.below home ["rendered", site]) = false :=
      Path.endsWithDot_join (plain site (List.mem_map_of_mem member)) _
    refine (Filing.Carries.makeDirectories dotless).bind fun _ => ?_
    rw [List.map_eq_flatMap]
    refine Filing.Carries.mapM fun file _ => ?_
    have one : [Change.file ["rendered", site, file.name] file.contents] =
      ([.file ["rendered", site, file.name] file.contents] ++ []) ++ [] := rfl
    rw [one]
    exact ((Filing.Carries.write _ _).bind fun _ => .pure _).bind fun _ => .pure _
  · rw [← List.append_nil [Change.file _ _]]
    exact (Filing.Carries.write ["rendered", Manifest.fileName] _).bind fun _ => .pure _

/-- The files of the sites, and the manifest after them. -/
theorem written_changes : compilation.changes.filterMap Change.written? =
    (compilation.bundles.entries.flatMap fun (site, bundle) =>
      bundle.rendered.map fun file => ["rendered", site, file.name]) ++ [["rendered", Manifest.fileName]] := by
  simp [changes, List.filterMap_flatMap, List.filterMap_cons, Change.written?, Function.comp_def]

private theorem Orderly.nodup_written (orderly : compilation.Orderly) :
    (compilation.changes.filterMap Change.written?).Nodup := by
  have artifacts : ((compilation.bundles.entries.flatMap fun (site, bundle) =>
      bundle.rendered.map fun file => ["rendered", site, file.name]).map fun names => Path.ofParts (names.drop 1)) =
        compilation.artifacts.map (·.1) := by
    simp [Compilation.artifacts, List.map_flatMap, Function.comp_def, artifactPath_eq]
  rw [written_changes, List.nodup_append]
  refine ⟨.of_map _ (artifacts ▸ orderly.nodup_paths), List.nodup_singleton _, ?_⟩
  rintro _ member _ last rfl
  simp only [List.mem_flatMap, List.mem_map] at member
  obtain ⟨_, _, _, _, rfl⟩ := member
  simp at last

private theorem mem_changes {site : String} {file : RenderedFile} (renders : compilation.Renders site file) :
    .file ["rendered", site, file.name] file.contents ∈ compilation.changes := by
  obtain ⟨bundle, member, listed⟩ := renders
  refine List.mem_append_left _ (List.mem_flatMap.mpr ⟨(site, bundle), member, ?_⟩)
  exact List.mem_cons_of_mem _ (List.mem_map_of_mem listed)

private theorem Orderly.plain_changes (orderly : compilation.Orderly) :
    ∀ change ∈ compilation.changes, ∃ rest, change.names = "rendered" :: rest ∧ ∀ name ∈ rest, Path.Plain name := by
  intro change member
  rcases List.mem_append.mp member with listed | last
  · obtain ⟨⟨site, bundle⟩, inside, listed⟩ := List.mem_flatMap.mp listed
    have plain := orderly.sites _ inside
    rcases List.mem_cons.mp listed with rfl | listed
    · exact ⟨[site], rfl, by simpa using plain⟩
    · obtain ⟨file, rendered, rfl⟩ := List.mem_map.mp listed
      exact ⟨[site, file.name], rfl, by simpa using ⟨plain, orderly.names _ inside file rendered⟩⟩
  · obtain rfl := List.mem_singleton.mp last
    exact ⟨[Manifest.fileName], rfl, by decide⟩

private theorem Orderly.not_written (orderly : compilation.Orderly) (name : String) (other : name ≠ "rendered") :
    [name] ∉ compilation.changes.filterMap Change.written? := by
  rw [List.mem_filterMap]
  rintro ⟨change, member, written⟩
  obtain ⟨rest, names, _⟩ := orderly.plain_changes change member
  cases change with
  | directory => cases written
  | file =>
    cases written
    exact other (List.cons.inj names).1

end Compilation

namespace Report

variable {report : Report} {root home name : String} {place : List String} {document : Option Json}
  {compilation : Option Compilation} {before middle after : Volume} {whole : Bool}

/-- Writing a report makes its changes, as far as it gets. -/
theorem carried_of_write {result : Except RolloutError String}
    (dotless : Path.endsWithDot (uniqueDirectory before root report.timestamp) = false)
    (plain : ∀ made ∈ compilation, ∀ site ∈ made.sites, Path.Plain site)
    (done : (report.write root document compilation).on before = (result, after)) :
    Carried (uniqueDirectory before root report.timestamp) result.isOk (report.changes document compilation)
      before after := by
  rw [write, Filing.on_get_bind] at done
  generalize uniqueDirectory before root report.timestamp = home at done dotless ⊢
  have made : Filing.Carries home [.directory []] (Filing.makeDirectories (RolloutError.report home) home) :=
    Filing.Carries.makeDirectories dotless
  refine made.bind (fun _ => (Filing.Carries.write [fileName] _).bind fun _ =>
    (Filing.Carries.write [logName] _).bind fun _ => ?_) before result after done
  have finish : Filing.Carries home [] (pure home : Filing RolloutError String) := .pure home
  have compiled (compilation : Compilation) (plain : ∀ site ∈ compilation.sites, Path.Plain site) :
      Filing.Carries home
        (([.file ["checksums.json"] (textsByName report.details.checksums).pretty] ++ compilation.changes) ++ []) (do
        writeFile home "checksums.json" (textsByName report.details.checksums).pretty
        let _ ← ExceptT.adapt RolloutError.compile (compilation.save (Path.join home "rendered") false)
        pure home) := by
    rw [List.append_assoc]
    exact (Filing.Carries.write ["checksums.json"] _).bind fun _ =>
      (Compilation.carries_save plain).adapt.bind fun _ => finish
  cases document with
  | none =>
    cases compilation with
    | none => exact finish
    | some compilation => exact compiled compilation (plain compilation rfl)
  | some document =>
    refine Filing.Carries.bind (Filing.Carries.write ["intent.json"] _) fun _ => ?_
    cases compilation with
    | none => exact finish
    | some compilation => exact compiled compilation (plain compilation rfl)

def entrances (document : Option Json) (compilation : Option Compilation) : List String :=
  [fileName, logName] ++ document.toList.map (fun _ => "intent.json") ++
    compilation.toList.flatMap fun _ => ["checksums.json", "rendered"]

private theorem plain_entrances : ∀ name ∈ entrances document compilation, Path.Plain name := by
  have all : ∀ name ∈ [fileName, logName, "intent.json", "checksums.json", "rendered"], Path.Plain name := by decide
  intro name member
  apply all
  simp only [entrances, List.mem_append, List.mem_cons, List.not_mem_nil, or_false, List.mem_map, List.mem_flatMap]
    at member ⊢
  tauto

private theorem names_contents (orderly : ∀ made ∈ compilation, made.Orderly) :
    ∀ change ∈ report.contents document compilation, ∃ first rest, change.names = first :: rest ∧
      first ∈ entrances document compilation ∧ ∀ name ∈ rest, Path.Plain name := by
  intro change member
  simp only [contents, List.mem_append, List.mem_singleton, List.mem_map, List.mem_flatMap, Option.mem_toList] at member
  rcases member with rfl | rfl | ⟨document, rfl, rfl⟩ | ⟨made, rfl, rfl | member⟩
  · exact ⟨fileName, [], rfl, by simp [entrances], nofun⟩
  · exact ⟨logName, [], rfl, by simp [entrances], nofun⟩
  · exact ⟨"intent.json", [], rfl, by simp [entrances], nofun⟩
  · exact ⟨"checksums.json", [], rfl, by simp [entrances], nofun⟩
  · obtain ⟨rest, names, plain⟩ := (orderly made rfl).plain_changes change member
    exact ⟨"rendered", rest, names, by simp [entrances], plain⟩

private theorem plain_contents (orderly : ∀ made ∈ compilation, made.Orderly) :
    ∀ change ∈ report.contents document compilation, ∀ name ∈ change.names, Path.Plain name := by
  intro change member
  obtain ⟨first, rest, names, entrance, plain⟩ := names_contents orderly change member
  rw [names, List.forall_mem_cons]
  exact ⟨plain_entrances first entrance, plain⟩

private theorem nodup_written (orderly : ∀ made ∈ compilation, made.Orderly) :
    ((report.contents document compilation).filterMap Change.written?).Nodup := by
  cases compilation with
  | none => cases document <;> simp [contents, Change.written?, fileName, logName]
  | some made =>
    have nodup := (orderly made rfl).nodup_written
    have apart := (orderly made rfl).not_written
    simp only [contents, Option.toList_some, List.flatMap_singleton, List.filterMap_append]
    generalize made.changes.filterMap Change.written? = written at nodup apart ⊢
    cases document <;> simp [Change.written?, fileName, logName, nodup, apart]

structure Holds (report : Report) (document : Option Json) (compilation : Option Compilation) (volume : Volume)
    (place : List String) : Prop where
  there : volume.entry? place = some .directory
  summary : volume.file? (place ++ [fileName]) = some report.toJson.pretty.toUTF8
  log : volume.file? (place ++ [logName]) = some (joined "\n" report.log).toUTF8
  intent : volume.entry? (place ++ ["intent.json"]) = document.map fun document => .file document.pretty.toUTF8
  checksums : volume.entry? (place ++ ["checksums.json"]) =
    compilation.map fun _ => .file (textsByName report.details.checksums).pretty.toUTF8
  rendered : volume.entry? (place ++ ["rendered"]) = compilation.map fun _ => .directory
  sites : ∀ made ∈ compilation, ∀ site file, made.Renders site file →
    volume.file? (place ++ ["rendered", site, file.name]) = some file.contents.toUTF8
  manifest : ∀ made ∈ compilation,
    volume.file? (place ++ ["rendered", Manifest.fileName]) = some made.manifest.toJson.pretty.toUTF8

private theorem holds_of_carried (orderly : ∀ made ∈ compilation, made.Orderly) (opens : middle.Opens home place)
    (grounded : middle.Grounded) (start : middle.entry? (middle.start home) = some .directory)
    (dotless : Path.endsWithDot home = false) (empty : ∀ names, names ≠ [] → middle.entry? (place ++ names) = none)
    (carried : Carried home true (report.contents document compilation) middle after) :
    report.Holds document compilation after place := by
  have plain : ∀ change ∈ report.contents document compilation, ∀ name ∈ change.names, Path.Plain name :=
    plain_contents orderly
  have found {names : List String} {text : String} (member : .file names text ∈ report.contents document compilation) :
      after.file? (place ++ names) = some text.toUTF8 :=
    carried.found plain opens (nodup_written orderly) member
  have absent (name : String) (other : name ∉ entrances document compilation) : after.entry? (place ++ [name]) = none := by
    rcases carried.entry?_eq plain opens dotless (place ++ [name]) with same | ⟨change, member, way⟩
    · rw [same, empty _ (List.cons_ne_nil _ _)]
    · obtain ⟨first, rest, names, entrance, _⟩ := names_contents orderly change member
      rw [names, List.prefix_append_right_inj, List.cons_prefix_cons] at way
      exact absurd (way.1 ▸ entrance) other
  have below (made : Compilation) (rendered : compilation = some made) :
      after.file? (place ++ ["rendered", Manifest.fileName]) = some made.manifest.toJson.pretty.toUTF8 := by
    subst rendered
    exact found (by simp [contents, Compilation.changes])
  refine {
    there := (carried.grows plain opens).directories place opens.there
    summary := found (by simp [contents])
    log := found (by simp [contents])
    intent := ?_
    checksums := ?_
    rendered := ?_
    sites := ?_
    manifest := fun made rendered => below made (Option.mem_def.mp rendered) }
  · cases document with
    | none => exact absent _ (by simp [entrances, fileName, logName])
    | some document => exact Volume.file?_eq_some.mp (found (by simp [contents]))
  · cases compilation with
    | none => exact absent _ (by simp [entrances, fileName, logName])
    | some made => exact Volume.file?_eq_some.mp (found (by simp [contents]))
  · cases compilation with
    | none => exact absent _ (by simp [entrances, fileName, logName])
    | some made =>
      have stands := Volume.file?_eq_some.mp (below made rfl)
      exact (carried.grounded plain opens grounded start).inside (place ++ ["rendered"]) Manifest.fileName _
        (by rwa [List.append_assoc])
  · intro made rendered site file renders
    obtain rfl := Option.mem_def.mp rendered
    exact found (by simp [contents, Compilation.mem_changes renders])

/-- A volume in which reports have a place, whether it is there yet or not. -/
structure Rooted (root : String) (place : List String) (volume : Volume) : Prop where
  grounded : volume.Grounded
  leads : volume.Leads root place

/-- What is so after a report was written under a name, as far as that got. -/
structure Stays (report : Report) (document : Option Json) (compilation : Option Compilation) (root : String)
    (place : List String) (name : String) (before : Volume) (whole : Bool) (after : Volume) : Prop where
  /-- Where the directory is now, nothing was before. -/
  fresh : ∀ target, after.locate (Path.join root name) = .ok target → before.entry? target = none
  files : ∀ target bytes, before.file? target = some bytes → after.file? target = some bytes
  directories : ∀ target, before.entry? target = some .directory → after.entry? target = some .directory
  complete : whole = true → after.locate (Path.join root name) = .ok (place ++ [name]) ∧
    report.Holds document compilation after (place ++ [name])

theorem stays_of_carried (rooted : Rooted root place before) (plain : Path.Plain name)
    (free : before.isThere (Path.join root name) = false) (orderly : ∀ made ∈ compilation, made.Orderly)
    (carried : Carried (Path.join root name) whole (report.changes document compilation) before after) :
    report.Stays document compilation root place name before whole after ∧ Rooted root place after := by
  obtain ⟨grounded, leads⟩ := rooted
  have start : before.entry? (before.start (Path.join root name)) = some .directory := by
    rw [Volume.start_join plain]
    exact leads.start_there
  cases carried with
  | @next _ _ _ _ middle _ done rest =>
    cases done with
    | directory made =>
      have made : before.makeDirectories (Path.join root name) = (.ok (), middle) := made
      obtain ⟨opens, empty⟩ := leads.made grounded plain free made
      have first : before.Grows (fun _ => False) middle := Volume.grows_of_makeDirectories made
      have start' : middle.entry? (middle.start (Path.join root name)) = some .directory := by
        rw [first.start]
        exact first.directories _ start
      have grounded' : middle.Grounded := grounded.of_makeDirectories start made
      have later := rest.grows (plain_contents orderly) opens
      have grows : before.Grows (place ++ [name] <+: ·) after := by
        refine (first.mono fun _ => False.elim).trans (later.mono ?_)
        rintro _ ⟨names, _, rfl⟩
        exact List.prefix_append _ _
      have absent := (leads.vacant grounded plain free first opens.located).2
      refine ⟨?_, rest.grounded (plain_contents orderly) opens grounded' start', leads.grows grows⟩
      refine {
        fresh := fun target located => (leads.vacant grounded plain free grows located).2
        files := fun target bytes => grounded.file?_of_grows absent grows
        directories := grows.directories
        complete := ?_ }
      rintro rfl
      exact ⟨later.locate opens.located,
        holds_of_carried orderly opens grounded' start' (Path.endsWithDot_join plain _) empty rest⟩
  | broken broken =>
    have kept : before.Grows (fun _ => False) after ∧ after.Grounded := by
      cases broken with
      | untouched => exact ⟨.refl, grounded⟩
      | directory => exact ⟨.extend _ _ _, grounded.extend start _⟩
    obtain ⟨grows, grounded'⟩ := kept
    refine ⟨?_, grounded', leads.grows grows⟩
    exact {
      fresh := fun target located => (leads.vacant grounded plain free grows located).2
      files := fun target bytes held => by rw [grows.files target id, held]
      directories := grows.directories
      complete := nofun }

end Report

end IntentRollout
