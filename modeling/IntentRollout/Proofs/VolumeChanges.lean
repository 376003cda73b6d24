import IntentRollout.Volume.Basic
import IntentRollout.Proofs.ListResults
import IntentRollout.Proofs.PathNames
import IntentRollout.Proofs.TableLaws

/-! What writing leaves as it was. Work that makes directories and writes files takes no directory away, so
whatever could be reached before is reached after it, and a file that was not written is the same. -/

namespace IntentRollout

namespace Volume

variable {volume before middle after : Volume} {place other target : List String} {names : List String}
  {path : String} {bytes : ByteArray}

theorem entry?_of_ne_nil (nonempty : place ≠ []) : volume.entry? place = volume.entries.get? place := by
  cases place with
  | nil => exact absurd rfl nonempty
  | cons => rfl

theorem entry?_put (entry : Entry) (nonempty : place ≠ []) (other : List String) :
    Volume.entry? (volume.put place entry) other = if place = other then some entry else volume.entry? other := by
  cases other with
  | nil => rw [if_neg nonempty]; rfl
  | cons => exact Table.get?_insert _ _ _ _

theorem file?_eq_some : volume.file? place = some bytes ↔ volume.entry? place = some (.file bytes) := by
  rw [file?]
  split
  next same => simp [same]
  next other => exact ⟨nofun, fun same => absurd same (other bytes)⟩

theorem file?_congr (same : after.entry? place = before.entry? place) : after.file? place = before.file? place := by
  rw [file?, file?, same]

theorem follow_append (volume : Volume) (place first rest : List String) :
    volume.follow place (first ++ rest) = volume.follow place first >>= fun middle => volume.follow middle rest := by
  induction first generalizing place with
  | nil => rfl
  | cons name first ih =>
    rw [List.cons_append, follow, follow]
    split
    · rfl
    · rfl
    · split
      · exact ih _
      · split
        · rfl
        · exact ih _

theorem locate_eq_ok : volume.locate path = .ok place ↔
    volume.approach path = .ok place ∧ (Path.isOpen path = true → volume.entry? place = some .directory) := by
  rw [Volume.locate, bind_eq_ok]
  constructor
  · rintro ⟨middle, approached, checked⟩
    split at checked
    · cases checked
    · cases checked
    next fine blocked =>
      cases checked
      refine ⟨approached, fun opens => ?_⟩
      cases there : volume.entry? place with
      | none => exact (fine opens there).elim
      | some entry =>
        cases entry with
        | file bytes => exact (blocked bytes opens there).elim
        | directory => rfl
  · rintro ⟨approached, there⟩
    refine ⟨place, approached, ?_⟩
    split
    next opens gone => rw [there opens] at gone; cases gone
    next opens blocked => rw [there opens] at blocked; cases blocked
    · rfl

theorem follow_concat_eq_ok {name : String} (down : name ≠ "..")
    (led : volume.follow place (names ++ [name]) = .ok target) :
    ∃ above, volume.follow place names = .ok above ∧ volume.entry? above = some .directory ∧
      target = above ++ [name] := by
  rw [follow_append] at led
  obtain ⟨above, reached, last⟩ := bind_eq_ok.mp led
  refine ⟨above, reached, ?_⟩
  rw [follow] at last
  split at last
  · cases last
  · cases last
  next there =>
    rw [if_neg down] at last
    split at last
    · cases last
    · cases last
      exact ⟨there, rfl⟩

theorem approach_eq_ok_iff : volume.approach path = .ok place ↔
    path ≠ "" ∧ '\x00' ∉ path.toList ∧ volume.follow (volume.start path) (Path.parts path) = .ok place := by
  rw [approach]
  split
  next empty => simp [String.isEmpty_iff.mp empty]
  next filled =>
    rw [String.isEmpty_iff] at filled
    split
    next zero => simp [List.contains_iff_mem.mp zero]
    next clean =>
      rw [List.contains_iff_mem] at clean
      simp [filled, clean]

theorem approach_eq_ok (led : volume.approach path = .ok place) :
    volume.follow (volume.start path) (Path.parts path) = .ok place :=
  (approach_eq_ok_iff.mp led).2.2

theorem start_of_follow (led : volume.follow place names = .ok target) (some : names ≠ []) :
    volume.entry? place = Option.some .directory := by
  cases names with
  | nil => exact absurd rfl some
  | cons name rest =>
    rw [follow] at led
    split at led
    · cases led
    · cases led
    next there => exact there

theorem find_eq_ok {entry : Entry} :
    volume.find path = .ok entry ↔ ∃ place, volume.locate path = .ok place ∧ volume.entry? place = some entry := by
  rw [find, bind_eq_ok]
  refine exists_congr fun place => and_congr_right fun _ => ?_
  cases volume.entry? place <;> simp

theorem isDirectory_iff : volume.isDirectory path = true ↔ volume.find path = .ok .directory := by
  rw [isDirectory, decide_eq_true_eq]
  cases volume.find path <;> simp [Except.toOption]

theorem start_join {directory name : String} (plain : Path.Plain name) :
    volume.start (Path.join directory name) = volume.start directory := by
  rw [start, start, Path.isAbsolute_join plain.relative]

/-- A path to a name in a directory leads to a place of that name below the place of the directory. -/
theorem locate_join {directory name : String} (plain : Path.Plain name)
    (located : volume.locate (Path.join directory name) = .ok place) :
    ∃ above, volume.follow (volume.start directory) (Path.parts directory) = .ok above ∧
      volume.entry? above = some .directory ∧ place = above ++ [name] := by
  have led := approach_eq_ok (locate_eq_ok.mp located).1
  rw [start_join plain, plain.parts_join] at led
  exact follow_concat_eq_ok plain.not_dots led

/-- Where a path leads ends as the path does. -/
theorem locate_ending {ending : String} (slashless : '/' ∉ ending.toList) (long : 2 < ending.toList.length)
    {front : String} (located : volume.locate (front ++ ending) = .ok place) :
    ∃ before, place.getLast? = some (before ++ ending) := by
  obtain ⟨before, last⟩ := getLast?_pieces slashless front.toList
  obtain ⟨above, cut⟩ := List.getLast?_eq_some_iff.mp last
  have size : 2 < (String.ofList before ++ ending).toList.length := by
    rw [String.toList_append, List.length_append]
    omega
  have other {short : String} (few : short.toList.length ≤ 2) : String.ofList before ++ ending ≠ short := by
    rintro rfl
    omega
  have parts : Path.parts (front ++ ending) =
      ((above.map String.ofList).filter fun part => part ≠ "" ∧ part ≠ ".") ++ [String.ofList before ++ ending] := by
    rw [Path.parts, String.toList_append, cut, List.map_append, List.filter_append]
    congr 1
    have whole : String.ofList (before ++ ending.toList) = String.ofList before ++ ending := by
      rw [String.ofList_append, String.ofList_toList]
    rw [List.map_singleton, whole, List.filter_cons_of_pos, List.filter_nil]
    simp only [decide_eq_true_eq]
    exact ⟨other (by decide), other (by decide)⟩
  have led := approach_eq_ok (locate_eq_ok.mp located).1
  rw [parts] at led
  obtain ⟨place', _, _, rfl⟩ := follow_concat_eq_ok (other (by decide)) led
  exact ⟨String.ofList before, List.getLast?_concat⟩

/-- Files were written at some places only, and no directory was lost. -/
structure Grows (written : List String → Prop) (before after : Volume) : Prop where
  working : after.working = before.working
  directories : ∀ place, before.entry? place = some .directory → after.entry? place = some .directory
  files : ∀ place, ¬ written place → after.file? place = before.file? place

namespace Grows

variable {written others : List String → Prop}

theorem refl : Grows written volume volume := ⟨rfl, fun _ => id, fun _ _ => rfl⟩

theorem trans (first : Grows written before middle) (rest : Grows written middle after) :
    Grows written before after where
  working := rest.working.trans first.working
  directories place there := rest.directories place (first.directories place there)
  files place free := (rest.files place free).trans (first.files place free)

theorem mono (grows : Grows written before after) (sub : ∀ place, written place → others place) :
    Grows others before after where
  working := grows.working
  directories := grows.directories
  files place free := grows.files place fun inside => free (sub place inside)

theorem put_file (bytes : ByteArray) (free : volume.entry? place ≠ some .directory) (inside : written place) :
    Grows written volume (volume.put place (.file bytes)) := by
  have nonempty : place ≠ [] := by
    rintro rfl
    exact free rfl
  refine ⟨rfl, fun other there => ?_, fun other outside => file?_congr ?_⟩
  · rw [entry?_put _ nonempty, if_neg, there]
    rintro rfl
    exact free there
  · rw [entry?_put _ nonempty, if_neg]
    rintro rfl
    exact outside inside

theorem put_directory (free : volume.entry? place = none) : Grows written volume (volume.put place .directory) := by
  have nonempty : place ≠ [] := by
    rintro rfl
    cases free
  refine ⟨rfl, fun other there => ?_, fun other _ => ?_⟩
  · rw [entry?_put _ nonempty]
    split
    · rfl
    · exact there
  · by_cases same : place = other
    · rw [file?, file?, entry?_put _ nonempty, if_pos same, ← same, free]
    · apply file?_congr
      rw [entry?_put _ nonempty, if_neg same]

theorem extend (volume : Volume) (place names : List String) : Grows written volume (volume.extend place names).2 := by
  induction names generalizing volume place with
  | nil => exact .refl
  | cons name rest ih =>
    rw [Volume.extend]
    split
    · exact ih _ _
    · split
      · exact .refl
      · split
        · exact ih _ _
        · exact .refl
        next free => exact (put_directory free).trans (ih _ _)

theorem makeDirectories (volume : Volume) (path : String) : Grows written volume (volume.makeDirectories path).2 := by
  rw [Volume.makeDirectories]
  split
  · exact .refl
  · split
    · split
      · have grows : Grows written volume
            (volume.extend (volume.start path) (Path.parts (Path.parent path))).2 := extend _ _ _
        generalize volume.extend (volume.start path) (Path.parts (Path.parent path)) = made at grows ⊢
        exact grows
      · exact .refl
    · exact extend _ _ _

/-- Where names led, they lead still. -/
theorem follow (grows : Grows written before after) (led : before.follow place names = .ok target) :
    after.follow place names = .ok target := by
  induction names generalizing place with
  | nil => exact led
  | cons name rest ih =>
    rw [Volume.follow] at led ⊢
    split at led
    · cases led
    · cases led
    next there =>
      rw [grows.directories place there]
      dsimp only
      split at led
      next up =>
        rw [if_pos up]
        exact ih led
      next down =>
        rw [if_neg down]
        split at led
        · cases led
        next short =>
          rw [if_neg short]
          exact ih led

theorem start (grows : Grows written before after) (path : String) : after.start path = before.start path := by
  rw [Volume.start, Volume.start, grows.working]

/-- Names still lead where they led, from where their path starts. -/
theorem reach (grows : Grows written before after)
    (led : before.follow (before.start path) names = .ok target) : after.follow (after.start path) names = .ok target := by
  rw [grows.start]
  exact grows.follow led

theorem approach (grows : Grows written before after) (led : before.approach path = .ok target) :
    after.approach path = .ok target := by
  rw [Volume.approach] at led ⊢
  split at led
  · cases led
  next nonempty =>
    rw [if_neg nonempty]
    split at led
    · cases led
    next clean =>
      rw [if_neg clean]
      exact grows.reach led

theorem locate (grows : Grows written before after) (led : before.locate path = .ok target) :
    after.locate path = .ok target := by
  rw [locate_eq_ok] at led ⊢
  exact ⟨grows.approach led.1, fun opens => grows.directories target (led.2 opens)⟩

end Grows

theorem write_eq_ok (done : volume.write path bytes = .ok after) :
    ∃ place, volume.locate path = .ok place ∧ volume.entry? place ≠ some .directory ∧
      after = volume.put place (.file bytes) := by
  rw [write] at done
  split at done
  · obtain ⟨_, _, impossible⟩ := bind_eq_ok.mp done
    cases impossible
  · obtain ⟨place, located, done⟩ := bind_eq_ok.mp done
    split at done
    · cases done
    next free =>
      cases done
      exact ⟨place, located, free, rfl⟩

theorem write_of_located (slashless : Path.endsWithSlash path = false) (located : volume.locate path = .ok place)
    (free : volume.entry? place ≠ some .directory) (bytes : ByteArray) :
    volume.write path bytes = .ok (volume.put place (.file bytes)) := by
  rw [write, slashless, located]
  simp only [Bool.false_eq_true, if_false, bind, Except.bind]
  rw [if_neg free]

theorem not_directory_of_file (held : volume.file? place = some bytes) : volume.entry? place ≠ some .directory := by
  rw [file?_eq_some.mp held]
  exact nofun

theorem file?_put_file (bytes : ByteArray) (free : volume.entry? place ≠ some .directory) :
    (volume.put place (.file bytes)).file? place = some bytes := by
  rw [file?_eq_some, entry?_put, if_pos rfl]
  rintro rfl
  exact free rfl

/-- A file is found where it was written, and all other files are as before. -/
theorem found_of_write (done : volume.write path bytes = .ok after) :
    ∃ place, volume.locate path = .ok place ∧ after.locate path = .ok place ∧
      after.file? place = some bytes ∧ volume.Grows (· = place) after := by
  obtain ⟨place, located, free, rfl⟩ := write_eq_ok done
  have grows : volume.Grows (· = place) (volume.put place (.file bytes)) := .put_file bytes free rfl
  exact ⟨place, located, grows.locate located, file?_put_file bytes free, grows⟩

theorem readBytes_eq_ok :
    volume.readBytes path = .ok bytes ↔ ∃ place, volume.locate path = .ok place ∧ volume.file? place = some bytes := by
  rw [readBytes, find]
  cases volume.locate path with
  | error => simp [bind, Except.bind]
  | ok place =>
    simp only [file?_eq_some, bind, Except.bind, Except.ok.injEq, exists_eq_left']
    cases volume.entry? place with
    | none => simp
    | some entry => cases entry <;> simp

theorem readText_of_file {text : String} (located : volume.locate path = .ok place)
    (held : volume.file? place = some text.toUTF8) : volume.readText path = .ok text := by
  have read : volume.readBytes path = .ok text.toUTF8 := readBytes_eq_ok.mpr ⟨place, located, held⟩
  have decoded : String.fromUTF8? text.toUTF8 = some text := dif_pos text.isValidUTF8
  simp only [readText, read, bind, Except.bind, decoded]

end Volume

namespace Filing

variable {ε δ α β : Type}

def on (work : Filing ε α) (volume : Volume) : Except ε α × Volume := work.run volume

theorem on_bind (work : Filing ε α) (next : α → Filing ε β) (volume : Volume) :
    (work >>= next).on volume =
      match work.on volume with
      | (.ok value, changed) => (next value).on changed
      | (.error error, changed) => (.error error, changed) := by
  change (match work.on volume with | (result, changed) => (ExceptT.bindCont next result) changed) = _
  generalize work.on volume = done
  obtain ⟨result, changed⟩ := done
  cases result <;> rfl

theorem on_bind_eq_ok {work : Filing ε α} {next : α → Filing ε β} {before after : Volume} {value : β} :
    (work >>= next).on before = (.ok value, after) ↔
      ∃ first middle, work.on before = (.ok first, middle) ∧ (next first).on middle = (.ok value, after) := by
  rw [on_bind]
  generalize work.on before = done
  obtain ⟨result, changed⟩ := done
  cases result <;> simp

theorem on_get_bind (next : Volume → Filing ε β) (volume : Volume) :
    ((get : Filing ε Volume) >>= next).on volume = (next volume).on volume :=
  rfl

private theorem on_change_of_ok {cause : FileFault → ε} {step : Volume → Except FileFault Volume}
    {before after : Volume} (done : step before = .ok after) :
    (change cause step).on before = (.ok (), after) := by
  simp only [on, ExceptT.run, change, done]

private theorem on_change_of_error {cause : FileFault → ε} {step : Volume → Except FileFault Volume}
    {before : Volume} {fault : FileFault} (failed : step before = .error fault) :
    (change cause step).on before = (.error (cause fault), before) := by
  simp only [on, ExceptT.run, change, failed]

theorem on_write_of_ok (cause : FileFault → ε) {path text : String} {before after : Volume}
    (done : before.write path text.toUTF8 = .ok after) :
    (write cause path text).on before = (.ok (), after) := by
  rw [write, on_change_of_ok done]

theorem on_write_of_error (cause : FileFault → ε) {path text : String} {before : Volume} {fault : FileFault}
    (failed : before.write path text.toUTF8 = .error fault) :
    (write cause path text).on before = (.error (cause fault), before) := by
  rw [write, on_change_of_error failed]

theorem on_write_eq_ok {cause : FileFault → ε} {path text : String} {before after : Volume} :
    (write cause path text).on before = (.ok (), after) ↔ before.write path text.toUTF8 = .ok after := by
  cases done : before.write path text.toUTF8 with
  | error =>
    rw [on_write_of_error cause done]
    simp
  | ok =>
    rw [on_write_of_ok cause done]
    simp

/-- Work whose value is known if it comes to its end. -/
def Gives (expected : α) (work : Filing ε α) : Prop :=
  ∀ before value after, work.on before = (.ok value, after) → value = expected

theorem Gives.pure (value : α) : Gives value (Pure.pure value : Filing ε α) := by
  intro before other after done
  cases done
  rfl

theorem Gives.bind {expected : β} {work : Filing ε α} {next : α → Filing ε β}
    (rest : ∀ value, Gives expected (next value)) : Gives expected (work >>= next) := by
  intro before value after done
  obtain ⟨first, middle, _, done⟩ := on_bind_eq_ok.mp done
  exact rest first middle value after done

/-- Work that writes files at some places only and takes no directory away. -/
def Grows (written : List String → Prop) (work : Filing ε α) : Prop :=
  ∀ volume : Volume, volume.Grows written (work.on volume).2

namespace Grows

variable {written : List String → Prop}

theorem after {work : Filing ε α} {before after : Volume} {result : Except ε α}
    (done : work.on before = (result, after)) (grows : Grows written work) : before.Grows written after := by
  have grown := grows before
  rwa [done] at grown

theorem pure (value : α) : Grows written (Pure.pure value : Filing ε α) := fun _ => .refl

theorem bind {work : Filing ε α} {next : α → Filing ε β} (first : Grows written work)
    (rest : ∀ value, Grows written (next value)) : Grows written (work >>= next) := by
  intro volume
  have before := first volume
  rw [on_bind]
  generalize work.on volume = done at before ⊢
  obtain ⟨result, changed⟩ := done
  cases result with
  | error error => exact before
  | ok value => exact before.trans (rest value changed)

theorem get_bind {next : Volume → Filing ε β} (rest : ∀ volume, Grows written (next volume)) :
    Grows written ((get : Filing ε Volume) >>= next) :=
  bind (fun _ => .refl) rest

theorem adapt {change : ε → δ} {work : Filing ε α} (grows : Grows written work) :
    Grows written (ExceptT.adapt change work : Filing δ α) := by
  intro volume
  exact grows volume

theorem mapM {items : List α} {work : α → Filing ε β} (each : ∀ item ∈ items, Grows written (work item)) :
    Grows written (items.mapM work) := by
  induction items with
  | nil => exact pure []
  | cons item rest ih =>
    rw [List.mapM_cons]
    rw [List.forall_mem_cons] at each
    exact each.1.bind fun _ => (ih each.2).bind fun _ => pure _

theorem makeDirectories {cause : FileFault → ε} {path : String} :
    Grows written (Filing.makeDirectories cause path) := by
  intro volume
  exact Volume.Grows.makeDirectories volume path

/-- A file may be written if all the places that its path could lead to are among those. -/
theorem write {cause : FileFault → ε} {path text : String}
    (inside : ∀ (volume : Volume) place, volume.locate path = .ok place → written place) :
    Grows written (Filing.write cause path text) := by
  intro volume
  cases done : volume.write path text.toUTF8 with
  | error =>
    rw [on_write_of_error cause done]
    exact .refl
  | ok =>
    rw [on_write_of_ok cause done]
    obtain ⟨place, located, free, rfl⟩ := Volume.write_eq_ok done
    exact .put_file _ free (inside volume place located)

end Grows

end Filing

end IntentRollout
