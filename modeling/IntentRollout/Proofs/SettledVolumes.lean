import IntentRollout.Proofs.SavedFiles

/-! Work that is done a second time, or in two ways. What was made stays as it is when it is made again, and two
ways of working are alike if they leave the same volume behind, step by step. Where a path leads is settled
once it leads anywhere, so what some work wrote can be told from the volume at its end. -/

namespace IntentRollout

namespace Volume

variable {volume after last : Volume} {place names : List String} {path : String} {bytes : ByteArray}
  {written : List String → Prop}

/-- Putting down what is there changes nothing. -/
theorem put_of_there {entry : Entry} (there : volume.entry? place = some entry) (below : place ≠ []) :
    volume.put place entry = volume := by
  rw [entry?_of_ne_nil below] at there
  have same : volume.entries.insert place entry = volume.entries := by
    apply Table.ext_get?
    intro key
    rw [Table.get?_insert]
    split
    next here => rw [← here, there]
    next => rfl
  rw [put, same]

theorem write_of_held (slashless : Path.endsWithSlash path = false) (located : volume.locate path = .ok place)
    (held : volume.file? place = some bytes) : volume.write path bytes = .ok volume := by
  have there := file?_eq_some.mp held
  have below : place ≠ [] := by
    rintro rfl
    cases there
  rw [write_of_located slashless located (not_directory_of_file held), put_of_there there below]

theorem grows_of_extend (made : volume.extend place names = (.ok (), after)) : volume.Grows written after := by
  have grows : volume.Grows written (volume.extend place names).2 := .extend _ _ _
  rwa [made] at grows

/-- Directories that were made need not be made again. -/
theorem extend_again (made : volume.extend place names = (.ok (), after)) (grows : after.Grows written last) :
    last.extend place names = (.ok (), last) := by
  induction names generalizing volume place with
  | nil => rfl
  | cons name rest ih =>
    rw [extend] at made ⊢
    split at made
    next up =>
      rw [if_pos up]
      exact ih made
    next down =>
      rw [if_neg down]
      split at made
      · cases made
      next short =>
        rw [if_neg short]
        have next (middle : Volume) (there : middle.entry? (place ++ [name]) = some .directory)
            (made : middle.extend (place ++ [name]) rest = (.ok (), after)) :
            last.entry? (place ++ [name]) = some .directory :=
          grows.directories _ ((grows_of_extend made : middle.Grows written after).directories _ there)
        split at made
        next there =>
          rw [next volume there made]
          exact ih made
        next => cases made
        next free =>
          rw [next _ (by rw [entry?_put _ (by simp), if_pos rfl]) made]
          exact ih made

theorem makeDirectories_again (dotless : Path.endsWithDot path = false)
    (made : volume.makeDirectories path = (.ok (), after)) (grows : after.Grows written last) :
    last.makeDirectories path = (.ok (), last) := by
  rw [makeDirectories, dotless] at made ⊢
  split at made
  · cases made
  next clean =>
    rw [if_neg clean]
    have made : volume.extend (volume.start path) (Path.parts path) = (.ok (), after) := made
    have start : last.start path = volume.start path := by
      rw [grows.start, (grows_of_extend made : volume.Grows written after).start]
    rw [start]
    exact extend_again made grows

end Volume

namespace Filing

variable {ε α β γ δ : Type} {before after last : Volume}

def ending (work : Filing ε α) (volume : Volume) : Except ε Unit × Volume :=
  ((work.on volume).1.map fun _ => (), (work.on volume).2)

/-- On a volume of some kind, two ways of working end alike. -/
def Alike (kind : Volume → Prop) (first : Filing ε α) (second : Filing ε β) : Prop :=
  ∀ volume, kind volume → first.ending volume = second.ending volume

def Keeps (kind : Volume → Prop) (work : Filing ε α) : Prop :=
  ∀ volume, kind volume → kind (work.on volume).2

variable {kind other : Volume → Prop}

theorem Keeps.pure (value : α) : Keeps kind (Pure.pure value : Filing ε α) := fun _ kept => kept

theorem Keeps.bind {work : Filing ε α} {next : α → Filing ε β} (first : Keeps kind work)
    (rest : ∀ value, Keeps kind (next value)) : Keeps kind (work >>= next) := by
  intro volume held
  have kept := first volume held
  rw [on_bind]
  generalize work.on volume = done at kept ⊢
  obtain ⟨result, changed⟩ := done
  cases result with
  | error => exact kept
  | ok value => exact rest value changed kept

theorem Keeps.mapM {items : List α} {work : α → Filing ε β} (each : ∀ item ∈ items, Keeps kind (work item)) :
    Keeps kind (items.mapM work) := by
  induction items with
  | nil => exact .pure []
  | cons item rest ih =>
    rw [List.forall_mem_cons] at each
    rw [List.mapM_cons]
    exact each.1.bind fun _ => (ih each.2).bind fun _ => .pure _

theorem Alike.pure (value : α) (value' : β) : Alike kind (Pure.pure value : Filing ε α) (Pure.pure value') :=
  fun _ _ => rfl

theorem Alike.refl (work : Filing ε α) : Alike kind work work := fun _ _ => rfl

theorem Alike.mono {first : Filing ε α} {second : Filing ε β} (alike : Alike other first second)
    (sub : ∀ volume, kind volume → other volume) : Alike kind first second :=
  fun volume held => alike volume (sub volume held)

theorem Alike.bind {first : Filing ε α} {second : Filing ε β} {next : α → Filing ε γ} {next' : β → Filing ε δ}
    (alike : Alike kind first second) (keeps : Keeps kind first)
    (rest : ∀ value value', Alike kind (next value) (next' value')) :
    Alike kind (first >>= next) (second >>= next') := by
  intro volume held
  have same := alike volume held
  have kept := keeps volume held
  rw [ending, ending] at same ⊢
  rw [on_bind, on_bind]
  generalize first.on volume = done at same kept ⊢
  generalize second.on volume = done' at same ⊢
  obtain ⟨result, changed⟩ := done
  obtain ⟨result', changed'⟩ := done'
  obtain ⟨results, rfl⟩ := Prod.mk.inj same
  cases result with
  | error error =>
    cases result' with
    | error error' => exact same
    | ok value => cases results
  | ok value =>
    cases result' with
    | error error => cases results
    | ok value' => exact rest value value' changed kept

theorem Alike.mapM {items : List α} {work : α → Filing ε β} {work' : α → Filing ε γ}
    (each : ∀ item ∈ items, Alike kind (work item) (work' item))
    (keeps : ∀ item ∈ items, Keeps kind (work item)) : Alike kind (items.mapM work) (items.mapM work') := by
  induction items with
  | nil => exact .pure [] []
  | cons item rest ih =>
    rw [List.forall_mem_cons] at each keeps
    rw [List.mapM_cons, List.mapM_cons]
    exact each.1.bind keeps.1 fun _ _ => (ih each.2 keeps.2).bind (.mapM keeps.2) fun _ _ => .pure _ _

theorem on_makeDirectories_eq_ok {cause : FileFault → ε} {path : String} :
    (makeDirectories cause path).on before = (.ok (), after) ↔ before.makeDirectories path = (.ok (), after) := by
  have done : (makeDirectories cause path).on before =
      ((before.makeDirectories path).1.mapError cause, (before.makeDirectories path).2) := rfl
  rw [done]
  generalize before.makeDirectories path = made
  obtain ⟨result, changed⟩ := made
  rw [Prod.mk.injEq, Prod.mk.injEq, mapError_eq_ok]

/-- Work writes files at places that can be told from the volume at its end, or any later one. -/
def Aims (written : Volume → List String → Prop) (work : Filing ε α) : Prop :=
  ∀ before value after last, work.on before = (.ok value, after) → after.Grows (fun _ => True) last →
    before.Grows (written last) after

variable {written : Volume → List String → Prop}

theorem Aims.pure (value : α) : Aims written (Pure.pure value : Filing ε α) := by
  intro before other after last done _
  cases done
  exact .refl

theorem Aims.bind {work : Filing ε α} {next : α → Filing ε β} (first : Aims written work)
    (rest : ∀ value, Aims written (next value)) : Aims written (work >>= next) := by
  intro before value after last done grows
  obtain ⟨_, middle, begun, done⟩ := on_bind_eq_ok.mp done
  have later := rest _ middle value after last done grows
  have onward : middle.Grows (fun _ => True) last := (later.mono fun _ _ => trivial).trans grows
  exact (first before _ middle last begun onward).trans later

theorem Aims.mapM {items : List α} {work : α → Filing ε β} (each : ∀ item ∈ items, Aims written (work item)) :
    Aims written (items.mapM work) := by
  induction items with
  | nil => exact .pure []
  | cons item rest ih =>
    rw [List.forall_mem_cons] at each
    rw [List.mapM_cons]
    exact each.1.bind fun _ => (ih each.2).bind fun _ => .pure _

theorem Aims.of_grows {work : Filing ε α} (grows : Grows (fun _ => False) work) : Aims written work :=
  fun _ _ _ _ done _ => (Grows.after done grows).mono fun _ => False.elim

/-- What is said of the work on each item and the volumes before it and at the end is said of the volumes
before and after the work on all, if the work on earlier items does not change it. -/
theorem forall₂_of_mapM {work : α → Filing ε β} {items : List α} {values : List β}
    (said : α → β → Volume → Volume → Prop)
    (grows : ∀ item ∈ items, Grows (fun _ => True) (work item))
    (told : ∀ item ∈ items, ∀ before value after last, (work item).on before = (.ok value, after) →
      after.Grows (fun _ => True) last → said item value before last)
    (back : items.Pairwise fun earlier later => ∀ before value after, (work earlier).on before = (.ok value, after) →
      ∀ value last, said later value after last → said later value before last)
    (done : (items.mapM work).on before = (.ok values, after)) (onward : after.Grows (fun _ => True) last) :
    List.Forall₂ (said · · before last) items values := by
  induction items generalizing before values with
  | nil =>
    cases done
    exact .nil
  | cons item rest ih =>
    rw [List.forall_mem_cons] at grows told
    obtain ⟨here, back⟩ := List.pairwise_cons.mp back
    rw [List.mapM_cons] at done
    obtain ⟨value, middle, first, done⟩ := on_bind_eq_ok.mp done
    obtain ⟨others, _, later, finish⟩ := on_bind_eq_ok.mp done
    cases finish
    have grown : middle.Grows (fun _ => True) after := Grows.after later (.mapM grows.2)
    refine .cons (told.1 before value middle last first (grown.trans onward)) ?_
    have rests := (List.forall₂_and_left rest others).mpr ⟨fun _ member => member, ih grows.2 told.2 back later⟩
    refine rests.imp ?_
    exact fun later value' ⟨member, said⟩ => here later member before value middle first value' last said

theorem on_mapM_of_same {work : α → Filing ε β} {items : List α} {value : α → β}
    (each : ∀ item ∈ items, (work item).on before = (.ok (value item), before)) :
    (items.mapM work).on before = (.ok (items.map value), before) := by
  induction items with
  | nil => rfl
  | cons item rest ih =>
    rw [List.forall_mem_cons] at each
    rw [List.mapM_cons, on_bind_eq_ok]
    refine ⟨_, _, each.1, on_bind_eq_ok.mpr ⟨_, _, ih each.2, rfl⟩⟩

end Filing

end IntentRollout
