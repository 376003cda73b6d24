import IntentRollout.Proofs.GroundedVolumes
import IntentRollout.Proofs.SavedFiles

/-! Filling an empty place. Directories and files that are new, and whose names a volume can hold, are made one
after the other without a fault, and nothing else is changed by it. -/

namespace IntentRollout

namespace Path

variable {name path : String}

/-- A name that something on a volume can have. -/
structure Usable (name : String) : Prop extends Plain name where
  clean : '\x00' ∉ name.toList
  short : name.utf8ByteSize ≤ Volume.longestName

private theorem mem_join {character : Char} {directory : String} (member : character ∈ (join directory path).toList) :
    character ∈ directory.toList ∨ character = '/' ∨ character ∈ path.toList := by
  rw [join] at member
  split at member
  · exact .inr (.inr member)
  · split at member
    · rw [String.toList_append, List.mem_append] at member
      exact member.imp_right .inr
    · simpa using member

theorem join_ne_empty (plain : Plain name) (directory : String) : join directory name ≠ "" := by
  obtain ⟨front, joined⟩ := join_ends directory name
  rw [joined, ne_eq, String.append_eq_empty_iff]
  exact fun both => plain.nonempty both.2

theorem endsWithSlash_join (plain : Plain name) (directory : String) :
    endsWithSlash (join directory name) = false := by
  obtain ⟨front, joined⟩ := join_ends directory name
  rw [joined, endsWithSlash_append plain]

/-- The last piece of a path ends with the name that was joined to it last. -/
theorem getLast?_pieces_join (plain : Plain name) (directory : String) :
    ∃ piece, (pieces '/' (join directory name).toList).getLast? = some piece ∧ piece ≠ [] ∧ piece ≠ ['.'] := by
  obtain ⟨front, joined⟩ := join_ends directory name
  obtain ⟨before, last⟩ := getLast?_pieces plain.slashless front.toList
  have filled : name.toList ≠ [] := fun empty => plain.nonempty (String.toList_eq_nil_iff.mp empty)
  refine ⟨before ++ name.toList, ?_, by simp [filled], ?_⟩
  · rw [joined, String.toList_append, last]
  · intro dot
    obtain ⟨_, dot⟩ | ⟨_, empty⟩ := List.append_eq_singleton_iff.mp dot
    · exact plain.not_dot (String.toList_injective dot)
    · exact filled empty

theorem isOpen_join (plain : Plain name) (directory : String) : isOpen (join directory name) = false := by
  obtain ⟨piece, last, filled, dotless⟩ := getLast?_pieces_join plain directory
  rw [isOpen, last]
  split
  next empty => exact absurd (Option.some_inj.mp empty) filled
  next dot => exact absurd (Option.some_inj.mp dot) dotless
  · rfl

theorem endsWithDot_join (plain : Plain name) (directory : String) : endsWithDot (join directory name) = false := by
  obtain ⟨piece, last, filled, dotless⟩ := getLast?_pieces_join plain directory
  obtain ⟨above, cut⟩ := List.getLast?_eq_some_iff.mp last
  rw [endsWithDot, cut, List.reverse_concat, List.dropWhile_cons_of_neg (by simpa using filled)]
  simpa using dotless

end Path

namespace Volume

variable {volume : Volume} {path name : String} {place other : List String} {names : List String} {entry : Entry}

structure Opens (volume : Volume) (path : String) (place : List String) : Prop where
  located : volume.locate path = .ok place
  there : volume.entry? place = some .directory

namespace Opens

theorem approached (opens : volume.Opens path place) : path ≠ "" ∧ '\x00' ∉ path.toList ∧
    volume.follow (volume.start path) (Path.parts path) = .ok place :=
  approach_eq_ok_iff.mp (locate_eq_ok.mp opens.located).1

theorem grows {after : Volume} {written : List String → Prop} (opens : volume.Opens path place)
    (grows : volume.Grows written after) : after.Opens path place :=
  ⟨grows.locate opens.located, grows.directories place opens.there⟩

private theorem clean_join (opens : volume.Opens path place) (usable : Path.Usable name) :
    '\x00' ∉ (Path.join path name).toList := by
  intro member
  rcases Path.mem_join member with above | slash | inside
  · exact opens.approached.2.1 above
  · cases slash
  · exact usable.clean inside

/-- In a directory every name that can be used leads somewhere, whatever is there. -/
theorem locate_join (opens : volume.Opens path place) (usable : Path.Usable name) :
    volume.locate (Path.join path name) = .ok (place ++ [name]) := by
  rw [locate_eq_ok, approach_eq_ok_iff, Path.isOpen_join usable.toPlain]
  refine ⟨⟨Path.join_ne_empty usable.toPlain path, opens.clean_join usable, ?_⟩, nofun⟩
  rw [start_join usable.toPlain, usable.parts_join, follow_append, opens.approached.2.2]
  change volume.follow place [name] = _
  rw [follow, opens.there]
  dsimp only
  rw [if_neg usable.not_dots, if_neg (by exact Nat.not_lt.mpr usable.short), follow]

/-- Along directories nothing has to be made. -/
theorem extend_append (led : volume.follow other names = .ok place) (there : volume.entry? place = some .directory)
    (rest : List String) : volume.extend other (names ++ rest) = volume.extend place rest := by
  induction names generalizing other with
  | nil =>
    cases led
    rfl
  | cons name names ih =>
    rw [follow] at led
    split at led
    · cases led
    · cases led
    · rw [List.cons_append, extend]
      split at led
      next up =>
        rw [if_pos up]
        exact ih led
      next down =>
        rw [if_neg down]
        split at led
        · cases led
        next short =>
          have next : volume.entry? (other ++ [name]) = some .directory := by
            cases names with
            | nil =>
              cases led
              exact there
            | cons => exact start_of_follow led (List.cons_ne_nil _ _)
          rw [if_neg short, next]
          exact ih led

theorem makeDirectories_join (opens : volume.Opens path place) (usable : Path.Usable name)
    (free : volume.entry? (place ++ [name]) = none) :
    volume.makeDirectories (Path.join path name) = (.ok (), volume.put (place ++ [name]) .directory) := by
  have clean : ((Path.join path name).toList.contains '\x00') = false := by
    rw [List.contains_eq_mem, decide_eq_false_iff_not]
    exact opens.clean_join usable
  rw [makeDirectories, clean, Path.endsWithDot_join usable.toPlain, start_join usable.toPlain, usable.parts_join]
  simp only [Bool.false_eq_true, if_false]
  rw [extend_append opens.approached.2.2 opens.there, extend, if_neg usable.not_dots,
    if_neg (by exact Nat.not_lt.mpr usable.short), free]
  rfl

theorem write_join (opens : volume.Opens path place) (usable : Path.Usable name)
    (free : volume.entry? (place ++ [name]) = none) (bytes : ByteArray) :
    volume.write (Path.join path name) bytes = .ok (volume.put (place ++ [name]) (.file bytes)) := by
  refine write_of_located (Path.endsWithSlash_join usable.toPlain path) (opens.locate_join usable) ?_ bytes
  rw [free]
  exact nofun

/-- A directory that was just made leads on. -/
theorem put_join (opens : volume.Opens path place) (usable : Path.Usable name)
    (free : volume.entry? (place ++ [name]) = none) :
    (volume.put (place ++ [name]) .directory).Opens (Path.join path name) (place ++ [name]) where
  located := by
    have grows : volume.Grows (fun _ => False) (volume.put (place ++ [name]) .directory) := .put_directory free
    exact grows.locate (opens.locate_join usable)
  there := by rw [entry?_put _ (by simp), if_pos rfl]

end Opens

def fill (volume : Volume) (layout : List (List String × Entry)) : Volume :=
  layout.foldl (fun filled entry => filled.put entry.1 entry.2) volume

variable {layout rest : List (List String × Entry)}

theorem fill_append (volume : Volume) (layout rest : List (List String × Entry)) :
    volume.fill (layout ++ rest) = (volume.fill layout).fill rest :=
  List.foldl_append

/-- Entries for different places at which nothing is yet. -/
structure Fresh (volume : Volume) (layout : List (List String × Entry)) : Prop where
  distinct : (layout.map (·.1)).Nodup
  free : ∀ entry ∈ layout, volume.entry? entry.1 = none

private theorem ne_nil_of_free (free : volume.entry? place = none) : place ≠ [] := by
  rintro rfl
  cases free

namespace Fresh

theorem head (fresh : volume.Fresh ((place, entry) :: layout)) : volume.entry? place = none :=
  fresh.free _ List.mem_cons_self

theorem absent (fresh : volume.Fresh ((place, entry) :: layout)) : place ∉ layout.map (·.1) :=
  (List.nodup_cons.mp fresh.distinct).1

theorem tail (fresh : volume.Fresh ((place, entry) :: layout)) : (volume.put place entry).Fresh layout := by
  refine ⟨(List.nodup_cons.mp fresh.distinct).2, fun later member => ?_⟩
  rw [entry?_put _ (ne_nil_of_free fresh.head), if_neg]
  · exact fresh.free later (List.mem_cons_of_mem _ member)
  · intro same
    exact fresh.absent (same ▸ List.mem_map_of_mem member)

theorem front (fresh : volume.Fresh (layout ++ rest)) : volume.Fresh layout where
  distinct := (List.map_append ▸ fresh.distinct).of_append_left
  free entry member := fresh.free entry (List.mem_append_left _ member)

theorem back (fresh : volume.Fresh (layout ++ rest)) : (volume.fill layout).Fresh rest := by
  induction layout generalizing volume with
  | nil => exact fresh
  | cons _ _ ih => exact ih fresh.tail

/-- What is put down is there, and all else is as before. -/
theorem entry?_fill (fresh : volume.Fresh layout) (other : List String) :
    Volume.entry? (volume.fill layout) other = (Entries.get? layout other).or (volume.entry? other) := by
  induction layout generalizing volume with
  | nil => rfl
  | cons entry layout ih =>
    have step : Volume.entry? (volume.put entry.1 entry.2) other =
        if entry.1 = other then some entry.2 else volume.entry? other :=
      entry?_put _ (ne_nil_of_free fresh.head) _
    have later := ih fresh.tail
    rw [step] at later
    rw [fill, List.foldl_cons, ← fill, later, Entries.get?_cons]
    by_cases here : entry.1 = other
    · rw [if_pos here, if_pos here, Entries.get?_eq_none.mpr (here ▸ fresh.absent)]
      rfl
    · rw [if_neg here, if_neg here]

theorem entry?_of_mem (fresh : volume.Fresh layout) (member : (place, entry) ∈ layout) :
    Volume.entry? (volume.fill layout) place = some entry := by
  rw [fresh.entry?_fill, (Entries.get?_eq_some fresh.distinct).mpr member]
  rfl

theorem entry?_of_not_mem (fresh : volume.Fresh layout) (absent : place ∉ layout.map (·.1)) :
    Volume.entry? (volume.fill layout) place = volume.entry? place := by
  rw [fresh.entry?_fill, Entries.get?_eq_none.mpr absent]
  rfl

theorem grows (fresh : volume.Fresh layout) {written : List String → Prop}
    (inside : ∀ entry ∈ layout, written entry.1) : volume.Grows written (volume.fill layout) := by
  induction layout generalizing volume with
  | nil => exact .refl
  | cons head layout ih =>
    obtain ⟨place, entry⟩ := head
    rw [List.forall_mem_cons] at inside
    refine Grows.trans ?_ (ih fresh.tail inside.2)
    cases entry with
    | directory => exact .put_directory fresh.head
    | file bytes => exact .put_file bytes (by rw [fresh.head]; nofun) inside.1

end Fresh

theorem Opens.fill (opens : volume.Opens path place) (fresh : volume.Fresh layout) :
    (volume.fill layout).Opens path place :=
  opens.grows (fresh.grows fun _ _ => trivial : volume.Grows (fun _ => True) (volume.fill layout))

structure Vacant (volume : Volume) (path : String) (place : List String) : Prop extends volume.Opens path place where
  empty : volume.below place = []

theorem Vacant.free (vacant : volume.Vacant path place) (some : names ≠ []) :
    volume.entry? (place ++ names) = none := by
  rw [entry?_of_ne_nil (by simp [some])]
  apply below_isEmpty_iff.mp (List.isEmpty_iff.mpr vacant.empty)
  · exact List.prefix_append _ _
  · simpa using some

end Volume

namespace Filing

variable {ε α β : Type} {work : α → Filing ε β} {items : List α} {before : Volume} {path : String}
  {place : List String}

/-- Work that puts down one item after the other, each in a directory that stays open. -/
theorem on_mapM_fill {layout : α → List (List String × Entry)} {value : α → β}
    (each : ∀ item ∈ items, ∀ volume : Volume, volume.Opens path place → volume.Fresh (layout item) →
      (work item).on volume = (.ok (value item), volume.fill (layout item)))
    (opens : before.Opens path place) (fresh : before.Fresh (items.flatMap layout)) :
    (items.mapM work).on before = (.ok (items.map value), before.fill (items.flatMap layout)) := by
  induction items generalizing before with
  | nil => rfl
  | cons item rest ih =>
    rw [List.flatMap_cons] at fresh ⊢
    obtain ⟨here, each⟩ := List.forall_mem_cons.mp each
    have first := here before opens fresh.front
    have others := ih each (opens.fill fresh.front) fresh.back
    rw [List.mapM_cons, on_bind_eq_ok]
    refine ⟨_, _, first, ?_⟩
    rw [on_bind_eq_ok]
    refine ⟨_, _, others, ?_⟩
    rw [Volume.fill_append]
    rfl

theorem on_makeDirectories {cause : FileFault → ε} {changed : Volume}
    (made : before.makeDirectories path = (.ok (), changed)) :
    (makeDirectories cause path).on before = (.ok (), changed) := by
  simp only [on, ExceptT.run, makeDirectories, made, Except.mapError]

end Filing

end IntentRollout
