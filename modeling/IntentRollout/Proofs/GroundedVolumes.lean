import Mathlib.Data.List.Induction
import IntentRollout.Proofs.VolumeChanges

/-! Volumes in which everything stands in a directory. Making directories and writing files keeps a volume so,
and so does taking away a place with everything below it. In such a volume nothing is below a file. -/

namespace IntentRollout.Volume

variable {volume after : Volume} {place other : List String} {name path : String} {entry : Entry}
  {bytes : ByteArray}

/-- Whatever there is stands in a directory, and nothing takes the place of the root. -/
structure Grounded (volume : Volume) : Prop where
  rootless : volume.entries.get? [] = none
  inside : ∀ place name entry, volume.entry? (place ++ [name]) = some entry → volume.entry? place = some .directory

theorem mem_keys_of_found (there : volume.entry? place = some entry) (below : place ≠ []) :
    place ∈ volume.entries.keys := by
  rw [entry?_of_ne_nil below] at there
  exact Table.mem_keys.mpr ⟨entry, there⟩

private theorem grounded_iff : volume.Grounded ↔ volume.entries.get? [] = none ∧
    ∀ place ∈ volume.entries.keys, volume.entry? place.dropLast = some .directory := by
  constructor
  · intro grounded
    refine ⟨grounded.rootless, fun place member => ?_⟩
    obtain ⟨entry, there⟩ := Table.mem_keys.mp member
    rcases List.eq_nil_or_concat' place with rfl | ⟨above, name, rfl⟩
    · rfl
    · rw [List.dropLast_concat]
      rw [← entry?_of_ne_nil (by simp)] at there
      exact grounded.inside above name entry there
  · rintro ⟨rootless, inside⟩
    refine ⟨rootless, fun place name entry there => ?_⟩
    have above := inside _ (mem_keys_of_found there (by simp))
    rwa [List.dropLast_concat] at above

instance : Decidable volume.Grounded := decidable_of_iff _ grounded_iff.symm

theorem file?_eq_none_of_directory (there : volume.entry? place = some .directory) : volume.file? place = none := by
  rw [file?, there]

@[simp] theorem file?_nil (volume : Volume) : volume.file? [] = none := rfl

theorem entry?_prune (nonempty : place ≠ []) (other : List String) :
    Volume.entry? (volume.prune place) other = if place <+: other then none else volume.entry? other := by
  cases other with
  | nil => rw [if_neg (by simpa using nonempty)]; rfl
  | cons first rest =>
    change (volume.prune place).entries.get? (first :: rest) = _
    rw [prune, Table.get?_filter]
    by_cases inside : place <+: first :: rest
    · rw [if_pos inside]
      simp [List.isPrefixOf_iff_prefix.mpr inside]
    · have outside : place.isPrefixOf (first :: rest) = false := by
        rw [Bool.eq_false_iff]
        exact fun found => inside (List.isPrefixOf_iff_prefix.mp found)
      rw [if_neg inside]
      simp only [outside, Bool.not_false]
      cases found : volume.entries.get? (first :: rest) <;> simp [found, entry?]

theorem file?_prune (volume : Volume) (place other : List String) :
    (volume.prune place).file? other = if place <+: other then none else volume.file? other := by
  by_cases nonempty : place = []
  · subst nonempty
    cases other with
    | nil => rfl
    | cons first rest =>
      have gone : Volume.entry? (volume.prune []) (first :: rest) = none := by
        change (volume.prune []).entries.get? (first :: rest) = none
        rw [prune, Table.get?_filter]
        simp
      rw [if_pos List.nil_prefix, file?, gone]
  · rw [file?, entry?_prune nonempty]
    by_cases inside : place <+: other
    · rw [if_pos inside, if_pos inside]
    · rw [if_neg inside, if_neg inside, file?]

namespace Grounded

/-- All places on the way to something are directories. -/
theorem above (grounded : Grounded volume) {rest : List String} (some : rest ≠ [])
    (there : volume.entry? (place ++ rest) = Option.some entry) : volume.entry? place = Option.some .directory := by
  induction rest using List.reverseRecOn generalizing entry with
  | nil => exact absurd rfl some
  | append_singleton rest name ih =>
    rw [← List.append_assoc] at there
    have next := grounded.inside _ _ _ there
    by_cases last : rest = []
    · rwa [last, List.append_nil] at next
    · exact ih last next

theorem of_prefix (grounded : Grounded volume) (way : place <+: other) (differs : place ≠ other)
    (there : volume.entry? other = some entry) : volume.entry? place = some .directory := by
  obtain ⟨rest, rfl⟩ := way
  exact grounded.above (by rintro rfl; simp at differs) there

/-- Nothing is below a file. -/
theorem none_below_file (grounded : Grounded volume) (held : volume.file? place = some bytes)
    (way : place <+: other) (differs : place ≠ other) : volume.entry? other = none := by
  cases there : volume.entry? other with
  | none => rfl
  | some entry =>
    rw [file?_eq_none_of_directory (grounded.of_prefix way differs there)] at held
    cases held

theorem prune (grounded : Grounded volume) (place : List String) : Grounded (volume.prune place) where
  rootless := by
    rw [Volume.prune, Table.get?_filter, grounded.rootless]
    rfl
  inside above name entry there := by
    by_cases nonempty : place = []
    · subst nonempty
      have gone : Volume.entry? (volume.prune []) (above ++ [name]) = none := by
        rw [entry?_of_ne_nil (by simp), Volume.prune, Table.get?_filter]
        simp
      rw [gone] at there
      cases there
    · rw [entry?_prune nonempty] at there ⊢
      split at there
      · cases there
      next outside =>
        rw [if_neg fun inside => outside (inside.trans (List.prefix_append _ _))]
        exact grounded.inside above name entry there

/-- What is put into a directory stands well, unless a directory goes with what is in it. -/
theorem put (grounded : Grounded volume) (there : volume.entry? place = some .directory)
    (free : entry = .directory ∨ volume.entry? (place ++ [name]) ≠ some .directory) :
    Grounded (volume.put (place ++ [name]) entry) where
  rootless := by
    change (volume.entries.insert (place ++ [name]) entry).get? [] = none
    rw [Table.get?_insert, if_neg (by simp), grounded.rootless]
  inside above next entry' found := by
    rw [entry?_put entry (by simp)] at found ⊢
    have before : volume.entry? above = some .directory := by
      split at found
      next same =>
        obtain ⟨rfl, -⟩ := List.append_inj' same rfl
        exact there
      · exact grounded.inside above next entry' found
    split
    next same =>
      rcases free with rfl | free
      · rfl
      · exact absurd (same ▸ before) free
    · exact before

/-- One step up from a directory is a directory. -/
theorem dropLast (grounded : Grounded volume) (there : volume.entry? place = some .directory) :
    volume.entry? place.dropLast = some .directory := by
  rcases List.eq_nil_or_concat' place with rfl | ⟨above, last, rfl⟩
  · rfl
  · rw [List.dropLast_concat]
    exact grounded.inside _ _ _ there

theorem extend (grounded : Grounded volume) (there : volume.entry? place = some .directory)
    (names : List String) : Grounded (volume.extend place names).2 := by
  induction names generalizing volume place with
  | nil => exact grounded
  | cons name rest ih =>
    rw [Volume.extend]
    split
    · exact ih grounded (grounded.dropLast there)
    · split
      · exact grounded
      · split
        next down => exact ih grounded down
        · exact grounded
        next free =>
          refine ih (grounded.put there (.inl rfl)) ?_
          rw [entry?_put _ (by simp), if_pos rfl]

theorem makeDirectories (grounded : Grounded volume)
    (there : volume.entry? (volume.start path) = some .directory) : Grounded (volume.makeDirectories path).2 := by
  rw [Volume.makeDirectories]
  split
  · exact grounded
  · split
    · split
      · have made := grounded.extend there (Path.parts (Path.parent path))
        generalize volume.extend (volume.start path) (Path.parts (Path.parent path)) = result at made ⊢
        exact made
      · exact grounded
    · exact grounded.extend there _

theorem write (grounded : Grounded volume) {directory : String} (plain : Path.Plain name)
    (done : volume.write (Path.join directory name) bytes = .ok after) : Grounded after := by
  obtain ⟨place, located, free, rfl⟩ := write_eq_ok done
  obtain ⟨above, _, there, rfl⟩ := locate_join plain located
  exact grounded.put there (.inr free)

end Grounded

theorem below_isEmpty_iff : (volume.below place).isEmpty = true ↔
    ∀ other, place <+: other → place ≠ other → volume.entries.get? other = none := by
  rw [below, List.isEmpty_iff, List.filterMap_eq_nil_iff]
  constructor
  · intro empty other way differs
    rw [Table.get?_eq_none, Table.keys, List.mem_map]
    rintro ⟨⟨found, entry⟩, member, rfl⟩
    have longer : place.length < found.length :=
      Nat.lt_of_le_of_ne way.length_le fun same => differs (way.eq_of_length same)
    have left := empty _ member
    simp only [List.isPrefixOf_iff_prefix.mpr way, longer, decide_true, Bool.and_self, if_true] at left
    cases left
  · rintro empty ⟨other, entry⟩ member
    rw [ite_eq_right_iff]
    intro inside
    rw [Bool.and_eq_true, List.isPrefixOf_iff_prefix, decide_eq_true_iff] at inside
    have absent := empty other inside.1 (by rintro rfl; exact Nat.lt_irrefl _ inside.2)
    rw [Table.get?_eq_some.mpr member] at absent
    cases absent

theorem file?_prune_of_empty (empty : (volume.below place).isEmpty = true) (free : volume.file? place = none)
    (other : List String) : (volume.prune place).file? other = volume.file? other := by
  rw [file?_prune]
  split
  next inside =>
    by_cases same : place = other
    · rw [← same, free]
    · have gone := below_isEmpty_iff.mp empty other inside same
      cases other with
      | nil => rfl
      | cons first rest => simp [file?, entry?, gone]
  · rfl

end IntentRollout.Volume
