import Mathlib.Logic.Function.Basic
import IntentRollout.Proofs.GroundedVolumes
import IntentRollout.WorkTree.Basic

/-! What going back to a commit makes of the files. Each step is told by the files that a volume holds before
and after it: taking a file away, with the directories that this leaves empty, loses no other file, and
setting a file that is there changes no other. -/

namespace IntentRollout

theorem foldl_eq_self {α β : Type} {step : β → α → β} {items : List α} {start : β}
    (still : ∀ item ∈ items, step start item = start) : items.foldl step start = start := by
  induction items with
  | nil => rfl
  | cons item rest ih =>
    rw [List.forall_mem_cons] at still
    rw [List.foldl_cons, still.1, ih still.2]

namespace Volume

section Places

variable {volume after : Volume} {place other scope top : List String} {bytes : ByteArray}

private theorem get?_prune_of_empty (empty : (volume.below place).isEmpty = true) (differs : place ≠ other) :
    (volume.prune place).entries.get? other = volume.entries.get? other := by
  rw [prune, Table.get?_filter]
  by_cases inside : place <+: other
  · rw [below_isEmpty_iff.mp empty other inside differs]
    rfl
  · have outside : place.isPrefixOf other = false := by
      rw [Bool.eq_false_iff]
      exact fun found => inside (List.isPrefixOf_iff_prefix.mp found)
    cases volume.entries.get? other <;> simp [outside]

theorem get?_files (grounded : volume.Grounded) :
    (volume.files top).get? place = some bytes ↔ top <+: place ∧ volume.file? place = some bytes := by
  rw [files, Table.get?_filterMap, Option.bind_eq_some_iff]
  cases place with
  | nil => simp [grounded.rootless]
  | cons first rest =>
    rw [file?_eq_some, ← List.isPrefixOf_iff_prefix]
    change (∃ entry, volume.entry? (first :: rest) = some entry ∧ _) ↔ _
    constructor
    · rintro ⟨entry, there, kept⟩
      cases entry with
      | directory => cases kept
      | file held =>
        dsimp only at kept
        split at kept
        next inside =>
          cases kept
          exact ⟨inside, there⟩
        · cases kept
    · rintro ⟨inside, there⟩
      exact ⟨_, there, if_pos inside⟩

/-- Takes away those of some directories that are empty when their turn comes. -/
def tidied (volume : Volume) (directories : List (List String)) : Volume :=
  directories.foldl (fun volume place =>
    if (volume.below place).isEmpty then volume.prune place else volume) volume

private theorem tidied_cons (volume : Volume) (place : List String) (rest : List (List String)) :
    volume.tidied (place :: rest) =
      (if (volume.below place).isEmpty then volume.prune place else volume).tidied rest :=
  rfl

private theorem get?_tidied {directories : List (List String)} (apart : ∀ place ∈ directories, place ≠ other) :
    (volume.tidied directories).entries.get? other = volume.entries.get? other := by
  induction directories generalizing volume with
  | nil => rfl
  | cons place rest ih =>
    rw [List.forall_mem_cons] at apart
    rw [tidied_cons, ih apart.2]
    split
    next empty => exact get?_prune_of_empty empty apart.1
    · rfl

private theorem get?_of_tidied {directories : List (List String)} {entry : Entry}
    (there : (volume.tidied directories).entries.get? other = some entry) :
    volume.entries.get? other = some entry := by
  induction directories generalizing volume with
  | nil => exact there
  | cons place rest ih =>
    rw [tidied_cons] at there
    have left := ih there
    split at left
    · rw [prune, Table.get?_filter, Option.filter_eq_some_iff] at left
      exact left.1
    · exact left

private theorem get?_foldl_prune {places : List (List String)} (apart : ∀ place ∈ places, ¬ place <+: other) :
    (places.foldl (fun volume place => volume.prune place) volume).entries.get? other =
      volume.entries.get? other := by
  induction places generalizing volume with
  | nil => rfl
  | cons place rest ih =>
    rw [List.forall_mem_cons] at apart
    rw [List.foldl_cons, ih apart.2, prune, Table.get?_filter]
    have outside : place.isPrefixOf other = false := by
      rw [Bool.eq_false_iff]
      exact fun found => apart.1 (List.isPrefixOf_iff_prefix.mp found)
    cases volume.entries.get? other <;> simp [outside]

private theorem file?_of_get?_directory (there : volume.entries.get? place = some .directory) :
    volume.file? place = none := by
  cases place with
  | nil => rfl
  | cons first rest => exact file?_eq_none_of_directory there

def Filled (volume : Volume) (place : List String) : Prop :=
  volume.entries.get? place = none ∨ ∃ other, place <+: other ∧ place ≠ other ∧
    (volume.entries.get? other).isSome = true

theorem Filled.prune (filled : volume.Filled place) (empty : (volume.below other).isEmpty = true)
    (apart : place <+: other → place = other) : (volume.prune other).Filled place := by
  by_cases same : other = place
  · refine .inl ?_
    rw [← same, Volume.prune, Table.get?_filter]
    simp
  rw [Filled, get?_prune_of_empty empty same]
  obtain gone | ⟨inner, inside, differs, there⟩ := filled
  · exact .inl gone
  · refine .inr ⟨inner, inside, differs, ?_⟩
    rwa [get?_prune_of_empty empty]
    rintro rfl
    exact differs (apart inside)

theorem Filled.tidied {directories : List (List String)} (filled : volume.Filled place)
    (apart : ∀ other ∈ directories, place <+: other → place = other) :
    (volume.tidied directories).Filled place := by
  induction directories generalizing volume with
  | nil => exact filled
  | cons other rest ih =>
    rw [List.forall_mem_cons] at apart
    rw [tidied_cons]
    split
    next empty => exact ih (filled.prune empty apart.1) apart.2
    · exact ih filled apart.2

/-- Directories are tidied for good if the inner ones have their turn before the outer ones. -/
theorem filled_tidied {directories : List (List String)}
    (order : directories.Pairwise fun earlier later => earlier <+: later → earlier = later) :
    ∀ place ∈ directories, (volume.tidied directories).Filled place := by
  induction directories generalizing volume with
  | nil => simp
  | cons first rest ih =>
    obtain ⟨apart, order⟩ := List.pairwise_cons.mp order
    rw [List.forall_mem_cons, tidied_cons]
    refine ⟨Filled.tidied ?_ apart, ih order⟩
    split
    next empty =>
      refine .inl ?_
      rw [Volume.prune, Table.get?_filter]
      simp
    next some =>
      refine .inr ?_
      rw [below_isEmpty_iff] at some
      simp only [not_forall] at some
      obtain ⟨other, inside, differs, there⟩ := some
      exact ⟨other, inside, differs, Option.isSome_iff_ne_none.mpr there⟩

private theorem tidied_eq_self {directories : List (List String)}
    (filled : ∀ place ∈ directories, (volume.below place).isEmpty = false) :
    volume.tidied directories = volume := by
  apply foldl_eq_self
  intro place member
  rw [filled place member]
  rfl

end Places

/-- A volume that stands well and has just these files. -/
structure Holds (working : List String) (files : List String → Option ByteArray) (volume : Volume) : Prop where
  grounded : volume.Grounded
  working : volume.working = working
  files : ∀ place, volume.file? place = files place

namespace Holds

variable {volume : Volume} {working place top : List String} {files : List String → Option ByteArray}
  {bytes : ByteArray}

theorem congr {others : List String → Option ByteArray} (holds : Holds working files volume)
    (same : ∀ place, files place = others place) : Holds working others volume :=
  ⟨holds.grounded, holds.working, fun place => (holds.files place).trans (same place)⟩

theorem tidied {directories : List (List String)} (holds : Holds working files volume)
    (free : ∀ place ∈ directories, files place = none) : Holds working files (volume.tidied directories) := by
  induction directories generalizing volume with
  | nil => exact holds
  | cons place rest ih =>
    rw [List.forall_mem_cons] at free
    rw [tidied_cons]
    split
    next empty =>
      refine ih ⟨holds.grounded.prune place, holds.working, fun other => ?_⟩ free.2
      rw [file?_prune_of_empty empty ((holds.files place).trans free.1), holds.files]
    · exact ih holds free.2

private theorem prune_file (holds : Holds working files volume) (held : files place = some bytes) :
    Holds working (Function.update files place none) (volume.prune place) := by
  refine ⟨holds.grounded.prune place, holds.working, fun other => ?_⟩
  rw [file?_prune, Function.update_apply]
  have file := (holds.files place).trans held
  by_cases same : other = place
  · rw [if_pos same, if_pos (same ▸ List.prefix_rfl)]
  · rw [if_neg same, ← holds.files]
    split
    next way => rw [file?, holds.grounded.none_below_file file way (Ne.symm same)]
    · rfl

theorem uproot (holds : Holds working files volume) (held : files place = some bytes) :
    Holds working (Function.update files place none) (volume.uproot top place) := by
  have file := (holds.files place).trans held
  have tidy : volume.uproot top place = (volume.prune place).tidied
      ((List.range (place.length - 1 - top.length)).reverse.map fun depth =>
        place.take (top.length + depth + 1)) := by
    rw [Volume.tidied, List.foldl_map]
    rfl
  rw [tidy]
  refine (holds.prune_file held).tidied fun directory member => ?_
  obtain ⟨depth, inside, rfl⟩ := List.mem_map.mp member
  rw [List.mem_reverse, List.mem_range] at inside
  have differs : place.take (top.length + depth + 1) ≠ place := by
    intro same
    have length := congrArg List.length same
    rw [List.length_take] at length
    omega
  rw [Function.update_of_ne differs, ← holds.files]
  exact file?_eq_none_of_directory
    (holds.grounded.of_prefix (List.take_prefix _ _) differs (file?_eq_some.mp file))

private theorem set_file (bytes : ByteArray) {above : List String} {name : String} (holds : Holds working files volume)
    (there : volume.entry? above = some .directory)
    (free : volume.entry? (above ++ [name]) ≠ some .directory) :
    Holds working (Function.update files (above ++ [name]) (some bytes))
      (volume.put (above ++ [name]) (.file bytes)) := by
  refine ⟨holds.grounded.put there (.inr free), holds.working, fun other => ?_⟩
  rw [Function.update_apply, file?, entry?_put _ (by simp)]
  by_cases same : other = above ++ [name]
  · rw [if_pos same.symm, if_pos same]
  · rw [if_neg (Ne.symm same), if_neg same, ← holds.files, file?]

theorem plant {old : ByteArray} (holds : Holds working files volume) (held : files place = some old) :
    Holds working (Function.update files place (some bytes)) (volume.plant place bytes) := by
  have there := file?_eq_some.mp ((holds.files place).trans held)
  rcases List.eq_nil_or_concat' place with rfl | ⟨above, name, rfl⟩
  · cases there
  have still : (List.range ((above ++ [name]).length - 1)).foldl (fun volume depth =>
      let directory := (above ++ [name]).take (depth + 1)
      if volume.entry? directory = some .directory then volume else volume.put directory .directory) volume =
        volume := by
    apply foldl_eq_self
    intro depth inside
    rw [List.mem_range] at inside
    have differs : (above ++ [name]).take (depth + 1) ≠ above ++ [name] := by
      intro same
      have length := congrArg List.length same
      rw [List.length_take] at length
      omega
    exact if_pos (holds.grounded.of_prefix (List.take_prefix _ _) differs there)
  rw [Volume.plant, still]
  have pruned := holds.prune_file held
  have outside : ¬ above ++ [name] <+: above := fun way => by
    have length := way.length_le
    rw [List.length_append] at length
    exact Nat.not_succ_le_self _ length
  have parent : Volume.entry? (volume.prune (above ++ [name])) above = some .directory := by
    rw [entry?_prune (by simp), if_neg outside]
    exact holds.grounded.inside _ _ _ there
  have gone : Volume.entry? (volume.prune (above ++ [name])) (above ++ [name]) = none := by
    rw [entry?_prune (by simp), if_pos List.prefix_rfl]
  have planted := pruned.set_file bytes parent (by rw [gone]; simp)
  rwa [Function.update_idem] at planted

/-- Files that are known and not wanted go. -/
theorem uproot_all {tree : FileTree} {places : List (List String)} (holds : Holds working files volume) :
    Holds working (fun place => if place ∈ places ∧ place ∉ tree.keys then none else files place)
      (places.foldl (fun volume place =>
        if tree.contains place || (volume.file? place).isNone then volume
        else volume.uproot top place) volume) := by
  induction places generalizing volume files with
  | nil => exact holds.congr fun place => by simp
  | cons first rest ih =>
    rw [List.foldl_cons]
    split
    next kept =>
      refine (ih holds).congr fun place => ?_
      by_cases same : place = first
      · rw [same]
        rw [Bool.or_eq_true, Table.contains_iff, Option.isNone_iff_eq_none, holds.files] at kept
        rcases kept with wanted | missing
        · simp [wanted]
        · simp [missing]
      · simp [same]
    next gone =>
      rw [Bool.or_eq_true, Table.contains_iff, Option.isNone_iff_eq_none, holds.files, not_or] at gone
      obtain ⟨bytes, held⟩ := Option.ne_none_iff_exists'.mp gone.2
      refine (ih (holds.uproot held)).congr fun place => ?_
      by_cases same : place = first
      · rw [same]
        simp [gone.1]
      · simp [same]

/-- Wanted files are set, if all of them are there. -/
theorem plant_all {entries : List (List String × ByteArray)} (holds : Holds working files volume)
    (standing : ∀ entry ∈ entries, ∃ bytes, files entry.1 = some bytes)
    (distinct : (entries.map (·.1)).Nodup) :
    Holds working (fun place => (Entries.get? entries place).or (files place))
      (entries.foldl (fun volume (place, bytes) =>
        if volume.file? place = some bytes then volume else volume.plant place bytes) volume) := by
  induction entries generalizing volume files with
  | nil => exact holds.congr fun place => by simp [Entries.get?]
  | cons entry rest ih =>
    obtain ⟨first, bytes⟩ := entry
    rw [List.forall_mem_cons] at standing
    rw [List.map_cons, List.nodup_cons] at distinct
    rw [List.foldl_cons]
    have absent : Entries.get? rest first = none := by
      apply Option.eq_none_iff_forall_ne_some.mpr
      intro value found
      exact distinct.1 (List.mem_map.mpr ⟨(first, value), Entries.mem_of_get? found, rfl⟩)
    dsimp only
    split
    next same =>
      refine (ih holds standing.2 distinct.2).congr fun place => ?_
      rw [Entries.get?_cons]
      split
      next here =>
        obtain rfl : first = place := here
        rw [absent, Option.none_or, ← holds.files, same, Option.some_or]
      · rfl
    next differs =>
      obtain ⟨old, held⟩ := standing.1
      refine (ih (holds.plant held) ?_ distinct.2).congr fun place => ?_
      · intro entry member
        rw [Function.update_of_ne fun same => distinct.1 (List.mem_map.mpr ⟨entry, member, same⟩)]
        exact standing.2 entry member
      · rw [Entries.get?_cons]
        split
        next here =>
          obtain rfl : first = place := here
          rw [absent, Option.none_or, Function.update_self, Option.some_or]
        next elsewhere => rw [Function.update_of_ne (Ne.symm elsewhere)]

end Holds

end Volume

namespace Volume

/-- Files that are taken away one by one. -/
theorem Holds.prune_all {volume : Volume} {working : List String} {files : List String → Option ByteArray}
    {places : List (List String)} (holds : Holds working files volume)
    (there : ∀ place ∈ places, ∃ bytes, files place = some bytes) (distinct : places.Nodup) :
    Holds working (fun place => if place ∈ places then none else files place)
      (places.foldl (fun volume place => volume.prune place) volume) := by
  induction places generalizing volume files with
  | nil => exact holds.congr fun place => by simp
  | cons first rest ih =>
    rw [List.forall_mem_cons] at there
    rw [List.nodup_cons] at distinct
    rw [List.foldl_cons]
    obtain ⟨bytes, held⟩ := there.1
    refine (ih (holds.prune_file held) ?_ distinct.2).congr fun place => ?_
    · intro place member
      rw [Function.update_of_ne (by rintro rfl; exact distinct.1 member)]
      exact there.2 place member
    · by_cases same : place = first
      · rw [same]
        simp
      · simp [same]

end Volume

namespace Repository

open Volume

variable {repository : Repository} {volume : Volume} {working scope : List String}
  {files : List String → Option ByteArray} {tree : FileTree}

/-- The files after going back to a tree, all of whose files are there in some form. -/
theorem holds_restore (holds : Holds working files volume)
    (standing : ∀ place ∈ tree.keys, ∃ bytes, files place = some bytes) :
    Holds working (fun place => (tree.get? place).or
        (if place ∈ repository.headTree.keys ∨ place ∈ repository.index.keys then none else files place))
      (repository.restore volume tree) := by
  rw [restore]
  refine (Holds.plant_all holds.uproot_all ?_ tree.nodup_keys).congr fun place => ?_
  · intro entry member
    have wanted : entry.1 ∈ tree.keys := List.mem_map_of_mem member
    rw [if_neg fun gone => gone.2 wanted]
    exact standing entry.1 wanted
  · change (tree.get? place).or _ = _
    cases wanted : tree.get? place with
    | some bytes => rfl
    | none =>
      rw [Table.get?_eq_none] at wanted
      simp only [Table.mem_keys_union, wanted, not_false_eq_true, and_true]

/-- Going back to a tree changes nothing where nothing else is known and all is as in the tree. -/
theorem restore_eq_self (known : ∀ place, place ∈ repository.headTree.keys ∨ place ∈ repository.index.keys →
      place ∈ tree.keys)
    (same : ∀ place bytes, tree.get? place = some bytes → volume.file? place = some bytes) :
    repository.restore volume tree = volume := by
  have cleared : (repository.headTree.union repository.index).keys.foldl (fun volume place =>
      if tree.contains place || (volume.file? place).isNone then volume
      else volume.uproot repository.top place) volume = volume := by
    apply foldl_eq_self
    intro place member
    rw [Table.contains_iff.mpr (known place (Table.mem_keys_union.mp member))]
    rfl
  rw [restore, cleared]
  apply foldl_eq_self
  intro entry member
  exact if_pos (same entry.1 entry.2 (Table.get?_eq_some.mpr member))

theorem get?_within (scope : List String) (tree : FileTree) (place : List String) :
    (within scope tree).get? place = if scope <+: place then tree.get? place else none := by
  rw [within, Table.get?_filter]
  by_cases inside : scope <+: place
  · rw [if_pos inside]
    cases tree.get? place <;> simp [List.isPrefixOf_iff_prefix.mpr inside]
  · have apart : scope.isPrefixOf place = false := by
      rw [Bool.eq_false_iff]
      exact fun found => inside (List.isPrefixOf_iff_prefix.mp found)
    rw [if_neg inside]
    cases tree.get? place <;> simp [apart]

theorem get?_outside (scope : List String) (tree : FileTree) (place : List String) :
    (outside scope tree).get? place = if scope <+: place then none else tree.get? place := by
  rw [outside, Table.get?_filter]
  by_cases inside : scope <+: place
  · rw [if_pos inside]
    cases tree.get? place <;> simp [List.isPrefixOf_iff_prefix.mpr inside]
  · have apart : scope.isPrefixOf place = false := by
      rw [Bool.eq_false_iff]
      exact fun found => inside (List.isPrefixOf_iff_prefix.mp found)
    rw [if_neg inside]
    cases tree.get? place <;> simp [apart]

/-- The files in a scope that are neither under version control nor ignored. -/
def strays (repository : Repository) (volume : Volume) (scope : List String) : List (List String) :=
  (within scope (volume.files repository.top)).keys.filter fun place =>
    !repository.index.contains place && !volume.isIgnored repository.top place

theorem mem_strays (grounded : volume.Grounded) {place : List String} :
    place ∈ repository.strays volume scope ↔ scope <+: place ∧ repository.top <+: place ∧
      (∃ bytes, volume.file? place = some bytes) ∧ place ∉ repository.index.keys ∧
      volume.isIgnored repository.top place = false := by
  have unlisted : (!repository.index.contains place) = true ↔ place ∉ repository.index.keys := by
    rw [← Table.contains_iff, Bool.not_eq_true, Bool.not_eq_true']
  rw [strays, List.mem_filter, Table.mem_keys, Bool.and_eq_true, unlisted, Bool.not_eq_true']
  simp only [get?_within, Option.ite_none_right_eq_some, get?_files grounded, exists_and_left, and_assoc]

def directoriesIn (scope : List String) (volume : Volume) : List (List String) :=
  (volume.entries.entries.filterMap fun (place, entry) =>
    if entry = .directory && scope.isPrefixOf place then some place else none).reverse

private theorem mem_directoriesIn {place : List String} : place ∈ directoriesIn scope volume ↔
    scope <+: place ∧ volume.entries.get? place = some .directory := by
  rw [directoriesIn, List.mem_reverse, List.mem_filterMap, Table.get?_eq_some]
  constructor
  · rintro ⟨⟨other, entry⟩, member, kept⟩
    dsimp only at kept
    split at kept
    next both =>
      rw [Bool.and_eq_true, decide_eq_true_eq, List.isPrefixOf_iff_prefix] at both
      obtain ⟨rfl, inside⟩ := both
      cases kept
      exact ⟨inside, member⟩
    · cases kept
  · rintro ⟨inside, member⟩
    exact ⟨_, member, if_pos (by simp [List.isPrefixOf_iff_prefix.mpr inside])⟩

private theorem directoriesIn_order (scope : List String) (volume : Volume) :
    (directoriesIn scope volume).Pairwise fun earlier later => earlier <+: later → earlier = later := by
  rw [directoriesIn, List.pairwise_reverse, List.pairwise_filterMap]
  refine volume.entries.sorted.imp ?_
  rintro ⟨first, entry⟩ ⟨second, entry'⟩ below place kept other kept' inside
  dsimp only at kept kept'
  split at kept
  · split at kept'
    · cases kept
      cases kept'
      exact absurd below inside.le
    · cases kept'
  · cases kept

def Tidy (scope : List String) (volume : Volume) : Prop :=
  ∀ place, scope <+: place → volume.entries.get? place = some .directory → (volume.below place).isEmpty = false

private theorem clean_eq (repository : Repository) (volume : Volume) (scope : List String) :
    repository.clean volume scope =
      ((repository.strays volume scope).foldl (fun volume place => volume.prune place) volume).tidied
        (directoriesIn scope
          ((repository.strays volume scope).foldl (fun volume place => volume.prune place) volume)) :=
  rfl

theorem holds_clean (holds : Holds working files volume) :
    Holds working (fun place => if place ∈ repository.strays volume scope then none else files place)
      (repository.clean volume scope) := by
  rw [clean_eq]
  have distinct : (repository.strays volume scope).Nodup := (Table.nodup_keys _).filter _
  have cleared := holds.prune_all (fun place member => by
    obtain ⟨_, _, ⟨bytes, held⟩, _⟩ := (mem_strays holds.grounded).mp member
    exact ⟨bytes, (holds.files place).symm.trans held⟩) distinct
  refine cleared.tidied fun place member => ?_
  rw [← cleared.files]
  exact file?_of_get?_directory (mem_directoriesIn.mp member).2

theorem get?_clean (grounded : volume.Grounded) {place : List String} (outside : ¬ scope <+: place) :
    (repository.clean volume scope).entries.get? place = volume.entries.get? place := by
  rw [clean_eq, get?_tidied, get?_foldl_prune]
  · intro stray member inside
    exact outside (((mem_strays grounded).mp member).1.trans inside)
  · rintro directory member rfl
    exact outside (mem_directoriesIn.mp member).1

theorem tidy_clean (repository : Repository) (volume : Volume) (scope : List String) :
    Tidy scope (repository.clean volume scope) := by
  intro place inside there
  rw [clean_eq] at there ⊢
  have listed := mem_directoriesIn.mpr ⟨inside, get?_of_tidied there⟩
  obtain gone | ⟨other, way, differs, some⟩ := filled_tidied (directoriesIn_order _ _) place listed
  · rw [gone] at there
    cases there
  · rw [Bool.eq_false_iff]
    intro empty
    rw [below_isEmpty_iff.mp empty other way differs] at some
    cases some

theorem clean_eq_self (free : repository.strays volume scope = []) (tidy : Tidy scope volume) :
    repository.clean volume scope = volume := by
  rw [clean_eq, free]
  apply tidied_eq_self
  intro place member
  obtain ⟨inside, there⟩ := mem_directoriesIn.mp member
  exact tidy place inside there

end Repository

end IntentRollout
