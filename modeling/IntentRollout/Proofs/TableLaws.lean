import Mathlib.Data.List.Nodup
import Mathlib.Data.List.Perm.Basic
import IntentRollout.Table

/-! Laws of tables. A table is told by what it holds under each key, so each way to build one is described
by what is read from it. -/

namespace IntentRollout

variable {κ α β : Type} [LT κ]

namespace Entries

theorem nodup_keys [KeyOrder κ] {entries : List (κ × α)} (sorted : Sorted entries) :
    (entries.map (·.1)).Nodup := by
  refine List.pairwise_map.mpr (sorted.imp fun below same => ?_)
  rw [same] at below
  exact KeyOrder.irrefl _ below

omit [LT κ] in
theorem get?_nil [DecidableEq κ] (key : κ) : get? ([] : List (κ × α)) key = none := rfl

omit [LT κ] in
theorem get?_cons [DecidableEq κ] (entry : κ × α) (rest : List (κ × α)) (key : κ) :
    get? (entry :: rest) key = if entry.1 = key then some entry.2 else get? rest key := by
  rw [get?, List.findSome?_cons]
  split
  next here =>
    split at here
    next same => rw [if_pos same]; exact here.symm
    · cases here
  next elsewhere =>
    split at elsewhere
    · cases elsewhere
    next differs => rw [if_neg differs]; rfl

omit [LT κ] in
private theorem get?_map [DecidableEq κ] (change : κ → α → β) (entries : List (κ × α)) (key : κ) :
    get? (entries.map fun entry => (entry.1, change entry.1 entry.2)) key = (get? entries key).map (change key) := by
  induction entries with
  | nil => rfl
  | cons head rest ih =>
    rw [List.map_cons, get?_cons, get?_cons]
    by_cases here : head.1 = key
    · rw [if_pos here, if_pos here, here]
      rfl
    · rw [if_neg here, if_neg here, ih]

omit [LT κ] in
theorem get?_append [DecidableEq κ] (first rest : List (κ × α)) (key : κ) :
    get? (first ++ rest) key = (get? first key).or (get? rest key) :=
  List.findSome?_append

omit [LT κ] in
theorem get?_eq_some [DecidableEq κ] {entries : List (κ × α)} (distinct : (entries.map (·.1)).Nodup)
    {key : κ} {value : α} : get? entries key = some value ↔ (key, value) ∈ entries := by
  induction entries with
  | nil => simp [get?]
  | cons head rest ih =>
    rw [List.map_cons, List.nodup_cons] at distinct
    rw [List.mem_cons]
    by_cases here : head.1 = key
    · have absent : (key, value) ∉ rest := by
        intro member
        exact distinct.1 (here ▸ List.mem_map_of_mem member)
      simp [get?, here, absent, Prod.ext_iff, eq_comm]
    · have differs : (key, value) ≠ head := fun same => here (same ▸ rfl)
      simpa [get?, here, differs] using ih distinct.2

omit [LT κ] in
private theorem exists_get? [DecidableEq κ] {entries : List (κ × α)} {key : κ} :
    (∃ value, get? entries key = some value) ↔ key ∈ entries.map (·.1) := by
  rw [← Option.isSome_iff_exists, get?, List.findSome?_isSome_iff, List.mem_map]
  refine exists_congr fun entry => and_congr_right fun _ => ?_
  by_cases here : entry.1 = key <;> simp [here]

omit [LT κ] in
theorem get?_eq_none [DecidableEq κ] {entries : List (κ × α)} {key : κ} :
    get? entries key = none ↔ key ∉ entries.map (·.1) := by
  rw [← exists_get?, not_exists, Option.eq_none_iff_forall_ne_some]

omit [LT κ] in
/-- Entries that are changed or left out under their own keys stay distinct. -/
theorem nodup_keys_filterMap {entries : List (κ × α)} (distinct : (entries.map (·.1)).Nodup)
    {change : κ × α → Option (κ × β)} (keeps : ∀ entry changed, change entry = some changed → changed.1 = entry.1) :
    ((entries.filterMap change).map (·.1)).Nodup := by
  rw [List.Nodup, List.pairwise_map] at distinct ⊢
  refine distinct.filterMap _ fun {entry other} differ changed made changed' made' => ?_
  rw [keeps entry changed made, keeps other changed' made']
  exact differ

omit [LT κ] in
theorem mem_of_get? [DecidableEq κ] {entries : List (κ × α)} {key : κ} {value : α}
    (found : get? entries key = some value) : (key, value) ∈ entries := by
  obtain ⟨entry, member, here⟩ := List.exists_of_findSome?_eq_some found
  split at here
  next same =>
    cases here
    exact same ▸ member
  · cases here

end Entries

namespace Table

variable [DecidableEq κ] [KeyOrder κ]

theorem get?_eq_some {table : Table κ α} {key : κ} {value : α} :
    table.get? key = some value ↔ (key, value) ∈ table.entries :=
  Entries.get?_eq_some (Entries.nodup_keys table.sorted)

omit [KeyOrder κ] in
theorem get?_eq_none {table : Table κ α} {key : κ} : table.get? key = none ↔ key ∉ table.keys :=
  Entries.get?_eq_none

theorem mem_keys {table : Table κ α} {key : κ} : key ∈ table.keys ↔ ∃ value, table.get? key = some value := by
  simp only [get?_eq_some, keys, List.mem_map, Prod.exists, exists_and_right, exists_eq_right]

theorem contains_iff {table : Table κ α} {key : κ} : table.contains key = true ↔ key ∈ table.keys := by
  rw [contains, Option.isSome_iff_exists, mem_keys]

omit [DecidableEq κ] in
theorem nodup_keys (table : Table κ α) : table.keys.Nodup := Entries.nodup_keys table.sorted

/-- Tables from which the same is read are equal. -/
theorem ext_get? {first second : Table κ α} (same : ∀ key, first.get? key = second.get? key) :
    first = second := by
  apply ext
  have alike (entry : κ × α) : entry ∈ first.entries ↔ entry ∈ second.entries := by
    rw [← get?_eq_some, ← get?_eq_some, same]
  have perm : first.entries.Perm second.entries :=
    (List.perm_ext_iff_of_nodup first.nodup_keys.of_map second.nodup_keys.of_map).mpr alike
  refine perm.eq_of_pairwise ?_ first.sorted second.sorted
  intro one other _ _ below above
  exact (KeyOrder.irrefl _ (KeyOrder.trans below above)).elim

omit [KeyOrder κ] in
@[simp] theorem get?_empty (key : κ) : (empty : Table κ α).get? key = none := rfl

@[simp] theorem get?_filter (table : Table κ α) (keep : κ → α → Bool) (key : κ) :
    (table.filter keep).get? key = (table.get? key).filter (keep key) := by
  ext value
  rw [get?_eq_some, Option.filter_eq_some_iff, get?_eq_some]
  simp [filter]

@[simp] theorem get?_filterMap (table : Table κ α) (change : κ → α → Option β) (key : κ) :
    (table.filterMap change).get? key = (table.get? key).bind (change key) := by
  ext value
  rw [get?_eq_some, Option.bind_eq_some_iff]
  simp only [get?_eq_some, filterMap, List.mem_filterMap, Option.map_eq_some_iff, Prod.mk.injEq, Prod.exists]
  constructor
  · rintro ⟨_, before, member, _, changed, rfl, rfl⟩
    exact ⟨before, member, changed⟩
  · rintro ⟨before, member, changed⟩
    exact ⟨key, before, member, value, changed, rfl, rfl⟩

omit [KeyOrder κ] in
@[simp] theorem get?_mapValues (table : Table κ α) (change : κ → α → β) (key : κ) :
    (table.mapValues change).get? key = (table.get? key).map (change key) :=
  Entries.get?_map change table.entries key

variable [DecidableLT κ]

/-- Of several entries with one key the last is read. -/
theorem get?_foldl_insert (entries : List (κ × α)) (table : Table κ α) (key : κ) :
    (entries.foldl (fun table entry => table.insert entry.1 entry.2) table).get? key =
      (Entries.get? entries.reverse key).or (table.get? key) := by
  induction entries generalizing table with
  | nil => rfl
  | cons head rest ih =>
    rw [List.foldl_cons, ih, get?_insert, List.reverse_cons, Entries.get?_append, Option.or_assoc]
    congr 1
    by_cases here : head.1 = key <;> simp [Entries.get?, here]

theorem get?_ofList (entries : List (κ × α)) (key : κ) :
    (ofList entries).get? key = Entries.get? entries.reverse key := by
  rw [ofList, get?_foldl_insert, get?_empty, Option.or_none]

theorem get?_ofList_eq_some {entries : List (κ × α)} (distinct : (entries.map (·.1)).Nodup) {key : κ}
    {value : α} : (ofList entries).get? key = some value ↔ (key, value) ∈ entries := by
  rw [get?_ofList, Entries.get?_eq_some, List.mem_reverse]
  rwa [List.map_reverse, List.nodup_reverse]

theorem mem_keys_ofList {entries : List (κ × α)} {key : κ} :
    key ∈ (ofList entries).keys ↔ key ∈ entries.map (·.1) := by
  rw [mem_keys, get?_ofList, Entries.exists_get?, List.map_reverse, List.mem_reverse]

theorem mapValues_ofList (change : κ → α → β) (entries : List (κ × α)) :
    (ofList entries).mapValues change = ofList (entries.map fun entry => (entry.1, change entry.1 entry.2)) := by
  apply ext_get?
  intro key
  rw [get?_mapValues, get?_ofList, get?_ofList, ← List.map_reverse, Entries.get?_map]

/-- No entry is lost if all have keys of their own. -/
theorem size_ofList {entries : List (κ × α)} (distinct : (entries.map (·.1)).Nodup) :
    (ofList entries).size = entries.length := by
  have alike : (ofList entries).keys.Perm (entries.map (·.1)) :=
    (List.perm_ext_iff_of_nodup (nodup_keys _) distinct).mpr fun _ => mem_keys_ofList
  have lengths := alike.length_eq
  rwa [keys, List.length_map, List.length_map] at lengths

/-- The order of entries does not matter if those with one key have one value. -/
theorem get?_ofList_of_agree {entries : List (κ × α)} (value? : κ → Option α)
    (agree : ∀ entry ∈ entries, value? entry.1 = some entry.2)
    (complete : ∀ key value, value? key = some value → (key, value) ∈ entries) (key : κ) :
    (ofList entries).get? key = value? key := by
  cases found : (ofList entries).get? key with
  | some value =>
    rw [get?_ofList] at found
    exact (agree _ (List.mem_reverse.mp (Entries.mem_of_get? found))).symm
  | none =>
    rw [get?_eq_none, mem_keys_ofList] at found
    symm
    apply Option.eq_none_iff_forall_ne_some.mpr
    intro value same
    exact found (List.mem_map_of_mem (complete key value same))

/-- A table is made again from its entries. -/
theorem ofList_entries (table : Table κ α) : ofList table.entries = table := by
  apply ext_get?
  intro key
  ext value
  rw [get?_ofList_eq_some table.nodup_keys, get?_eq_some]

omit [DecidableEq κ] in
private theorem entries_foldl_insert (entries : List (κ × α)) (table : Table κ α) :
    (entries.foldl (fun table entry => table.insert entry.1 entry.2) table).entries =
      entries.foldl (fun sorted entry => Entries.insert entry.1 entry.2 sorted) table.entries := by
  induction entries generalizing table with
  | nil => rfl
  | cons entry rest ih => exact ih (table.insert entry.1 entry.2)

/-- Entries in order are left as they are. -/
theorem entries_ofList_of_sorted {entries : List (κ × α)} (sorted : Entries.Sorted entries) :
    Entries.ofList entries = entries := by
  have same := congrArg Table.entries (ofList_entries ⟨entries, sorted⟩)
  rw [ofList, entries_foldl_insert] at same
  exact same

@[simp] theorem get?_union (first second : Table κ α) (key : κ) :
    (first.union second).get? key = (second.get? key).or (first.get? key) := by
  rw [union, get?_foldl_insert]
  congr 1
  rw [← get?_ofList, ofList_entries]

theorem mem_keys_union {first second : Table κ α} {key : κ} :
    key ∈ (first.union second).keys ↔ key ∈ first.keys ∨ key ∈ second.keys := by
  simp only [mem_keys, get?_union]
  cases second.get? key <;> simp

end Table

namespace Entries

variable [KeyOrder κ] [DecidableLT κ]

theorem entries_ofList (entries : List (κ × α)) : (Table.ofList entries).entries = ofList entries :=
  Table.entries_foldl_insert entries Table.empty

theorem sorted_ofList (entries : List (κ × α)) : Sorted (ofList entries) :=
  entries_ofList entries ▸ (Table.ofList entries).sorted

variable [DecidableEq κ]

theorem get?_ofList (entries : List (κ × α)) (key : κ) : get? (ofList entries) key = get? entries.reverse key := by
  rw [← entries_ofList]
  exact Table.get?_ofList entries key

theorem mem_of_mem_ofList {entries : List (κ × α)} {entry : κ × α} (member : entry ∈ ofList entries) :
    entry ∈ entries := by
  have found : get? (ofList entries) entry.1 = some entry.2 :=
    (get?_eq_some (nodup_keys (sorted_ofList entries))).mpr member
  rw [get?_ofList] at found
  exact List.mem_reverse.mp (mem_of_get? found)

end Entries

end IntentRollout
