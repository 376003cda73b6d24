/-!
Tables kept in key order. A table is a list of entries whose keys increase strictly, so that two
tables with the same entries are equal and every listing comes out in one order, whatever the
order of insertion was. `get?_insert` is the law by which a table is read.
-/

namespace IntentRollout

/-- A strict order in which any two different keys are comparable. -/
class KeyOrder (κ : Type) [LT κ] : Prop where
  irrefl : ∀ key : κ, ¬ key < key
  trans : ∀ {first second third : κ}, first < second → second < third → first < third
  trichotomy : ∀ first second : κ, first < second ∨ first = second ∨ second < first

instance : KeyOrder String where
  irrefl := String.lt_irrefl
  trans := String.lt_trans
  trichotomy first second := by
    by_cases below : first < second
    · exact .inl below
    · by_cases above : second < first
      · exact .inr (.inr above)
      · exact .inr (.inl (String.le_antisymm (String.not_lt.mp above) (String.not_lt.mp below)))

instance : KeyOrder (List String) where
  irrefl := List.lt_irrefl
  trans := List.lt_trans
  trichotomy first second := by
    by_cases below : first < second
    · exact .inl below
    · by_cases above : second < first
      · exact .inr (.inr above)
      · exact .inr (.inl (List.le_antisymm (List.not_lt.mp above) (List.not_lt.mp below)))

namespace Entries

variable {κ α : Type} [LT κ] [DecidableLT κ]

/-- Keys increase strictly. -/
abbrev Sorted (entries : List (κ × α)) : Prop :=
  entries.Pairwise fun earlier later => earlier.1 < later.1

/-- Puts an entry at its place; an entry with the same key is replaced. -/
def insert (key : κ) (value : α) : List (κ × α) → List (κ × α)
  | [] => [(key, value)]
  | entry :: rest =>
    if key < entry.1 then (key, value) :: entry :: rest
    else if entry.1 < key then entry :: insert key value rest
    else (key, value) :: rest

/-- Entries inserted one after the other, so that the last of several with one key stays. -/
def ofList (entries : List (κ × α)) : List (κ × α) :=
  entries.foldl (fun sorted entry => insert entry.1 entry.2 sorted) []

theorem mem_insert {key : κ} {value : α} {entries : List (κ × α)} {entry : κ × α}
    (member : entry ∈ insert key value entries) : entry = (key, value) ∨ entry ∈ entries := by
  induction entries with
  | nil => simpa [insert] using member
  | cons head rest ih =>
    simp only [insert] at member
    split at member
    · simpa using member
    · split at member
      · rcases List.mem_cons.mp member with same | later
        · exact .inr (same ▸ List.mem_cons_self)
        · exact (ih later).imp_right (List.mem_cons_of_mem _)
      · rcases List.mem_cons.mp member with same | later
        · exact .inl same
        · exact .inr (List.mem_cons_of_mem _ later)

theorem insert_sorted [KeyOrder κ] (key : κ) (value : α) {entries : List (κ × α)}
    (sorted : Sorted entries) : Sorted (insert key value entries) := by
  induction entries with
  | nil => simp [insert, Sorted]
  | cons head rest ih =>
    have ⟨headBelow, restSorted⟩ := List.pairwise_cons.mp sorted
    simp only [insert]
    split
    · rename_i below
      refine List.pairwise_cons.mpr ⟨fun entry member => ?_, sorted⟩
      rcases List.mem_cons.mp member with same | later
      · exact same ▸ below
      · exact KeyOrder.trans below (headBelow entry later)
    · split
      · rename_i above
        refine List.pairwise_cons.mpr ⟨fun entry member => ?_, ih restSorted⟩
        rcases mem_insert member with same | later
        · exact same ▸ above
        · exact headBelow entry later
      · rename_i notBelow notAbove
        have same : key = head.1 := by
          rcases KeyOrder.trichotomy key head.1 with below | equal | above
          · exact absurd below notBelow
          · exact equal
          · exact absurd above notAbove
        exact List.pairwise_cons.mpr ⟨fun entry member => same ▸ headBelow entry member, restSorted⟩

/-- A key that is not there yet is added to the keys. -/
theorem keys_insert_perm [KeyOrder κ] {key : κ} (value : α) {entries : List (κ × α)}
    (absent : key ∉ entries.map (·.1)) :
    ((insert key value entries).map (·.1)).Perm (key :: entries.map (·.1)) := by
  induction entries with
  | nil => exact .refl _
  | cons head rest ih =>
    rw [List.map_cons, List.mem_cons, not_or] at absent
    simp only [insert]
    split
    · exact .refl _
    next notBelow =>
      split
      · exact ((ih absent.2).cons head.1).trans (.swap _ _ _)
      next notAbove =>
        rcases KeyOrder.trichotomy key head.1 with below | equal | above
        · exact absurd below notBelow
        · exact absurd equal absent.1
        · exact absurd above notAbove

def get? [DecidableEq κ] (entries : List (κ × α)) (key : κ) : Option α :=
  entries.findSome? fun entry => if entry.1 = key then some entry.2 else none

theorem get?_insert [DecidableEq κ] [KeyOrder κ] (key : κ) (value : α) (other : κ)
    (entries : List (κ × α)) :
    get? (insert key value entries) other = if key = other then some value else get? entries other := by
  induction entries with
  | nil => by_cases same : key = other <;> simp [insert, get?, same]
  | cons head rest ih =>
    simp only [insert]
    split
    · by_cases same : key = other <;> simp [get?, same]
    · split
      · rename_i above
        by_cases same : key = other
        · subst same
          have differs : head.1 ≠ key := fun equal => KeyOrder.irrefl key (equal ▸ above)
          simpa [get?, differs] using ih
        · by_cases here : head.1 = other
          · simp [get?, here, same]
          · simpa [get?, here, same] using ih
      · rename_i notBelow notAbove
        have equal : key = head.1 := by
          rcases KeyOrder.trichotomy key head.1 with below | equal | above
          · exact absurd below notBelow
          · exact equal
          · exact absurd above notAbove
        by_cases same : key = other
        · simp [get?, same]
        · have differs : head.1 ≠ other := equal ▸ same
          simp [get?, same, differs]

end Entries

/-- Entries in strictly increasing order of their keys. -/
structure Table (κ α : Type) [LT κ] where
  entries : List (κ × α) := []
  sorted : Entries.Sorted entries := by exact List.Pairwise.nil

namespace Table

variable {κ α β : Type} [LT κ]

theorem ext {first second : Table κ α} (same : first.entries = second.entries) :
    first = second := by
  cases first; cases second; simp_all

instance [DecidableEq κ] [DecidableEq α] : DecidableEq (Table κ α) := fun first second =>
  if same : first.entries = second.entries then .isTrue (ext same)
  else .isFalse fun equal => same (equal ▸ rfl)

def empty : Table κ α := {}

instance : Inhabited (Table κ α) := ⟨empty⟩

def isEmpty (table : Table κ α) : Bool := table.entries.isEmpty

def size (table : Table κ α) : Nat := table.entries.length

def keys (table : Table κ α) : List κ := table.entries.map (·.1)

def values (table : Table κ α) : List α := table.entries.map (·.2)

def get? [DecidableEq κ] (table : Table κ α) (key : κ) : Option α := Entries.get? table.entries key

def contains [DecidableEq κ] (table : Table κ α) (key : κ) : Bool := (table.get? key).isSome

def insert [DecidableLT κ] [KeyOrder κ] (table : Table κ α) (key : κ) (value : α) : Table κ α :=
  ⟨Entries.insert key value table.entries, Entries.insert_sorted key value table.sorted⟩

def filter (table : Table κ α) (keep : κ → α → Bool) : Table κ α :=
  ⟨table.entries.filter fun entry => keep entry.1 entry.2, table.sorted.filter _⟩

def erase [DecidableEq κ] (table : Table κ α) (key : κ) : Table κ α :=
  table.filter fun other _ => other ≠ key

def mapValues (change : κ → α → β) (table : Table κ α) : Table κ β :=
  ⟨table.entries.map fun entry => (entry.1, change entry.1 entry.2),
    List.pairwise_map.mpr table.sorted⟩

/-- Changes each value, and leaves out the entries for which there is no new one. -/
def filterMap (change : κ → α → Option β) (table : Table κ α) : Table κ β :=
  ⟨table.entries.filterMap fun entry => (change entry.1 entry.2).map fun value => (entry.1, value),
    table.sorted.filterMap _ fun first second below => by
      intro one hasOne two hasTwo
      obtain ⟨_, _, rfl⟩ := Option.map_eq_some_iff.mp hasOne
      obtain ⟨_, _, rfl⟩ := Option.map_eq_some_iff.mp hasTwo
      exact below⟩

/-- The table of a list of entries; of several with one key the last stays. -/
def ofList [DecidableLT κ] [KeyOrder κ] (entries : List (κ × α)) : Table κ α :=
  entries.foldl (fun (table : Table κ α) entry => table.insert entry.1 entry.2) empty

/-- The entries of two tables; of two with one key that of the second stays. -/
def union [DecidableLT κ] [KeyOrder κ] (first second : Table κ α) : Table κ α :=
  second.entries.foldl (fun table entry => table.insert entry.1 entry.2) first

@[simp] theorem get?_insert [DecidableLT κ] [DecidableEq κ] [KeyOrder κ] (table : Table κ α)
    (key : κ) (value : α) (other : κ) :
    (table.insert key value).get? other = if key = other then some value else table.get? other :=
  Entries.get?_insert key value other table.entries

theorem keys_insert_perm [DecidableLT κ] [KeyOrder κ] {table : Table κ α} {key : κ} (value : α)
    (absent : key ∉ table.keys) : (table.insert key value).keys.Perm (key :: table.keys) :=
  Entries.keys_insert_perm value absent

end Table

end IntentRollout
