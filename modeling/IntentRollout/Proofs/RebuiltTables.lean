import IntentRollout.Proofs.WrittenTables

/-! Tables put together from their parts. A part below a key changes nothing but the table of that key, so a tree is
rebuilt table by table. -/

namespace IntentRollout.Toml

mutual

theorem parts_below (first : String) (path : List String) (key : String) (value : Toml) :
    value.parts (first :: path) key = (value.parts path key).map (Part.below first) := by
  match value with
  | .table entries =>
    rw [parts, parts, List.map_append, List.cons_append, entryParts_below first (path ++ [key]) entries]
    split <;> rfl
  | .array items => exact itemParts_below first path key items
  | .text _ => rfl
  | .integer _ => rfl
  | .float _ => rfl
  | .bool _ => rfl
  | .moment _ => rfl

private theorem itemParts_below (first : String) (path : List String) (key : String) (items : List Toml) :
    itemParts (first :: path) key items = (itemParts path key items).map (Part.below first) := by
  match items with
  | [] => rfl
  | .table entries :: rest =>
    rw [itemParts, itemParts, List.map_append, List.map_cons, List.cons_append (a := first),
      entryParts_below first (path ++ [key]) entries, itemParts_below first path key rest]
    rfl
  | .text _ :: rest => exact itemParts_below first path key rest
  | .integer _ :: rest => exact itemParts_below first path key rest
  | .float _ :: rest => exact itemParts_below first path key rest
  | .bool _ :: rest => exact itemParts_below first path key rest
  | .moment _ :: rest => exact itemParts_below first path key rest
  | .array _ :: rest => exact itemParts_below first path key rest

private theorem entryParts_below (first : String) (path : List String) (entries : List (String × Toml)) :
    entryParts (first :: path) entries = (entryParts path entries).map (Part.below first) := by
  match entries with
  | [] => rfl
  | (key, value) :: rest =>
    rw [entryParts, entryParts, List.map_append, entryParts_below first path rest]
    split
    · rw [parts_below first path key value]
    · rfl

end

namespace Draft

def Absent (key : String) (entries : Entries) : Prop := key ∉ entries.map (·.1)

private theorem ne_of_not_mem {key : String} {entries : List (String × Toml)} (absent : key ∉ entries.map (·.1))
    {entry : String × Toml} (member : entry ∈ entries) : entry.1 ≠ key :=
  fun same => absent (List.mem_map.mpr ⟨entry, member, same⟩)

variable {key : String} {before : Entries}

theorem Absent.append (absent : Absent key before) {other : String} (differs : key ≠ other) {draft : Draft} :
    Absent key (before ++ [(other, draft)]) := by
  rw [Absent, List.map_append, List.mem_append, not_or]
  exact ⟨absent, fun same => differs (List.mem_singleton.mp same)⟩

private theorem find?_absent (absent : Absent key before) : find? before key = none := by
  rw [find?, Option.map_eq_none_iff, List.find?_eq_none]
  intro entry member same
  exact absent (List.mem_map.mpr ⟨entry, member, eq_of_beq same⟩)

private theorem find?_last (absent : Absent key before) (draft : Draft) :
    find? (before ++ [(key, draft)]) key = some draft := by
  have none := find?_absent absent
  rw [find?, Option.map_eq_none_iff] at none
  rw [find?, List.find?_append, none, Option.none_or, List.find?_cons, beq_self_eq_true]
  rfl

private theorem set_absent (absent : Absent key before) (draft : Draft) :
    set before key draft = before ++ [(key, draft)] := by
  rw [set, if_neg]
  intro some
  obtain ⟨entry, member, same⟩ := List.any_eq_true.mp some
  exact absent (List.mem_map.mpr ⟨entry, member, eq_of_beq same⟩)

private theorem set_last (absent : Absent key before) (old draft : Draft) :
    set (before ++ [(key, old)]) key draft = before ++ [(key, draft)] := by
  have kept : before.map (fun entry => if entry.1 == key then (key, draft) else entry) = before := by
    refine (List.map_congr_left fun entry member => ?_).trans (List.map_id before)
    refine if_neg fun same => absent (List.mem_map.mpr ⟨entry, member, eq_of_beq same⟩)
  rw [set, if_pos (by simp), List.map_append, kept]
  simp

private theorem changeLast_append (change : Entries → Option Entries) (items : List Entries) (last : Entries) :
    changeLast change (items ++ [last]) = (change last).map fun last => items ++ [last] := by
  induction items with
  | nil => rfl
  | cons item rest ih =>
    rw [List.cons_append, changeLast, ih, Option.map_map]
    · rfl
    · exact List.append_ne_nil_of_right_ne_nil rest (List.cons_ne_nil last [])

def addParts (entries : Entries) (parts : List Part) : Option Entries :=
  (parts.map Part.readSection).foldlM addSection entries

private theorem addParts_append (entries : Entries) (first rest : List Part) :
    addParts entries (first ++ rest) = (addParts entries first).bind fun entries => addParts entries rest := by
  rw [addParts, List.map_append, List.foldlM_append]
  rfl

private theorem addParts_cons (entries : Entries) (part : Part) (rest : List Part) :
    addParts entries (part :: rest) =
      (addSection entries part.readSection).bind fun entries => addParts entries rest := rfl

private theorem addSection_below (entries : Entries) (first : String) (part : Part) : ∃ change : Entries →
    Option Entries,
    (∀ entries, addSection entries part.readSection = changeAt entries part.path change) ∧
      addSection entries (part.below first).readSection = changeAt entries (first :: part.path) change :=
  ⟨_, fun _ => rfl, rfl⟩

private theorem addSection_below_absent (absent : Absent key before) (part : Part) :
    addSection before (part.below key).readSection =
      (addSection [] part.readSection).map fun inner => before ++ [(key, .table true false inner)] := by
  obtain ⟨change, same, below⟩ := addSection_below before key part
  rw [same, below, changeAt, find?_absent absent]
  simp only [set_absent absent]

private theorem addSection_below_table (absent : Absent key before) (implied dotted : Bool) (inner : Entries)
    (part : Part) :
    addSection (before ++ [(key, .table implied dotted inner)]) (part.below key).readSection =
      (addSection inner part.readSection).map fun inner => before ++ [(key, .table implied dotted inner)] := by
  obtain ⟨change, same, below⟩ := addSection_below (before ++ [(key, .table implied dotted inner)]) key part
  rw [same, below, changeAt, find?_last absent]
  simp only [set_last absent]

private theorem addSection_below_tables (absent : Absent key before) (items : List Entries) (last : Entries)
    (part : Part) :
    addSection (before ++ [(key, .tables (items ++ [last]))]) (part.below key).readSection =
      (addSection last part.readSection).map fun last => before ++ [(key, .tables (items ++ [last]))] := by
  obtain ⟨change, same, below⟩ := addSection_below (before ++ [(key, .tables (items ++ [last]))]) key part
  rw [same, below, changeAt, find?_last absent]
  simp only [set_last absent, changeLast_append, Option.map_map]
  rfl

private theorem addParts_below_table (absent : Absent key before) (implied dotted : Bool) (inner : Entries)
    (parts : List Part) :
    addParts (before ++ [(key, .table implied dotted inner)]) (parts.map (Part.below key)) =
      (addParts inner parts).map fun inner => before ++ [(key, .table implied dotted inner)] := by
  induction parts generalizing inner with
  | nil => rfl
  | cons part rest ih =>
    rw [List.map_cons, addParts_cons, addParts_cons, addSection_below_table absent]
    cases addSection inner part.readSection with
    | none => rfl
    | some inner => exact ih inner

private theorem addParts_below_tables (absent : Absent key before) (items : List Entries) (last : Entries)
    (parts : List Part) :
    addParts (before ++ [(key, .tables (items ++ [last]))]) (parts.map (Part.below key)) =
      (addParts last parts).map fun last => before ++ [(key, .tables (items ++ [last]))] := by
  induction parts generalizing last with
  | nil => rfl
  | cons part rest ih =>
    rw [List.map_cons, addParts_cons, addParts_cons, addSection_below_tables absent]
    cases addSection last part.readSection with
    | none => rfl
    | some last => exact ih last

/-- A table that is missing is implied by the first part below it. -/
theorem addParts_below_absent (absent : Absent key before) {parts : List Part} (filled : parts ≠ []) :
    addParts before (parts.map (Part.below key)) =
      (addParts [] parts).map fun inner => before ++ [(key, .table true false inner)] := by
  obtain ⟨part, rest, rfl⟩ := List.exists_cons_of_ne_nil filled
  rw [List.map_cons, addParts_cons, addParts_cons, addSection_below_absent absent]
  cases addSection [] part.readSection with
  | none => rfl
  | some inner => exact addParts_below_table absent true false inner rest

def ownDrafts (entries : List (String × Toml)) : Entries := entries.map fun entry => (entry.1, .value entry.2.arranged)

private theorem putLines_settings {entries : List (String × Toml)} (distinct : (entries.map (·.1)).Nodup)
    (separate : ∀ entry ∈ entries, Absent entry.1 before) :
    putLines before (entries.map settingLine) = some (before ++ ownDrafts entries) := by
  induction entries generalizing before with
  | nil =>
    exact congrArg some (List.append_nil before).symm
  | cons entry rest ih =>
    rw [List.map_cons, List.nodup_cons] at distinct
    obtain ⟨here, later⟩ := List.forall_mem_cons.mp separate
    have added : put true before [] entry.1 entry.2.arranged =
        some (before ++ [(entry.1, .value entry.2.arranged)]) := by
      rw [put, find?_absent here]
      rfl
    have others : ∀ other ∈ rest, Absent other.1 (before ++ [(entry.1, .value entry.2.arranged)]) := by
      exact fun other member => (later other member).append (ne_of_not_mem distinct.1 member)
    have put := ih distinct.2 others
    rw [putLines, List.map_cons, List.foldlM_cons, settingLine, added]
    refine put.trans ?_
    rw [List.append_assoc]
    rfl

private theorem putLines_own {entries : List (String × Toml)} (distinct : (entries.map (·.1)).Nodup) :
    putLines [] ((ownEntries entries).map settingLine) = some (ownDrafts (ownEntries entries)) := by
  have sublist : ((ownEntries entries).map (·.1)).Sublist (entries.map (·.1)) := List.filter_sublist.map _
  exact putLines_settings (distinct.sublist sublist) fun _ _ => List.not_mem_nil

variable {entries : List (String × Toml)}

private theorem addSection_table (absent : Absent key before) (distinct : (entries.map (·.1)).Nodup) :
    addSection before (Part.readSection ⟨false, [], key, ownEntries entries⟩) =
      some (before ++ [(key, .table false false (ownDrafts (ownEntries entries)))]) := by
  rw [addSection, Part.readSection]
  simp only [changeAt, find?_absent absent, putLines_own distinct, set_absent absent]
  rfl

private theorem addSection_first (absent : Absent key before) (distinct : (entries.map (·.1)).Nodup) :
    addSection before (Part.readSection ⟨true, [], key, ownEntries entries⟩) =
      some (before ++ [(key, .tables [ownDrafts (ownEntries entries)])]) := by
  rw [addSection, Part.readSection]
  simp only [changeAt, find?_absent absent, putLines_own distinct, set_absent absent]
  rfl

private theorem addSection_next (absent : Absent key before) (items : List Entries)
    (distinct : (entries.map (·.1)).Nodup) :
    addSection (before ++ [(key, .tables items)]) (Part.readSection ⟨true, [], key, ownEntries entries⟩) =
      some (before ++ [(key, .tables (items ++ [ownDrafts (ownEntries entries)]))]) := by
  rw [addSection, Part.readSection]
  simp only [changeAt, find?_last absent, putLines_own distinct]
  exact congrArg some (set_last absent _ _)

private theorem finishEntries_append (first rest : Entries) :
    finishEntries (first ++ rest) = finishEntries first ++ finishEntries rest := by
  induction first with
  | nil => rfl
  | cons entry first ih =>
    rw [List.cons_append, finishEntries, finishEntries, ih]
    rfl

private theorem finishEntries_own (entries : List (String × Toml)) :
    finishEntries (ownDrafts (ownEntries entries)) = arrangedOwn entries := by
  induction entries with
  | nil => rfl
  | cons entry rest ih =>
    obtain ⟨key, value⟩ := entry
    rw [arrangedOwn, ownEntries, List.filter_cons]
    cases value.hasHeader with
    | true => exact ih
    | false => exact congrArg (List.cons _) ih

end Draft

/-- Trees that are printed and rebuilt: tables with distinct keys, lists of such tables, and values on lines of their
own. At most `levels` tables stand one in the other. -/
inductive Plain : Nat → Toml → Prop
  | leaf {levels : Nat} {value : Toml} (leaf : Leaf maximalLevels value) : Plain levels value
  | table {levels : Nat} {entries : List (String × Toml)} (distinct : (entries.map (·.1)).Nodup)
      (plain : ∀ entry ∈ entries, Plain levels entry.2) : Plain (levels + 1) (.table entries)
  | tables {levels : Nat} {items : List (List (String × Toml))} (some : items ≠ [])
      (plain : ∀ entries ∈ items, Plain (levels + 1) (.table entries)) : Plain (levels + 1) (.array (items.map .table))

theorem hasHeader_array {items : List Toml} (some : items ≠ []) (tables : ∀ item ∈ items, item.isTable = true) :
    (Toml.array items).hasHeader = true := by
  obtain ⟨item, rest, rfl⟩ := List.exists_cons_of_ne_nil some
  exact List.all_eq_true.mpr tables

open Draft

/-- A tree comes back from its parts: below a key that is free, and, of a table, behind the settings of its own. -/
structure Rebuilt (value : Toml) : Prop where
  some (headed : value.hasHeader = true) (key : String) : value.parts [] key ≠ []
  below (headed : value.hasHeader = true) {key : String} {before : Entries} (absent : Absent key before) :
    ∃ draft, addParts before (value.parts [] key) = .some (before ++ [(key, draft)]) ∧ draft.finish = value.arranged
  inner {entries : List (String × Toml)} (same : value = .table entries) : ∃ drafts,
    addParts (ownDrafts (ownEntries entries)) (entryParts [] entries) =
      .some (ownDrafts (ownEntries entries) ++ drafts) ∧ finishEntries drafts = arrangedHeaded entries

private theorem rebuilt_entries {entries : List (String × Toml)} (distinct : (entries.map (·.1)).Nodup)
    (rebuilt : ∀ entry ∈ entries, Rebuilt entry.2) {before : Entries}
    (separate : ∀ entry ∈ entries, entry.2.hasHeader = true → Absent entry.1 before) : ∃ drafts,
      addParts before (entryParts [] entries) = some (before ++ drafts) ∧
        finishEntries drafts = arrangedHeaded entries := by
  induction entries generalizing before with
  | nil => exact ⟨[], congrArg some (List.append_nil before).symm, rfl⟩
  | cons entry rest ih =>
    obtain ⟨key, value⟩ := entry
    rw [List.map_cons, List.nodup_cons] at distinct
    obtain ⟨here, later⟩ := List.forall_mem_cons.mp rebuilt
    obtain ⟨free, separate⟩ := List.forall_mem_cons.mp separate
    rw [entryParts, arrangedHeaded]
    by_cases headed : value.hasHeader = true
    · obtain ⟨draft, added, finished⟩ := here.below headed (free headed)
      have apart : ∀ other ∈ rest, other.2.hasHeader = true → Absent other.1 (before ++ [(key, draft)]) :=
        fun other member headed => (separate other member headed).append (ne_of_not_mem distinct.1 member)
      obtain ⟨drafts, others, rest_finished⟩ := ih distinct.2 later apart
      refine ⟨(key, draft) :: drafts, ?_, ?_⟩
      · rw [if_pos headed, addParts_append, added, Option.bind_some, others, List.append_assoc]
        rfl
      · rw [if_pos headed, finishEntries, finished, rest_finished]
    · obtain ⟨drafts, others, finished⟩ := ih distinct.2 later separate
      refine ⟨drafts, ?_, ?_⟩
      · rwa [if_neg headed, List.nil_append]
      · rwa [if_neg headed]

/-- A table of settings of its own and of tables that are rebuilt is rebuilt itself. -/
theorem inner_of_entries {entries : List (String × Toml)} (distinct : (entries.map (·.1)).Nodup)
    (rebuilt : ∀ entry ∈ entries, Rebuilt entry.2) : ∃ drafts,
      addParts (ownDrafts (ownEntries entries)) (entryParts [] entries) =
        some (ownDrafts (ownEntries entries) ++ drafts) ∧ finishEntries drafts = arrangedHeaded entries := by
  refine rebuilt_entries distinct rebuilt fun entry member headed same => ?_
  obtain ⟨_, found, equal⟩ := List.mem_map.mp same
  obtain ⟨other, kept, rfl⟩ := List.mem_map.mp found
  obtain ⟨inside, own⟩ := List.mem_filter.mp kept
  rw [List.inj_on_of_nodup_map distinct inside member equal, headed] at own
  cases own

private theorem some_of_entries {entries : List (String × Toml)} (own : (ownEntries entries).isEmpty = true)
    (some : entries.isEmpty = false) (rebuilt : ∀ entry ∈ entries, Rebuilt entry.2) : entryParts [] entries ≠ [] := by
  cases entries with
  | nil => cases some
  | cons entry rest =>
    obtain ⟨key, value⟩ := entry
    obtain ⟨here, -⟩ := List.forall_mem_cons.mp rebuilt
    rw [ownEntries, List.filter_cons] at own
    cases headed : value.hasHeader with
    | true =>
      rw [entryParts, if_pos headed]
      exact List.append_ne_nil_of_left_ne_nil (here.some headed key) _
    | false =>
      rw [headed] at own
      cases own

private theorem finish_table {entries : List (String × Toml)} {drafts : Entries}
    (finished : finishEntries drafts = arrangedHeaded entries) (implied dotted : Bool) :
    (Draft.table implied dotted (ownDrafts (ownEntries entries) ++ drafts)).finish = (Toml.table entries).arranged := by
  rw [finish, finishEntries_append, finishEntries_own, finished, arranged]

/-- A table without settings of its own has no header: the first table below it makes it. -/
theorem rebuilt_table {entries : List (String × Toml)} (distinct : (entries.map (·.1)).Nodup)
    (rebuilt : ∀ entry ∈ entries, Rebuilt entry.2) : Rebuilt (.table entries) where
  some _ key := by
    rw [parts]
    split
    next left =>
      rw [Bool.and_eq_true, Bool.not_eq_true'] at left
      rw [List.nil_append, List.nil_append, entryParts_below, Ne, List.map_eq_nil_iff]
      exact some_of_entries left.1 left.2 rebuilt
    · exact List.append_ne_nil_of_left_ne_nil (List.cons_ne_nil _ _) _
  below _ {key before} absent := by
    obtain ⟨drafts, added, finished⟩ := inner_of_entries distinct rebuilt
    rw [parts, List.nil_append, entryParts_below]
    split
    next left =>
      rw [Bool.and_eq_true, Bool.not_eq_true'] at left
      have none : ownDrafts (ownEntries entries) = [] := by rw [List.isEmpty_iff.mp left.1]; rfl
      have whole := finish_table finished true false
      rw [none] at added whole
      refine ⟨_, ?_, whole⟩
      rw [List.nil_append, addParts_below_absent absent (some_of_entries left.1 left.2 rebuilt), added]
      rfl
    next kept =>
      refine ⟨_, ?_, finish_table finished false false⟩
      rw [List.singleton_append, addParts_cons, addSection_table absent distinct, Option.bind_some,
        addParts_below_table absent, added]
      rfl
  inner same := by
    cases same
    exact inner_of_entries distinct rebuilt

/-- Each item of a list of tables is rebuilt behind the items before it. -/
theorem rebuilt_items {items : List (List (String × Toml))} (plain : ∀ entries ∈ items, (entries.map (·.1)).Nodup)
    (rebuilt : ∀ entries ∈ items, Rebuilt (.table entries)) {key : String} {before : Entries}
    (absent : Absent key before) (done : List Entries) : ∃ drafts,
      addParts (before ++ [(key, .tables done)]) (itemParts [] key (items.map .table)) =
        some (before ++ [(key, .tables (done ++ drafts))]) ∧
          finishTables drafts = arrangedItems (items.map .table) := by
  induction items generalizing done with
  | nil =>
    refine ⟨[], ?_, rfl⟩
    rw [List.append_nil]
    rfl
  | cons entries rest ih =>
    obtain ⟨distinct, plain⟩ := List.forall_mem_cons.mp plain
    obtain ⟨here, later⟩ := List.forall_mem_cons.mp rebuilt
    obtain ⟨inside, added, finished⟩ := here.inner rfl
    obtain ⟨drafts, others, rest_finished⟩ := ih plain later (done ++ [ownDrafts (ownEntries entries) ++ inside])
    refine ⟨(ownDrafts (ownEntries entries) ++ inside) :: drafts, ?_, ?_⟩
    · rw [List.map_cons, itemParts, List.cons_append, addParts_cons, addSection_next absent done distinct,
        Option.bind_some, List.nil_append, entryParts_below, addParts_append, addParts_below_tables absent, added,
        Option.map_some, Option.bind_some, others, List.append_assoc]
      rfl
    · rw [finishTables, finishEntries_append, finishEntries_own, finished, rest_finished, List.map_cons, arrangedItems,
        arranged]

theorem Plain.distinct {levels : Nat} {entries : List (String × Toml)} (plain : Plain levels (.table entries)) :
    (entries.map (·.1)).Nodup := by
  cases plain with
  | leaf leaf => cases leaf
  | table distinct => exact distinct

/-- The first header makes the list, which is as if the list had been there without items. -/
theorem rebuilt_tables {items : List (List (String × Toml))} (some : items ≠ [])
    (distinct : ∀ entries ∈ items, (entries.map (·.1)).Nodup) (rebuilt : ∀ entries ∈ items, Rebuilt (.table entries)) :
    Rebuilt (.array (items.map .table)) where
  some _ key := by
    obtain ⟨entries, rest, rfl⟩ := List.exists_cons_of_ne_nil some
    rw [List.map_cons, parts, itemParts, List.cons_append]
    exact List.cons_ne_nil _ _
  below _ {key before} absent := by
    have opened : addParts before (itemParts [] key (items.map .table)) =
        addParts (before ++ [(key, .tables [])]) (itemParts [] key (items.map .table)) := by
      obtain ⟨entries, rest, rfl⟩ := List.exists_cons_of_ne_nil some
      have here := distinct entries List.mem_cons_self
      rw [List.map_cons, itemParts, List.cons_append, addParts_cons, addParts_cons, addSection_first absent here,
        addSection_next absent [] here]
      rfl
    obtain ⟨drafts, added, finished⟩ := rebuilt_items distinct rebuilt absent []
    refine ⟨.tables drafts, ?_, ?_⟩
    · rw [parts, opened, added]
      rfl
    · rw [finish, finished, arranged]
  inner same := nomatch same

private theorem Plain.rebuilt {levels : Nat} {value : Toml} (plain : Plain levels value) : Rebuilt value := by
  induction plain with
  | leaf leaf =>
    have lone := leaf.hasHeader
    refine ⟨fun headed => ?_, fun headed => ?_, fun same => ?_⟩
    · exact absurd headed (Bool.eq_false_iff.mp lone)
    · exact absurd headed (Bool.eq_false_iff.mp lone)
    · rw [same] at lone
      cases lone
  | table distinct _ ih => exact rebuilt_table distinct ih
  | tables some plain ih => exact rebuilt_tables some (fun entries member => (plain entries member).distinct) ih

/-- A value without a header stands on a line of its own. -/
theorem Plain.leaf_of_not_headed {levels : Nat} {value : Toml} (plain : Plain levels value)
    (lone : value.hasHeader = false) : Leaf maximalLevels value := by
  cases plain with
  | leaf leaf => exact leaf
  | table => cases lone
  | @tables _ items some =>
    have filled : items.map Toml.table ≠ [] := mt List.map_eq_nil_iff.mp some
    exact absurd (hasHeader_array filled (List.forall_mem_map.mpr fun _ _ => rfl)) (Bool.eq_false_iff.mp lone)

private theorem leaves_own {levels : Nat} {entries : List (String × Toml)}
    (plain : ∀ entry ∈ entries, Plain levels entry.2) :
    ∀ entry ∈ ownEntries entries, Leaf maximalLevels entry.2 := by
  intro entry member
  obtain ⟨inside, own⟩ := List.mem_filter.mp member
  exact (plain entry inside).leaf_of_not_headed (by simpa using own)

def GoodParts (levels : Nat) (value : Toml) : Prop := value.hasHeader = true →
  ∀ (path : List String) (key : String), path.length + levels ≤ 79 → ∀ part ∈ value.parts path key, part.Good

private theorem good_own {levels : Nat} (several : Bool) {path : List String} (key : String)
    {entries : List (String × Toml)}
    (plain : ∀ entry ∈ entries, Plain levels entry.2) (short : path.length + (levels + 1) ≤ 79) :
    Part.Good ⟨several, path, key, ownEntries entries⟩ where
  short := by
    change path.length < 79
    omega
  leaves := leaves_own plain

private theorem good_entries {levels : Nat} {entries : List (String × Toml)}
    (good : ∀ entry ∈ entries, GoodParts levels entry.2) {path : List String} (short : path.length + levels ≤ 79) : ∀ part ∈ entryParts path entries, part.Good := by
  induction entries with
  | nil => exact fun _ none => nomatch none
  | cons entry rest ih =>
    obtain ⟨key, value⟩ := entry
    obtain ⟨here, later⟩ := List.forall_mem_cons.mp good
    intro part member
    rw [entryParts] at member
    rcases List.mem_append.mp member with first | others
    · split at first
      next headed => exact here headed path key short part first
      · cases first
    · exact ih later part others

private theorem good_items {levels : Nat} {items : List (List (String × Toml))}
    (plain : ∀ entries ∈ items, Plain (levels + 1) (.table entries))
    (good : ∀ entries ∈ items, GoodParts (levels + 1) (.table entries)) {path : List String} (key : String)
    (short : path.length + (levels + 1) ≤ 79) : ∀ part ∈ itemParts path key (items.map .table), part.Good := by
  induction items with
  | nil => exact fun _ none => nomatch none
  | cons entries rest ih =>
    obtain ⟨plain, plainRest⟩ := List.forall_mem_cons.mp plain
    obtain ⟨here, later⟩ := List.forall_mem_cons.mp good
    intro part member
    rw [List.map_cons, itemParts, List.cons_append, List.mem_cons, List.mem_append] at member
    rcases member with rfl | inside | others
    · cases plain with
      | leaf leaf => cases leaf
      | table _ plain => exact good_own true key plain short
    · refine here rfl path key short part ?_
      rw [parts]
      exact List.mem_append_right _ inside
    · exact ih plainRest later part others

theorem Plain.good {levels : Nat} {value : Toml} (plain : Plain levels value) : GoodParts levels value := by
  induction plain with
  | leaf leaf => exact fun headed => absurd headed (Bool.eq_false_iff.mp leaf.hasHeader)
  | table _ plain ih =>
    intro _ path key short part member
    rw [parts] at member
    rcases List.mem_append.mp member with own | inside
    · split at own
      · cases own
      · rw [List.mem_singleton.mp own]
        exact good_own false key plain short
    · refine good_entries ih ?_ part inside
      rw [List.length_append, List.length_singleton]
      omega
  | tables _ plain ih =>
    intro _ path key short
    exact good_items plain ih key short

/-- A tree is read back from its text, with every table in its order of reading. -/
theorem read?_print_plain {levels : Nat} (few : levels ≤ 79) {entries : List (String × Toml)}
    (plain : Plain (levels + 1) (.table entries)) : read? (print entries) = some (Toml.table entries).arranged := by
  cases plain with
  | leaf leaf => cases leaf
  | table distinct plain =>
    have good : ∀ part ∈ entryParts [] entries, part.Good :=
      good_entries (fun entry member => (plain entry member).good) (by rwa [List.length_nil, Nat.zero_add])
    obtain ⟨drafts, added, finished⟩ := inner_of_entries distinct fun entry member => (plain entry member).rebuilt
    rw [read?_print (leaves_own plain) good, ofSections?, putLines_own distinct]
    change (addParts (ownDrafts (ownEntries entries)) (entryParts [] entries)).bind _ = _
    rw [added, Option.bind_some, finishEntries_append, finishEntries_own, finished, arranged]

end IntentRollout.Toml
