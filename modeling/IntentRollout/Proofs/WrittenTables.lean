import IntentRollout.Proofs.WrittenSettings

/-! Tables below their headers. Whatever is printed is a sequence of headed parts, each with its own settings, and a
reader gets the same parts in the same order. -/

namespace IntentRollout.Toml

/-- A table or an item of a list of tables: its header and the settings of its own. -/
structure Part where
  several : Bool
  path : List String
  key : String
  entries : List (String × Toml)

def Part.below (first : String) (part : Part) : Part := { part with path := first :: part.path }

def Part.header (part : Part) : String :=
  if part.several then "[[" ++ writtenPath (part.path ++ [part.key]) ++ "]]"
  else "[" ++ writtenPath (part.path ++ [part.key]) ++ "]"

def Part.block (part : Part) : Block := ⟨some part.header, writtenPairs part.entries⟩

def Part.readSection (part : Part) : Draft.Section := ⟨part.several, part.path, part.key, part.entries.map settingLine⟩

def ownEntries (entries : List (String × Toml)) : List (String × Toml) := entries.filter fun entry => !entry.2.hasHeader

mutual

def parts (path : List String) (key : String) : Toml → List Part
  | .table entries =>
    (if (ownEntries entries).isEmpty && !entries.isEmpty then [] else [⟨false, path, key, ownEntries entries⟩]) ++
      entryParts (path ++ [key]) entries
  | .array items => itemParts path key items
  | _ => []

def itemParts (path : List String) (key : String) : List Toml → List Part
  | [] => []
  | .table entries :: rest =>
    ⟨true, path, key, ownEntries entries⟩ :: entryParts (path ++ [key]) entries ++ itemParts path key rest
  | _ :: rest => itemParts path key rest

def entryParts (path : List String) : List (String × Toml) → List Part
  | [] => []
  | (key, value) :: rest => (if value.hasHeader then value.parts path key else []) ++ entryParts path rest

end

private theorem ownLines_eq (entries : List (String × Toml)) :
    ownLines entries = writtenPairs (ownEntries entries) := rfl

private theorem isEmpty_writtenPairs (entries : List (String × Toml)) :
    (writtenPairs entries).isEmpty = entries.isEmpty := by
  cases entries <;> rfl

private theorem tableBlock_eq (path : List String) (key : String) (entries : List (String × Toml)) :
    tableBlock (path ++ [key]) entries =
      (if (ownEntries entries).isEmpty && !entries.isEmpty then []
        else [(⟨false, path, key, ownEntries entries⟩ : Part)]).map Part.block := by
  have some : (path ++ [key]).isEmpty = false := by
    rw [List.isEmpty_eq_false_iff]
    exact List.append_ne_nil_of_right_ne_nil path (List.cons_ne_nil key [])
  rw [tableBlock, ownLines_eq, some]
  simp only [isEmpty_writtenPairs, Bool.or_false, Bool.false_eq_true, if_false]
  split <;> rfl

mutual

private theorem blocks_eq (path : List String) (key : String) (value : Toml) :
    value.blocks (path ++ [key]) = (value.parts path key).map Part.block := by
  match value with
  | .table entries =>
    rw [blocks, parts, List.map_append, tableBlock_eq, entryBlocks_eq (path ++ [key]) entries]
  | .array items => rw [blocks, parts, itemBlocks_eq path key items]
  | .text _ => rfl
  | .integer _ => rfl
  | .float _ => rfl
  | .bool _ => rfl
  | .moment _ => rfl

private theorem itemBlocks_eq (path : List String) (key : String) (items : List Toml) :
    itemBlocks (path ++ [key]) items = (itemParts path key items).map Part.block := by
  match items with
  | [] => rfl
  | .table entries :: rest =>
    rw [itemBlocks, itemParts, List.map_append, List.map_cons, entryBlocks_eq (path ++ [key]) entries,
      itemBlocks_eq path key rest]
    rfl
  | .text _ :: rest => exact itemBlocks_eq path key rest
  | .integer _ :: rest => exact itemBlocks_eq path key rest
  | .float _ :: rest => exact itemBlocks_eq path key rest
  | .bool _ :: rest => exact itemBlocks_eq path key rest
  | .moment _ :: rest => exact itemBlocks_eq path key rest
  | .array _ :: rest => exact itemBlocks_eq path key rest

private theorem entryBlocks_eq (path : List String) (entries : List (String × Toml)) :
    entryBlocks path entries = (entryParts path entries).map Part.block := by
  match entries with
  | [] => rfl
  | (key, value) :: rest =>
    rw [entryBlocks, entryParts, List.map_append, entryBlocks_eq path rest]
    split
    · rw [blocks_eq path key value]
    · rfl

end

/-- A part that a reader takes: its key is short enough, and its settings are on lines of their own. -/
structure Part.Good (part : Part) : Prop where
  short : part.path.length < 79
  leaves : ∀ entry ∈ part.entries, Leaf maximalLevels entry.2

private theorem endsPath_bracket (rest : List Char) : EndsPath (']' :: rest) where
  key := by
    rintro _ ⟨⟩
    rfl
  path same := nomatch Option.some.inj same

/-- A dotted key starts like its first part, so a header of one table is no header of several. -/
theorem writtenPath_ne (path : List String) (key : String) (rest after : List Char) :
    (writtenPath (path ++ [key])).toList ++ rest ≠ '[' :: after := by
  obtain ⟨first, more, same⟩ : ∃ first more, path ++ [key] = first :: more :=
    List.exists_cons_of_ne_nil (List.append_ne_nil_of_right_ne_nil path (List.cons_ne_nil key []))
  rw [same]
  cases more with
  | nil =>
    rw [writtenPath_singleton]
    exact writtenKey_ne first (by decide) _ _
  | cons next more =>
    rw [writtenPath_cons, List.append_assoc]
    exact writtenKey_ne first (by decide) _ _

private theorem toList_settings (entries : List (String × Toml)) :
    (String.join ((writtenPairs entries).map (· ++ "\n"))).toList = settingLines entries := by
  induction entries with
  | nil => rfl
  | cons entry rest ih =>
    obtain ⟨key, value⟩ := entry
    rw [writtenPairs, List.map_cons, String.join_cons, String.toList_append, ih, settingLines, String.toList_append,
      String.toList_append, String.toList_append, List.append_assoc, List.append_assoc, List.append_assoc]
    rfl

private theorem toList_block (part : Part) :
    part.block.written.toList = part.header.toList ++ '\n' :: settingLines part.entries := by
  rw [Block.written, Part.block, Option.toList_some, List.singleton_append, List.map_cons, String.join_cons,
    String.toList_append, toList_settings, String.toList_append, List.append_assoc]
  rfl

/-- Parts one after the other, with an empty line before each but the first. -/
def partLines : List Part → List Char
  | [] => []
  | [part] => part.block.written.toList
  | part :: next :: more => part.block.written.toList ++ '\n' :: partLines (next :: more)

private theorem toList_joined (parts : List Part) :
    (joined "\n" (parts.map fun part => part.block.written)).toList = partLines parts := by
  match parts with
  | [] => rfl
  | [part] => rw [List.map_singleton, joined, String.intercalate_singleton, partLines]
  | part :: next :: more =>
    have later := toList_joined (next :: more)
    rw [joined, List.map_cons] at later ⊢
    rw [List.map_cons, String.intercalate_cons_cons, String.toList_append, String.toList_append, later, partLines,
      List.append_assoc]
    rfl

private theorem readLineRest?_line (rest : List Char) : readLineRest? ('\n' :: rest) = some rest := rfl

private theorem Part.header_true {part : Part} (several : part.several = true) (rest : List Char) :
    part.header.toList ++ rest =
      '[' :: '[' :: ((writtenPath (part.path ++ [part.key])).toList ++ ']' :: ']' :: rest) := by
  rw [header, several, if_pos rfl, String.toList_append, String.toList_append, List.append_assoc, List.append_assoc]
  rfl

private theorem Part.header_false {part : Part} (single : part.several = false) (rest : List Char) :
    part.header.toList ++ rest = '[' :: ((writtenPath (part.path ++ [part.key])).toList ++ ']' :: rest) := by
  rw [header, single, if_neg Bool.false_ne_true, String.toList_append, String.toList_append, List.append_assoc,
    List.append_assoc]
  rfl

/-- A reader takes one part and goes on at the next header. -/
theorem readSections?_part {part : Part} (good : part.Good) {rest left : List Char} (ends : EndsTable rest left)
    (steps : Nat) (sections : List Draft.Section) :
    readSections? (steps + 1) sections (part.block.written.toList ++ rest) =
      readSections? steps (part.readSection :: sections) left := by
  have lines := readPlainLines?_settings good.leaves ends (Nat.lt_succ_self _) []
  have bracket (more : List Char) : skipBlank (']' :: more) = ']' :: more := rfl
  have closed (more : List Char) : expect? ']' (']' :: more) = some more := rfl
  cases several : part.several with
  | true =>
    rw [toList_block, List.append_assoc, Part.header_true several, readSections?,
      readKey?_written good.short (endsPath_bracket _)]
    simp only [Option.bind_eq_bind, Option.bind_some, bracket, closed, List.cons_append, readLineRest?_line, lines]
    rw [Part.readSection, several]
    rfl
  | false =>
    rw [toList_block, List.append_assoc, Part.header_false several, readSections?]
    · rw [readKey?_written good.short (endsPath_bracket _)]
      simp only [Option.bind_eq_bind, Option.bind_some, bracket, closed, List.cons_append, readLineRest?_line, lines]
      rw [Part.readSection, several]
      rfl
    · intro after same
      exact writtenPath_ne _ _ _ _ same

private theorem partLines_cons (part : Part) (rest : List Part) : ∃ more, partLines (part :: rest) = '[' :: more := by
  have header : ∃ more, part.block.written.toList = '[' :: more := by
    rw [toList_block]
    cases several : part.several with
    | true => exact ⟨_, Part.header_true several _⟩
    | false => exact ⟨_, Part.header_false several _⟩
  obtain ⟨more, same⟩ := header
  cases rest with
  | nil => exact ⟨more, same⟩
  | cons next rest =>
    rw [partLines, same]
    exact ⟨_, rfl⟩

/-- A reader gets the parts that were printed. -/
theorem readSections?_partLines {parts : List Part} (good : ∀ part ∈ parts, part.Good) {steps : Nat}
    (enough : parts.length < steps) (sections : List Draft.Section) :
    readSections? steps sections (partLines parts) = some (sections.reverse ++ parts.map Part.readSection) := by
  induction parts generalizing steps sections with
  | nil =>
    obtain ⟨steps, rfl⟩ := Nat.exists_eq_add_of_lt enough
    rw [List.map_nil, List.append_nil]
    rfl
  | cons part rest ih =>
    obtain ⟨here, later⟩ := List.forall_mem_cons.mp good
    obtain ⟨steps, rfl⟩ := Nat.exists_eq_add_of_lt enough
    have others := ih later (length_lt_cons part rest steps) (part.readSection :: sections)
    rw [List.reverse_cons, List.append_assoc] at others
    refine Eq.trans ?_ others
    cases rest with
    | nil =>
      have taken := readSections?_part here .last ([part].length + steps) sections
      rwa [List.append_nil] at taken
    | cons next more =>
      obtain ⟨text, same⟩ := partLines_cons next more
      rw [partLines, same]
      exact readSections?_part here (.line text) _ sections

private theorem toList_print (entries : List (String × Toml)) : (print entries).toList =
    if (ownEntries entries).isEmpty then partLines (entryParts [] entries)
    else settingLines (ownEntries entries) ++
      (if (entryParts [] entries).isEmpty then [] else '\n' :: partLines (entryParts [] entries)) := by
  have headed := toList_joined (entryParts [] entries)
  rw [print, blocks, entryBlocks_eq, tableBlock, ownLines_eq]
  simp only [isEmpty_writtenPairs, List.isEmpty_nil, Bool.or_true, Bool.and_true, if_true]
  split
  · rw [List.nil_append, List.map_map]
    exact headed
  have own : (Block.written ⟨none, writtenPairs (ownEntries entries)⟩).toList = settingLines (ownEntries entries) :=
    toList_settings _
  rw [List.singleton_append, List.map_cons, List.map_map]
  split
  next none =>
    rw [List.isEmpty_iff.mp none, List.map_nil, joined, String.intercalate_singleton, own, List.append_nil]
  next some =>
    obtain ⟨part, rest, same⟩ := List.exists_cons_of_ne_nil (mt List.isEmpty_iff.mpr some)
    rw [same] at headed ⊢
    rw [joined, List.map_cons] at headed ⊢
    rw [String.intercalate_cons_cons, String.toList_append, String.toList_append, own, List.append_assoc]
    exact congrArg _ (congrArg _ headed)

private theorem endsTable_partLines (parts : List Part) : EndsTable (partLines parts) (partLines parts) := by
  cases parts with
  | nil => exact .last
  | cons part rest =>
    obtain ⟨more, same⟩ := partLines_cons part rest
    rw [same]
    exact .header more

private theorem print_split (entries : List (String × Toml)) : ∃ rest, (print entries).toList =
    settingLines (ownEntries entries) ++ rest ∧ EndsTable rest (partLines (entryParts [] entries)) := by
  rw [toList_print]
  split
  next none =>
    rw [List.isEmpty_iff.mp none]
    exact ⟨_, rfl, endsTable_partLines _⟩
  refine ⟨_, rfl, ?_⟩
  split
  next none =>
    rw [List.isEmpty_iff.mp none]
    exact .last
  next some =>
    obtain ⟨part, rest, same⟩ := List.exists_cons_of_ne_nil (mt List.isEmpty_iff.mpr some)
    obtain ⟨more, opened⟩ := partLines_cons part rest
    rw [same, opened]
    exact .line more

/-- No mark of the order of bytes comes first. -/
theorem settingLines_ne (entries : List (String × Toml)) {rest left : List Char} (ends : EndsTable rest left)
    (after : List Char) : settingLines entries ++ rest ≠ '\ufeff' :: after := by
  cases entries with
  | nil => cases ends <;> exact fun same => nomatch same
  | cons entry entries =>
    rw [settingLines, List.append_assoc]
    exact writtenKey_ne _ (by decide) _ _

private theorem length_le_partLines (parts : List Part) : parts.length ≤ (partLines parts).length := by
  match parts with
  | [] => exact Nat.le_refl 0
  | [part] =>
    obtain ⟨more, same⟩ := partLines_cons part []
    rw [same]
    exact Nat.succ_le_succ (Nat.zero_le _)
  | part :: next :: more =>
    have later := length_le_partLines (next :: more)
    rw [partLines, List.length_append]
    simp only [List.length_cons] at later ⊢
    omega

/-- Printing a table and reading the text gives the settings of the table and its parts. -/
theorem read?_print {entries : List (String × Toml)} (leaves : ∀ entry ∈ ownEntries entries, Leaf maximalLevels entry.2)
    (good : ∀ part ∈ entryParts [] entries, part.Good) :
    read? (print entries) =
      ofSections? ((ownEntries entries).map settingLine) ((entryParts [] entries).map Part.readSection) := by
  obtain ⟨rest, text, ends⟩ := print_split entries
  have own := readPlainLines?_settings leaves ends (Nat.lt_succ_self _) []
  have headed := readSections?_partLines good (Nat.lt_succ_of_le (length_le_partLines _)) []
  rw [read?, text, readChars?]
  · rw [own]
    simp only [Option.bind_eq_bind, Option.bind_some, headed]
    rfl
  · exact settingLines_ne _ ends

end IntentRollout.Toml
