import IntentRollout.Proofs.WrittenFloats
import IntentRollout.Proofs.WrittenTexts

/-! Settings on lines of their own. A value ends before the end of its line, and in a list before the next comma,
so each is read up to its last character. -/

namespace IntentRollout.Toml

mutual

/-- The tree that comes back from a text: the settings of a table stand before the tables in it, and a float that is no
number has no sign. -/
def arranged : Toml → Toml
  | .float value => .float value.canonical
  | .array items => .array (arrangedItems items)
  | .table entries => .table (arrangedOwn entries ++ arrangedHeaded entries)
  | other => other

def arrangedItems : List Toml → List Toml
  | [] => []
  | item :: rest => item.arranged :: arrangedItems rest

def arrangedOwn : List (String × Toml) → List (String × Toml)
  | [] => []
  | (key, value) :: rest =>
    if value.hasHeader then arrangedOwn rest else (key, value.arranged) :: arrangedOwn rest

def arrangedHeaded : List (String × Toml) → List (String × Toml)
  | [] => []
  | (key, value) :: rest =>
    if value.hasHeader then (key, value.arranged) :: arrangedHeaded rest else arrangedHeaded rest

end

/-- A value that stands behind a key, with at most `levels` levels of lists in it. -/
inductive Leaf : Nat → Toml → Prop
  | text {levels : Nat} (value : String) : Leaf levels (.text value)
  | integer {levels : Nat} {value : Int} (ranged : inRange value = true) : Leaf levels (.integer value)
  | float {levels : Nat} (value : Binary64) : Leaf levels (.float value)
  | bool {levels : Nat} (value : Bool) : Leaf levels (.bool value)
  | array {levels : Nat} {items : List Toml} (leaves : ∀ item ∈ items, Leaf levels item) :
    Leaf (levels + 1) (.array items)

theorem Leaf.hasHeader {levels : Nat} {value : Toml} (leaf : Leaf levels value) : value.hasHeader = false := by
  cases leaf with
  | @array levels items leaves =>
    cases items with
    | nil => rfl
    | cons item rest =>
      cases leaves item List.mem_cons_self <;> rfl
  | _ => rfl

private theorem Opens.skipBlank_eq {text : List Char} (opens : Opens text) (rest : List Char) :
    skipBlank (text ++ rest) = text ++ rest := by
  obtain ⟨first, more, rfl, other⟩ := opens
  simp only [List.mem_cons, not_or] at other
  exact skipBlank_cons other.1 other.2.1 _

private theorem Opens.skipLines_eq {text : List Char} (opens : Opens text) (steps : Nat) (rest : List Char) :
    skipLines steps (text ++ rest) = some (text ++ rest) := by
  cases steps with
  | zero => rfl
  | succ steps =>
    have skipped := opens.skipBlank_eq rest
    obtain ⟨first, more, rfl, other⟩ := opens
    rw [skipLines, skipped]
    split
    next same => exact absurd (by rw [(List.cons.inj same).1]; decide) other
    next same => exact absurd (by rw [(List.cons.inj same).1]; decide) other
    next same => exact absurd (by rw [(List.cons.inj same).1]; decide) other
    · rfl

theorem reads_text (levels : Nat) (value : String) :
    Reads (readValue? levels) (writtenText value).toList (.text value) := by
  obtain ⟨mark, body, marks, written, read⟩ := writtenChars_read value.toList
  rw [writtenText, String.toList_ofList, written]
  refine ⟨⟨mark, body, rfl, by rcases marks with rfl | rfl <;> decide⟩, fun {rest} stops => ?_⟩
  have clear : Clear mark rest := by rcases marks with rfl | rfl <;> exact stops.ne (by decide)
  have taken := read rest clear
  rw [String.ofList_toList] at taken
  rcases marks with rfl | rfl
  · rw [List.cons_append, readValue?.eq_def]
    simp only [taken, Option.map_some]
  · rw [List.cons_append, readValue?.eq_def]
    simp only [taken, Option.map_some]

theorem reads_bool (levels : Nat) (value : Bool) :
    Reads (readValue? levels) (if value then "true" else "false").toList (.bool value) := by
  cases value with
  | true =>
    refine ⟨⟨'t', _, rfl, by decide⟩, fun stops => ?_⟩
    rw [readValue?.eq_def]
    rfl
  | false =>
    refine ⟨⟨'f', _, rfl, by decide⟩, fun stops => ?_⟩
    rw [readValue?.eq_def]
    rfl

def itemLines : List Toml → List Char
  | [] => ['\n', ']']
  | item :: rest => '\n' :: ("    ".toList ++ (item.written.toList ++ ',' :: itemLines rest))

private theorem itemLines_eq (items : List Toml) : itemLines items =
    '\n' :: ((String.join ((writtenItems items).map fun item => "    " ++ item ++ ",\n")).toList ++ [']']) := by
  induction items with
  | nil => rfl
  | cons item rest ih =>
    rw [itemLines, ih, writtenItems, List.map_cons, String.join_cons, String.toList_append, String.toList_append,
      String.toList_append, List.append_assoc, List.append_assoc, List.append_assoc]
    rfl

theorem arrangedItems_eq (items : List Toml) : arrangedItems items = items.map arranged := by
  induction items with
  | nil => rfl
  | cons item rest ih => rw [arrangedItems, List.map_cons, ih]

private theorem stops_comma (rest : List Char) : Stops (',' :: rest) := by
  rintro _ ⟨⟩
  exact .inl rfl

private theorem stops_bracket (rest : List Char) : Stops (']' :: rest) := by
  rintro _ ⟨⟩
  exact .inr (.inl rfl)

private theorem stops_line (rest : List Char) : Stops ('\n' :: rest) := by
  rintro _ ⟨⟩
  exact .inr (.inr rfl)

private theorem Opens.skipLines_indented {text : List Char} (opens : Opens text) (steps : Nat) (rest : List Char) :
    skipLines (steps + 2) ('\n' :: ("    ".toList ++ (text ++ rest))) = some (text ++ rest) := by
  have skipped := opens.skipBlank_eq rest
  have indented : skipBlank ("    ".toList ++ (text ++ rest)) = text ++ rest := skipped
  have found := opens.skipLines_eq (steps + 1) rest
  rw [skipLines, skipped] at found
  change skipLines (steps + 1) ("    ".toList ++ (text ++ rest)) = _
  rw [skipLines, indented]
  exact found

theorem Opens.ne {text : List Char} (opens : Opens text) (rest after : List Char) : text ++ rest ≠ ']' :: after := by
  obtain ⟨first, more, rfl, other⟩ := opens
  intro same
  rw [(List.cons.inj same).1] at other
  exact other (by decide)

section

variable {readItem : List Char → Option (Toml × List Char)} {items : List Toml}

private theorem readItems?_lines (reads : ∀ item ∈ items, Reads readItem item.written.toList item.arranged)
    {steps : Nat}
    (enough : items.length < steps) (taken : List Toml) (rest : List Char) :
    readItems? readItem steps taken (itemLines items ++ rest) = some (taken.reverse ++ arrangedItems items, rest) := by
  induction items generalizing steps taken with
  | nil =>
    obtain ⟨steps, rfl⟩ := Nat.exists_eq_add_of_lt enough
    rw [arrangedItems, List.append_nil]
    rfl
  | cons item more ih =>
    obtain ⟨steps, rfl⟩ := Nat.exists_eq_add_of_lt enough
    obtain ⟨here, later⟩ := List.forall_mem_cons.mp reads
    have text : itemLines (item :: more) ++ rest =
        '\n' :: ("    ".toList ++ (item.written.toList ++ ',' :: (itemLines more ++ rest))) := by
      rw [itemLines, List.cons_append, List.append_assoc, List.append_assoc, List.cons_append]
    have later := ih later (length_lt_cons item more steps) (item.arranged :: taken)
    rw [List.reverse_cons, List.append_assoc] at later
    rw [text, readItems?, List.length_cons, here.opens.skipLines_indented]
    simp only [Option.bind_eq_bind, Option.bind_some]
    split
    next ended => exact absurd ended (here.opens.ne _ _)
    rw [here.read (stops_comma _)]
    exact later

private theorem length_le_itemLines (items : List Toml) : items.length ≤ (itemLines items).length := by
  induction items with
  | nil => exact Nat.zero_le _
  | cons item rest ih =>
    rw [itemLines, List.length_cons, List.length_cons, List.length_append, List.length_append, List.length_cons]
    omega

/-- A list is written on one line if it is short, and on lines for its items otherwise; both are read back. -/
theorem readItems?_written (reads : ∀ item ∈ items, Reads readItem item.written.toList item.arranged) :
    ∃ body, (writtenList (writtenItems items)).toList = '[' :: body ∧
      ∀ rest, readItems? readItem ((body ++ rest).length + 1) [] (body ++ rest) = some (arrangedItems items, rest) := by
  match items with
  | [] => exact ⟨[']'], rfl, fun rest => rfl⟩
  | [item] =>
    have here := List.forall_mem_singleton.mp reads
    refine ⟨item.written.toList ++ [']'], ?_, fun rest => ?_⟩
    · rw [writtenItems, writtenItems, writtenList, String.toList_append, String.toList_append]
      rfl
    · rw [List.append_assoc, readItems?, here.opens.skipLines_eq]
      simp only [Option.bind_eq_bind, Option.bind_some]
      split
      next ended => exact absurd ended (here.opens.ne _ _)
      rw [List.singleton_append, here.read (stops_bracket rest)]
      rfl
  | item :: next :: more =>
    refine ⟨itemLines (item :: next :: more), ?_, fun rest => ?_⟩
    · have shown : writtenList (writtenItems (item :: next :: more)) = "[\n" ++
          String.join ((writtenItems (item :: next :: more)).map fun item => "    " ++ item ++ ",\n") ++ "]" := rfl
      rw [shown, itemLines_eq, String.toList_append, String.toList_append]
      rfl
    · have enough := length_le_itemLines (item :: next :: more)
      rw [readItems?_lines reads (by rw [List.length_append]; omega)]
      rfl

end

theorem Leaf.reads {levels : Nat} {value : Toml} (leaf : Leaf levels value) :
    Reads (readValue? levels) value.written.toList value.arranged := by
  induction leaf with
  | text value => exact reads_text _ value
  | integer ranged => exact reads_integer _ ranged
  | float value => exact reads_float _ value
  | bool value => exact reads_bool _ value
  | array leaves ih =>
    obtain ⟨body, text, read⟩ := readItems?_written ih
    rw [written, text]
    refine ⟨⟨'[', body, rfl, by decide⟩, fun {rest} stops => ?_⟩
    rw [List.cons_append, readValue?.eq_def]
    simp only [Option.bind_eq_bind, read, Option.bind_some, arranged]

def settingLines : List (String × Toml) → List Char
  | [] => []
  | (key, value) :: rest =>
    (writtenKey key).toList ++ ([' ', '=', ' '] ++ (value.written.toList ++ '\n' :: settingLines rest))

def settingLine (entry : String × Toml) : Draft.Line := ⟨[], entry.1, entry.2.arranged⟩

/-- What follows the settings of a table: nothing, or an empty line and a header. -/
inductive EndsTable : List Char → List Char → Prop
  | last : EndsTable [] []
  | header (more : List Char) : EndsTable ('[' :: more) ('[' :: more)
  | line (more : List Char) : EndsTable ('\n' :: '[' :: more) ('[' :: more)

theorem writtenPath_singleton (key : String) : writtenPath [key] = writtenKey key := by
  rw [writtenPath, List.map_singleton, joined, String.intercalate_singleton]

private theorem readKey?_single (key : String) {rest : List Char} (ends : EndsPath rest) :
    readKey? ((writtenKey key).toList ++ rest) = some ([], key, skipBlank rest) := by
  have read : readKey? ((writtenPath ([] ++ [key])).toList ++ rest) = some ([], key, skipBlank rest) :=
    readKey?_written (by decide) ends
  rwa [List.nil_append, writtenPath_singleton] at read

private theorem writtenKey_ne_nil (key : String) (rest : List Char) : (writtenKey key).toList ++ rest ≠ [] := by
  obtain ⟨first, more, same, -⟩ := writtenKey_cons key
  rw [same]
  exact List.cons_ne_nil _ _

/-- No key starts with a character that means something else at the start of a line. -/
theorem writtenKey_ne (key : String) {mark : Char} (other : isBare mark = false ∧ mark ≠ '"' ∧ mark ≠ '\'')
    (rest after : List Char) : (writtenKey key).toList ++ rest ≠ mark :: after := by
  obtain ⟨first, more, same, opens⟩ := writtenKey_cons key
  rw [same]
  intro equal
  rw [(List.cons.inj equal).1] at opens
  rcases opens with bare | quote | quote
  · exact Bool.false_ne_true (other.1.symm.trans bare)
  · exact other.2.1 quote
  · exact other.2.2 quote

private theorem endsPath_equals (rest : List Char) : EndsPath (' ' :: '=' :: rest) where
  key := by
    rintro _ ⟨⟩
    rfl
  path same := nomatch Option.some.inj same

private theorem EndsTable.readPlainLines?_eq {rest left : List Char} (ends : EndsTable rest left) {steps : Nat}
    (enough : rest.length < steps) (lines : List Draft.Line) :
    readPlainLines? steps lines rest = some (lines.reverse, left) := by
  cases ends with
  | last =>
    obtain ⟨steps, rfl⟩ := Nat.exists_eq_add_of_lt enough
    rfl
  | header more =>
    obtain ⟨steps, rfl⟩ := Nat.exists_eq_add_of_lt enough
    rfl
  | line more =>
    rw [List.length_cons, List.length_cons] at enough
    obtain ⟨steps, rfl⟩ : ∃ less, steps = less + 2 := ⟨steps - 2, by omega⟩
    rfl

/-- A reader takes the settings of a table and stops at the next header. -/
theorem readPlainLines?_settings {entries : List (String × Toml)}
    (leaves : ∀ entry ∈ entries, Leaf maximalLevels entry.2) {rest left : List Char} (ends : EndsTable rest left) {steps : Nat}
    (enough : (settingLines entries ++ rest).length < steps) (lines : List Draft.Line) :
    readPlainLines? steps lines (settingLines entries ++ rest) =
      some (lines.reverse ++ entries.map settingLine, left) := by
  induction entries generalizing steps lines with
  | nil =>
    rw [settingLines, List.nil_append] at enough ⊢
    rw [List.map_nil, List.append_nil]
    exact ends.readPlainLines?_eq enough lines
  | cons entry entries ih =>
    obtain ⟨key, value⟩ := entry
    obtain ⟨steps, rfl⟩ : ∃ less, steps = less + 1 := ⟨steps - 1, by omega⟩
    obtain ⟨here, leaves⟩ := List.forall_mem_cons.mp leaves
    have shorter : (settingLines entries ++ rest).length < steps := by
      simp only [settingLines, List.length_append, List.length_cons] at enough ⊢
      omega
    have later := ih leaves shorter (settingLine (key, value) :: lines)
    have text : settingLines ((key, value) :: entries) ++ rest = (writtenKey key).toList ++
        ' ' :: '=' :: ' ' :: (value.written.toList ++ '\n' :: (settingLines entries ++ rest)) := by
      rw [settingLines, List.append_assoc, List.append_assoc, List.append_assoc]
      rfl
    have taken := readKey?_single key
      (endsPath_equals (' ' :: (value.written.toList ++ '\n' :: (settingLines entries ++ rest))))
    rw [text, readPlainLines?, skipBlank_writtenKey]
    split
    next same => exact absurd same (writtenKey_ne_nil key _)
    next same => exact absurd same (writtenKey_ne key (by decide) _ _)
    next same => exact absurd same (writtenKey_ne key (by decide) _ _)
    next same => exact absurd same (writtenKey_ne key (by decide) _ _)
    next same => exact absurd same (writtenKey_ne key (by decide) _ _)
    have blank : skipBlank (' ' :: (value.written.toList ++ '\n' :: (settingLines entries ++ rest))) =
        value.written.toList ++ '\n' :: (settingLines entries ++ rest) := here.reads.opens.skipBlank_eq _
    have equals : expect? '=' (skipBlank (' ' :: '=' :: ' ' :: (value.written.toList ++ '\n' ::
        (settingLines entries ++ rest)))) =
          some (' ' :: (value.written.toList ++ '\n' :: (settingLines entries ++ rest))) := rfl
    rw [taken]
    simp only [Option.bind_eq_bind, Option.bind_some, equals, blank, here.reads.read (stops_line _)]
    refine later.trans ?_
    rw [List.reverse_cons, List.append_assoc]
    rfl

end IntentRollout.Toml
