import Mathlib.Data.List.Forall2
import IntentRollout.Json.Schema
import IntentRollout.Proofs.TableLaws
import IntentRollout.Proofs.WrittenLeaves

/-! Documents that are read as they were written, or as others. That a schema reads a document is shown along the
document: for its leaves, and for its lists, tables and records from what is in them. A record comes back in the order
of its fields, with a null for each that was left out. -/

namespace IntentRollout.Json

def Blanks (blanks : List Char) : Prop := ∀ blank ∈ blanks, blank = ' ' ∨ blank = '\n' ∨ blank = '\t' ∨ blank = '\r'

theorem Blanks.nil : Blanks [] := nofun

theorem blanks_space : Blanks [' '] := by
  intro blank member
  exact .inl (List.mem_singleton.mp member)

theorem blanks_lineStart (level : Nat) : Blanks (lineStart level) := by
  intro blank member
  rw [lineStart, List.mem_cons, List.mem_replicate] at member
  rcases member with rfl | ⟨_, rfl⟩
  · exact .inr (.inl rfl)
  · exact .inl rfl

private theorem closes_lineStart (level : Nat) (rest : List Char) : Closes (lineStart level ++ rest) := by
  intro next same
  exact .inr (Option.some_inj.mp same).symm

theorem skipBlank_append {blanks : List Char} (skipped : Blanks blanks) (rest : List Char) :
    skipBlank (blanks ++ rest) = skipBlank rest := by
  induction blanks with
  | nil => rfl
  | cons blank blanks ih =>
    obtain ⟨here, skipped⟩ := List.forall_mem_cons.mp skipped
    rw [List.cons_append, skipBlank, if_pos here]
    exact ih skipped

def Opens (first : Char) : Prop := first ∉ [' ', '\n', '\t', '\r', ',', ']', '\x7d']

instance (first : Char) : Decidable (Opens first) :=
  inferInstanceAs (Decidable (first ∉ [' ', '\n', '\t', '\r', ',', ']', '\x7d']))

theorem skipBlank_cons {first : Char} (opens : Opens first) (rest : List Char) :
    skipBlank (first :: rest) = first :: rest := by
  simp only [Opens, List.mem_cons, not_or] at opens
  rw [skipBlank, if_neg]
  rintro (rfl | rfl | rfl | rfl) <;> simp at opens

/-- Behind what is skipped a value is found. -/
theorem skipBlank_blanks {blanks : List Char} (skipped : Blanks blanks) {first : Char} (opens : Opens first)
    (rest : List Char) : skipBlank (blanks ++ first :: rest) = first :: rest := by
  rw [skipBlank_append skipped, skipBlank_cons opens]

def separator (first : Bool) : List Char := if first then [] else [',']

theorem nextItem_part (first : Bool) {blanks : List Char} (skipped : Blanks blanks) {next : Char}
    (opens : Opens next) (rest : List Char) :
    nextItem first (separator first ++ (blanks ++ next :: rest)) = .ok (.part, next :: rest) := by
  have found := skipBlank_blanks skipped opens rest
  simp only [Opens, List.mem_cons, not_or] at opens
  cases first with
  | true =>
    change nextItem true (blanks ++ next :: rest) = _
    rw [nextItem, found]
    split
    next none => cases none
    next ends =>
      cases ends
      simp at opens
    next comma =>
      cases comma
      simp at opens
    · rfl
  | false =>
    change nextItem false (',' :: (blanks ++ next :: rest)) = _
    have comma : skipBlank (',' :: (blanks ++ next :: rest)) = ',' :: (blanks ++ next :: rest) := rfl
    rw [nextItem, comma]
    simp only [Bool.false_eq_true, if_false, found]
    split
    next none => cases none
    next ends =>
      cases ends
      simp at opens
    · rfl

theorem nextItem_stop (first : Bool) {blanks : List Char} (skipped : Blanks blanks) (rest : List Char) :
    nextItem first (blanks ++ ']' :: rest) = .ok (.stop, rest) := by
  rw [nextItem, skipBlank_append skipped]
  rfl

theorem nextKey_part (first : Bool) {blanks : List Char} (skipped : Blanks blanks) (rest : List Char) :
    nextKey first (separator first ++ (blanks ++ '"' :: rest)) = .ok (.part, rest) := by
  have found := skipBlank_blanks skipped (by decide : Opens '"') rest
  cases first with
  | true =>
    change nextKey true (blanks ++ '"' :: rest) = _
    rw [nextKey, found]
    rfl
  | false =>
    change nextKey false (',' :: (blanks ++ '"' :: rest)) = _
    have comma : skipBlank (',' :: (blanks ++ '"' :: rest)) = ',' :: (blanks ++ '"' :: rest) := rfl
    rw [nextKey, comma]
    simp only [Bool.false_eq_true, if_false, found]

theorem nextKey_stop (first : Bool) {blanks : List Char} (skipped : Blanks blanks) (rest : List Char) :
    nextKey first (blanks ++ '\x7d' :: rest) = .ok (.stop, rest) := by
  rw [nextKey, skipBlank_append skipped]
  rfl

def itemsFrom (first : Bool) (level : Nat) : List Json → List Char
  | [] => []
  | item :: rest => separator first ++ (lineStart level ++ (item.prettyChars level ++ itemsFrom false level rest))

private theorem prettyItems_eq (level : Nat) (items : List Json) :
    prettyItems level items = itemsFrom true level items := by
  induction items with
  | nil => rfl
  | cons item rest ih =>
    cases rest with
    | nil => simp [prettyItems, itemsFrom, separator]
    | cons next rest =>
      rw [prettyItems, ih]
      · simp [itemsFrom, separator]
      · simp

def membersFrom (first : Bool) (level : Nat) : List (String × Json) → List Char
  | [] => []
  | (key, value) :: rest =>
    separator first ++ (lineStart level ++ '"' :: (key.toList.flatMap escaped ++ '"' :: ':' ::
      ([' '] ++ (value.prettyChars level ++ membersFrom false level rest))))

private theorem membersFrom_cons (first : Bool) (level : Nat) (key : String) (value : Json)
    (more : List (String × Json))
    (rest : List Char) : membersFrom first level ((key, value) :: more) ++ rest =
      separator first ++ (lineStart level ++ '"' :: (key.toList.flatMap escaped ++ '"' :: ':' ::
        ([' '] ++ (value.prettyChars level ++ (membersFrom false level more ++ rest))))) := by
  simp only [membersFrom, List.append_assoc, List.cons_append]

private theorem prettyMembers_eq (level : Nat) (members : List (String × Json)) :
    prettyMembers level members = membersFrom true level members := by
  induction members with
  | nil => rfl
  | cons member rest ih =>
    obtain ⟨key, value⟩ := member
    cases rest with
    | nil => simp [prettyMembers, membersFrom, separator, writtenText]
    | cons next rest =>
      rw [prettyMembers, ih]
      · obtain ⟨key', value'⟩ := next
        simp [membersFrom, separator, writtenText]
      · simp

/-- What a list or an object ends with: nothing if it is empty, and otherwise a line of its own. -/
def closing (level : Nat) (empty : Bool) : List Char := if empty then [] else lineStart level

theorem blanks_closing (level : Nat) (empty : Bool) : Blanks (closing level empty) := by
  cases empty with
  | true => exact .nil
  | false => exact blanks_lineStart level

theorem closes_closing {α : Type} (level : Nat) {parts : List α} (some : parts ≠ []) (rest : List Char) :
    Closes (closing level parts.isEmpty ++ rest) := by
  rw [closing, if_neg (by simpa using some)]
  exact closes_lineStart level rest

theorem prettyChars_array (level : Nat) (items : List Json) : prettyChars level (.array items) =
    '[' :: (itemsFrom true (level + 1) items ++ (closing level items.isEmpty ++ [']'])) := by
  cases items with
  | nil => rfl
  | cons item rest =>
    rw [prettyChars, prettyItems_eq]
    simp [closing]

theorem prettyChars_object (level : Nat) (members : List (String × Json)) : prettyChars level (.object members) =
    '\x7b' :: (membersFrom true (level + 1) members ++ (closing level members.isEmpty ++ ['\x7d'])) := by
  cases members with
  | nil => rfl
  | cons member rest =>
    rw [prettyChars, prettyMembers_eq]
    simp [closing]

theorem skipBlank_array {blanks : List Char} (skipped : Blanks blanks) (level : Nat) (items : List Json)
    (rest : List Char) : skipBlank (blanks ++ (prettyChars level (.array items) ++ rest)) =
      '[' :: (itemsFrom true (level + 1) items ++ (closing level items.isEmpty ++ ']' :: rest)) := by
  rw [prettyChars_array, List.cons_append, skipBlank_blanks skipped (by decide), List.append_assoc,
    List.append_assoc, List.singleton_append]

theorem skipBlank_object {blanks : List Char} (skipped : Blanks blanks) (level : Nat)
    (members : List (String × Json)) (rest : List Char) :
    skipBlank (blanks ++ (prettyChars level (.object members) ++ rest)) =
      '\x7b' :: (membersFrom true (level + 1) members ++ (closing level members.isEmpty ++ '\x7d' :: rest)) := by
  rw [prettyChars_object, List.cons_append, skipBlank_blanks skipped (by decide), List.append_assoc,
    List.append_assoc, List.singleton_append]

/-- A list is not longer than its text, so there are steps enough to read it. -/
theorem length_lt_itemsFrom (first : Bool) (level : Nat) (items : List Json) (rest : List Char) :
    items.length < (itemsFrom first level items ++ rest).length + 1 := by
  induction items generalizing first with
  | nil => exact Nat.succ_pos _
  | cons item more ih =>
    have later := ih false
    simp only [itemsFrom, lineStart, List.length_append, List.length_cons] at later ⊢
    omega

theorem length_lt_membersFrom (first : Bool) (level : Nat) (members : List (String × Json)) (rest : List Char) :
    members.length < (membersFrom first level members ++ rest).length + 1 := by
  induction members generalizing first with
  | nil => exact Nat.succ_pos _
  | cons member more ih =>
    have later := ih false
    simp only [membersFrom, lineStart, List.length_append, List.length_cons] at later ⊢
    omega

private theorem closes_itemsFrom {level : Nat} {items : List Json} {rest : List Char} (closes : Closes rest) :
    Closes (itemsFrom false level items ++ rest) := by
  cases items with
  | nil => exact closes
  | cons item more =>
    intro next same
    exact .inl (Option.some_inj.mp same).symm

private theorem closes_membersFrom {level : Nat} {members : List (String × Json)} {rest : List Char}
    (closes : Closes rest) :
    Closes (membersFrom false level members ++ rest) := by
  cases members with
  | nil => exact closes
  | cons member more =>
    intro next same
    exact .inl (Option.some_inj.mp same).symm

/-- A document is read as another one, wherever it stands. -/
structure ReadAs (read : List Char → Except Failure (Json × List Char)) (written found : Json) : Prop where
  opens : ∀ level, ∃ first more, written.prettyChars level = first :: more ∧ Opens first
  reads : ∀ level blanks rest, Blanks blanks → Closes rest →
    read (blanks ++ (written.prettyChars level ++ rest)) = .ok (found, rest)

abbrev ReadBy (read : List Char → Except Failure (Json × List Char)) (document : Json) : Prop :=
  ReadAs read document document

abbrev ReadsAs (schema : Schema) (written found : Json) : Prop := ReadAs schema.readShaped written found

abbrev Reads (schema : Schema) (document : Json) : Prop := ReadsAs schema document document

theorem reads_text (text : String) : Reads .text (.text text) where
  opens level := ⟨'"', text.toList.flatMap escaped ++ ['"'], by simp [prettyChars, writtenLeaf, writtenText],
    by decide⟩
  reads level blanks rest skipped _ := by
    have written : prettyChars level (.text text) ++ rest = '"' :: (text.toList.flatMap escaped ++ '"' :: rest) := by
      simp [prettyChars, writtenLeaf, writtenText]
    rw [written, Schema.readShaped, skipBlank_blanks skipped (by decide)]
    simp only [readText_written, bind, Except.bind]

theorem opens_toDigits (value : Nat) : ∃ first more, Nat.toDigits 10 value = first :: more ∧ first.isDigit = true := by
  cases written : Nat.toDigits 10 value with
  | nil => exact absurd written Nat.toDigits_ne_nil
  | cons first more =>
    refine ⟨first, more, rfl, ?_⟩
    have member : first ∈ Nat.toDigits 10 value := written ▸ List.mem_cons_self
    exact Nat.isDigit_of_mem_toDigits (by decide) (by decide) member

private theorem opens_of_isDigit {first : Char} (digit : first.isDigit = true) : Opens first := by
  intro member
  simp only [List.mem_cons, List.not_mem_nil, or_false] at member
  rcases member with rfl | rfl | rfl | rfl | rfl | rfl | rfl <;> cases digit

theorem prettyChars_natural (level value : Nat) : prettyChars level (natural value) = Nat.toDigits 10 value := by
  change (toString (value : Int)).toList = _
  have shown : toString (value : Int) = toString value := rfl
  rw [shown]
  simp

theorem reads_natural (name : String) {value : Nat} (fits : value < UInt64.size) :
    Reads (.natural name) (natural value) where
  opens level := by
    obtain ⟨first, more, written, digit⟩ := opens_toDigits value
    exact ⟨first, more, by rw [prettyChars_natural, written], opens_of_isDigit digit⟩
  reads level blanks rest skipped closes := by
    have number := readNumber_written false fits closes
    obtain ⟨first, more, written, digit⟩ := opens_toDigits value
    have opens := opens_of_isDigit digit
    have taken := isDigit_of_isDigit digit
    rw [written] at number
    rw [prettyChars_natural, written, Schema.readShaped, readNumberAs, List.cons_append,
      skipBlank_blanks skipped opens]
    rw [List.cons_append] at number
    have nonnegative : first ≠ '-' := by
      rintro rfl
      cases digit
    simp only [taken, if_true, number, bind, Except.bind]
    rfl

variable {read : List Char → Except Failure (Json × List Char)}

private theorem readItems_part {steps : Nat} {items : List Json} {item : Json} {text after rest : List Char}
    (part : nextItem items.isEmpty text = .ok (.part, after))
    (value : read after = .ok (item, rest)) :
    readItems read (steps + 1) items text = readItems read steps (item :: items) rest := by
  simp only [readItems, part, value, bind, Except.bind]

/-- Items that are read one by one come to the list of what was found. -/
theorem readItems_written (level : Nat) {close rest : List Char} (skipped : Blanks close)
    {more found : List Json} (each : List.Forall₂ (ReadAs read) more found)
    (closes : more ≠ [] → Closes (close ++ ']' :: rest)) (items : List Json) {steps : Nat}
    (enough : more.length < steps) :
    readItems read steps items (itemsFrom items.isEmpty level more ++ (close ++ ']' :: rest)) =
      .ok (items.reverse ++ found, rest) := by
  induction each generalizing items steps with
  | nil =>
    obtain ⟨steps, rfl⟩ := Nat.exists_eq_succ_of_ne_zero (Nat.ne_of_gt enough)
    have stop := nextItem_stop items.isEmpty skipped rest
    simp only [itemsFrom, List.nil_append, readItems, stop, bind, Except.bind, List.append_nil]
  | @cons item value more found here _ ih =>
    obtain ⟨steps, rfl⟩ := Nat.exists_eq_succ_of_ne_zero (Nat.ne_of_gt (Nat.zero_lt_of_lt enough))
    have fewer : more.length < steps := Nat.lt_of_succ_lt_succ enough
    have ends := closes (List.cons_ne_nil item more)
    have after : Closes (itemsFrom false level more ++ (close ++ ']' :: rest)) := closes_itemsFrom ends
    obtain ⟨first, others, written, opens⟩ := here.opens level
    have part := nextItem_part items.isEmpty (blanks_lineStart level) opens
      (others ++ (itemsFrom false level more ++ (close ++ ']' :: rest)))
    have taken := here.reads level [] _ .nil after
    rw [← List.cons_append, ← written] at part
    rw [itemsFrom, List.append_assoc, List.append_assoc, List.append_assoc, readItems_part part taken]
    have later := ih (fun _ => ends) (value :: items) fewer
    rw [List.reverse_cons, List.append_assoc] at later
    exact later

theorem readsAs_list {schema : Schema} {items found : List Json} (each : List.Forall₂ (ReadsAs schema) items found) :
    ReadsAs (.list schema) (.array items) (.array found) where
  opens level := ⟨'[', _, prettyChars_array level items, by decide⟩
  reads level blanks rest skipped _ := by
    have closes (some : items ≠ []) := closes_closing level some (']' :: rest)
    have enough := length_lt_itemsFrom true (level + 1) items (closing level items.isEmpty ++ ']' :: rest)
    have listed := readItems_written (level + 1) (blanks_closing level items.isEmpty) each closes [] enough
    rw [List.isEmpty_nil] at listed
    rw [Schema.readShaped, skipBlank_array skipped]
    simp only [listed, bind, Except.bind]
    rfl

theorem reads_list {schema : Schema} {items : List Json} (each : ∀ item ∈ items, Reads schema item) :
    Reads (.list schema) (.array items) := readsAs_list (List.forall₂_same.mpr each)

/-- The key of a member is found in its written form, and its value after the colon. -/
theorem readKey_written (first : Bool) (level : Nat) (key : String) (rest : List Char) :
    nextKey first (separator first ++ (lineStart level ++ '"' :: (key.toList.flatMap escaped ++ '"' :: ':' :: rest))) =
        .ok (.part, key.toList.flatMap escaped ++ '"' :: ':' :: rest) ∧
      readText (key.toList.flatMap escaped ++ '"' :: ':' :: rest) = .ok (key, ':' :: rest) ∧
      readColon (':' :: rest) = .ok rest :=
  ⟨nextKey_part first (blanks_lineStart level) _, readText_written key _, rfl⟩

private theorem readMembers_part {steps : Nat} {members : List (String × Json)} {key : String} {value : Json}
    {text opened named after rest : List Char}
    (part : nextKey members.isEmpty text = .ok (.part, opened)) (taken : readText opened = .ok (key, named))
    (colon : readColon named = .ok after) (valued : read after = .ok (value, rest)) :
    readMembers read (steps + 1) members text = readMembers read steps ((key, value) :: members) rest := by
  simp only [readMembers, part, taken, colon, valued, bind, Except.bind]

theorem readMembers_written (level : Nat) {close rest : List Char} (skipped : Blanks close)
    {more found : List (String × Json)}
    (each : List.Forall₂ (fun member entry => entry.1 = member.1 ∧ ReadAs read member.2 entry.2) more found)
    (closes : more ≠ [] → Closes (close ++ '\x7d' :: rest)) (members : List (String × Json)) {steps : Nat}
    (enough : more.length < steps) :
    readMembers read steps members
        (membersFrom members.isEmpty level more ++ (close ++ '\x7d' :: rest)) =
      .ok (members.reverse ++ found, rest) := by
  induction each generalizing members steps with
  | nil =>
    obtain ⟨steps, rfl⟩ := Nat.exists_eq_succ_of_ne_zero (Nat.ne_of_gt enough)
    have stop := nextKey_stop members.isEmpty skipped rest
    simp only [membersFrom, List.nil_append, readMembers, stop, bind, Except.bind, List.append_nil]
  | @cons member entry more found here _ ih =>
    obtain ⟨_, value⟩ := member
    obtain ⟨key, meaning⟩ := entry
    obtain ⟨rfl, reads⟩ := here
    obtain ⟨steps, rfl⟩ := Nat.exists_eq_succ_of_ne_zero (Nat.ne_of_gt (Nat.zero_lt_of_lt enough))
    have fewer : more.length < steps := Nat.lt_of_succ_lt_succ enough
    have ends := closes (List.cons_ne_nil _ more)
    have after : Closes (membersFrom false level more ++ (close ++ '\x7d' :: rest)) := closes_membersFrom ends
    obtain ⟨part, named, colon⟩ := readKey_written members.isEmpty level key
      ([' '] ++ (value.prettyChars level ++ (membersFrom false level more ++ (close ++ '\x7d' :: rest))))
    have valued := reads.reads level [' '] _ blanks_space after
    have later := ih (fun _ => ends) ((key, meaning) :: members) fewer
    rw [List.reverse_cons, List.append_assoc] at later
    rw [membersFrom_cons, readMembers_part part named colon valued]
    exact later

theorem readsAs_table {schema : Schema} {entries found : List (String × Json)} (sorted : Entries.Sorted found)
    (each : List.Forall₂ (fun member entry => entry.1 = member.1 ∧ ReadsAs schema member.2 entry.2) entries found) :
    ReadsAs (.table schema) (.object entries) (.object found) where
  opens level := ⟨'\x7b', _, prettyChars_object level entries, by decide⟩
  reads level blanks rest skipped _ := by
    have closes (some : entries ≠ []) := closes_closing level some ('\x7d' :: rest)
    have enough := length_lt_membersFrom true (level + 1) entries (closing level entries.isEmpty ++ '\x7d' :: rest)
    have listed := readMembers_written (level + 1) (blanks_closing level entries.isEmpty) each closes [] enough
    rw [List.isEmpty_nil] at listed
    rw [Schema.readShaped, skipBlank_object skipped]
    simp only [listed, bind, Except.bind, List.reverse_nil, List.nil_append, ofMembers,
      Table.entries_ofList_of_sorted sorted]

theorem reads_table {schema : Schema} {entries : List (String × Json)} (sorted : Entries.Sorted entries)
    (each : ∀ entry ∈ entries, Reads schema entry.2) : Reads (.table schema) (.object entries) :=
  readsAs_table sorted (List.forall₂_same.mpr fun entry member => ⟨rfl, each entry member⟩)

private theorem readRecord_part {known : List String}
    {readKnown : String → List Char → Except Failure (Option (Json × List Char))} {steps : Nat}
    {members : List (String × Json)} {key : String} {value : Json} {text opened named after rest : List Char}
    (part : nextKey members.isEmpty text = .ok (.part, opened)) (taken : readText opened = .ok (key, named))
    (fresh : key ∉ members.map (·.1)) (colon : readColon named = .ok after)
    (valued : readKnown key after = .ok (some (value, rest))) :
    readRecord known readKnown (steps + 1) members text =
      readRecord known readKnown steps ((key, value) :: members) rest := by
  have again : ¬ (known.contains key && (members.map (·.1)).contains key) = true := by
    rw [Bool.and_eq_true, List.contains_iff_mem, List.contains_iff_mem]
    exact fun both => fresh both.2
  simp only [readRecord, part, taken, colon, valued, bind, Except.bind, if_neg again]

/-- A field is read by its own schema. -/
theorem readField_of_mem {fields : List (String × Schema)} {name : String} {schema : Schema}
    (distinct : (fields.map (·.1)).Nodup) (listed : (name, schema) ∈ fields) (rest : List Char) :
    Schema.readField fields name rest = (schema.readShaped rest).map some := by
  induction fields with
  | nil => cases listed
  | cons field fields ih =>
    rw [List.map_cons, List.nodup_cons] at distinct
    rcases List.mem_cons.mp listed with rfl | later
    · rw [Schema.readField, if_pos rfl, Schema.readNamed]
      cases schema.readShaped rest <;> rfl
    · rw [Schema.readField, if_neg, ih distinct.2 later]
      intro same
      exact distinct.1 (List.mem_map.mpr ⟨_, later, same.symm⟩)

def ReadMember (fields : List (String × Schema)) (member entry : String × Json) : Prop :=
  entry.1 = member.1 ∧ ∃ schema, (member.1, schema) ∈ fields ∧ ReadsAs schema member.2 entry.2

private theorem readRecord_written {fields : List (String × Schema)} (distinct : (fields.map (·.1)).Nodup) (level : Nat)
    {close rest : List Char} (skipped : Blanks close) {more found : List (String × Json)}
    (each : List.Forall₂ (ReadMember fields) more found)
    (closes : more ≠ [] → Closes (close ++ '\x7d' :: rest)) (members : List (String × Json))
    (fresh : ((members.reverse ++ found).map (·.1)).Nodup) {steps : Nat} (enough : more.length < steps) :
    readRecord (fields.map (·.1)) (Schema.readField fields) steps members
        (membersFrom members.isEmpty level more ++ (close ++ '\x7d' :: rest)) =
      .ok (members.reverse ++ found, rest) := by
  induction each generalizing members steps with
  | nil =>
    obtain ⟨steps, rfl⟩ := Nat.exists_eq_succ_of_ne_zero (Nat.ne_of_gt enough)
    have stop := nextKey_stop members.isEmpty skipped rest
    simp only [membersFrom, List.nil_append, readRecord, stop, bind, Except.bind, List.append_nil]
  | @cons member entry more found here _ ih =>
    obtain ⟨_, value⟩ := member
    obtain ⟨key, meaning⟩ := entry
    obtain ⟨rfl, schema, known, reads⟩ := here
    obtain ⟨steps, rfl⟩ := Nat.exists_eq_succ_of_ne_zero (Nat.ne_of_gt (Nat.zero_lt_of_lt enough))
    have fewer : more.length < steps := Nat.lt_of_succ_lt_succ enough
    have ends := closes (List.cons_ne_nil _ more)
    have after : Closes (membersFrom false level more ++ (close ++ '\x7d' :: rest)) := closes_membersFrom ends
    obtain ⟨part, named, colon⟩ := readKey_written members.isEmpty level key
      ([' '] ++ (value.prettyChars level ++ (membersFrom false level more ++ (close ++ '\x7d' :: rest))))
    have valued := reads.reads level [' '] _ blanks_space after
    have new : key ∉ members.map (·.1) := by
      rw [List.map_append, List.map_reverse, List.nodup_append'] at fresh
      intro old
      exact fresh.2.2 (List.mem_reverse.mpr old) List.mem_cons_self
    have read : Schema.readField fields key
        ([' '] ++ (value.prettyChars level ++ (membersFrom false level more ++ (close ++ '\x7d' :: rest)))) =
        .ok (some (meaning, membersFrom false level more ++ (close ++ '\x7d' :: rest))) := by
      rw [readField_of_mem distinct known, valued]
      rfl
    have still : (((key, meaning) :: members).reverse ++ found).map (·.1) =
        (members.reverse ++ (key, meaning) :: found).map (·.1) := by
      rw [List.reverse_cons, List.append_assoc, List.singleton_append]
    have later := ih (fun _ => ends) ((key, meaning) :: members) (still ▸ fresh) fewer
    rw [List.reverse_cons, List.append_assoc] at later
    rw [membersFrom_cons, readRecord_part part named new colon read]
    exact later

/-- What the members of a record come to, field by field: those that are given are read, and those that are not get
the value of an absent one, if that is a value. -/
inductive Arranges (lenient : Bool) :
    List (String × Schema) → List (String × Json) → List (String × Json) → Prop where
  | nil : Arranges lenient [] [] []
  | given {name schema value meaning fields written arranged} (reads : ReadsAs schema value meaning)
      (rest : Arranges lenient fields written arranged) :
      Arranges lenient ((name, schema) :: fields) ((name, value) :: written) ((name, meaning) :: arranged)
  | filled {name schema value fields written arranged} (absent : schema.absent? lenient = some (some value))
      (rest : Arranges lenient fields written arranged) :
      Arranges lenient ((name, schema) :: fields) written ((name, value) :: arranged)
  | skipped {name schema fields written arranged} (absent : schema.absent? lenient = some none)
      (rest : Arranges lenient fields written arranged) :
      Arranges lenient ((name, schema) :: fields) written arranged

/-- A member that is read and has no name of a field before the others. -/
theorem readMember_weaken {fields : List (String × Schema)} {field : String × Schema}
    {written found : List (String × Json)} (each : List.Forall₂ (ReadMember fields) written found) :
    List.Forall₂ (ReadMember (field :: fields)) written found :=
  each.imp fun _ _ ⟨same, schema, known, reads⟩ => ⟨same, schema, List.mem_cons_of_mem field known, reads⟩

private theorem mem_names_of_readMember {fields : List (String × Schema)} {written found : List (String × Json)}
    (each : List.Forall₂ (ReadMember fields) written found) {name : String} (member : name ∈ found.map (·.1)) :
    name ∈ fields.map (·.1) := by
  induction each with
  | nil => cases member
  | cons here _ ih =>
    rw [List.map_cons, here.1] at member
    rcases List.mem_cons.mp member with rfl | later
    · obtain ⟨_, schema, known, _⟩ := here
      exact List.mem_map.mpr ⟨_, known, rfl⟩
    · exact ih later

/-- The members that are given are found, and whatever holds them and no other fields is arranged as the record. -/
theorem Arranges.found {lenient : Bool} {fields : List (String × Schema)} {written arranged : List (String × Json)}
    (arranges : Arranges lenient fields written arranged) (distinct : (fields.map (·.1)).Nodup) :
    ∃ found, List.Forall₂ (ReadMember fields) written found ∧ (found.map (·.1)).Nodup ∧
      ∀ whole, (∀ entry ∈ found, Entries.get? whole entry.1 = some entry.2) →
        (∀ name ∈ fields.map (·.1), name ∉ found.map (·.1) → Entries.get? whole name = none) →
        arrange lenient whole fields = .ok arranged := by
  induction arranges with
  | nil => exact ⟨[], .nil, List.nodup_nil, fun _ _ _ => rfl⟩
  | @given name schema value meaning fields written arranged reads _ ih =>
    rw [List.map_cons, List.nodup_cons] at distinct
    obtain ⟨found, each, once, arrange_eq⟩ := ih distinct.2
    have other : name ∉ found.map (·.1) := fun member => distinct.1 (mem_names_of_readMember each member)
    refine ⟨(name, meaning) :: found, .cons ⟨rfl, schema, List.mem_cons_self, reads⟩ (readMember_weaken each),
      List.nodup_cons.mpr ⟨other, once⟩, fun whole held absent => ?_⟩
    rw [List.forall_mem_cons] at held
    have rest : arrange lenient whole fields = .ok arranged := by
      refine arrange_eq whole held.2 fun field member free => absent field (List.mem_cons_of_mem name member) ?_
      rw [List.map_cons, List.mem_cons, not_or]
      exact ⟨fun same => distinct.1 (same ▸ member), free⟩
    simp only [arrange, held.1, rest, bind, Except.bind]
    rfl
  | @filled name schema value fields written arranged value_eq _ ih | @skipped name schema fields written arranged value_eq _ ih =>
    rw [List.map_cons, List.nodup_cons] at distinct
    obtain ⟨found, each, once, arrange_eq⟩ := ih distinct.2
    have other : name ∉ found.map (·.1) := fun member => distinct.1 (mem_names_of_readMember each member)
    refine ⟨found, readMember_weaken each, once, fun whole held absent => ?_⟩
    have none := absent name List.mem_cons_self other
    have rest := arrange_eq whole held fun field member => absent field (List.mem_cons_of_mem name member)
    simp only [arrange, none, value_eq, rest, bind, Except.bind]
    rfl

theorem readsAs_record (name : String) {lenient : Bool} {fields : List (String × Schema)}
    {written arranged : List (String × Json)} (arranges : Arranges lenient fields written arranged)
    (distinct : (fields.map (·.1)).Nodup) :
    ReadsAs (.record name lenient fields) (.object written) (.object arranged) where
  opens level := ⟨'\x7b', _, prettyChars_object level written, by decide⟩
  reads level blanks rest skipped _ := by
    obtain ⟨found, each, once, arrange_eq⟩ := arranges.found distinct
    have closes (some : written ≠ []) := closes_closing level some ('\x7d' :: rest)
    have enough := length_lt_membersFrom true (level + 1) written (closing level written.isEmpty ++ '\x7d' :: rest)
    have listed := readRecord_written distinct (level + 1) (blanks_closing level written.isEmpty) each closes [] once
      enough
    rw [List.isEmpty_nil] at listed
    have arranged_eq : arrange lenient found fields = .ok arranged :=
      arrange_eq found (fun entry member => (Entries.get?_eq_some once).mpr member)
        fun name _ absent => Entries.get?_eq_none.mpr absent
    rw [Schema.readShaped, skipBlank_object skipped]
    simp only [listed, bind, Except.bind, List.reverse_nil, List.nil_append, arranged_eq]

def Fits (fields : List (String × Schema)) (members : List (String × Json)) : Prop :=
  List.Forall₂ (fun field member => member.1 = field.1 ∧ Reads field.2 member.2) fields members

/-- Members that are all there are arranged as they are listed. -/
theorem Fits.arranges {lenient : Bool} {fields : List (String × Schema)} {members : List (String × Json)}
    (fits : Fits fields members) : Arranges lenient fields members members := by
  induction fits with
  | nil => exact .nil
  | @cons field member fields members here _ ih =>
    obtain ⟨name, schema⟩ := field
    obtain ⟨_, value⟩ := member
    obtain ⟨rfl, reads⟩ := here
    exact .given reads ih

theorem reads_record (name : String) (lenient : Bool) {fields : List (String × Schema)}
    {members : List (String × Json)} (fits : Fits fields members) (distinct : (fields.map (·.1)).Nodup) :
    Reads (.record name lenient fields) (.object members) := readsAs_record name fits.arranges distinct

/-- What a schema reads a document as comes back from its written form. -/
theorem ReadsAs.read_pretty {schema : Schema} {written found : Json} (reads : ReadsAs schema written found) :
    schema.read written.pretty = .ok found := by
  have whole := reads.reads 0 [] [] .nil nofun
  rw [List.nil_append, List.append_nil] at whole
  rw [Schema.read, pretty, String.toList_ofList, readWhole, whole]
  rfl

end IntentRollout.Json
