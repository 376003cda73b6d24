import IntentRollout.Proofs.Tokens

/-! Phrases: documents by the grammar of their notation, as trees of tokens without what may be skipped between
these. A text that spells a phrase is read as what the phrase denotes, or is refused if it denotes nothing. -/

namespace IntentRollout.Json

inductive Phrase where
  | null
  | bool (value : Bool)
  | number (token : NumberToken)
  | text (parts : List TextPart)
  | list (items : List Phrase)
  | object (members : List (List TextPart × Phrase))

mutual

/-- The tokens of a phrase in their order, with anything that is skipped between them. -/
inductive Spells : Phrase → List Char → Prop where
  | null : Spells .null ['n', 'u', 'l', 'l']
  | true : Spells (.bool true) ['t', 'r', 'u', 'e']
  | false : Spells (.bool false) ['f', 'a', 'l', 's', 'e']
  | number (token : NumberToken) : Spells (.number token) token.characters
  | text (parts : List TextPart) : Spells (.text parts) ('"' :: (textCharacters parts ++ ['"']))
  | list {items : List Phrase} {text : List Char} (spelled : SpellsItems true items text) :
    Spells (.list items) ('[' :: text)
  | object {members : List (List TextPart × Phrase)} {text : List Char} (spelled : SpellsMembers true members text) :
    Spells (.object members) ('\x7b' :: text)

inductive SpellsItems : Bool → List Phrase → List Char → Prop where
  | stop {first : Bool} {gap : List Char} (skipped : Blanks gap) : SpellsItems first [] (gap ++ [']'])
  | part {first : Bool} {item : Phrase} {items : List Phrase} {gap before text more : List Char}
    (skipped : Blanks gap) (opened : Blanks before) (spelled : Spells item text)
    (others : SpellsItems false items more) :
    SpellsItems first (item :: items) (gap ++ (separator first ++ (before ++ (text ++ more))))

inductive SpellsMembers : Bool → List (List TextPart × Phrase) → List Char → Prop where
  | stop {first : Bool} {gap : List Char} (skipped : Blanks gap) : SpellsMembers first [] (gap ++ ['\x7d'])
  | part {first : Bool} {key : List TextPart} {value : Phrase} {members : List (List TextPart × Phrase)}
    {gap before between behind text more : List Char} (skipped : Blanks gap) (opened : Blanks before)
    (named : Blanks between) (valued : Blanks behind) (spelled : Spells value text)
    (others : SpellsMembers false members more) :
    SpellsMembers first ((key, value) :: members) (gap ++ (separator first ++ (before ++ '"' ::
      (textCharacters key ++ '"' :: (between ++ ':' :: (behind ++ (text ++ more)))))))

end

def Phrase.SpelledBy (phrase : Phrase) (text : String) : Prop :=
  ∃ before spelling after, Blanks before ∧ Spells phrase spelling ∧ Blanks after ∧
    text.toList = before ++ (spelling ++ after)

mutual

/-- What a phrase denotes; nothing if a token of it denotes nothing, or if its lists and objects have more levels
than there may be. -/
def Phrase.denoted? (levels : Nat) : Phrase → Option Json
  | .null => some .null
  | .bool value => some (.bool value)
  | .number token => token.document?
  | .text parts => (textOf? parts).map .text
  | .list items =>
    match levels with
    | 0 => none
    | levels + 1 => (itemsDenoted? levels items).map .array
  | .object members =>
    match levels with
    | 0 => none
    | levels + 1 => (membersDenoted? levels members).map ofMembers

def itemsDenoted? (levels : Nat) : List Phrase → Option (List Json)
  | [] => some []
  | item :: items => (item.denoted? levels).bind fun value => (itemsDenoted? levels items).map (value :: ·)

def membersDenoted? (levels : Nat) : List (List TextPart × Phrase) → Option (List (String × Json))
  | [] => some []
  | (key, value) :: members =>
    (textOf? key).bind fun key => (value.denoted? levels).bind fun value =>
      (membersDenoted? levels members).map ((key, value) :: ·)

end

theorem Spells.opens {phrase : Phrase} {text : List Char} (spelled : Spells phrase text) :
    ∃ first more, text = first :: more ∧ Opens first := by
  cases spelled with
  | number token => exact token.opens
  | _ => exact ⟨_, _, rfl, by decide⟩

private theorem delimits_of_not_opens {first : Char} (closes : ¬ Opens first) (rest : List Char) :
    Delimits (first :: rest) := by
  rintro next same
  obtain rfl := Option.some_inj.mp same
  exact closes

private theorem Blanks.not_opens {blanks : List Char} (skipped : Blanks blanks) {blank : Char}
    (member : blank ∈ blanks) :
    ¬ Opens blank := by
  rcases skipped blank member with rfl | rfl | rfl | rfl <;> decide

/-- Something that is skipped, and then something with which no value starts. -/
theorem Blanks.delimits {gap rest : List Char} (skipped : Blanks gap) (delimits : Delimits rest) :
    Delimits (gap ++ rest) := by
  cases gap with
  | nil => exact delimits
  | cons blank gap => exact delimits_of_not_opens (skipped.not_opens List.mem_cons_self) _

theorem SpellsItems.delimits {items : List Phrase} {text : List Char} (spelled : SpellsItems false items text)
    (rest : List Char) : Delimits (text ++ rest) := by
  cases spelled with
  | stop skipped =>
    rw [List.append_assoc]
    exact skipped.delimits (delimits_of_not_opens (by decide) _)
  | part skipped =>
    rw [List.append_assoc]
    exact skipped.delimits (delimits_of_not_opens (by decide) _)

theorem SpellsMembers.delimits {members : List (List TextPart × Phrase)} {text : List Char}
    (spelled : SpellsMembers false members text) (rest : List Char) : Delimits (text ++ rest) := by
  cases spelled with
  | stop skipped =>
    rw [List.append_assoc]
    exact skipped.delimits (delimits_of_not_opens (by decide) _)
  | part skipped =>
    rw [List.append_assoc]
    exact skipped.delimits (delimits_of_not_opens (by decide) _)

/-- Every item takes a character, so there are steps enough to read them all. -/
theorem SpellsItems.length_le {first : Bool} {items : List Phrase} {text : List Char}
    (spelled : SpellsItems first items text) : items.length ≤ text.length := by
  induction items generalizing first text with
  | nil => exact Nat.zero_le _
  | cons item items ih =>
    cases spelled with
    | part _ _ spelled others =>
      obtain ⟨opening, rest, rfl, _⟩ := spelled.opens
      have fewer := ih others
      simp only [List.length_append, List.length_cons]
      omega

theorem SpellsMembers.length_le {first : Bool} {members : List (List TextPart × Phrase)} {text : List Char}
    (spelled : SpellsMembers first members text) : members.length ≤ text.length := by
  induction members generalizing first text with
  | nil => exact Nat.zero_le _
  | cons member members ih =>
    cases spelled with
    | part _ _ _ _ _ others =>
      have fewer := ih others
      simp only [List.length_append, List.length_cons]
      omega

private theorem nextItem_skip (first : Bool) {gap : List Char} (skipped : Blanks gap) (rest : List Char) :
    nextItem first (gap ++ rest) = nextItem first rest := by
  rw [nextItem, skipBlank_append skipped, nextItem]

private theorem nextKey_skip (first : Bool) {gap : List Char} (skipped : Blanks gap) (rest : List Char) :
    nextKey first (gap ++ rest) = nextKey first rest := by
  rw [nextKey, skipBlank_append skipped, nextKey]

private theorem readColon_skip {gap : List Char} (skipped : Blanks gap) (rest : List Char) :
    readColon (gap ++ ':' :: rest) = .ok rest := by
  rw [readColon, skipBlank_append skipped]
  rfl

variable {read : List Char → Except Failure (Json × List Char)}

private theorem toOption_readItems {steps : Nat} {items : List Json} {text after : List Char}
    (part : nextItem items.isEmpty text = .ok (.part, after)) :
    (readItems read (steps + 1) items text).toOption =
      (read after).toOption.bind fun (item, rest) => (readItems read steps (item :: items) rest).toOption := by
  simp only [readItems, part, bind, Except.bind]
  cases read after <;> rfl

private theorem toOption_readMembers {steps : Nat} {members : List (String × Json)} {text opened : List Char}
    (part : nextKey members.isEmpty text = .ok (.part, opened)) :
    (readMembers read (steps + 1) members text).toOption =
      (readText opened).toOption.bind fun (key, named) => (readColon named).toOption.bind fun after =>
        (read after).toOption.bind fun (value, rest) =>
          (readMembers read steps ((key, value) :: members) rest).toOption := by
  simp only [readMembers, part, bind, Except.bind]
  cases readText opened with
  | error => rfl
  | ok keyed =>
    dsimp only [Except.toOption, Option.bind]
    cases readColon keyed.2 with
    | error => rfl
    | ok after =>
      dsimp only
      cases read after <;> rfl

private theorem readValue_list (levels : Nat) {blanks : List Char} (skipped : Blanks blanks) (rest : List Char) :
    readValue (levels + 1) (blanks ++ '[' :: rest) =
      (readItems (readValue levels) (rest.length + 1) [] rest).map fun (items, after) => (.array items, after) := by
  rw [readValue.eq_def, skipBlank_blanks skipped (by decide)]
  simp only
  cases readItems (readValue levels) (rest.length + 1) [] rest <;> rfl

private theorem readValue_object (levels : Nat) {blanks : List Char} (skipped : Blanks blanks) (rest : List Char) :
    readValue (levels + 1) (blanks ++ '\x7b' :: rest) =
      (readMembers (readValue levels) (rest.length + 1) [] rest).map
        fun (members, after) => (ofMembers members, after) := by
  rw [readValue.eq_def, skipBlank_blanks skipped (by decide)]
  simp only
  cases readMembers (readValue levels) (rest.length + 1) [] rest <;> rfl

private theorem readValue_text (levels : Nat) {blanks : List Char} (skipped : Blanks blanks) (rest : List Char) :
    readValue levels (blanks ++ '"' :: rest) = (readText rest).map fun (value, after) => (Json.text value, after) := by
  rw [readValue.eq_def, skipBlank_blanks skipped (by decide)]
  simp only
  cases readText rest <;> rfl

private theorem readValue_deep {blanks : List Char} (skipped : Blanks blanks) {opening : Char}
    (opens : opening ∈ ['[', '\x7b'])
    (rest : List Char) : (readValue 0 (blanks ++ opening :: rest)).toOption = none := by
  simp only [List.mem_cons, List.not_mem_nil, or_false] at opens
  rcases opens with rfl | rfl
  · rw [readValue.eq_def, skipBlank_blanks skipped (by decide)]
    rfl
  · rw [readValue.eq_def, skipBlank_blanks skipped (by decide)]
    rfl

private theorem toOption_map {ε α β : Type} (first : Except ε α) (change : α → β) :
    (first.map change).toOption = first.toOption.map change := by
  cases first <;> rfl

mutual

/-- The spelling of a phrase is read as what the phrase denotes. -/
theorem Spells.reads {phrase : Phrase} {text : List Char} (spelled : Spells phrase text) (levels : Nat)
    {blanks rest : List Char} (skipped : Blanks blanks) (delimits : Delimits rest) :
    (readValue levels (blanks ++ (text ++ rest))).toOption = (phrase.denoted? levels).map (·, rest) := by
  cases spelled with
  | null =>
    rw [readValue.eq_def, List.cons_append, skipBlank_blanks skipped (by decide)]
    rfl
  | true =>
    rw [readValue.eq_def, List.cons_append, skipBlank_blanks skipped (by decide)]
    rfl
  | false =>
    rw [readValue.eq_def, List.cons_append, skipBlank_blanks skipped (by decide)]
    rfl
  | number token => exact token.readValue_eq levels skipped delimits
  | text parts =>
    rw [List.cons_append, List.append_assoc, readValue_text levels skipped, toOption_map]
    have read := readText_parts parts rest
    rw [← List.singleton_append] at read
    rw [read, Phrase.denoted?, Option.map_map, Option.map_map]
    rfl
  | @list items text spelled =>
    rw [List.cons_append]
    cases levels with
    | zero => exact readValue_deep skipped (by decide) _
    | succ levels =>
      have enough : items.length < (text ++ rest).length + 1 := by
        rw [List.length_append]
        exact Nat.lt_succ_of_le (Nat.le_add_right_of_le spelled.length_le)
      have read := SpellsItems.reads spelled levels [] rfl enough rest
      rw [readValue_list levels skipped, toOption_map, read, Phrase.denoted?, Option.map_map, Option.map_map]
      rfl
  | @object members text spelled =>
    rw [List.cons_append]
    cases levels with
    | zero => exact readValue_deep skipped (by decide) _
    | succ levels =>
      have enough : members.length < (text ++ rest).length + 1 := by
        rw [List.length_append]
        exact Nat.lt_succ_of_le (Nat.le_add_right_of_le spelled.length_le)
      have read := SpellsMembers.reads spelled levels [] rfl enough rest
      rw [readValue_object levels skipped, toOption_map, read, Phrase.denoted?, Option.map_map, Option.map_map]
      rfl

theorem SpellsItems.reads {first : Bool} {items : List Phrase} {text : List Char}
    (spelled : SpellsItems first items text) (levels : Nat) (done : List Json) (start : done.isEmpty = first)
    {steps : Nat} (enough : items.length < steps) (rest : List Char) :
    (readItems (readValue levels) steps done (text ++ rest)).toOption =
      (itemsDenoted? levels items).map fun values => (done.reverse ++ values, rest) := by
  obtain ⟨steps, rfl⟩ := Nat.exists_eq_succ_of_ne_zero (Nat.ne_of_gt (Nat.zero_lt_of_lt enough))
  cases spelled with
  | @stop _ gap skipped =>
    have stop := nextItem_stop done.isEmpty skipped rest
    rw [List.append_assoc, List.singleton_append]
    simp only [readItems, stop, bind, Except.bind, itemsDenoted?, Option.map_some, List.append_nil]
    rfl
  | @part _ item items gap before text more skipped opened spelled others =>
    have fewer : items.length < steps := Nat.lt_of_succ_lt_succ enough
    obtain ⟨opening, inner, same, opens⟩ := spelled.opens
    have part : nextItem done.isEmpty (gap ++ (separator first ++ (before ++ (text ++ more))) ++ rest) =
        .ok (.part, text ++ (more ++ rest)) := by
      simp only [List.append_assoc]
      rw [nextItem_skip _ skipped, ← start, same, List.cons_append]
      exact nextItem_part done.isEmpty opened opens _
    have here := Spells.reads spelled levels .nil (others.delimits rest)
    rw [List.nil_append] at here
    rw [toOption_readItems part, here, itemsDenoted?]
    cases item.denoted? levels with
    | none => rfl
    | some value =>
      have later := SpellsItems.reads others levels (value :: done) rfl fewer rest
      rw [Option.map_some, Option.bind_some]
      dsimp only
      rw [later]
      cases itemsDenoted? levels items with
      | none => rfl
      | some values => simp

theorem SpellsMembers.reads {first : Bool} {members : List (List TextPart × Phrase)} {text : List Char}
    (spelled : SpellsMembers first members text) (levels : Nat) (done : List (String × Json))
    (start : done.isEmpty = first) {steps : Nat} (enough : members.length < steps) (rest : List Char) :
    (readMembers (readValue levels) steps done (text ++ rest)).toOption =
      (membersDenoted? levels members).map fun values => (done.reverse ++ values, rest) := by
  obtain ⟨steps, rfl⟩ := Nat.exists_eq_succ_of_ne_zero (Nat.ne_of_gt (Nat.zero_lt_of_lt enough))
  cases spelled with
  | @stop _ gap skipped =>
    have stop := nextKey_stop done.isEmpty skipped rest
    rw [List.append_assoc, List.singleton_append]
    simp only [readMembers, stop, bind, Except.bind, membersDenoted?, Option.map_some, List.append_nil]
    rfl
  | @part _ key value members gap before between behind text more skipped opened named valued spelled others =>
    have fewer : members.length < steps := Nat.lt_of_succ_lt_succ enough
    have part : nextKey done.isEmpty (gap ++ (separator first ++ (before ++ '"' :: (textCharacters key ++ '"' ::
        (between ++ ':' :: (behind ++ (text ++ more)))))) ++ rest) =
        .ok (.part, textCharacters key ++ '"' :: (between ++ ':' :: (behind ++ (text ++ (more ++ rest))))) := by
      simp only [List.append_assoc, List.cons_append]
      rw [nextKey_skip _ skipped, ← start]
      exact nextKey_part done.isEmpty opened _
    have here := Spells.reads spelled levels valued (others.delimits rest)
    rw [toOption_readMembers part, readText_parts, membersDenoted?]
    cases textOf? key with
    | none => rfl
    | some key =>
      simp only [Option.map_some, Option.bind_some, readColon_skip named]
      change ((readValue levels (behind ++ (text ++ (more ++ rest)))).toOption.bind _) = _
      rw [here]
      cases value.denoted? levels with
      | none => rfl
      | some value =>
        have later := SpellsMembers.reads others levels ((key, value) :: done) rfl fewer rest
        rw [Option.map_some, Option.bind_some]
        dsimp only
        rw [later]
        cases membersDenoted? levels members with
        | none => rfl
        | some values => simp

end

private theorem toOption_readWhole {α : Type} (readPart : List Char → Except Failure (α × List Char))
    (characters : List Char) :
    (readWhole readPart characters).toOption =
      (readPart characters).toOption.bind fun taken => (readEnd taken.1 taken.2).toOption := by
  rw [readWhole]
  cases readPart characters with
  | error => rfl
  | ok taken =>
    cases ended : readEnd taken.1 taken.2 with
    | error failure =>
      simp only [Except.bind, Except.toOption, Option.bind_some, ended]
    | ok value =>
      simp only [Except.bind, Except.toOption, Option.bind_some, ended]

/-- A text is read as the phrase that it spells, or refused if that denotes nothing. -/
theorem Phrase.SpelledBy.toOption_read {phrase : Phrase} {text : String} (spelled : phrase.SpelledBy text) :
    (Json.read text).toOption = phrase.denoted? maximalLevels := by
  obtain ⟨before, spelling, after, opened, spells, closed, same⟩ := spelled
  have delimits : Delimits after := by
    have alone := closed.delimits .nil
    rwa [List.append_nil] at alone
  have nothing : skipBlank after = [] := by
    have skipped := skipBlank_append closed []
    rwa [List.append_nil] at skipped
  have whole := spells.reads maximalLevels opened delimits
  rw [← same] at whole
  rw [Json.read, readChars, toOption_readWhole, whole]
  cases phrase.denoted? maximalLevels with
  | none => rfl
  | some document =>
    simp only [Option.map_some, Option.bind_some, readEnd, nothing]
    rfl

end IntentRollout.Json
