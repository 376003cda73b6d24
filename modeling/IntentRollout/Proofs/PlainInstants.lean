import Mathlib.Tactic.IntervalCases
import IntentRollout.Instant
import IntentRollout.Yaml.Scalar

/-! Instants in resource files. The text of an instant stands there without marks around it: a hyphen after the year
keeps it from being read as a number, and nothing in it is notation. -/

namespace IntentRollout

namespace Yaml

variable {characters : List Char}

private theorem hasNeighbours_eq_false {before after : Char → Bool}
    (none : ∀ character ∈ characters, before character = false) :
    hasNeighbours before after characters = false := by
  induction characters with
  | nil => rfl
  | cons first rest ih =>
    rw [List.forall_mem_cons] at none
    cases rest with
    | nil => rfl
    | cons second rest => rw [hasNeighbours, none.1, ih none.2, Bool.false_and, Bool.false_or]

/-- Without white space a colon is a mark only at the end. -/
theorem hasInnerMark_eq_false (blankless : ∀ character ∈ characters, startsBlank [character] = false)
    (last : characters.getLast? ≠ some ':') : hasInnerMark characters = false := by
  induction characters with
  | nil => rfl
  | cons first rest ih =>
    rw [List.forall_mem_cons] at blankless
    rw [hasInnerMark, blankless.1, Bool.false_and, Bool.or_false]
    cases rest with
    | nil =>
      have other : first ≠ ':' := fun same => last (congrArg some same)
      rw [decide_eq_false other]
      rfl
    | cons second rest =>
      have next : startsBlank (second :: rest) = startsBlank [second] := rfl
      rw [next, blankless.2 second List.mem_cons_self, Bool.and_false, Bool.false_or]
      exact ih blankless.2 (by rwa [List.getLast?_cons_cons] at last)

end Yaml

namespace Instant

def digits : List Char := ['0', '1', '2', '3', '4', '5', '6', '7', '8', '9']

def signs : List (List Char) := [[], ['-'], ['+']]

def alphabet : List Char := digits ++ ['-', '+', 'T', ':', 'Z']

theorem mem_digits {character : Char} (digit : character.isDigit = true) : character ∈ digits := by
  have bounds : 48 ≤ character.toNat ∧ character.toNat ≤ 57 := by
    rw [Char.isDigit, Bool.and_eq_true, decide_eq_true_eq, decide_eq_true_eq] at digit
    exact digit
  obtain ⟨low, high⟩ := bounds
  rw [← Char.ofNat_toNat character]
  interval_cases character.toNat <;> decide

theorem isDigit_of_mem_padded {width value : Nat} {character : Char}
    (member : character ∈ (padded width value).toList) : character.isDigit = true := by
  rw [padded, String.toList_ofList, List.mem_append] at member
  rcases member with zero | digit
  · rw [List.eq_of_mem_replicate zero]
    rfl
  · exact Nat.isDigit_of_mem_toDigits (by decide) (by decide) digit

private theorem padded_ne_nil (width value : Nat) : (padded width value).toList ≠ [] := by
  rw [padded, String.toList_ofList]
  exact List.append_ne_nil_of_right_ne_nil _ Nat.toDigits_ne_nil

/-- A year may have a sign, and goes on with a digit. -/
theorem yearText_opens (year : Int) : ∃ sign first more, (yearText year).toList = sign ++ first :: more ∧
    sign ∈ signs ∧ ∀ character ∈ first :: more, character.isDigit = true := by
  have opens (sign : String) (width value : Nat) (known : sign.toList ∈ signs) :
      ∃ front first more, (sign ++ padded width value).toList = front ++ first :: more ∧
        front ∈ signs ∧ ∀ character ∈ first :: more, character.isDigit = true := by
    obtain ⟨first, more, cut⟩ := List.exists_cons_of_ne_nil (padded_ne_nil width value)
    refine ⟨sign.toList, first, more, ?_, known, fun character member => ?_⟩
    · rw [String.toList_append, cut]
    · rw [← cut] at member
      exact isDigit_of_mem_padded member
  rw [yearText]
  split
  · rw [← String.empty_append (s := padded 4 year.toNat)]
    exact opens "" 4 _ (by decide)
  · refine opens _ 4 _ ?_
    split <;> decide

/-- What the text of an instant is made of. -/
theorem text_shape (instant : Instant) : ∃ sign first more rest,
    instant.text.toList = sign ++ first :: (more ++ '-' :: (rest ++ ['Z'])) ∧ sign ∈ signs ∧
      (∀ character ∈ first :: more, character.isDigit = true) ∧ ∀ character ∈ rest, character ∈ alphabet := by
  obtain ⟨sign, first, more, year, known, all⟩ := yearText_opens instant.civil.year
  have number (value : Nat) : ∀ character ∈ (padded 2 value).toList, character ∈ alphabet := fun _ member =>
    List.mem_append_left _ (mem_digits (isDigit_of_mem_padded member))
  have mark {character : Char} (known : character ∈ alphabet) : ∀ other ∈ [character], other ∈ alphabet :=
    List.forall_mem_singleton.mpr known
  refine ⟨sign, first, more, (padded 2 instant.civil.month ++ "-" ++ padded 2 instant.civil.day ++ "T" ++
    padded 2 instant.civil.hour ++ ":" ++ padded 2 instant.civil.minute ++ ":" ++
      padded 2 instant.civil.second).toList, ?_, known, all, ?_⟩
  · simp [text, year]
  · simp only [String.toList_append, List.forall_mem_append]
    exact ⟨⟨⟨⟨⟨⟨⟨⟨number _, mark (by decide)⟩, number _⟩, mark (by decide)⟩, number _⟩, mark (by decide)⟩, number _⟩,
      mark (by decide)⟩, number _⟩

/-- All characters of an instant are of its alphabet, and the last is a `Z`. -/
theorem text_alphabet (instant : Instant) :
    (∀ character ∈ instant.text.toList, character ∈ alphabet) ∧ instant.text.toList.getLast? = some 'Z' := by
  obtain ⟨sign, first, more, rest, shape, known, all, others⟩ := instant.text_shape
  have marks : ∀ sign ∈ signs, sign ⊆ alphabet := by decide
  have whole : instant.text.toList = sign ++ (first :: more) ++ ['-'] ++ rest ++ ['Z'] := by
    rw [shape]
    simp
  rw [whole]
  refine ⟨?_, List.getLast?_concat⟩
  simp only [List.forall_mem_append]
  exact ⟨⟨⟨⟨fun _ member => marks sign known member,
    fun character member => List.mem_append_left _ (mem_digits (all character member))⟩,
    List.forall_mem_singleton.mpr (by decide)⟩, others⟩, List.forall_mem_singleton.mpr (by decide)⟩

/-- The text of an instant tells its second, and not what part of it has gone by. -/
theorem text_congr {one other : Instant} (seconds : one.seconds = other.seconds)
    (leap : 1000000000 ≤ one.nanos ↔ 1000000000 ≤ other.nanos) : one.text = other.text := by
  simp only [text, civil, seconds, leap]

end Instant

namespace Yaml

variable {characters : List Char}

private theorem isBasedInteger_eq_false (none : basedDigits? (withoutSign characters) = none) :
    isBasedInteger characters = false := by
  unfold withoutSign at none
  unfold isBasedInteger
  split at none <;> simp_all

private theorem isPaddedDigits_eq_false (mark : '-' ∈ withoutSign characters) : isPaddedDigits characters = false := by
  rw [isPaddedDigits]
  split
  next next rest cut =>
    rw [cut, List.mem_cons] at mark
    rw [List.all_eq_false]
    exact ⟨'-', mark.resolve_left (by decide), by decide⟩
  · rfl

private theorem isDecimal_eq_false {whole rest : List Char} (digits : ∀ character ∈ whole, character.isDigit = true)
    (cut : withoutSign characters = whole ++ '-' :: rest) : isDecimal characters = false := by
  have stops : (whole ++ '-' :: rest).dropWhile Char.isDigit = '-' :: rest := by
    rw [List.dropWhile_append_of_pos digits]
    rfl
  simp [isDecimal, cut, stops]

/-- Neither a digit nor a sign before it is notation. -/
theorem startsWithMark_append {sign rest : List Char} {first : Char} (known : sign ∈ Instant.signs)
    (digit : first ∈ Instant.digits) : startsWithMark (sign ++ first :: rest) = false := by
  simp only [Instant.digits, Instant.signs, List.mem_cons, List.not_mem_nil, or_false] at known digit
  rcases known with rfl | rfl | rfl
  all_goals rcases digit with rfl | rfl | rfl | rfl | rfl | rfl | rfl | rfl | rfl | rfl
  all_goals rfl

private theorem withoutSign_append {sign rest : List Char} {first : Char} (known : sign ∈ Instant.signs)
    (digit : first ∈ Instant.digits) : withoutSign (sign ++ first :: rest) = first :: rest := by
  simp only [Instant.digits, Instant.signs, List.mem_cons, List.not_mem_nil, or_false] at known digit
  rcases known with rfl | rfl | rfl
  all_goals rcases digit with rfl | rfl | rfl | rfl | rfl | rfl | rfl | rfl | rfl | rfl
  all_goals rfl

private theorem basedDigits?_eq_none {first second : Char} {rest : List Char} (known : second ∈ Instant.alphabet) :
    basedDigits? (first :: second :: rest) = none := by
  have foreign : 'x' ∉ Instant.alphabet ∧ 'o' ∉ Instant.alphabet ∧ 'b' ∉ Instant.alphabet := by decide
  rw [basedDigits?.eq_def]
  split
  next cut =>
    cases cut
    exact absurd known foreign.1
  next cut =>
    cases cut
    exact absurd known foreign.2.1
  next cut =>
    cases cut
    exact absurd known foreign.2.2
  · rfl

/-- No instant is read as another value. -/
theorem readsOtherwise_instant (instant : Instant) : readsOtherwise instant.text.toList = false := by
  have words : ∀ word ∈ reservedWords, word.toList.getLast? ≠ some 'Z' := by decide
  have unreserved : reservedWords.contains (String.ofList instant.text.toList) = false := by
    rw [String.ofList_toList, List.contains_eq_mem, decide_eq_false_iff_not]
    exact fun member => words _ member instant.text_alphabet.2
  obtain ⟨sign, first, more, rest, shape, known, all, _⟩ := instant.text_shape
  have unsigned : withoutSign instant.text.toList = first :: (more ++ '-' :: (rest ++ ['Z'])) := by
    rw [shape]
    exact withoutSign_append known (Instant.mem_digits (all first List.mem_cons_self))
  have unbased : basedDigits? (first :: (more ++ '-' :: (rest ++ ['Z']))) = none := by
    cases more with
    | nil => exact basedDigits?_eq_none (by decide)
    | cons second more =>
      refine basedDigits?_eq_none (List.mem_append_left _ (Instant.mem_digits (all second ?_)))
      exact List.mem_cons_of_mem _ List.mem_cons_self
  rw [readsOtherwise, unreserved, isBasedInteger_eq_false (unsigned ▸ unbased),
    isPaddedDigits_eq_false (by simp [unsigned]), isDecimal_eq_false all (by rw [unsigned]; rfl)]
  rfl

private theorem plainAllowed_instant (instant : Instant) : plainAllowed instant.text.toList = true := by
  obtain ⟨known, last⟩ := instant.text_alphabet
  have kinds : Instant.alphabet.all (fun character => isShown character && !isBreak character &&
      !startsBlank [character] && !isSpace character) = true := by decide
  have kind (character : Char) (member : character ∈ instant.text.toList) : isShown character = true ∧
      isBreak character = false ∧ startsBlank [character] = false ∧ isSpace character = false := by
    simpa [and_assoc] using List.all_eq_true.mp kinds character (known character member)
  have shown : instant.text.toList.any (!isShown ·) = false := by
    simp only [List.any_eq_false, Bool.not_eq_true, Bool.not_eq_false']
    exact fun character member => (kind character member).1
  have whole : instant.text.toList.any isBreak = false := by
    simp only [List.any_eq_false, Bool.not_eq_true]
    exact fun character member => (kind character member).2.1
  have spaceless : hasNeighbours isSpace isBreak instant.text.toList = false :=
    hasNeighbours_eq_false fun character member => (kind character member).2.2.2
  have markless : hasInnerMark instant.text.toList = false := by
    refine hasInnerMark_eq_false (fun character member => (kind character member).2.2.1) ?_
    rw [last]
    decide
  have start : startsWithMark instant.text.toList = false := by
    obtain ⟨sign, first, more, rest, shape, signed, all, _⟩ := instant.text_shape
    rw [shape]
    exact startsWithMark_append signed (Instant.mem_digits (all first List.mem_cons_self))
  have head : instant.text.toList.head? ≠ some ' ' := by
    intro space
    have member := known ' ' (List.mem_of_mem_head? space)
    revert member
    decide
  rw [plainAllowed, needsEscapes, shown, spaceless, whole, start, markless, last, decide_eq_true head]
  rfl

/-- The text of an instant stands in a resource file as it is. -/
theorem scalar_instant (indent : Nat) (instant : Instant) : scalar indent instant.text.toList = instant.text.toList := by
  have oneLine : instant.text.toList.contains '\n' = false := by
    have foreign : '\n' ∉ Instant.alphabet := by decide
    rw [List.contains_eq_mem, decide_eq_false_iff_not]
    exact fun member => foreign (instant.text_alphabet.1 _ member)
  rw [scalar, oneLine, readsOtherwise_instant, plainAllowed_instant]
  rfl

end Yaml

end IntentRollout
