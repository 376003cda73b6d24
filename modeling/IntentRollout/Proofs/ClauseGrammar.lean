import IntentRollout.Slo.Constraint

/-! The grammar of a clause: an identifier, an operator and a decimal number, with optional white space
between them. The readers of the tokens find such a shape whenever there is one, and no clause has two. -/

namespace IntentRollout.Slo

def Blanks (characters : List Char) : Prop :=
  ∀ character ∈ characters, blank character = true

def Digits (characters : List Char) : Prop :=
  ∀ character ∈ characters, character.isDigit = true

/-- A letter or an underscore, and any letters, digits and underscores. -/
inductive Identifier : List Char → Prop where
  | spelled {first : Char} {rest : List Char} (starts : first.isAlpha = true ∨ first = '_')
      (continues : ∀ character ∈ rest, character.isAlphanum = true ∨ character = '_') :
      Identifier (first :: rest)

inductive Unsigned : List Char → List Char → List Char → Prop where
  | whole {whole : List Char} (nonempty : whole ≠ []) (digits : Digits whole) : Unsigned whole whole []
  | pointed {whole fraction : List Char} (nonempty : whole ≠ []) (digits : Digits whole)
      (more : Digits fraction) : Unsigned (whole ++ '.' :: fraction) whole fraction
  | fraction {fraction : List Char} (nonempty : fraction ≠ []) (digits : Digits fraction) :
      Unsigned ('.' :: fraction) [] fraction

/-- A number with an optional sign, and no exponent. -/
inductive Decimal : List Char → Numeral → Prop where
  | bare {text whole fraction : List Char} (number : Unsigned text whole fraction) :
      Decimal text ⟨false, whole, fraction⟩
  | plus {text whole fraction : List Char} (number : Unsigned text whole fraction) :
      Decimal ('+' :: text) ⟨false, whole, fraction⟩
  | minus {text whole fraction : List Char} (number : Unsigned text whole fraction) :
      Decimal ('-' :: text) ⟨true, whole, fraction⟩

/-- A clause, and the metric, the operator and the number that it is written with. -/
inductive Shaped : List Char → List Char → Operator → List Char → Numeral → Prop where
  | spelled {metric before after spelling : List Char} {operator : Operator} {numeral : Numeral}
      (identifier : Identifier metric) (left : Blanks before) (right : Blanks after)
      (decimal : Decimal spelling numeral) :
      Shaped (metric ++ (before ++ (operator.symbol.toList ++ (after ++ spelling)))) metric operator spelling
        numeral

section Runs

variable {member : Char → Bool} {run rest : List Char}

private theorem dropWhile_of_stops (stops : ∀ next ∈ rest.head?, member next = false) :
    rest.dropWhile member = rest := by
  cases rest with
  | nil => rfl
  | cons next rest => exact List.dropWhile_cons_of_neg (by simp [stops next rfl])

theorem dropWhile_run (all : ∀ character ∈ run, member character = true)
    (stops : ∀ next ∈ rest.head?, member next = false) : (run ++ rest).dropWhile member = rest := by
  rw [List.dropWhile_append_of_pos all, dropWhile_of_stops stops]

private theorem takeWhile_run (all : ∀ character ∈ run, member character = true)
    (stops : ∀ next ∈ rest.head?, member next = false) : (run ++ rest).takeWhile member = run := by
  rw [List.takeWhile_append_of_pos all]
  cases rest with
  | nil => simp
  | cons next rest => simp [stops next rfl]

theorem stops_dropWhile (text : List Char) : ∀ next ∈ (text.dropWhile member).head?, member next = false := by
  intro next first
  have stopped := List.head?_dropWhile_not member text
  rw [Option.mem_def.mp first] at stopped
  simpa using stopped

end Runs

private theorem continuesMetric_eq_true {character : Char} :
    continuesMetric character = true ↔ character.isAlphanum = true ∨ character = '_' := by
  simp [continuesMetric]

private theorem symbol_starts (operator : Operator) :
    ∃ mark marks, operator.symbol.toList = mark :: marks ∧ blank mark = false ∧ continuesMetric mark = false := by
  cases operator <;> exact ⟨_, _, rfl, rfl, rfl⟩

private theorem takeMetric?_eq_some {text metric rest : List Char} :
    takeMetric? text = some (metric, rest) ↔
      text = metric ++ rest ∧ Identifier metric ∧ ∀ next ∈ rest.head?, continuesMetric next = false := by
  constructor
  · intro taken
    cases text with
    | nil => cases taken
    | cons first text =>
      rw [takeMetric?] at taken
      split at taken
      next starts =>
        cases taken
        refine ⟨?_, .spelled (by simpa [startsMetric] using starts) ?_, stops_dropWhile text⟩
        · rw [List.cons_append, List.takeWhile_append_dropWhile]
        · intro character member
          exact continuesMetric_eq_true.mp (List.all_eq_true.mp List.all_takeWhile character member)
      next => cases taken
  · rintro ⟨rfl, ⟨starts, continues⟩, stops⟩
    have all := fun character member => continuesMetric_eq_true.mpr (continues character member)
    rw [List.cons_append, takeMetric?, if_pos (by simpa [startsMetric] using starts), takeWhile_run all stops,
      dropWhile_run all stops]

private theorem dropSymbol?_eq_some {symbol text rest : List Char} :
    dropSymbol? symbol text = some rest ↔ text = symbol ++ rest := by
  induction symbol generalizing text with
  | nil => simp [dropSymbol?]
  | cons mark marks ih =>
    cases text with
    | nil => simp [dropSymbol?]
    | cons character text =>
      rw [dropSymbol?, List.cons_append, List.cons.injEq]
      split
      next same => rw [ih, and_iff_right same]
      next other => simp [other]

private theorem of_takeOperator? {text rest : List Char} {operator : Operator}
    (taken : takeOperator? text = some (operator, rest)) : text = operator.symbol.toList ++ rest := by
  obtain ⟨tried, _, found⟩ := List.exists_of_findSome?_eq_some taken
  obtain ⟨left, dropped, same⟩ := Option.map_eq_some_iff.mp found
  cases same
  exact dropSymbol?_eq_some.mp dropped

/-- A short symbol is not the beginning of a longer one. -/
theorem takeOperator?_symbol (operator : Operator) {rest : List Char} (free : rest.head? ≠ some '=') :
    takeOperator? (operator.symbol.toList ++ rest) = some (operator, rest) := by
  cases rest with
  | nil => cases operator <;> rfl
  | cons next rest =>
    have other : next ≠ '=' := fun same => free (by rw [same]; rfl)
    cases operator <;> simp [takeOperator?, Operator.all, Operator.symbol, dropSymbol?, other]

/-- White space lies outside the visible ASCII characters. -/
theorem blank_eq_false {character : Char} (low : 0x20 < character.toNat) (high : character.toNat < 0x85) :
    blank character = false := by
  simp only [blank, Bool.or_eq_false_iff, Bool.and_eq_false_iff, decide_eq_false_iff_not]
  omega

private theorem isAlphanum_code {character : Char} (alphanumeric : character.isAlphanum = true) :
    0x20 < character.toNat ∧ character.toNat < 0x85 := by
  change ((decide (65 ≤ character.val ∧ character.val ≤ 90) || (97 ≤ character.val && character.val ≤ 122)) ||
    (48 ≤ character.val && character.val ≤ 57)) = true at alphanumeric
  simp only [Bool.or_eq_true, Bool.and_eq_true, decide_eq_true_eq, UInt32.le_iff_toNat_le] at alphanumeric
  change ((65 ≤ character.toNat ∧ character.toNat ≤ 90 ∨ 97 ≤ character.toNat ∧ character.toNat ≤ 122) ∨
    48 ≤ character.toNat ∧ character.toNat ≤ 57) at alphanumeric
  omega

theorem not_blank_of_continues {character : Char}
    (continues : character.isAlphanum = true ∨ character = '_') : blank character = false := by
  rcases continues with alphanumeric | rfl
  · obtain ⟨low, high⟩ := isAlphanum_code alphanumeric
    exact blank_eq_false low high
  · rfl

private theorem not_blank_of_isDigit {character : Char} (digit : character.isDigit = true) : blank character = false :=
  not_blank_of_continues (.inl (by simp [Char.isAlphanum, digit]))

private theorem not_continuesMetric_of_blank {character : Char} (white : blank character = true) :
    continuesMetric character = false := by
  apply eq_false_of_ne_true
  intro continues
  rw [not_blank_of_continues (continuesMetric_eq_true.mp continues)] at white
  cases white

theorem blanks_takeWhile (text : List Char) : Blanks (text.takeWhile blank) :=
  List.all_eq_true.mp List.all_takeWhile

theorem Blanks.head {P : Char → Prop} {run rest : List Char} {first : Char} (blanks : Blanks run)
    (white : ∀ character, blank character = true → P character) (next : P first) :
    ∀ character ∈ (run ++ first :: rest).head?, P character := by
  intro character head
  cases run with
  | nil =>
    cases head
    exact next
  | cons here run =>
    cases head
    exact white _ (blanks _ List.mem_cons_self)

def continueNumeral? (negative : Bool) (whole : List Char) : List Char → Option Numeral
  | [] => if whole.isEmpty then none else some ⟨negative, whole, []⟩
  | '.' :: fraction =>
    if fraction.all Char.isDigit && !(whole.isEmpty && fraction.isEmpty) then some ⟨negative, whole, fraction⟩
    else none
  | _ => none

def readUnsigned? (negative : Bool) (text : List Char) : Option Numeral :=
  continueNumeral? negative (text.takeWhile Char.isDigit) (text.dropWhile Char.isDigit)

private theorem readNumeral?_minus (text : List Char) : readNumeral? ('-' :: text) = readUnsigned? true text := rfl

private theorem readNumeral?_plus (text : List Char) : readNumeral? ('+' :: text) = readUnsigned? false text := rfl

private theorem readNumeral?_bare {text : List Char} (unsigned : ∀ first ∈ text.head?, first ≠ '-' ∧ first ≠ '+') :
    readNumeral? text = readUnsigned? false text := by
  unfold readNumeral?
  split
  next negative digits signed =>
    split at signed
    next => exact absurd rfl (unsigned _ rfl).1
    next => exact absurd rfl (unsigned _ rfl).2
    next => cases signed; rfl

private theorem readUnsigned?_run {negative : Bool} {whole rest : List Char} (digits : Digits whole)
    (stops : ∀ next ∈ rest.head?, next.isDigit = false) :
    readUnsigned? negative (whole ++ rest) = continueNumeral? negative whole rest := by
  rw [readUnsigned?, takeWhile_run digits stops, dropWhile_run digits stops]

private theorem continueNumeral?_point {negative : Bool} {whole fraction : List Char} {numeral : Numeral} :
    continueNumeral? negative whole ('.' :: fraction) = some numeral ↔
      Digits fraction ∧ (whole ≠ [] ∨ fraction ≠ []) ∧ numeral = ⟨negative, whole, fraction⟩ := by
  have all : fraction.all Char.isDigit = true ↔ Digits fraction := List.all_eq_true
  rw [continueNumeral?, Option.ite_none_right_eq_some, Bool.and_eq_true, all, and_assoc, Option.some_inj,
    @eq_comm _ _ numeral]
  simp [Classical.or_iff_not_imp_left]

private theorem unsigned_of_continueNumeral? {negative : Bool} {whole rest : List Char} {numeral : Numeral}
    (digits : Digits whole) (read : continueNumeral? negative whole rest = some numeral) :
    ∃ fraction, Unsigned (whole ++ rest) whole fraction ∧ numeral = ⟨negative, whole, fraction⟩ := by
  cases rest with
  | nil =>
    rw [continueNumeral?, Option.ite_none_left_eq_some, List.isEmpty_iff] at read
    obtain ⟨nonempty, same⟩ := read
    cases same
    exact ⟨[], by rw [List.append_nil]; exact .whole nonempty digits, rfl⟩
  | cons point fraction =>
    by_cases same : point = '.'
    · subst same
      obtain ⟨more, some, rfl⟩ := continueNumeral?_point.mp read
      refine ⟨fraction, ?_, rfl⟩
      by_cases empty : whole = []
      · subst empty
        exact .fraction (some.resolve_left (· rfl)) more
      · exact .pointed empty digits more
    · unfold continueNumeral? at read
      split at read
      next rest => cases rest
      next rest => cases rest; exact absurd rfl same
      next => cases read

private theorem readUnsigned?_eq_some {negative : Bool} {text : List Char} {numeral : Numeral} :
    readUnsigned? negative text = some numeral ↔
      ∃ whole fraction, Unsigned text whole fraction ∧ numeral = ⟨negative, whole, fraction⟩ := by
  constructor
  · intro read
    have digits : Digits (text.takeWhile Char.isDigit) := List.all_eq_true.mp List.all_takeWhile
    obtain ⟨fraction, number, same⟩ := unsigned_of_continueNumeral? digits read
    rw [List.takeWhile_append_dropWhile] at number
    exact ⟨_, fraction, number, same⟩
  · rintro ⟨whole, fraction, number, rfl⟩
    cases number with
    | whole nonempty digits =>
      have read : readUnsigned? negative (_ ++ []) = _ := readUnsigned?_run digits nofun
      rw [List.append_nil] at read
      rw [read, continueNumeral?, if_neg (by rwa [List.isEmpty_iff])]
    | pointed nonempty digits more =>
      rw [readUnsigned?_run digits (by rintro _ ⟨⟩; rfl)]
      exact continueNumeral?_point.mpr ⟨more, .inl nonempty, rfl⟩
    | fraction nonempty digits =>
      exact continueNumeral?_point.mpr ⟨digits, .inr nonempty, rfl⟩

/-- A number without a sign starts with a digit or with the point. -/
theorem Unsigned.starts {text whole fraction : List Char} (number : Unsigned text whole fraction) :
    ∃ first rest, text = first :: rest ∧ (first.isDigit = true ∨ first = '.') := by
  cases number with
  | whole nonempty digits =>
    obtain ⟨first, rest, rfl⟩ := List.exists_cons_of_ne_nil nonempty
    exact ⟨first, rest, rfl, .inl (digits first List.mem_cons_self)⟩
  | pointed nonempty digits =>
    obtain ⟨first, rest, rfl⟩ := List.exists_cons_of_ne_nil nonempty
    exact ⟨first, _, rfl, .inl (digits first List.mem_cons_self)⟩
  | fraction => exact ⟨'.', _, rfl, .inr rfl⟩

theorem Unsigned.signless {text whole fraction : List Char} (number : Unsigned text whole fraction) :
    ∀ first ∈ text.head?, first ≠ '-' ∧ first ≠ '+' := by
  obtain ⟨first, rest, rfl, starts⟩ := number.starts
  intro _ head
  cases head
  rcases starts with digit | rfl
  · constructor
    · rintro rfl
      cases digit
    · rintro rfl
      cases digit
  · decide

theorem Decimal.starts {text : List Char} {numeral : Numeral} (decimal : Decimal text numeral) :
    ∃ first rest, text = first :: rest ∧ blank first = false ∧ first ≠ '=' := by
  cases decimal with
  | bare number =>
    obtain ⟨first, rest, rfl, digit | rfl⟩ := number.starts
    · exact ⟨first, rest, rfl, not_blank_of_isDigit digit, by rintro rfl; cases digit⟩
    · exact ⟨'.', rest, rfl, rfl, by decide⟩
  | plus => exact ⟨'+', _, rfl, rfl, by decide⟩
  | minus => exact ⟨'-', _, rfl, rfl, by decide⟩

private theorem readNumeral?_eq_some {text : List Char} {numeral : Numeral} :
    readNumeral? text = some numeral ↔ Decimal text numeral := by
  constructor
  · intro read
    cases text with
    | nil => cases read
    | cons first text =>
      by_cases minus : first = '-'
      · subst minus
        rw [readNumeral?_minus] at read
        obtain ⟨whole, fraction, number, rfl⟩ := readUnsigned?_eq_some.mp read
        exact .minus number
      · by_cases plus : first = '+'
        · subst plus
          rw [readNumeral?_plus] at read
          obtain ⟨whole, fraction, number, rfl⟩ := readUnsigned?_eq_some.mp read
          exact .plus number
        · rw [readNumeral?_bare (by rintro _ ⟨⟩; exact ⟨minus, plus⟩)] at read
          obtain ⟨whole, fraction, number, rfl⟩ := readUnsigned?_eq_some.mp read
          exact .bare number
  · intro decimal
    cases decimal with
    | bare number =>
      rw [readNumeral?_bare number.signless]
      exact readUnsigned?_eq_some.mpr ⟨_, _, number, rfl⟩
    | plus number =>
      rw [readNumeral?_plus]
      exact readUnsigned?_eq_some.mpr ⟨_, _, number, rfl⟩
    | minus number =>
      rw [readNumeral?_minus]
      exact readUnsigned?_eq_some.mpr ⟨_, _, number, rfl⟩

def tokens? (clause : List Char) : Option (List Char × Operator × List Char × Numeral) := do
  let (metric, rest) ← takeMetric? clause
  let (operator, rest) ← takeOperator? (rest.dropWhile blank)
  let spelling := rest.dropWhile blank
  let numeral ← readNumeral? spelling
  some (metric, operator, spelling, numeral)

private theorem readClause_eq (clause : List Char) :
    readClause clause = match tokens? clause with
      | none => .error (.malformed (String.ofList clause))
      | some (metric, operator, spelling, numeral) =>
        if numeral.value.isFinite then .ok ⟨String.ofList metric, operator, numeral.value⟩
        else .error (.overflow (String.ofList clause) (String.ofList spelling)) := rfl

/-- Each token ends where the next one starts: no character there could belong to both. -/
theorem tokens?_eq_some {clause metric spelling : List Char} {operator : Operator} {numeral : Numeral} :
    tokens? clause = some (metric, operator, spelling, numeral) ↔
      Shaped clause metric operator spelling numeral := by
  constructor
  · intro found
    obtain ⟨⟨_, rest⟩, named, found⟩ := Option.bind_eq_some_iff.mp found
    obtain ⟨⟨_, left⟩, related, found⟩ := Option.bind_eq_some_iff.mp found
    obtain ⟨_, spelled, same⟩ := Option.bind_eq_some_iff.mp found
    cases same
    obtain ⟨rfl, identifier, _⟩ := takeMetric?_eq_some.mp named
    have shape : Shaped _ _ operator _ _ := .spelled identifier (blanks_takeWhile rest) (blanks_takeWhile left)
      (readNumeral?_eq_some.mp spelled)
    rwa [List.takeWhile_append_dropWhile, ← of_takeOperator? related, List.takeWhile_append_dropWhile] at shape
  · intro shape
    obtain @⟨_, before, after, _, _, _, identifier, left, right, decimal⟩ := shape
    obtain ⟨digit, digits, rfl, visible, other⟩ := decimal.starts
    obtain ⟨mark, marks, symbol, shown, outside⟩ := symbol_starts operator
    have number : (after ++ digit :: digits).dropWhile blank = digit :: digits :=
      dropWhile_run right (by rintro _ ⟨⟩; exact visible)
    have related : takeOperator? (operator.symbol.toList ++ (after ++ digit :: digits)) =
        some (operator, after ++ digit :: digits) := by
      apply takeOperator?_symbol
      intro equals
      apply right.head (P := (· ≠ '=')) _ other '=' equals rfl
      rintro _ white rfl
      cases white
    have opened : (before ++ (operator.symbol.toList ++ (after ++ digit :: digits))).dropWhile blank =
        operator.symbol.toList ++ (after ++ digit :: digits) := by
      rw [symbol]
      exact dropWhile_run left (by rintro _ ⟨⟩; exact shown)
    have named : takeMetric? (metric ++ (before ++ (operator.symbol.toList ++ (after ++ digit :: digits)))) =
        some (metric, before ++ (operator.symbol.toList ++ (after ++ digit :: digits))) := by
      refine takeMetric?_eq_some.mpr ⟨rfl, identifier, ?_⟩
      rw [symbol]
      exact left.head (fun _ white => not_continuesMetric_of_blank white) outside
    rw [tokens?, named]
    simp only [Option.bind_eq_bind, Option.bind_some, opened, related, number, readNumeral?_eq_some.mpr decimal]

/-- No clause can be taken apart in two ways. -/
theorem Shaped.unique {clause metric metric' spelling spelling' : List Char} {operator operator' : Operator}
    {numeral numeral' : Numeral} (first : Shaped clause metric operator spelling numeral)
    (second : Shaped clause metric' operator' spelling' numeral') :
    metric = metric' ∧ operator = operator' ∧ spelling = spelling' ∧ numeral = numeral' := by
  have same := (tokens?_eq_some.mpr first).symm.trans (tokens?_eq_some.mpr second)
  cases same
  exact ⟨rfl, rfl, rfl, rfl⟩

inductive Accepts (clause : List Char) : Constraint → Prop where
  | stated {metric spelling : List Char} {operator : Operator} {numeral : Numeral}
      (shape : Shaped clause metric operator spelling numeral) (finite : numeral.value.isFinite = true) :
      Accepts clause ⟨String.ofList metric, operator, numeral.value⟩

/-- A clause that states none, and why. -/
inductive Refuses (clause : List Char) : Fault → Prop where
  | malformed (shapeless : ∀ metric operator spelling numeral, ¬ Shaped clause metric operator spelling numeral) :
      Refuses clause (.malformed (String.ofList clause))
  | overflow {metric spelling : List Char} {operator : Operator} {numeral : Numeral}
      (shape : Shaped clause metric operator spelling numeral) (infinite : numeral.value.isFinite = false) :
      Refuses clause (.overflow (String.ofList clause) (String.ofList spelling))

theorem readClause_eq_ok {clause : List Char} {constraint : Constraint} :
    readClause clause = .ok constraint ↔ Accepts clause constraint := by
  rw [readClause_eq]
  constructor
  · intro read
    split at read
    next => cases read
    next metric operator spelling numeral found =>
      split at read
      next finite =>
        cases read
        exact .stated (tokens?_eq_some.mp found) finite
      next => cases read
  · rintro ⟨shape, finite⟩
    rw [tokens?_eq_some.mpr shape]
    exact if_pos finite

theorem readClause_eq_error {clause : List Char} {fault : Fault} :
    readClause clause = .error fault ↔ Refuses clause fault := by
  rw [readClause_eq]
  constructor
  · intro read
    split at read
    next none =>
      cases read
      apply Refuses.malformed
      intro metric operator spelling numeral shape
      rw [tokens?_eq_some.mpr shape] at none
      cases none
    next metric operator spelling numeral found =>
      split at read
      next => cases read
      next infinite =>
        cases read
        exact .overflow (tokens?_eq_some.mp found) (eq_false_of_ne_true infinite)
  · intro refused
    cases refused with
    | malformed shapeless =>
      cases found : tokens? clause with
      | none => rfl
      | some tokens => exact absurd (tokens?_eq_some.mp found) (shapeless _ _ _ _)
    | overflow shape infinite =>
      rw [tokens?_eq_some.mpr shape]
      exact if_neg (ne_true_of_eq_false infinite)

end IntentRollout.Slo
