import IntentRollout.Proofs.FiniteNumbers
import IntentRollout.Proofs.ShapedDocuments

/-! The written forms of numbers. Each is made of a few characters and is read up to its end, so a number that is
read from its form alone is read from it inside a document as well. -/

namespace IntentRollout.Json

/-- A number that is read from some characters up to their end. -/
inductive Spelled (number : Number) : List Char → Prop where
  | negative {digits : List Char} (read : readNumber true digits = .ok (number, [])) : Spelled number ('-' :: digits)
  | positive {first : Char} {more : List Char} (digit : isDigit first = true)
    (read : readNumber false (first :: more) = .ok (number, [])) : Spelled number (first :: more)

theorem opens_of_digit {first : Char} (digit : isDigit first = true) : Opens first := by
  intro member
  simp only [List.mem_cons, List.not_mem_nil, or_false] at member
  rcases member with rfl | rfl | rfl | rfl | rfl | rfl | rfl <;> cases digit

theorem Spelled.opens {number : Number} {text : List Char} (spelled : Spelled number text) :
    ∃ first more, text = first :: more ∧ Opens first := by
  cases spelled with
  | @negative digits => exact ⟨'-', digits, rfl, by decide⟩
  | @positive first more digit => exact ⟨first, more, rfl, opens_of_digit digit⟩

theorem readValue_digit (levels : Nat) {blanks : List Char} (skipped : Blanks blanks) {first : Char}
    (digit : isDigit first = true) (rest : List Char) : readValue levels (blanks ++ first :: rest) =
      (readNumber false (first :: rest)).map fun (value, after) => (.number value, after) := by
  have found := skipBlank_blanks skipped (opens_of_digit digit) rest
  rw [readValue.eq_def, found]
  split
  next none => cases none
  iterate 7
    next mark =>
      cases mark
      cases digit
  next other =>
    cases other
    rw [if_pos digit]
    cases readNumber false (first :: rest) <;> rfl

theorem readValue_minus (levels : Nat) {blanks : List Char} (skipped : Blanks blanks) (rest : List Char) :
    readValue levels (blanks ++ '-' :: rest) =
      (readNumber true rest).map fun (value, after) => (.number value, after) := by
  rw [readValue.eq_def, skipBlank_blanks skipped (by decide)]
  simp only
  cases readNumber true rest <;> rfl

theorem Spelled.readValue_eq {number : Number} {text : List Char} (spelled : Spelled number text) (levels : Nat)
    {blanks rest : List Char} (skipped : Blanks blanks) (closes : Closes rest) :
    readValue levels (blanks ++ (text ++ rest)) = .ok (.number number, rest) := by
  cases spelled with
  | negative read =>
    rw [List.cons_append, readValue_minus levels skipped, contained_readNumber.closed read closes]
    rfl
  | positive digit read =>
    have whole := contained_readNumber.closed read closes
    rw [List.cons_append] at whole ⊢
    rw [readValue_digit levels skipped digit, whole]
    rfl

private theorem closes_nil : Closes [] := nofun

private theorem spelled_natural {value : Nat} (fits : value < UInt64.size) :
    Spelled (.integer value) (Nat.toDigits 10 value) := by
  have read := readNumber_written false fits closes_nil
  rw [List.append_nil] at read
  obtain ⟨first, more, written, digit⟩ := opens_toDigits value
  rw [written] at read ⊢
  exact .positive (isDigit_of_isDigit digit) read

theorem spelled_integer {value : Int} (ranged : (Number.integer value).Ranged) :
    Spelled (.integer value) (Number.integer value).written := by
  obtain ⟨low, high⟩ := ranged
  have size : UInt64.size = 2 ^ 64 := rfl
  cases value with
  | ofNat value =>
    rw [Int.ofNat_eq_natCast] at low high ⊢
    have shown : (Number.integer value).written = Nat.toDigits 10 value := prettyChars_natural 0 value
    rw [shown]
    exact spelled_natural (by omega)
  | negSucc value =>
    have shown : (Number.integer (.negSucc value)).written = '-' :: Nat.toDigits 10 (value + 1) := by
      change ("-" ++ toString (value + 1)).toList = _
      rw [String.toList_append]
      simp
    have whole : wholeNumber true (value + 1) = .integer (.negSucc value) := by
      have limit : Nat.pow 2 63 = 2 ^ 63 := rfl
      rw [wholeNumber, if_pos rfl, if_pos (by omega)]
      rfl
    have read := readNumber_written true (by omega : value + 1 < UInt64.size) closes_nil
    rw [List.append_nil, whole] at read
    rw [shown]
    exact .negative read

def Numeral (character : Char) : Prop := isDigit character = true ∨ character ∈ ['.', '-', '+', 'e']

def Numerals (characters : List Char) : Prop := ∀ character ∈ characters, Numeral character

theorem Numerals.append {first rest : List Char} (one : Numerals first) (other : Numerals rest) :
    Numerals (first ++ rest) := List.forall_mem_append.mpr ⟨one, other⟩

theorem Numerals.cons {first : Char} {rest : List Char} (one : Numeral first) (other : Numerals rest) :
    Numerals (first :: rest) := List.forall_mem_cons.mpr ⟨one, other⟩

private theorem numerals_toDigits (value : Nat) : Numerals (Nat.toDigits 10 value) := fun _ member =>
  .inl (isDigit_of_isDigit (Nat.isDigit_of_mem_toDigits (by decide) (by decide) member))

instance (character : Char) : Decidable (Numeral character) :=
  inferInstanceAs (Decidable (isDigit character = true ∨ character ∈ ['.', '-', '+', 'e']))

instance (characters : List Char) : Decidable (Numerals characters) :=
  List.decidableBAll Numeral characters

private theorem numerals_zeros (count : Nat) : Numerals (List.replicate count '0') := by
  intro character member
  rw [List.eq_of_mem_replicate member]
  decide

private theorem numerals_positional (decimal : Decimal) : Numerals decimal.positional.toList := by
  have digits := numerals_toDigits decimal.coefficient
  simp only [Decimal.positional]
  split
  · rw [String.toList_ofList]
    exact digits.append (numerals_zeros _)
  · split
    · rw [String.toList_ofList]
      exact (Numerals.append (fun _ member => digits _ (List.mem_of_mem_take member))
        (.cons (by decide) fun _ member => digits _ (List.mem_of_mem_drop member)))
    · rw [String.toList_ofList]
      exact (Numerals.cons (by decide) (.cons (by decide) (numerals_zeros _))).append digits

private theorem numerals_scientific (decimal : Decimal) : Numerals decimal.scientific.toList := by
  have digits := numerals_toDigits decimal.coefficient
  have power (value : Nat) : Numerals (toString value).toList := by
    simpa using numerals_toDigits value
  simp only [Decimal.scientific, String.toList_append]
  refine (Numerals.append ?_ ?_).append (power _)
  · cases written : Nat.toDigits 10 decimal.coefficient with
    | nil => decide
    | cons digit more =>
      rw [written] at digits
      obtain ⟨one, others⟩ := List.forall_mem_cons.mp digits
      cases more with
      | nil => simpa using Numerals.cons one (by decide)
      | cons next more =>
        rw [String.toList_ofList]
        exact .cons one (.cons (by decide) others)
  · split <;> decide

private theorem numerals_exchangeText (value : Binary64) : Numerals value.exchangeText.toList := by
  have sign : Numerals (if value.negative then "-" else "").toList := by split <;> decide
  simp only [Binary64.exchangeText]
  split
  · rw [String.toList_append]
    exact sign.append (by decide)
  · split
    · rw [String.toList_append, String.toList_append]
      refine (sign.append (numerals_positional _)).append ?_
      split <;> decide
    · rw [String.toList_append]
      exact sign.append (numerals_scientific _)

/-- Behind a number nothing is skipped. -/
theorem skipBlank_numerals {text : List Char} (numerals : Numerals text) (nothing : skipBlank text = []) : text = [] := by
  cases text with
  | nil => rfl
  | cons first rest =>
    have opens : Opens first := by
      rcases numerals first List.mem_cons_self with digit | mark
      · exact opens_of_digit digit
      · simp only [List.mem_cons, List.not_mem_nil, or_false] at mark
        rcases mark with rfl | rfl | rfl | rfl <;> decide
    rw [skipBlank_cons opens] at nothing
    cases nothing

theorem readWhole_eq_ok {α : Type} {readPart : List Char → Except Failure (α × List Char)} {characters : List Char}
    {value : α} (done : readWhole readPart characters = .ok value) :
    ∃ left, readPart characters = .ok (value, left) ∧ skipBlank left = [] := by
  rw [readWhole] at done
  split at done
  next whole =>
    cases done
    obtain ⟨⟨taken, left⟩, read, ends⟩ := bind_eq_ok.mp whole
    simp only [readEnd] at ends
    split at ends
    next nothing =>
      cases ends
      exact ⟨left, read, nothing⟩
    · cases ends
  · cases done

/-- A number that is read from its text is spelled by it. -/
theorem spelled_of_read {number : Number} {text : List Char} (numerals : Numerals text)
    (done : readChars text = .ok (.number number)) : Spelled number text := by
  obtain ⟨left, read, nothing⟩ := readWhole_eq_ok done
  have all {negative : Bool} {digits : List Char} (known : Numerals digits)
      (read : readNumber negative digits = .ok (number, left)) : readNumber negative digits = .ok (number, []) := by
    have none : left = [] := skipBlank_numerals
      (fun _ member => known _ ((contained_readNumber.leaves read).mem member)) nothing
    rwa [none] at read
  cases text with
  | nil =>
    rw [readValue.eq_def] at read
    cases read
  | cons first more =>
    obtain ⟨one, others⟩ := List.forall_mem_cons.mp numerals
    rcases one with digit | mark
    · rw [← List.nil_append (first :: more), readValue_digit _ .nil digit, map_eq_ok] at read
      obtain ⟨⟨taken, after⟩, read, same⟩ := read
      cases same
      exact .positive digit (all numerals read)
    · simp only [List.mem_cons, List.not_mem_nil, or_false] at mark
      rcases mark with rfl | rfl | rfl | rfl
      · rw [readValue.eq_def] at read
        cases read
      · rw [← List.nil_append ('-' :: more), readValue_minus _ .nil, map_eq_ok] at read
        obtain ⟨⟨taken, after⟩, read, same⟩ := read
        cases same
        exact .negative (all others read)
      · rw [readValue.eq_def] at read
        cases read
      · rw [readValue.eq_def] at read
        cases read

theorem spelled_float {value : Binary64} (kept : read value.exchangeText = .ok (.number (.float value))) :
    Spelled (.float value) (Number.float value).written :=
  spelled_of_read (numerals_exchangeText value) kept

theorem Spelled.readBy {number : Number} (spelled : Spelled number number.written) (levels : Nat) :
    ReadBy (readValue levels) (.number number) where
  opens _ := spelled.opens
  reads _ _ _ skipped closes := spelled.readValue_eq levels skipped closes

end IntentRollout.Json
