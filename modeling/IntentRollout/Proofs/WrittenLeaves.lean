import IntentRollout.Json.Printer
import IntentRollout.Json.Reader
import IntentRollout.Proofs.ListResults

/-! Texts and natural numbers are read as they were written. An escape is undone in the step that meets it, and
the digits of a number below the limit are all taken. -/

namespace IntentRollout.Json

private theorem hexDigit?_digitChar : ∀ digit < 16, hexDigit? (Nat.digitChar digit) = some digit := by decide

private theorem hexDigit?_zero : hexDigit? '0' = some 0 := by decide

/-- The escape of a control character stands for that character. -/
theorem readUnicode_of_control {character : Char} (control : character.toNat < 32) (rest : List Char) :
    readUnicode ('0' :: '0' :: Nat.digitChar (character.toNat / 16) :: Nat.digitChar (character.toNat % 16) :: rest) =
      .ok (character, rest) := by
  have high := hexDigit?_digitChar (character.toNat / 16) (by omega)
  have low := hexDigit?_digitChar (character.toNat % 16) (by omega)
  have unit : ((0 * 16 + 0) * 16 + character.toNat / 16) * 16 + character.toNat % 16 = character.toNat := by omega
  have hex : readHex ('0' :: '0' :: Nat.digitChar (character.toNat / 16) ::
      Nat.digitChar (character.toNat % 16) :: rest) = .ok (character.toNat, rest) := by
    rw [readHex, hexDigit?_zero, high, low]
    dsimp only
    rw [unit]
  have trailing : trailingSurrogate character.toNat = false := by
    simp only [trailingSurrogate, Bool.and_eq_false_imp, decide_eq_true_eq, decide_eq_false_iff_not]
    omega
  have leading : leadingSurrogate character.toNat = false := by
    simp only [leadingSurrogate, Bool.and_eq_false_imp, decide_eq_true_eq, decide_eq_false_iff_not]
    omega
  rw [readUnicode, hex]
  simp only [bind, Except.bind, trailing, leading, Bool.false_eq_true, if_false, Char.ofNat_toNat]

/-- One step takes one character, however it is written. -/
theorem readTextFrom_escaped (steps : Nat) (taken : List Char) (character : Char) (rest : List Char) :
    readTextFrom (steps + 1) taken (escaped character ++ rest) = readTextFrom steps (character :: taken) rest := by
  rw [escaped.eq_def]
  split
  iterate 7 rfl
  next mark backslash _ _ _ _ _ =>
    split
    next control =>
      simp only [List.cons_append, List.nil_append, readTextFrom, readEscape, readUnicode_of_control control rest]
      rfl
    next visible =>
      rw [List.singleton_append, readTextFrom, if_neg mark, if_neg backslash, if_neg visible]

private theorem readTextFrom_written {steps : Nat} (characters taken rest : List Char)
    (enough : characters.length < steps) :
    readTextFrom steps taken (characters.flatMap escaped ++ '"' :: rest) =
      .ok (String.ofList (taken.reverse ++ characters), rest) := by
  induction characters generalizing steps taken with
  | nil =>
    obtain ⟨steps, rfl⟩ := Nat.exists_eq_succ_of_ne_zero (Nat.ne_of_gt enough)
    simp [readTextFrom]
  | cons character characters ih =>
    obtain ⟨steps, rfl⟩ := Nat.exists_eq_succ_of_ne_zero (Nat.ne_of_gt (Nat.zero_lt_of_lt enough))
    have fewer : characters.length < steps := Nat.lt_of_succ_lt_succ enough
    rw [List.flatMap_cons, List.append_assoc, readTextFrom_escaped, ih (character :: taken) fewer]
    simp

private theorem length_le_escaped (characters : List Char) :
    characters.length ≤ (characters.flatMap escaped).length := by
  induction characters with
  | nil => exact Nat.le_refl 0
  | cons character characters ih =>
    have one : 1 ≤ (escaped character).length := by
      rw [escaped.eq_def]
      split
      iterate 7 decide
      split <;> simp
    rw [List.flatMap_cons, List.length_append, List.length_cons]
    omega

theorem readText_written (text : String) (rest : List Char) :
    readText (text.toList.flatMap escaped ++ '"' :: rest) = .ok (text, rest) := by
  have enough := length_le_escaped text.toList
  rw [readText, readTextFrom_written text.toList [] rest]
  · rw [List.reverse_nil, List.nil_append, String.ofList_toList]
  · rw [List.length_append]
    omega

private theorem digit?_of_isDigit {character : Char} (digit : character.isDigit = true) :
    digit? character = some (character.toNat - '0'.toNat) := by
  simp only [Char.isDigit, ge_iff_le, Bool.and_eq_true, decide_eq_true_eq] at digit
  exact if_pos digit

private theorem ofDigitChars_cons (digit : Char) (digits : List Char) (value : Nat) :
    Nat.ofDigitChars 10 (digit :: digits) value =
      Nat.ofDigitChars 10 digits (value * 10 + (digit.toNat - '0'.toNat)) := by
  rw [Nat.mul_comm]
  rfl

private theorem le_ofDigitChars (digits : List Char) (value : Nat) : value ≤ Nat.ofDigitChars 10 digits value := by
  induction digits generalizing value with
  | nil => exact Nat.le_refl value
  | cons digit digits ih =>
    have later := ih (value * 10 + (digit.toNat - '0'.toNat))
    rw [ofDigitChars_cons]
    omega

/-- All digits are taken if their value stays below the limit. -/
theorem takeDigits_eq {limit : Nat} (digits rest : List Char) (value count : Nat)
    (all : ∀ digit ∈ digits, digit.isDigit = true) (below : Nat.ofDigitChars 10 digits value < limit)
    (ends : startsWithDigit rest = false) :
    takeDigits limit value count (digits ++ rest) =
      (Nat.ofDigitChars 10 digits value, count + digits.length, rest) := by
  induction digits generalizing value count with
  | nil =>
    cases rest with
    | nil => rfl
    | cons next rest =>
      have none : digit? next = none := by simpa [startsWithDigit, isDigit] using ends
      simp [takeDigits, none, Nat.ofDigitChars]
  | cons digit digits ih =>
    rw [List.forall_mem_cons] at all
    rw [ofDigitChars_cons] at below ⊢
    have room := Nat.lt_of_le_of_lt (le_ofDigitChars digits _) below
    rw [List.cons_append, takeDigits, digit?_of_isDigit all.1]
    dsimp only
    rw [if_pos room, ih _ _ all.2 below, List.length_cons]
    congr 2
    omega

/-- A number that is not zero is written without zeros before it. -/
theorem head?_toDigits {value : Nat} (positive : 0 < value) : (Nat.toDigits 10 value).head? ≠ some '0' := by
  induction value using Nat.strongRecOn with
  | ind value ih =>
    by_cases small : value < 10
    · rw [Nat.toDigits_of_lt_base small]
      have digits : ∀ digit < 10, 0 < digit → Nat.digitChar digit ≠ '0' := by decide
      exact fun same => digits value small positive (Option.some_inj.mp same)
    · have large : 10 ≤ value := Nat.le_of_not_lt small
      rw [Nat.toDigits_of_base_le (by decide) large, List.head?_append_of_ne_nil _ Nat.toDigits_ne_nil]
      exact ih (value / 10) (by omega) (by omega)

def Closes (rest : List Char) : Prop := ∀ next ∈ rest.head?, next = ',' ∨ next = '\n'

theorem startsWithDigit_of_closes {rest : List Char} (closes : Closes rest) : startsWithDigit rest = false := by
  cases rest with
  | nil => rfl
  | cons next rest => rcases closes next rfl with rfl | rfl <;> rfl

theorem isDigit_of_isDigit {character : Char} (digit : character.isDigit = true) : isDigit character = true := by
  rw [isDigit, digit?_of_isDigit digit]
  rfl

/-- A digit after a zero does not come in a written number, and none comes after it. -/
theorem not_padded {value : Nat} {first : Char} {more rest : List Char}
    (written : Nat.toDigits 10 value = first :: more) (ends : startsWithDigit rest = false) :
    ¬ (first = '0' ∧ startsWithDigit (more ++ rest) = true) := by
  rintro ⟨rfl, again⟩
  have zero : value = 0 := by
    apply Nat.eq_zero_of_not_pos
    intro positive
    exact head?_toDigits positive (by rw [written]; rfl)
  rw [zero, Nat.toDigits_zero] at written
  cases written
  rw [List.nil_append, ends] at again
  cases again

theorem readNumber_written (negative : Bool) {value : Nat} (fits : value < UInt64.size) {rest : List Char}
    (closes : Closes rest) :
    readNumber negative (Nat.toDigits 10 value ++ rest) = .ok (wholeNumber negative value, rest) := by
  have digits : ∀ digit ∈ Nat.toDigits 10 value, digit.isDigit = true :=
    fun _ member => Nat.isDigit_of_mem_toDigits (by decide) (by decide) member
  have ends := startsWithDigit_of_closes closes
  have below : Nat.ofDigitChars 10 (Nat.toDigits 10 value) 0 < UInt64.size := by
    rwa [Nat.ofDigitChars_ten_toDigits]
  have taken := takeDigits_eq (Nat.toDigits 10 value) rest 0 0 digits below ends
  rw [Nat.ofDigitChars_ten_toDigits] at taken
  cases written : Nat.toDigits 10 value with
  | nil => exact absurd written Nat.toDigits_ne_nil
  | cons first more =>
    rw [written] at taken digits
    rw [List.forall_mem_cons] at digits
    have starts := isDigit_of_isDigit digits.1
    have plain := not_padded written ends
    have none : rest.takeWhile isDigit = [] ∧ rest.dropWhile isDigit = rest := by
      cases rest with
      | nil => exact ⟨rfl, rfl⟩
      | cons next rest =>
        rw [startsWithDigit] at ends
        exact ⟨List.takeWhile_cons_of_neg (by simp [ends]), List.dropWhile_cons_of_neg (by simp [ends])⟩
    rw [List.cons_append] at taken ⊢
    simp only [readNumber, if_neg plain, starts, if_true, taken, none]
    split
    next point => rcases closes _ rfl with same | same <;> cases same
    next point => rcases closes _ rfl with same | same <;> cases same
    next point => rcases closes _ rfl with same | same <;> cases same
    · rfl

end IntentRollout.Json
