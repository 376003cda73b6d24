import IntentRollout.Proofs.WrittenLeaves

/-! Numbers inside a text. A number is told by its own characters: what closes it is left over, and does not
change what it is. -/

namespace IntentRollout.Json

variable {limit significand count : Nat} {power : Int} {negative : Bool}

/-- A reader of numbers that goes no further than a number does. -/
structure Contained (read : List Char → Except Failure (Number × List Char)) : Prop where
  leaves : ∀ {text value left}, read text = .ok (value, left) → left <:+ text
  closed : ∀ {text value left rest}, read text = .ok (value, left) → Closes rest →
    read (text ++ rest) = .ok (value, left ++ rest)

theorem takeDigits_suffix (limit significand count : Nat) (text : List Char) :
    (takeDigits limit significand count text).2.2 <:+ text := by
  induction text generalizing significand count with
  | nil => exact List.suffix_refl _
  | cons character text ih =>
    rw [takeDigits]
    split
    · exact List.suffix_refl _
    · split
      · exact (ih _ _).trans (List.suffix_cons _ _)
      · exact List.suffix_refl _

theorem takeDigits_append {rest : List Char} (ends : startsWithDigit rest = false) (text : List Char) :
    takeDigits limit significand count (text ++ rest) =
      ((takeDigits limit significand count text).1, (takeDigits limit significand count text).2.1,
        (takeDigits limit significand count text).2.2 ++ rest) := by
  induction text generalizing significand count with
  | nil =>
    cases rest with
    | nil => rfl
    | cons next rest =>
      have none : digit? next = none := by simpa [startsWithDigit, isDigit] using ends
      simp [takeDigits, none]
  | cons character text ih =>
    rw [List.cons_append, takeDigits, takeDigits]
    split
    · rfl
    · split
      · exact ih
      · rfl

private theorem startsWithDigit_append {rest : List Char} (ends : startsWithDigit rest = false) (text : List Char) :
    startsWithDigit (text ++ rest) = startsWithDigit text := by
  cases text with
  | nil => exact ends
  | cons => rfl

private theorem dropDigits {rest : List Char} (ends : startsWithDigit rest = false) :
    rest.takeWhile isDigit = [] ∧ rest.dropWhile isDigit = rest := by
  cases rest with
  | nil => exact ⟨rfl, rfl⟩
  | cons next rest =>
    rw [startsWithDigit] at ends
    exact ⟨List.takeWhile_cons_of_neg (by simp [ends]), List.dropWhile_cons_of_neg (by simp [ends])⟩

theorem dropDigits_append {rest : List Char} (ends : startsWithDigit rest = false) (text : List Char) :
    (text ++ rest).takeWhile isDigit = text.takeWhile isDigit ∧
      (text ++ rest).dropWhile isDigit = text.dropWhile isDigit ++ rest := by
  induction text with
  | nil => exact dropDigits ends
  | cons character text ih =>
    by_cases digit : isDigit character = true
    · simp [digit, ih]
    · simp [digit]

private theorem contained_scaledNumber : Contained (scaledNumber negative significand power) where
  leaves {text value left} done := by
    rw [scaledNumber] at done
    split at done
    · cases done
      exact List.suffix_refl _
    · cases done
  closed {text value left rest} done closes := by
    rw [scaledNumber] at done ⊢
    split at done
    · cases done
      rfl
    · cases done

def readPowerDigits (negative : Bool) (significand : Nat) (power : Int) (down : Bool) (digits : List Char) :
    Except Failure (Number × List Char) :=
  match digits with
  | [] => fail .endInValue [] 0
  | character :: _ =>
    if isDigit character then
      let (written, _, after) := takeDigits (Nat.pow 2 31) 0 0 digits
      if startsWithDigit after then
        if significand ≠ 0 ∧ !down then fail .numberOutOfRange (after.drop 1) 0
        else .ok (signed negative (Binary64.zero false), after.dropWhile isDigit)
      else
        let total : Int := if down then power - written else power + written
        scaledNumber negative significand (max Int32.minValue.toInt (min total Int32.maxValue.toInt)) after
    else fail .invalidNumber digits 1

def powerSign : List Char → Bool × List Char
  | '+' :: digits => (false, digits)
  | '-' :: digits => (true, digits)
  | digits => (false, digits)

theorem readPower_eq (text : List Char) : readPower negative significand power text =
    readPowerDigits negative significand power (powerSign text).1 (powerSign text).2 := rfl

private theorem powerSign_suffix (text : List Char) : (powerSign text).2 <:+ text := by
  rw [powerSign.eq_def]
  split
  · exact List.suffix_cons _ _
  · exact List.suffix_cons _ _
  · exact List.suffix_refl _

private theorem powerSign_append {text : List Char} (filled : text ≠ []) (rest : List Char) :
    powerSign (text ++ rest) = ((powerSign text).1, (powerSign text).2 ++ rest) := by
  cases text with
  | nil => exact absurd rfl filled
  | cons character more =>
    by_cases up : character = '+'
    · subst up
      rfl
    by_cases down : character = '-'
    · subst down
      rfl
    simp [powerSign, up, down]

private theorem contained_readPowerDigits (down : Bool) :
    Contained (readPowerDigits negative significand power down) where
  leaves {text value left} done := by
    cases text with
    | nil => cases done
    | cons character more =>
      have taken := takeDigits_suffix (Nat.pow 2 31) 0 0 (character :: more)
      simp only [readPowerDigits] at done
      split at done
      · split at done
        · split at done
          · cases done
          · cases done
            exact (List.dropWhile_suffix _).trans taken
        · exact (contained_scaledNumber.leaves done).trans taken
      · cases done
  closed {text value left rest} done closes := by
    cases text with
    | nil => cases done
    | cons character more =>
      have ends := startsWithDigit_of_closes closes
      simp only [readPowerDigits] at done
      rw [List.cons_append]
      simp only [readPowerDigits, ← List.cons_append, takeDigits_append ends, startsWithDigit_append ends,
        (dropDigits_append ends _).2]
      split at done
      next digit =>
        rw [if_pos digit]
        split at done
        next long =>
          rw [if_pos long]
          split at done
          · cases done
          next small =>
            cases done
            rw [if_neg small]
        next short =>
          rw [if_neg short]
          exact contained_scaledNumber.closed done closes
      · cases done

private theorem contained_readPower : Contained (readPower negative significand power) where
  leaves {text value left} done := by
    rw [readPower_eq] at done
    exact ((contained_readPowerDigits _).leaves done).trans (powerSign_suffix text)
  closed {text value left rest} done closes := by
    have filled : text ≠ [] := by
      rintro rfl
      cases done
    rw [readPower_eq] at done ⊢
    rw [powerSign_append filled]
    exact (contained_readPowerDigits _).closed done closes

def readPowerMark (negative : Bool) (significand : Nat) (power : Int) (after : List Char) :
    Except Failure (Number × List Char) :=
  match after with
  | 'e' :: more => readPower negative significand power more
  | 'E' :: more => readPower negative significand power more
  | _ => scaledNumber negative significand power after

theorem readPowerMark_of_ne {text : List Char} (small : text.head? ≠ some 'e') (large : text.head? ≠ some 'E') :
    readPowerMark negative significand power text = scaledNumber negative significand power text := by
  rw [readPowerMark.eq_def]
  split
  · exact absurd rfl small
  · exact absurd rfl large
  · rfl

private theorem ne_of_closes {rest : List Char} (closes : Closes rest) {mark : Char} (comma : mark ≠ ',')
    (line : mark ≠ '\n') : rest.head? ≠ some mark := by
  intro same
  rcases closes mark same with rfl | rfl
  · exact comma rfl
  · exact line rfl

private theorem contained_readPowerMark : Contained (readPowerMark negative significand power) where
  leaves {text value left} done := by
    rw [readPowerMark.eq_def] at done
    split at done
    · exact (contained_readPower.leaves done).trans (List.suffix_cons _ _)
    · exact (contained_readPower.leaves done).trans (List.suffix_cons _ _)
    · exact contained_scaledNumber.leaves done
  closed {text value left rest} done closes := by
    cases text with
    | nil =>
      rw [List.nil_append, readPowerMark_of_ne (ne_of_closes closes (by decide) (by decide))
        (ne_of_closes closes (by decide) (by decide))]
      have nothing : scaledNumber negative significand power [] = .ok (value, left) := done
      exact contained_scaledNumber.closed nothing closes
    | cons character more =>
      by_cases small : character = 'e'
      · subst small
        have marked : readPower negative significand power more = .ok (value, left) := done
        exact contained_readPower.closed marked closes
      by_cases large : character = 'E'
      · subst large
        have marked : readPower negative significand power more = .ok (value, left) := done
        exact contained_readPower.closed marked closes
      have plain (text : List Char) : readPowerMark negative significand power (character :: text) =
          scaledNumber negative significand power (character :: text) :=
        readPowerMark_of_ne (by simpa using small) (by simpa using large)
      rw [plain] at done
      rw [List.cons_append, plain]
      exact contained_scaledNumber.closed done closes

theorem readFraction_eq (text : List Char) : readFraction negative significand power text =
    let (significand, count, after) := takeDigits UInt64.size significand 0 text
    if startsWithDigit after then readPowerMark negative significand (power - count) (after.dropWhile isDigit)
    else if count = 0 then
      match after with
      | [] => fail .endInValue [] 0
      | _ => fail .invalidNumber after 1
    else readPowerMark negative significand (power - count) after := rfl

private theorem contained_readFraction : Contained (readFraction negative significand power) where
  leaves {text value left} done := by
    have taken := takeDigits_suffix UInt64.size significand 0 text
    simp only [readFraction_eq] at done
    split at done
    · exact ((contained_readPowerMark.leaves done).trans (List.dropWhile_suffix _)).trans taken
    · split at done
      · split at done <;> cases done
      · exact (contained_readPowerMark.leaves done).trans taken
  closed {text value left rest} done closes := by
    have ends := startsWithDigit_of_closes closes
    simp only [readFraction_eq] at done
    simp only [readFraction_eq, takeDigits_append ends, startsWithDigit_append ends, (dropDigits_append ends _).2]
    split at done
    next long =>
      rw [if_pos long]
      exact contained_readPowerMark.closed done closes
    next short =>
      rw [if_neg short]
      split at done
      · split at done <;> cases done
      next some =>
        rw [if_neg some]
        exact contained_readPowerMark.closed done closes

/-- What comes after the digits before a point, some of which were dropped. -/
def readAfterDigits (negative : Bool) (significand : Nat) (dropped after : List Char) :
    Except Failure (Number × List Char) :=
  match after with
  | '.' :: more => readFraction negative significand dropped.length more
  | 'e' :: more => readPower negative significand dropped.length more
  | 'E' :: more => readPower negative significand dropped.length more
  | after =>
    if dropped.isEmpty then .ok (wholeNumber negative significand, after)
    else scaledNumber negative significand dropped.length after

theorem readNumber_cons (first : Char) (more : List Char) : readNumber negative (first :: more) =
    if first = '0' ∧ startsWithDigit more then fail .invalidNumber more 1
    else if isDigit first then
      let (significand, _, after) := takeDigits UInt64.size 0 0 (first :: more)
      readAfterDigits negative significand (after.takeWhile isDigit) (after.dropWhile isDigit)
    else fail .invalidNumber (first :: more) 1 := rfl

theorem readAfterDigits_of_ne {dropped text : List Char} (point : text.head? ≠ some '.')
    (small : text.head? ≠ some 'e') (large : text.head? ≠ some 'E') :
    readAfterDigits negative significand dropped text =
      if dropped.isEmpty then .ok (wholeNumber negative significand, text)
      else scaledNumber negative significand dropped.length text := by
  rw [readAfterDigits.eq_def]
  split
  · exact absurd rfl point
  · exact absurd rfl small
  · exact absurd rfl large
  · rfl

private theorem contained_whole (dropped : List Char) : Contained fun text =>
    if dropped.isEmpty then .ok (wholeNumber negative significand, text)
    else scaledNumber negative significand dropped.length text where
  leaves {text value left} done := by
    split at done
    · cases done
      exact List.suffix_refl _
    · exact contained_scaledNumber.leaves done
  closed {text value left rest} done closes := by
    split at done
    next whole =>
      cases done
      rw [if_pos whole]
    next scaled =>
      rw [if_neg scaled]
      exact contained_scaledNumber.closed done closes

private theorem contained_readAfterDigits (dropped : List Char) :
    Contained (readAfterDigits negative significand dropped) where
  leaves {text value left} done := by
    rw [readAfterDigits.eq_def] at done
    split at done
    · exact (contained_readFraction.leaves done).trans (List.suffix_cons _ _)
    · exact (contained_readPower.leaves done).trans (List.suffix_cons _ _)
    · exact (contained_readPower.leaves done).trans (List.suffix_cons _ _)
    · exact (contained_whole dropped).leaves done
  closed {text value left rest} done closes := by
    cases text with
    | nil =>
      rw [List.nil_append, readAfterDigits_of_ne (ne_of_closes closes (by decide) (by decide))
        (ne_of_closes closes (by decide) (by decide)) (ne_of_closes closes (by decide) (by decide))]
      exact (contained_whole dropped).closed done closes
    | cons character more =>
      by_cases point : character = '.'
      · subst point
        have marked : readFraction negative significand dropped.length more = .ok (value, left) := done
        exact contained_readFraction.closed marked closes
      by_cases small : character = 'e'
      · subst small
        have marked : readPower negative significand dropped.length more = .ok (value, left) := done
        exact contained_readPower.closed marked closes
      by_cases large : character = 'E'
      · subst large
        have marked : readPower negative significand dropped.length more = .ok (value, left) := done
        exact contained_readPower.closed marked closes
      have plain (text : List Char) : readAfterDigits negative significand dropped (character :: text) =
          if dropped.isEmpty then .ok (wholeNumber negative significand, character :: text)
          else scaledNumber negative significand dropped.length (character :: text) :=
        readAfterDigits_of_ne (by simpa using point) (by simpa using small) (by simpa using large)
      rw [plain] at done
      rw [List.cons_append, plain]
      exact (contained_whole dropped).closed done closes

theorem contained_readNumber : Contained (readNumber negative) where
  leaves {text value left} done := by
    cases text with
    | nil => cases done
    | cons first more =>
      have taken := takeDigits_suffix UInt64.size 0 0 (first :: more)
      rw [readNumber_cons] at done
      split at done
      · cases done
      · split at done
        · exact ((contained_readAfterDigits _).leaves done |>.trans (List.dropWhile_suffix _)).trans taken
        · cases done
  closed {text value left rest} done closes := by
    cases text with
    | nil => cases done
    | cons first more =>
      have ends := startsWithDigit_of_closes closes
      rw [readNumber_cons] at done
      rw [List.cons_append, readNumber_cons, startsWithDigit_append ends, ← List.cons_append,
        takeDigits_append ends]
      dsimp only at done ⊢
      rw [(dropDigits_append ends _).1, (dropDigits_append ends _).2]
      split at done
      · cases done
      next plain =>
        rw [if_neg plain]
        split at done
        next digit =>
          rw [if_pos digit]
          exact (contained_readAfterDigits _).closed done closes
        · cases done

end IntentRollout.Json
