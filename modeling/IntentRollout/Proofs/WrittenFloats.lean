import IntentRollout.Proofs.ShortestDecimals
import IntentRollout.Proofs.WrittenLeaves
import IntentRollout.Toml.Printer
import IntentRollout.Toml.Reader

/-! Numbers of settings. A text of digits is neither a date nor a number of another base, so the digits are read as they
were written, and the decimal that they denote rounds to the number. -/

namespace IntentRollout

/-- The word that stands for all that is no number; every number stands for itself. -/
def Binary64.canonical (value : Binary64) : Binary64 := if value.isNaN then .notANumber false else value

namespace Toml

def Stops (rest : List Char) : Prop := ∀ next, rest.head? = some next → next = ',' ∨ next = ']' ∨ next = '\n'

theorem Stops.ne {rest : List Char} (stops : Stops rest) {next : Char} (other : next ≠ ',' ∧ next ≠ ']' ∧ next ≠ '\n') :
    rest.head? ≠ some next := by
  intro same
  rcases stops next same with rfl | rfl | rfl
  · exact other.1 rfl
  · exact other.2.1 rfl
  · exact other.2.2 rfl

/-- Characters of which none before the first is skipped and that do not end a list. -/
def Opens (text : List Char) : Prop :=
  ∃ first more, text = first :: more ∧ first ∉ [' ', '\t', '#', '\n', '\r', ']']

/-- A text from which a value is taken, whatever may follow. -/
structure Reads (readItem : List Char → Option (Toml × List Char)) (text : List Char) (value : Toml) : Prop where
  opens : Opens text
  read {rest : List Char} (stops : Stops rest) : readItem (text ++ rest) = some (value, rest)

def Digits (characters : List Char) : Prop := ∀ character ∈ characters, character.isDigit = true

theorem digits_toDigits (value : Nat) : Digits (Nat.toDigits 10 value) :=
  fun _ member => Nat.isDigit_of_mem_toDigits (by decide) (by decide) member

theorem digits_zeros (count : Nat) : Digits (List.replicate count '0') := by
  intro character member
  rw [List.eq_of_mem_replicate member]
  rfl

theorem Digits.append {first rest : List Char} (one : Digits first) (other : Digits rest) : Digits (first ++ rest) :=
  List.forall_mem_append.mpr ⟨one, other⟩

theorem decimalValue_eq (digits : List Char) : decimalValue digits = Nat.ofDigitChars 10 digits 0 := by
  simp only [decimalValue, Nat.ofDigitChars, Nat.mul_comm]

theorem decimalValue_toDigits (value : Nat) : decimalValue (Nat.toDigits 10 value) = value := by
  rw [decimalValue_eq, Nat.ofDigitChars_ten_toDigits]

theorem decimalValue_append (first rest : List Char) :
    decimalValue (first ++ rest) = decimalValue first * 10 ^ rest.length + decimalValue rest := by
  rw [decimalValue_eq, decimalValue_eq, decimalValue_eq, Nat.ofDigitChars_append, Nat.ofDigitChars_eq_ofDigitChars_zero,
    Nat.mul_comm]

theorem decimalValue_zeros (count : Nat) : decimalValue (List.replicate count '0') = 0 := by
  induction count with
  | zero => rfl
  | succ count ih => exact ih

def EndsDigits (rest : List Char) : Prop := ∀ next, rest.head? = some next → next.isDigit = false ∧ next ≠ '_'

private theorem Stops.endsDigits {rest : List Char} (stops : Stops rest) : EndsDigits rest := by
  intro next same
  rcases stops next same with rfl | rfl | rfl <;> exact ⟨rfl, by decide⟩

private theorem endsDigits_point (rest : List Char) : EndsDigits ('.' :: rest) := by
  rintro _ ⟨⟩
  exact ⟨rfl, by decide⟩

private theorem readDigits_cons (accepts : Char → Bool) (character : Char) {rest : List Char}
    (line : rest.head? ≠ some '_') :
    readDigits accepts (character :: rest) =
      if accepts character then (character :: (readDigits accepts rest).1, (readDigits accepts rest).2)
      else ([], character :: rest) := by
  rw [readDigits.eq_def]
  split
  next same => cases same
  next same =>
    rw [(List.cons.inj same).2] at line
    exact absurd rfl line
  next same =>
    obtain ⟨rfl, rfl⟩ := List.cons.inj same
    rfl

private theorem readDigits_eq {digits rest : List Char} (all : Digits digits) (ends : EndsDigits rest) :
    readDigits Char.isDigit (digits ++ rest) = (digits, rest) := by
  induction digits with
  | nil =>
    cases rest with
    | nil => rfl
    | cons next rest =>
      obtain ⟨other, -⟩ := ends next rfl
      rw [List.nil_append, readDigits.eq_def]
      split
      next same => cases same
      next same =>
        obtain ⟨rfl, rfl⟩ := List.cons.inj same
        rw [other]
        rfl
      next same =>
        obtain ⟨rfl, rfl⟩ := List.cons.inj same
        rw [other]
        rfl
  | cons digit digits ih =>
    obtain ⟨here, later⟩ := List.forall_mem_cons.mp all
    have line : (digits ++ rest).head? ≠ some '_' := by
      cases digits with
      | nil => exact fun same => (ends '_' same).2 rfl
      | cons next more =>
        intro same
        have digit := later next List.mem_cons_self
        rw [Option.some.inj same] at digit
        cases digit
    rw [List.cons_append, readDigits_cons _ _ line, if_pos here, ih later]

private theorem readField?_eq_some {count low high value : Nat} {rest left : List Char}
    (found : readField? count low high rest = some (value, left)) :
    ∃ digits, digits.length = count ∧ Digits digits ∧ rest = digits ++ left := by
  rw [readField?] at found
  split at found
  next fits =>
    obtain ⟨-, rfl⟩ := Prod.mk.inj (Option.some.inj found)
    exact ⟨rest.take count, fits.1, List.all_eq_true.mp fits.2.1, (List.take_append_drop count rest).symm⟩
  · cases found

private theorem expect?_eq_some {expected : Char} {rest left : List Char} (found : expect? expected rest = some left) :
    rest = expected :: left := by
  cases rest with
  | nil => cases found
  | cons character rest =>
    rw [expect?] at found
    split at found
    next same => rw [same, Option.some.inj found]
    · cases found

/-- A date and a time start with digits and a mark behind them. -/
def StartsMoment (text : List Char) : Prop :=
  ∃ digits mark more, digits ≠ [] ∧ Digits digits ∧ (mark = '-' ∨ mark = ':') ∧ text = digits ++ mark :: more

private theorem startsMoment_of_readDate? {text left : List Char} (found : readDate? text = some left) :
    StartsMoment text := by
  obtain ⟨⟨year, rest⟩, field, found⟩ := Option.bind_eq_some_iff.mp found
  obtain ⟨more, mark, -⟩ := Option.bind_eq_some_iff.mp found
  obtain ⟨digits, length, all, same⟩ := readField?_eq_some field
  refine ⟨digits, '-', more, ?_, all, .inl rfl, same.trans (congrArg _ (expect?_eq_some mark))⟩
  rintro rfl
  cases length

private theorem startsMoment_of_readTime? {text left : List Char} (found : readTime? text = some left) :
    StartsMoment text := by
  obtain ⟨⟨hour, rest⟩, field, found⟩ := Option.bind_eq_some_iff.mp found
  obtain ⟨more, mark, -⟩ := Option.bind_eq_some_iff.mp found
  obtain ⟨digits, length, all, same⟩ := readField?_eq_some field
  refine ⟨digits, ':', more, ?_, all, .inr rfl, same.trans (congrArg _ (expect?_eq_some mark))⟩
  rintro rfl
  cases length

private theorem readMoment?_eq_none {text : List Char} (other : ¬ StartsMoment text) : readMoment? text = none := by
  have date : readDate? text = none :=
    Option.eq_none_iff_forall_ne_some.mpr fun _ found => other (startsMoment_of_readDate? found)
  have time : readTime? text = none :=
    Option.eq_none_iff_forall_ne_some.mpr fun _ found => other (startsMoment_of_readTime? found)
  rw [readMoment?, date]
  exact time

/-- Digits and points with what follows a setting are no date and no time. -/
theorem not_startsMoment {text rest : List Char}
    (numerals : ∀ character ∈ text, character.isDigit = true ∨ character = '.') (stops : Stops rest)
    {digits more : List Char} {mark : Char} (all : Digits digits) (marks : mark = '-' ∨ mark = ':') :
    text ++ rest ≠ digits ++ mark :: more := by
  intro same
  induction text generalizing digits with
  | nil =>
    cases digits with
    | nil =>
      rcases stops mark (congrArg List.head? same) with rfl | rfl | rfl <;>
        rcases marks with mark | mark <;> cases mark
    | cons digit digits =>
      have here := all digit List.mem_cons_self
      rcases stops digit (congrArg List.head? same) with rfl | rfl | rfl <;> cases here
  | cons character text ih =>
    obtain ⟨here, later⟩ := List.forall_mem_cons.mp numerals
    cases digits with
    | nil =>
      rw [(List.cons.inj same).1] at here
      rcases marks with rfl | rfl <;> rcases here with digit | point <;> contradiction
    | cons digit digits => exact ih later (List.forall_mem_cons.mp all).2 (List.cons.inj same).2

def sign (negative : Bool) : List Char := if negative then ['-'] else []

structure Leading (whole : List Char) : Prop where
  filled : whole ≠ []
  digits : Digits whole
  single : whole = ['0'] ∨ whole.head? ≠ some '0'

private theorem leading_zero : Leading ['0'] where
  filled := List.cons_ne_nil _ _
  digits := List.forall_mem_singleton.mpr rfl
  single := .inl rfl

private theorem leading_toDigits (value : Nat) : Leading (Nat.toDigits 10 value) where
  filled := Nat.toDigits_ne_nil
  digits := digits_toDigits value
  single := by
    rcases Nat.eq_zero_or_pos value with rfl | positive
    · exact .inl rfl
    · exact .inr (Json.head?_toDigits positive)

private theorem readWhole?_eq (negative : Bool) {whole rest : List Char} (leading : Leading whole)
    (ends : EndsDigits rest) :
    readWhole? (sign negative ++ (whole ++ rest)) = some (negative, whole, rest) := by
  obtain ⟨filled, digits, single⟩ := leading
  obtain ⟨first, more, rfl⟩ := List.exists_cons_of_ne_nil filled
  have digit := digits first List.mem_cons_self
  rw [readWhole?.eq_def]
  split
  next found unsigned split_ =>
    have parts : found = negative ∧ unsigned = first :: more ++ rest := by
      cases negative with
      | true => exact ⟨(Prod.mk.inj split_).1.symm, (Prod.mk.inj split_).2.symm⟩
      | false =>
        rw [sign, if_neg Bool.false_ne_true, List.nil_append, List.cons_append] at split_
        split at split_
        next same =>
          rw [(List.cons.inj same).1] at digit
          cases digit
        next same =>
          rw [(List.cons.inj same).1] at digit
          cases digit
        · exact ⟨(Prod.mk.inj split_).1.symm, (Prod.mk.inj split_).2.symm⟩
    obtain ⟨rfl, rfl⟩ := parts
    split
    next after same =>
      obtain ⟨rfl, rfl⟩ := List.cons.inj same
      rcases single with alone | other
      · obtain ⟨-, rfl⟩ := List.cons.inj alone
        rfl
      · exact absurd rfl other
    · rw [readDigits_eq digits ends]
      rfl

/-- No mark of another base stands behind a single zero. -/
theorem not_based (negative : Bool) {whole rest : List Char} (leading : Leading whole) {mark : Char}
    (other : rest.head? ≠ some mark) (after : List Char) : sign negative ++ (whole ++ rest) ≠ '0' :: mark :: after := by
  obtain ⟨filled, -, single⟩ := leading
  obtain ⟨first, more, rfl⟩ := List.exists_cons_of_ne_nil filled
  intro same
  cases negative with
  | true => cases (List.cons.inj same).1
  | false =>
    obtain ⟨zero, behind⟩ := List.cons.inj same
    rcases single with alone | digit
    · rw [(List.cons.inj alone).2] at behind
      exact other (congrArg List.head? behind)
    · exact digit (congrArg some zero)

private theorem readNumber?_integer (negative : Bool) {whole rest : List Char} (leading : Leading whole)
    (stops : Stops rest)
    {value : Int} (same : value = if negative then -(decimalValue whole : Int) else decimalValue whole)
    (ranged : inRange value = true) :
    readNumber? (sign negative ++ (whole ++ rest)) = some (.integer value, rest) := by
  have other (mark : Char) (letter : mark ≠ ',' ∧ mark ≠ ']' ∧ mark ≠ '\n') : rest.head? ≠ some mark := stops.ne letter
  rw [readNumber?.eq_def]
  split
  next based => exact absurd based (not_based negative leading (other 'x' (by decide)) _)
  next based => exact absurd based (not_based negative leading (other 'o' (by decide)) _)
  next based => exact absurd based (not_based negative leading (other 'b' (by decide)) _)
  rw [readWhole?_eq negative leading stops.endsDigits]
  simp only [Option.bind_eq_bind, Option.bind_some]
  split
  next point => exact absurd rfl (other '.' (by decide))
  split
  next power => exact absurd rfl (other 'e' (by decide))
  next power => exact absurd rfl (other 'E' (by decide))
  rw [← same, if_pos ranged]

private theorem readNumber?_decimal (negative : Bool) {whole places rest : List Char} (leading : Leading whole)
    (filled : places ≠ []) (digits : Digits places) (stops : Stops rest) {value : Toml}
    (same : floatValue? negative (whole ++ places) (-places.length) = some value) :
    readNumber? (sign negative ++ (whole ++ '.' :: (places ++ rest))) = some (value, rest) := by
  have point (mark : Char) (other : '.' ≠ mark) : ('.' :: (places ++ rest)).head? ≠ some mark :=
    fun equal => other (Option.some.inj equal)
  have other (mark : Char) (letter : mark ≠ ',' ∧ mark ≠ ']' ∧ mark ≠ '\n') : rest.head? ≠ some mark := stops.ne letter
  rw [readNumber?.eq_def]
  split
  next based => exact absurd based (not_based negative leading (point 'x' (by decide)) _)
  next based => exact absurd based (not_based negative leading (point 'o' (by decide)) _)
  next based => exact absurd based (not_based negative leading (point 'b' (by decide)) _)
  rw [readWhole?_eq negative leading (endsDigits_point _)]
  simp only [Option.bind_eq_bind, Option.bind_some]
  rw [readDigits_eq digits stops.endsDigits, if_neg (by simpa using filled)]
  split
  next power => exact absurd (congrArg List.head? power) (other 'e' (by decide))
  next power => exact absurd (congrArg List.head? power) (other 'E' (by decide))
  simp only [Option.getD_some, Option.getD_none, Int.zero_sub]
  rw [same]
  rfl

structure StartsNumber (text : List Char) : Prop where
  first : ∀ first more, text = first :: more → first.isDigit = true ∨ first = '-'
  signed : ∀ next more, text = '-' :: next :: more → next.isDigit = true

private theorem startsNumber (negative : Bool) {whole : List Char} (leading : Leading whole) (rest : List Char) :
    StartsNumber (sign negative ++ (whole ++ rest)) := by
  obtain ⟨digit, digits, rfl⟩ := List.exists_cons_of_ne_nil leading.filled
  have known := leading.digits digit List.mem_cons_self
  cases negative with
  | true =>
    refine ⟨fun first more same => .inr (List.cons.inj same).1.symm, fun next more same => ?_⟩
    rwa [← (List.cons.inj (List.cons.inj same).2).1]
  | false =>
    refine ⟨fun first more same => .inl ?_, fun next more same => ?_⟩
    · rwa [← (List.cons.inj same).1]
    · rw [(List.cons.inj same).1] at known
      cases known

private theorem opens_number (negative : Bool) {whole : List Char} (leading : Leading whole) (rest : List Char) :
    Opens (sign negative ++ (whole ++ rest)) := by
  obtain ⟨digit, digits, rfl⟩ := List.exists_cons_of_ne_nil leading.filled
  have known := leading.digits digit List.mem_cons_self
  cases negative with
  | true => exact ⟨'-', _, rfl, by decide⟩
  | false =>
    refine ⟨digit, _, rfl, fun member => ?_⟩
    simp only [List.mem_cons, List.not_mem_nil, or_false] at member
    rcases member with rfl | rfl | rfl | rfl | rfl | rfl <;> cases known

/-- What starts like a number is read as one, unless it is a date or a time. -/
theorem readValue?_eq_readNumber? (levels : Nat) {text : List Char} (starts : StartsNumber text)
    (moment : ¬ StartsMoment text) : readValue? levels text = readNumber? text := by
  have none := readMoment?_eq_none moment
  obtain ⟨first, signed⟩ := starts
  rw [readValue?.eq_def]
  split
  case h_13 => rw [none]
  case h_11 | h_12 => exact absurd (signed _ _ rfl) (by decide)
  all_goals exact absurd (first _ _ rfl) (by decide)

private theorem not_startsMoment_number (negative : Bool) {whole more rest : List Char} (leading : Leading whole)
    (numerals : ∀ character ∈ more, character.isDigit = true ∨ character = '.') (stops : Stops rest) :
    ¬ StartsMoment (sign negative ++ (whole ++ (more ++ rest))) := by
  rintro ⟨digits, mark, left, filled, all, marks, same⟩
  cases negative with
  | true =>
    obtain ⟨digit, digits, rfl⟩ := List.exists_cons_of_ne_nil filled
    have known := all digit List.mem_cons_self
    rw [← (List.cons.inj same).1] at known
    cases known
  | false =>
    rw [sign, if_neg Bool.false_ne_true, List.nil_append, ← List.append_assoc] at same
    refine not_startsMoment (fun character member => ?_) stops all marks same
    rcases List.mem_append.mp member with first | later
    · exact .inl (leading.digits character first)
    · exact numerals character later

private theorem toList_toString (value : Int) :
    (toString value).toList = sign (decide (value < 0)) ++ Nat.toDigits 10 value.natAbs := by
  rw [Int.toString_eq_repr, Int.repr_eq_if, sign]
  split
  next positive =>
    rw [decide_eq_false (Int.not_lt.mpr positive), if_neg Bool.false_ne_true, Nat.repr_eq_ofList_toDigits,
      String.toList_ofList, List.nil_append, show value.toNat = value.natAbs by omega]
  next below =>
    rw [decide_eq_true (Int.not_le.mp below), if_pos rfl, String.toList_append, Nat.repr_eq_ofList_toDigits,
      show (-value).toNat = value.natAbs by omega, String.toList_ofList, String.toList_ofList]

theorem reads_integer (levels : Nat) {value : Int} (ranged : inRange value = true) :
    Reads (readValue? levels) (toString value).toList (.integer value) := by
  have leading := leading_toDigits value.natAbs
  rw [toList_toString]
  refine ⟨?_, fun {rest} stops => ?_⟩
  · have opens := opens_number (decide (value < 0)) leading []
    rwa [List.append_nil] at opens
  have moment := not_startsMoment_number (decide (value < 0)) leading (List.forall_mem_nil _) stops
  rw [List.append_assoc, readValue?_eq_readNumber? levels (startsNumber _ leading rest) moment]
  refine readNumber?_integer _ leading stops ?_ ranged
  rw [decimalValue_toDigits]
  split
  next below => rw [Int.ofNat_natAbs_of_nonpos (Int.le_of_lt (of_decide_eq_true below)), Int.neg_neg]
  next positive =>
    rw [decide_eq_true_eq, Int.not_lt] at positive
    exact (Int.natAbs_of_nonneg positive).symm

/-- What a decimal denotes, by the digits before and after its point. -/
structure Denotes (text whole places : List Char) (value : ℚ) : Prop where
  text : text = whole ++ '.' :: places
  leading : Leading whole
  filled : places ≠ []
  digits : Digits places
  value : (decimalValue (whole ++ places) : ℚ) * 10 ^ (-places.length : Int) = value

section

variable {written : List Char} (filled : written ≠ []) (digits : Digits written)

include filled digits

private theorem denotes_whole (head : written.head? ≠ some '0') (count : Nat) :
    Denotes (written ++ List.replicate count '0' ++ ['.', '0']) (written ++ List.replicate count '0') ['0']
      (decimalValue written * 10 ^ (count : Int)) where
  text := rfl
  leading := by
    refine ⟨List.append_ne_nil_of_left_ne_nil filled _, digits.append (digits_zeros count), .inr ?_⟩
    rwa [List.head?_append_of_ne_nil _ filled]
  filled := List.cons_ne_nil _ _
  digits := List.forall_mem_singleton.mpr rfl
  value := by
    have zero : decimalValue ['0'] = 0 := rfl
    rw [decimalValue_append, decimalValue_append, decimalValue_zeros, zero, zpow_natCast]
    push_cast
    rw [List.length_replicate, List.length_singleton, add_zero, add_zero, Nat.cast_one, pow_one, mul_assoc]
    norm_num

private theorem denotes_point (head : written.head? ≠ some '0') {count : Nat} (some : 0 < count)
    (fewer : count < written.length) :
    Denotes (written.take (written.length - count) ++ '.' :: written.drop (written.length - count))
      (written.take (written.length - count)) (written.drop (written.length - count))
      (decimalValue written * 10 ^ (-count : Int)) where
  text := rfl
  leading := by
    refine ⟨?_, fun digit member => digits digit (List.mem_of_mem_take member), .inr ?_⟩
    · rw [Ne, List.take_eq_nil_iff, not_or]
      exact ⟨by omega, filled⟩
    · rwa [List.head?_take, if_neg (by omega)]
  filled := by
    rw [Ne, List.drop_eq_nil_iff]
    omega
  digits := fun digit member => digits digit (List.mem_of_mem_drop member)
  value := by
    rw [List.take_append_drop, List.length_drop, Nat.sub_sub_self (Nat.le_of_lt fewer)]

private theorem denotes_fraction {count : Nat} (fewer : written.length ≤ count) :
    Denotes ('0' :: '.' :: List.replicate (count - written.length) '0' ++ written) ['0']
      (List.replicate (count - written.length) '0' ++ written) (decimalValue written * 10 ^ (-count : Int)) where
  text := rfl
  leading := leading_zero
  filled := List.append_ne_nil_of_right_ne_nil _ filled
  digits := (digits_zeros _).append digits
  value := by
    have zero : decimalValue ['0'] = 0 := rfl
    rw [decimalValue_append, decimalValue_append, decimalValue_zeros, zero, Nat.zero_mul, Nat.zero_mul, Nat.zero_add,
      Nat.zero_add, List.length_append, List.length_replicate, Nat.sub_add_cancel fewer]

end

/-- The positional text of a decimal, with a fraction added if it has none. -/
theorem denotes_positional {decimal : Decimal} (positive : 0 < decimal.coefficient) : ∃ whole places,
    Denotes (decimal.positional.toList ++ (if 0 ≤ decimal.power then ".0" else "").toList) whole places
      decimal.value := by
  obtain ⟨coefficient, power⟩ := decimal
  have digits := digits_toDigits coefficient
  have head := Json.head?_toDigits positive
  have filled : Nat.toDigits 10 coefficient ≠ [] := Nat.toDigits_ne_nil
  have known := decimalValue_toDigits coefficient
  simp only [Decimal.positional, Decimal.value]
  generalize Nat.toDigits 10 coefficient = written at digits head filled known ⊢
  subst known
  rcases lt_or_ge power 0 with small | large
  · obtain ⟨count, rfl⟩ : ∃ count : Nat, power = -count := ⟨power.natAbs, by omega⟩
    rw [if_neg (Int.not_le.mpr small), if_neg (Int.not_le.mpr small), Int.neg_neg, Int.toNat_natCast]
    split
    next longer =>
      rw [String.toList_ofList, String.toList_empty, List.append_nil]
      exact ⟨_, _, denotes_point filled digits head (by omega) longer⟩
    next shorter =>
      rw [String.toList_ofList, String.toList_empty, List.append_nil]
      exact ⟨_, _, denotes_fraction filled digits (Nat.not_lt.mp shorter)⟩
  · obtain ⟨count, rfl⟩ := Int.eq_ofNat_of_zero_le large
    rw [if_pos large, if_pos large, String.toList_ofList]
    exact ⟨_, _, denotes_whole filled digits head count⟩

/-- A text that denotes a decimal is read as the number nearest to it. -/
theorem Denotes.reads {text whole places : List Char} {ratio : ℚ} (denotes : Denotes text whole places ratio)
    (levels : Nat) (negative : Bool) {value : Toml}
    (same : floatValue? negative (whole ++ places) (-places.length) = some value) :
    Reads (readValue? levels) (sign negative ++ text) value := by
  obtain ⟨rfl, leading, filled, digits, -⟩ := denotes
  have numerals : ∀ character ∈ '.' :: places, character.isDigit = true ∨ character = '.' :=
    List.forall_mem_cons.mpr ⟨.inr rfl, fun character member => .inl (digits character member)⟩
  refine ⟨opens_number negative leading _, fun {rest} stops => ?_⟩
  have moment := not_startsMoment_number negative leading numerals stops
  rw [List.append_assoc, List.append_assoc, readValue?_eq_readNumber? levels (startsNumber negative leading _) moment]
  exact readNumber?_decimal negative leading filled digits stops same

private theorem reads_zero (levels : Nat) (negative : Bool) :
    Reads (readValue? levels) (sign negative ++ ['0', '.', '0']) (.float (.zero negative)) := by
  have denotes : Denotes ['0', '.', '0'] ['0'] ['0'] 0 := by
    refine ⟨rfl, leading_zero, List.cons_ne_nil _ _, List.forall_mem_singleton.mpr rfl, ?_⟩
    have zero : decimalValue (['0'] ++ ['0']) = 0 := rfl
    rw [zero, Nat.cast_zero, zero_mul]
  exact denotes.reads levels negative (by cases negative <;> rfl)

private theorem reads_infinite (levels : Nat) (negative : Bool) :
    Reads (readValue? levels) (sign negative ++ ['i', 'n', 'f']) (.float (.infinite negative)) := by
  cases negative with
  | true =>
    refine ⟨⟨'-', _, rfl, by decide⟩, fun stops => ?_⟩
    rw [readValue?.eq_def]
    rfl
  | false =>
    refine ⟨⟨'i', _, rfl, by decide⟩, fun stops => ?_⟩
    rw [readValue?.eq_def]
    rfl

private theorem reads_regular (levels : Nat) {value : Binary64} (regular : Binary64.Regular value) :
    Reads (readValue? levels) (writtenFloat value).toList (.float value) := by
  have positive : 0 < (value.shortest .up).coefficient :=
    (Binary64.leading_bounds regular (Binary64.rounds_shortest .up regular)).1
  obtain ⟨whole, places, denotes⟩ := denotes_positional positive
  have text : (writtenFloat value).toList = sign value.negative ++ ((value.shortest .up).positional.toList ++
      (if 0 ≤ (value.shortest .up).power then ".0" else "").toList) := by
    have whole := Binary64.shortest_power .up regular
    have number : value.isNaN = false := decide_eq_false (Nat.lt_asymm regular.magnitude_lt)
    rw [writtenFloat, number, regular.nonzero, Binary64.plainText, number, regular.finite, regular.nonzero,
      if_neg Bool.false_ne_true, if_neg Bool.false_ne_true, if_neg Bool.false_ne_true, Bool.not_true,
      if_neg Bool.false_ne_true, if_neg Bool.false_ne_true, ← ite_congr (propext whole) (fun _ => rfl) (fun _ => rfl),
      String.toList_append, String.toList_append, List.append_assoc, sign]
    split <;> rfl
  have number : floatValue? value.negative (whole ++ places) (-places.length) = some (.float value) := by
    have rounds := Binary64.rounds_shortest .up regular
    rw [← denotes.value] at rounds
    rw [floatValue?, Binary64.ofDecimal_of_rounds regular rounds, if_neg]
    rintro rfl
    exact absurd regular.finite (by decide)
  rw [text]
  exact denotes.reads levels value.negative number

/-- The written form of a float is read as that float; a word that is no number loses its sign and its payload. -/
theorem reads_float (levels : Nat) (value : Binary64) :
    Reads (readValue? levels) (writtenFloat value).toList (.float value.canonical) := by
  rw [Binary64.canonical]
  split
  next none =>
    rw [writtenFloat, if_pos none]
    refine ⟨⟨'n', _, rfl, by decide⟩, fun stops => ?_⟩
    rw [readValue?.eq_def]
    rfl
  next number =>
    have same := Binary64.ofMagnitude_magnitude value
    by_cases zero : value.isZero = true
    · have written : (writtenFloat value).toList = sign value.negative ++ ['0', '.', '0'] := by
        rw [writtenFloat, if_neg number, if_pos zero, sign]
        split <;> rfl
      have read := reads_zero levels value.negative
      rw [of_decide_eq_true zero] at same
      rwa [Binary64.zero, same, ← written] at read
    by_cases finite : value.isFinite = true
    · exact reads_regular levels ⟨finite, Bool.eq_false_iff.mpr zero⟩
    have infinite : value.magnitude = Binary64.infiniteMagnitude := by
      rw [Binary64.isNaN, decide_eq_true_eq] at number
      rw [Binary64.isFinite, decide_eq_true_eq] at finite
      omega
    have written : (writtenFloat value).toList = sign value.negative ++ ['i', 'n', 'f'] := by
      rw [writtenFloat, if_neg number, if_neg zero, Binary64.plainText, if_neg number, Binary64.isWhole,
        Bool.eq_false_iff.mpr finite, sign]
      simp only [Bool.not_false, if_true, Bool.false_and, Bool.false_eq_true, if_false]
      split <;> rfl
    have read := reads_infinite levels value.negative
    rw [infinite] at same
    rwa [Binary64.infinite, same, ← written] at read

end Toml

end IntentRollout
