import Mathlib.Data.List.TakeWhile
import IntentRollout.Proofs.SpelledNumbers

/-! Tokens of a document: its numbers and texts by the grammar of the notation. What a token is read as does not
depend on what stands behind it, and neither does whether it is refused: a number may be out of range, and a text
may have half of a surrogate pair. -/

namespace IntentRollout.Json

/-- What can stand behind a value: nothing, or a character with which no value starts. -/
def Delimits (rest : List Char) : Prop := ∀ next ∈ rest.head?, ¬ Opens next

theorem Delimits.nil : Delimits [] := nofun

theorem Delimits.ends {rest : List Char} (delimits : Delimits rest) : startsWithDigit rest = false := by
  cases rest with
  | nil => rfl
  | cons next rest =>
    rw [startsWithDigit, Bool.eq_false_iff]
    exact fun digit => delimits next rfl (opens_of_digit digit)

theorem Delimits.ne {rest : List Char} (delimits : Delimits rest) {mark : Char} (opens : Opens mark) :
    rest.head? ≠ some mark := fun same => delimits mark same opens

/-- A text that is read in one way, or refused, whatever stands behind it. -/
def Steady {α : Type} (read : List Char → Except Failure (α × List Char)) (text : List Char) : Prop :=
  ∃ outcome : Option α, ∀ rest, Delimits rest → (read (text ++ rest)).toOption = outcome.map (·, rest)

structure Digits (text : List Char) : Prop where
  filled : text ≠ []
  all : ∀ digit ∈ text, isDigit digit = true

/-- Of digits some are taken, and the digits that are left do not depend on what stands behind them. -/
theorem Digits.taken {digits : List Char} (known : Digits digits) (limit significand count : Nat) :
    ∃ value taken left, (∀ digit ∈ left, isDigit digit = true) ∧ ∀ rest, startsWithDigit rest = false →
      takeDigits limit significand count (digits ++ rest) = (value, taken, left ++ rest) :=
  ⟨_, _, _, fun _ member => known.all _ ((takeDigits_suffix limit significand count digits).mem member),
    fun _ ends => takeDigits_append ends digits⟩

private theorem takeWhile_all {left rest : List Char} (all : ∀ digit ∈ left, isDigit digit = true)
    (ends : startsWithDigit rest = false) :
    (left ++ rest).takeWhile isDigit = left ∧ (left ++ rest).dropWhile isDigit = rest := by
  obtain ⟨taken, dropped⟩ := dropDigits_append ends left
  constructor
  · rw [taken, List.takeWhile_eq_self_iff]
    exact all
  · rw [dropped, List.dropWhile_eq_nil_iff.mpr all, List.nil_append]

inductive PowerText : List Char → Prop where
  | none : PowerText []
  | some {mark : Char} {sign digits : List Char} (marked : mark ∈ ['e', 'E']) (signed : sign ∈ [[], ['+'], ['-']])
    (known : Digits digits) : PowerText (mark :: (sign ++ digits))

inductive FractionText : List Char → Prop where
  | none : FractionText []
  | some {digits : List Char} (known : Digits digits) : FractionText ('.' :: digits)

variable (negative : Bool) (significand : Nat) (power : Int)

private theorem steady_scaledNumber : Steady (scaledNumber negative significand power) [] := by
  refine ⟨(scaled? significand power).map (signed negative), fun rest _ => ?_⟩
  rw [List.nil_append, scaledNumber]
  cases scaled? significand power <;> rfl

private theorem steady_readPowerDigits (down : Bool) {digits : List Char} (known : Digits digits) :
    Steady (readPowerDigits negative significand power down) digits := by
  obtain ⟨value, count, left, all, taken⟩ := known.taken (Nat.pow 2 31) 0 0
  cases digits with
  | nil => exact absurd rfl known.filled
  | cons first more =>
    have digit : isDigit first = true := known.all first List.mem_cons_self
    cases left with
    | nil =>
      obtain ⟨outcome, same⟩ := steady_scaledNumber negative significand
        (max Int32.minValue.toInt (min (if down then power - value else power + value) Int32.maxValue.toInt))
      refine ⟨outcome, fun rest delimits => ?_⟩
      have here := taken rest delimits.ends
      rw [List.cons_append] at here ⊢
      simp only [readPowerDigits, digit, if_true, here, List.nil_append, delimits.ends, Bool.false_eq_true, if_false]
      exact same rest delimits
    | cons next left =>
      have again : isDigit next = true := all next List.mem_cons_self
      refine ⟨if significand ≠ 0 ∧ !down then none else some (signed negative (Binary64.zero false)),
        fun rest delimits => ?_⟩
      have here := taken rest delimits.ends
      have dropped := (takeWhile_all all delimits.ends).2
      rw [List.cons_append] at here dropped ⊢
      simp only [readPowerDigits, digit, if_true, here, startsWithDigit, again, List.cons_append, dropped]
      split <;> rfl

private theorem steady_readPower {sign digits : List Char} (signed : sign ∈ [[], ['+'], ['-']])
    (known : Digits digits) :
    Steady (readPower negative significand power) (sign ++ digits) := by
  have parted : ∃ down, ∀ rest, powerSign (sign ++ (digits ++ rest)) = (down, digits ++ rest) := by
    cases digits with
    | nil => exact absurd rfl known.filled
    | cons first more =>
      have digit : isDigit first = true := known.all first List.mem_cons_self
      simp only [List.mem_cons, List.not_mem_nil, or_false] at signed
      rcases signed with rfl | rfl | rfl
      · refine ⟨false, fun rest => ?_⟩
        rw [List.nil_append, List.cons_append, powerSign.eq_def]
        split
        next same =>
          cases same
          cases digit
        next same =>
          cases same
          cases digit
        · rfl
      · exact ⟨false, fun _ => rfl⟩
      · exact ⟨true, fun _ => rfl⟩
  obtain ⟨down, parted⟩ := parted
  obtain ⟨outcome, same⟩ := steady_readPowerDigits negative significand power down known
  refine ⟨outcome, fun rest delimits => ?_⟩
  rw [List.append_assoc, readPower_eq, parted]
  exact same rest delimits

theorem PowerText.ends {text rest : List Char} (known : PowerText text) (delimits : Delimits rest) :
    startsWithDigit (text ++ rest) = false := by
  cases known with
  | none => exact delimits.ends
  | some marked =>
    simp only [List.mem_cons, List.not_mem_nil, or_false] at marked
    rcases marked with rfl | rfl <;> rfl

private theorem steady_readPowerMark {text : List Char} (known : PowerText text) :
    Steady (readPowerMark negative significand power) text := by
  cases known with
  | none =>
    obtain ⟨outcome, same⟩ := steady_scaledNumber negative significand power
    refine ⟨outcome, fun rest delimits => ?_⟩
    rw [List.nil_append, readPowerMark_of_ne (delimits.ne (by decide)) (delimits.ne (by decide))]
    exact same rest delimits
  | some marked signed known =>
    obtain ⟨outcome, same⟩ := steady_readPower negative significand power signed known
    refine ⟨outcome, fun rest delimits => ?_⟩
    simp only [List.mem_cons, List.not_mem_nil, or_false] at marked
    rcases marked with rfl | rfl
    · exact same rest delimits
    · exact same rest delimits

private theorem steady_readFraction {digits text : List Char} (known : Digits digits) (powered : PowerText text) :
    Steady (readFraction negative significand power) (digits ++ text) := by
  obtain ⟨value, count, left, all, taken⟩ := known.taken UInt64.size significand 0
  obtain ⟨outcome, same⟩ := steady_readPowerMark negative value (power - count) powered
  have reads (rest : List Char) (delimits : Delimits rest) :
      (readFraction negative significand power (digits ++ text ++ rest)).toOption =
        if left = [] ∧ count = 0 then none else outcome.map (·, rest) := by
    have ends := powered.ends delimits
    have here := taken (text ++ rest) ends
    have dropped := (takeWhile_all all ends).2
    rw [List.append_assoc]
    simp only [readFraction_eq, here, dropped]
    cases left with
    | nil =>
      simp only [List.nil_append, ends, Bool.false_eq_true, if_false]
      by_cases none : count = 0
      · rw [if_pos none, if_pos ⟨True.intro, none⟩]
        split <;> rfl
      · rw [if_neg none, if_neg fun both => none both.2]
        exact same rest delimits
    | cons next left =>
      have digit : startsWithDigit (next :: left ++ (text ++ rest)) = true := all next List.mem_cons_self
      have some : ¬ (next :: left = [] ∧ count = 0) := fun both => List.cons_ne_nil _ _ both.1
      rw [if_pos digit, if_neg some]
      exact same rest delimits
  by_cases empty : left = [] ∧ count = 0
  · exact ⟨none, fun rest delimits => by rw [reads rest delimits, if_pos empty]; rfl⟩
  · exact ⟨outcome, fun rest delimits => by rw [reads rest delimits, if_neg empty]⟩

/-- Digits before a point: no zero stands before others. -/
inductive WholeText : List Char → Prop where
  | zero : WholeText ['0']
  | digits {first : Char} {more : List Char} (some : first ≠ '0') (known : Digits (first :: more)) :
    WholeText (first :: more)

theorem FractionText.ends {text rest : List Char} (known : FractionText text)
    (ends : startsWithDigit rest = false) : startsWithDigit (text ++ rest) = false := by
  cases known with
  | none => exact ends
  | some => rfl

private theorem steady_readAfterDigits (dropped : List Char) {fraction text : List Char} (known : FractionText fraction)
    (powered : PowerText text) : Steady (readAfterDigits negative significand dropped) (fraction ++ text) := by
  cases known with
  | some known =>
    obtain ⟨outcome, same⟩ := steady_readFraction negative significand dropped.length known powered
    exact ⟨outcome, same⟩
  | none =>
    cases powered with
    | some marked signed known =>
      obtain ⟨outcome, same⟩ := steady_readPower negative significand dropped.length signed known
      refine ⟨outcome, fun rest delimits => ?_⟩
      simp only [List.mem_cons, List.not_mem_nil, or_false] at marked
      rcases marked with rfl | rfl
      · exact same rest delimits
      · exact same rest delimits
    | none =>
      have plain (rest : List Char) (delimits : Delimits rest) : readAfterDigits negative significand dropped rest =
          if dropped.isEmpty then .ok (wholeNumber negative significand, rest)
          else scaledNumber negative significand dropped.length rest :=
        readAfterDigits_of_ne (delimits.ne (by decide)) (delimits.ne (by decide)) (delimits.ne (by decide))
      by_cases whole : dropped.isEmpty = true
      · refine ⟨some (wholeNumber negative significand), fun rest delimits => ?_⟩
        rw [List.nil_append, List.nil_append, plain rest delimits, if_pos whole]
        rfl
      · obtain ⟨outcome, same⟩ := steady_scaledNumber negative significand dropped.length
        refine ⟨outcome, fun rest delimits => ?_⟩
        rw [List.nil_append, List.nil_append, plain rest delimits, if_neg whole]
        exact same rest delimits

theorem WholeText.known {text : List Char} (whole : WholeText text) : Digits text := by
  cases whole with
  | zero =>
    refine ⟨List.cons_ne_nil _ _, ?_⟩
    rw [List.forall_mem_singleton]
    rfl
  | digits _ known => exact known

private theorem steady_readNumber {whole fraction text : List Char} (digits : WholeText whole)
    (known : FractionText fraction)
    (powered : PowerText text) : Steady (readNumber negative) (whole ++ (fraction ++ text)) := by
  obtain ⟨value, count, left, all, taken⟩ := digits.known.taken UInt64.size 0 0
  obtain ⟨outcome, same⟩ := steady_readAfterDigits negative value left known powered
  refine ⟨outcome, fun rest delimits => ?_⟩
  have ends := known.ends (powered.ends delimits)
  have here := taken _ ends
  obtain ⟨kept, dropped⟩ := takeWhile_all all ends
  have continued := same rest delimits
  rw [List.append_assoc] at continued
  rw [List.append_assoc, List.append_assoc]
  cases digits with
  | zero =>
    rw [List.singleton_append] at here ⊢
    rw [readNumber_cons, if_neg (by rw [ends]; decide), if_pos (by decide)]
    simp only [here, kept, dropped]
    exact continued
  | digits some digits =>
    rw [List.cons_append] at here ⊢
    rw [readNumber_cons, if_neg fun both => some both.1, if_pos (digits.all _ List.mem_cons_self)]
    simp only [here, kept, dropped]
    exact continued

inductive NumberText : List Char → Prop where
  | positive {whole fraction text : List Char} (digits : WholeText whole) (known : FractionText fraction)
    (powered : PowerText text) : NumberText (whole ++ (fraction ++ text))
  | negative {whole fraction text : List Char} (digits : WholeText whole) (known : FractionText fraction)
    (powered : PowerText text) : NumberText ('-' :: (whole ++ (fraction ++ text)))

structure NumberToken where
  characters : List Char
  spelled : NumberText characters

/-- What a number is read as where nothing else stands; nothing if it is refused. -/
def NumberToken.document? (token : NumberToken) : Option Json :=
  (readValue 0 token.characters).toOption.map (·.1)

theorem WholeText.head {text : List Char} (whole : WholeText text) (more : List Char) :
    ∃ first rest, text ++ more = first :: rest ∧ isDigit first = true := by
  cases whole with
  | zero => exact ⟨'0', more, rfl, by decide⟩
  | @digits first rest _ known => exact ⟨first, rest ++ more, rfl, known.all first List.mem_cons_self⟩

theorem NumberToken.opens (token : NumberToken) : ∃ first more, token.characters = first :: more ∧ Opens first := by
  obtain ⟨characters, spelled⟩ := token
  cases spelled with
  | @positive whole fraction text digits =>
    obtain ⟨first, rest, same, digit⟩ := digits.head (fraction ++ text)
    exact ⟨first, rest, same, opens_of_digit digit⟩
  | @negative whole fraction text => exact ⟨'-', _, rfl, by decide⟩

/-- A number is read wherever it stands as it is read where nothing else stands. -/
theorem NumberToken.readValue_eq (token : NumberToken) (levels : Nat) {blanks rest : List Char}
    (skipped : Blanks blanks) (delimits : Delimits rest) :
    (readValue levels (blanks ++ (token.characters ++ rest))).toOption = token.document?.map (·, rest) := by
  suffices steady : ∃ outcome : Option Json, ∀ levels blanks rest, Blanks blanks → Delimits rest →
      (readValue levels (blanks ++ (token.characters ++ rest))).toOption = outcome.map (·, rest) by
    obtain ⟨outcome, same⟩ := steady
    have alone := same 0 [] [] .nil .nil
    rw [List.nil_append, List.append_nil] at alone
    rw [same levels blanks rest skipped delimits, document?, alone]
    cases outcome <;> rfl
  have lifted {read : Except Failure (Number × List Char)} {outcome : Option Number} {rest : List Char}
      (same : read.toOption = outcome.map (·, rest)) :
      (read.map fun taken => (Json.number taken.1, taken.2)).toOption = (outcome.map .number).map (·, rest) := by
    cases read <;> cases outcome <;> cases same <;> rfl
  obtain ⟨characters, spelled⟩ := token
  cases spelled with
  | @positive whole fraction text digits known powered =>
    obtain ⟨outcome, same⟩ := steady_readNumber false digits known powered
    obtain ⟨first, more, written, digit⟩ := digits.head (fraction ++ text)
    refine ⟨outcome.map .number, fun levels blanks rest skipped delimits => ?_⟩
    have read := same rest delimits
    rw [written, List.cons_append] at read
    have found := readValue_digit levels skipped digit (more ++ rest)
    rw [← List.cons_append, ← written] at found read
    rw [found]
    exact lifted read
  | @negative whole fraction text digits known powered =>
    obtain ⟨outcome, same⟩ := steady_readNumber true digits known powered
    refine ⟨outcome.map .number, fun levels blanks rest skipped delimits => ?_⟩
    rw [List.cons_append, readValue_minus levels skipped]
    exact lifted (same rest delimits)

structure HexDigit where
  value : Fin 16
  capital : Bool

def HexDigit.character (digit : HexDigit) : Char :=
  if digit.capital then (Nat.digitChar digit.value).toUpper else Nat.digitChar digit.value

private theorem hexDigit?_character (digit : HexDigit) : hexDigit? digit.character = some digit.value.val := by
  have known : ∀ value capital, hexDigit? (HexDigit.mk value capital).character = some value.val := by decide
  exact known digit.value digit.capital

def shortEscapes : List (Char × Char) :=
  [('"', '"'), ('\\', '\\'), ('/', '/'), ('b', '\x08'), ('f', '\x0c'), ('n', '\n'), ('r', '\r'), ('t', '\t')]

/-- A part of a text between its marks: a character, or an escape of a character or of a code unit. -/
inductive TextPart where
  | plain (character : Char) (visible : 32 ≤ character.toNat ∧ character ≠ '"' ∧ character ≠ '\\')
  | escape (mark stands : Char) (short : (mark, stands) ∈ shortEscapes)
  | unit (first second third fourth : HexDigit)

def TextPart.characters : TextPart → List Char
  | .plain character _ => [character]
  | .escape mark _ _ => ['\\', mark]
  | .unit first second third fourth =>
    ['\\', 'u', first.character, second.character, third.character, fourth.character]

def textCharacters (parts : List TextPart) : List Char := parts.flatMap TextPart.characters

def codeUnit (first second third fourth : HexDigit) : Nat :=
  ((first.value * 16 + second.value) * 16 + third.value) * 16 + fourth.value

def pairedCharacter (leading trailing : Nat) : Char :=
  Char.ofNat ((leading - 0xD800) * 0x400 + (trailing - 0xDC00) + 0x10000)

/-- The characters that a text stands for; nothing if half of a surrogate pair stands alone. -/
def decoded? : List TextPart → Option (List Char)
  | [] => some []
  | .plain character _ :: rest => (decoded? rest).map (character :: ·)
  | .escape _ stands _ :: rest => (decoded? rest).map (stands :: ·)
  | .unit first second third fourth :: rest =>
    if trailingSurrogate (codeUnit first second third fourth) then none
    else if leadingSurrogate (codeUnit first second third fourth) then
      match rest with
      | .unit first' second' third' fourth' :: rest =>
        if trailingSurrogate (codeUnit first' second' third' fourth') then
          (decoded? rest).map
            (pairedCharacter (codeUnit first second third fourth) (codeUnit first' second' third' fourth') :: ·)
        else none
      | _ => none
    else (decoded? rest).map (Char.ofNat (codeUnit first second third fourth) :: ·)

def textOf? (parts : List TextPart) : Option String := (decoded? parts).map String.ofList

private theorem readHex_unit (first second third fourth : HexDigit) (rest : List Char) :
    readHex (first.character :: second.character :: third.character :: fourth.character :: rest) =
      .ok (codeUnit first second third fourth, rest) := by
  rw [readHex, hexDigit?_character, hexDigit?_character, hexDigit?_character, hexDigit?_character]
  rfl

private theorem readEscape_short {mark stands : Char} (short : (mark, stands) ∈ shortEscapes) (rest : List Char) :
    readEscape (mark :: rest) = .ok (stands, rest) := by
  simp only [shortEscapes, List.mem_cons, List.not_mem_nil, or_false] at short
  rcases short with same | same | same | same | same | same | same | same <;> cases same <;> rfl

private theorem readTextFrom_plain {character : Char}
    (visible : 32 ≤ character.toNat ∧ character ≠ '"' ∧ character ≠ '\\')
    (steps : Nat) (taken rest : List Char) :
    readTextFrom (steps + 1) taken (character :: rest) = readTextFrom steps (character :: taken) rest := by
  obtain ⟨printable, mark, backslash⟩ := visible
  rw [readTextFrom, if_neg mark, if_neg backslash, if_neg (Nat.not_lt.mpr printable)]

private theorem readTextFrom_escape (steps : Nat) (taken rest : List Char) :
    readTextFrom (steps + 1) taken ('\\' :: rest) =
      (readEscape rest).bind fun (escaped, after) => readTextFrom steps (escaped :: taken) after := rfl

private theorem readTextFrom_unit (steps : Nat) (first second third fourth : HexDigit) (more : List TextPart)
    (taken rest : List Char) :
    readTextFrom (steps + 1) taken (textCharacters (.unit first second third fourth :: more) ++ '"' :: rest) =
      (readUnicode (first.character :: second.character :: third.character :: fourth.character ::
        (textCharacters more ++ '"' :: rest))).bind fun (escaped, after) => readTextFrom steps (escaped :: taken) after :=
  rfl

def readTrailing (leading : Nat) (after : List Char) : Except Failure (Char × List Char) :=
  match after with
  | [] => fail .endInText [] 0
  | '\\' :: [] => fail .endInText [] 0
  | '\\' :: 'u' :: more => do
    let (trailing, after) ← readHex more
    if trailingSurrogate trailing then .ok (pairedCharacter leading trailing, after)
    else fail .loneSurrogate after 0
  | '\\' :: more => fail .unfinishedSurrogate more 1
  | _ => fail .unfinishedSurrogate after 1

private theorem readUnicode_unit (first second third fourth : HexDigit) (after : List Char) :
    readUnicode (first.character :: second.character :: third.character :: fourth.character :: after) =
      if trailingSurrogate (codeUnit first second third fourth) then fail .loneSurrogate after 0
      else if leadingSurrogate (codeUnit first second third fourth) then
        readTrailing (codeUnit first second third fourth) after
      else .ok (Char.ofNat (codeUnit first second third fourth), after) := by
  rw [readUnicode, readHex_unit]
  rfl

private theorem readTrailing_unit (leading : Nat) (first second third fourth : HexDigit) (more : List TextPart)
    (rest : List Char) :
    readTrailing leading (textCharacters (.unit first second third fourth :: more) ++ '"' :: rest) =
      if trailingSurrogate (codeUnit first second third fourth) then
        .ok (pairedCharacter leading (codeUnit first second third fourth), textCharacters more ++ '"' :: rest)
      else fail .loneSurrogate (textCharacters more ++ '"' :: rest) 0 := by
  have found : textCharacters (.unit first second third fourth :: more) ++ '"' :: rest =
      '\\' :: 'u' :: first.character :: second.character :: third.character :: fourth.character ::
        (textCharacters more ++ '"' :: rest) := rfl
  rw [found, readTrailing, readHex_unit]
  rfl

/-- Half of a pair is refused when what comes next is not a code unit. -/
theorem readTrailing_other (leading : Nat) {parts : List TextPart}
    (other : ∀ first second third fourth more, parts = .unit first second third fourth :: more → False)
    (rest : List Char) : (readTrailing leading (textCharacters parts ++ '"' :: rest)).toOption = none := by
  cases parts with
  | nil => rfl
  | cons part more =>
    cases part with
    | plain character visible =>
      have found : textCharacters (.plain character visible :: more) ++ '"' :: rest =
          character :: (textCharacters more ++ '"' :: rest) := rfl
      have different : character ≠ '\\' := visible.2.2
      rw [found, readTrailing.eq_def]
      split
      · rfl
      next same => exact absurd (List.cons.inj same).1 different
      next same => exact absurd (List.cons.inj same).1 different
      next same => exact absurd (List.cons.inj same).1 different
      · rfl
    | escape mark stands short =>
      simp only [shortEscapes, List.mem_cons, List.not_mem_nil, or_false] at short
      rcases short with same | same | same | same | same | same | same | same <;> cases same <;> rfl
    | unit first second third fourth => exact (other first second third fourth more rfl).elim

private theorem toOption_bind {ε α β : Type} (first : Except ε α) (next : α → Except ε β) :
    (first.bind next).toOption = first.toOption.bind fun value => (next value).toOption := by
  cases first <;> rfl

/-- The parts of a text are read as the characters that they stand for, one step for each of these. -/
theorem readTextFrom_parts {parts : List TextPart} {steps : Nat} (enough : parts.length ≤ steps)
    (taken rest : List Char) : (readTextFrom (steps + 1) taken (textCharacters parts ++ '"' :: rest)).toOption =
      (decoded? parts).map fun more => (String.ofList (taken.reverse ++ more), rest) := by
  have behind {parts : List TextPart} {steps : Nat} {character : Char} {taken : List Char}
      (read : (readTextFrom (steps + 1) (character :: taken) (textCharacters parts ++ '"' :: rest)).toOption =
        (decoded? parts).map fun more => (String.ofList ((character :: taken).reverse ++ more), rest)) :
      (readTextFrom (steps + 1) (character :: taken) (textCharacters parts ++ '"' :: rest)).toOption =
        ((decoded? parts).map (character :: ·)).map fun more => (String.ofList (taken.reverse ++ more), rest) := by
    rw [read, Option.map_map]
    simp [Function.comp_def]
  fun_induction decoded? parts generalizing steps taken with
  | case1 =>
    change some (String.ofList taken.reverse, rest) = some (String.ofList (taken.reverse ++ []), rest)
    rw [List.append_nil]
  | case2 character visible more ih =>
    obtain ⟨steps, rfl⟩ := Nat.exists_eq_succ_of_ne_zero (Nat.ne_of_gt (Nat.zero_lt_of_lt enough))
    have found : textCharacters (.plain character visible :: more) ++ '"' :: rest =
        character :: (textCharacters more ++ '"' :: rest) := rfl
    rw [found, readTextFrom_plain visible]
    exact behind (ih (Nat.le_of_succ_le_succ enough) _)
  | case3 mark stands short more ih =>
    obtain ⟨steps, rfl⟩ := Nat.exists_eq_succ_of_ne_zero (Nat.ne_of_gt (Nat.zero_lt_of_lt enough))
    have found : textCharacters (.escape mark stands short :: more) ++ '"' :: rest =
        '\\' :: mark :: (textCharacters more ++ '"' :: rest) := rfl
    rw [found, readTextFrom_escape, readEscape_short short]
    exact behind (ih (Nat.le_of_succ_le_succ enough) _)
  | case4 first second third fourth more trailing =>
    rw [readTextFrom_unit, readUnicode_unit, if_pos trailing]
    rfl
  | case5 first second third fourth single half first' second' third' fourth' more paired ih =>
    obtain ⟨steps, rfl⟩ := Nat.exists_eq_succ_of_ne_zero (Nat.ne_of_gt (Nat.zero_lt_of_lt enough))
    rw [readTextFrom_unit, readUnicode_unit, if_neg single, if_pos half, readTrailing_unit, if_pos paired]
    exact behind (ih (Nat.le_of_succ_le (Nat.le_of_succ_le_succ enough)) _)
  | case6 first second third fourth single half first' second' third' fourth' more unpaired =>
    rw [readTextFrom_unit, readUnicode_unit, if_neg single, if_pos half, readTrailing_unit, if_neg unpaired]
    rfl
  | case7 first second third fourth more single half other =>
    rw [readTextFrom_unit, readUnicode_unit, if_neg single, if_pos half, toOption_bind, readTrailing_other _ other]
    rfl
  | case8 first second third fourth more single whole ih =>
    obtain ⟨steps, rfl⟩ := Nat.exists_eq_succ_of_ne_zero (Nat.ne_of_gt (Nat.zero_lt_of_lt enough))
    rw [readTextFrom_unit, readUnicode_unit, if_neg single, if_neg whole]
    exact behind (ih (Nat.le_of_succ_le_succ enough) _)

private theorem length_le_textCharacters (parts : List TextPart) : parts.length ≤ (textCharacters parts).length := by
  induction parts with
  | nil => exact Nat.le_refl 0
  | cons part parts ih =>
    have one : 1 ≤ part.characters.length := by cases part <;> exact Nat.succ_pos _
    rw [textCharacters, List.flatMap_cons, List.length_append, List.length_cons, Nat.add_comm]
    exact Nat.add_le_add one ih

theorem readText_parts (parts : List TextPart) (rest : List Char) :
    (readText (textCharacters parts ++ '"' :: rest)).toOption = (textOf? parts).map (·, rest) := by
  have enough : parts.length ≤ (textCharacters parts ++ '"' :: rest).length := by
    rw [List.length_append]
    exact Nat.le_add_right_of_le (length_le_textCharacters parts)
  rw [readText, readTextFrom_parts enough [] rest, textOf?, Option.map_map]
  rfl

end IntentRollout.Json
