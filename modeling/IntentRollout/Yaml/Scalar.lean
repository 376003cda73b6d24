import IntentRollout.Binary64.Basic

/-!
Texts in resource files. A text stands as it is if it cannot be mistaken for anything else. Between
apostrophes stands what would read as another value or as notation; between quotation marks what has
characters that cannot be shown; and a text with line ends becomes a block of lines. Lines are never
folded.
-/

namespace IntentRollout.Yaml

/-! ### Texts that read as other values -/

def reservedWords : List String := [
  "", "null", "Null", "NULL", "~", "true", "True", "TRUE", "false", "False", "FALSE",
  ".inf", ".Inf", ".INF", "+.inf", "+.Inf", "+.INF", "-.inf", "-.Inf", "-.INF", ".nan", ".NaN", ".NAN"]

/-- The value of a digit, letters counting from ten. -/
def digitValue? (character : Char) : Option Nat :=
  if character.isDigit then some (character.toNat - '0'.toNat)
  else if 'a' ≤ character ∧ character ≤ 'z' then some (character.toNat - 'a'.toNat + 10)
  else if 'A' ≤ character ∧ character ≤ 'Z' then some (character.toNat - 'A'.toNat + 10)
  else none

/-- The value of some digits to a base. -/
def digitsValue? (base : Nat) (digits : List Char) : Option Nat :=
  if digits.isEmpty then none
  else digits.foldlM (fun value character => do
    let digit ← digitValue? character
    if digit < base then some (value * base + digit) else none) 0

/-- Base and digits of an integer that is marked as not decimal. -/
def basedDigits? : List Char → Option (Nat × List Char)
  | '0' :: 'x' :: digits => some (16, digits)
  | '0' :: 'o' :: digits => some (8, digits)
  | '0' :: 'b' :: digits => some (2, digits)
  | _ => none

/-- Whether characters spell an integer of 128 bits to a marked base. -/
def isBasedInteger (characters : List Char) : Bool :=
  let (limit, unsigned) := match characters with
    | '-' :: rest => (Nat.pow 2 127, rest)
    | '+' :: rest => (Nat.pow 2 128 - 1, rest)
    | rest => (Nat.pow 2 128 - 1, rest)
  match basedDigits? unsigned with
  | none => false
  | some (base, digits) => (digitsValue? base digits).any (· ≤ limit)

def withoutSign : List Char → List Char
  | '-' :: rest => rest
  | '+' :: rest => rest
  | rest => rest

/-- Whether characters spell a decimal number that is not too large. -/
def isDecimal (characters : List Char) : Bool :=
  let unsigned := withoutSign characters
  let whole := unsigned.takeWhile Char.isDigit
  let (fraction, rest) := match unsigned.dropWhile Char.isDigit with
    | '.' :: rest => (rest.takeWhile Char.isDigit, rest.dropWhile Char.isDigit)
    | rest => ([], rest)
  let power? : Option Int := match rest with
    | [] => some 0
    | mark :: rest =>
      if mark = 'e' ∨ mark = 'E' then
        (digitsValue? 10 (withoutSign rest)).map fun power =>
          if rest.head? = some '-' then -(power : Int) else power
      else none
  match power?, digitsValue? 10 (whole ++ fraction) with
  | some power, some value => (Binary64.ofDecimal false value (power - fraction.length)).isFinite
  | _, _ => false

/-- Digits that start with a zero are no number, but look like one. -/
def isPaddedDigits (characters : List Char) : Bool :=
  match withoutSign characters with
  | '0' :: next :: rest => (next :: rest).all Char.isDigit
  | _ => false

/-- Whether a text without marks around it would not read as a text. -/
def readsOtherwise (characters : List Char) : Bool :=
  reservedWords.contains (String.ofList characters) || isBasedInteger characters ||
    isPaddedDigits characters || isDecimal characters

/-! ### What a text is made of -/

def isBreak (character : Char) : Bool :=
  character = '\n' || character = '\r' || character.toNat = 0x85 || character.toNat = 0x2028 ||
    character.toNat = 0x2029

/-- White space that separates tokens; the end of a text counts too. -/
def startsBlank : List Char → Bool
  | [] => true
  | character :: _ =>
    character = ' ' || character = '\t' || character = '\x00' || isBreak character

/-- Whether a character can be shown as it is. -/
def isShown (character : Char) : Bool :=
  let code := character.toNat
  code = 10 || (32 ≤ code && code ≤ 126) ||
    (0xA0 ≤ code && code ≠ 0xFEFF && code ≠ 0xFFFE && code ≠ 0xFFFF)

/-- A colon before white space anywhere, or a number sign after it. -/
def hasInnerMark : List Char → Bool
  | [] => false
  | first :: rest =>
    (first = ':' && startsBlank rest) || (startsBlank [first] && rest.head? = some '#') ||
      hasInnerMark rest

/-- Whether the beginning of a text is notation. -/
def startsWithMark (characters : List Char) : Bool :=
  match characters with
  | '-' :: '-' :: '-' :: _ => true
  | '.' :: '.' :: '.' :: _ => true
  | first :: rest =>
    "#,[]\x7b\x7d&*!|>'\"%@`".toList.contains first ||
      ((first = '?' || first = ':' || first = '-') && startsBlank rest)
  | [] => false

/-- Two neighbours of which the first and the second pass a test each. -/
def hasNeighbours (before after : Char → Bool) : List Char → Bool
  | first :: second :: rest =>
    (before first && after second) || hasNeighbours before after (second :: rest)
  | _ => false

def isSpace (character : Char) : Bool := character = ' '

/-- Whether a character that cannot be shown, or a space before a line end, forces quotation marks. -/
def needsEscapes (characters : List Char) : Bool :=
  characters.any (!isShown ·) || hasNeighbours isSpace isBreak characters

/-- Whether a text may stand as it is. -/
def plainAllowed (characters : List Char) : Bool :=
  !needsEscapes characters && !characters.any isBreak && !startsWithMark characters &&
    !hasInnerMark characters && characters.head? ≠ some ' ' && characters.getLast? ≠ some ' '

def apostrophesAllowed (characters : List Char) : Bool :=
  !needsEscapes characters && !hasNeighbours isBreak isSpace characters

/-- Whether a text may become a block of lines. -/
def blockAllowed (characters : List Char) : Bool :=
  !characters.isEmpty && !needsEscapes characters && characters.getLast? ≠ some ' '

/-! ### Written forms -/

/-- Capital hexadecimal digits of a width. -/
def hexDigits : Nat → Nat → List Char
  | 0, _ => []
  | width + 1, code => hexDigits width (code / 16) ++ [(Nat.digitChar (code % 16)).toUpper]

def escaped (character : Char) : List Char :=
  match character with
  | '\x00' => ['\\', '0']
  | '\x07' => ['\\', 'a']
  | '\x08' => ['\\', 'b']
  | '\t' => ['\\', 't']
  | '\n' => ['\\', 'n']
  | '\x0b' => ['\\', 'v']
  | '\x0c' => ['\\', 'f']
  | '\r' => ['\\', 'r']
  | '\x1b' => ['\\', 'e']
  | '"' => ['\\', '"']
  | '\\' => ['\\', '\\']
  | '\u0085' => ['\\', 'N']
  | '\u2028' => ['\\', 'L']
  | '\u2029' => ['\\', 'P']
  | _ =>
    if isShown character then [character]
    else if character.toNat ≤ 0xFF then '\\' :: 'x' :: hexDigits 2 character.toNat
    else if character.toNat ≤ 0xFFFF then '\\' :: 'u' :: hexDigits 4 character.toNat
    else '\\' :: 'U' :: hexDigits 8 character.toNat

def quotationMarks (characters : List Char) : List Char :=
  '"' :: characters.flatMap escaped ++ ['"']

def spaces (count : Nat) : List Char := List.replicate count ' '

/-- Characters between apostrophes. A line end that is alone is doubled, and what follows a line end is
indented; `broken` says whether a line end comes before. -/
def apostropheChars (indent : Nat) (broken : Bool) : List Char → List Char
  | [] => if broken then spaces indent else []
  | character :: rest =>
    if isBreak character then
      (if character = '\n' && !broken then ['\n', '\n'] else [character]) ++
        apostropheChars indent true rest
    else if character = ' ' then ' ' :: apostropheChars indent broken rest
    else
      (if broken then spaces indent else []) ++
        (if character = '\'' then ['\'', '\''] else [character]) ++ apostropheChars indent false rest

def apostrophes (indent : Nat) (characters : List Char) : List Char :=
  '\'' :: apostropheChars indent false characters ++ ['\'']

/-- The lines of a block; lines that are empty are not indented. -/
def blockChars (indent : Nat) (broken : Bool) : List Char → List Char
  | [] => []
  | character :: rest =>
    if isBreak character then character :: blockChars indent true rest
    else (if broken then spaces indent else []) ++ character :: blockChars indent false rest

/-- A mark for a block that starts with a space or a line end, and one for the line ends at its end:
none, one, or more. -/
def blockMarks (characters : List Char) : List Char :=
  let start := match characters with
    | first :: _ => if first = ' ' || isBreak first then ['2'] else []
    | [] => []
  let finish := match characters.reverse with
    | [] => ['-']
    | last :: before =>
      if !isBreak last then ['-']
      else
        match before with
        | [] => ['+']
        | previous :: _ => if isBreak previous then ['+'] else []
  start ++ finish

def block (indent : Nat) (characters : List Char) : List Char :=
  '|' :: blockMarks characters ++ '\n' :: blockChars indent true characters

/-- The written form of a text whose further lines are indented. -/
def scalar (indent : Nat) (characters : List Char) : List Char :=
  if characters.contains '\n' then
    if blockAllowed characters then block indent characters else quotationMarks characters
  else if !readsOtherwise characters && plainAllowed characters then characters
  else if apostrophesAllowed characters then apostrophes indent characters
  else quotationMarks characters

/-- The written form of a key, which has its place on one line. -/
def key (characters : List Char) : List Char :=
  if characters.any isBreak then quotationMarks characters else scalar 0 characters

end IntentRollout.Yaml
