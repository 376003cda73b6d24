import IntentRollout.Toml.Draft

/-!
Reading a configuration text. Each step takes the characters that are left and gives back a value with
the characters after it; a text that is not well formed has no value. Arrays and tables in braces nest
up to 79 levels, and a dotted key has up to 79 parts.
-/

namespace IntentRollout.Toml

/-! ### Blanks, line ends and comments -/

def skipBlank : List Char → List Char
  | ' ' :: rest => skipBlank rest
  | '\t' :: rest => skipBlank rest
  | rest => rest

def readLineEnd? : List Char → Option (List Char)
  | '\n' :: rest => some rest
  | '\r' :: '\n' :: rest => some rest
  | _ => none

def isControl (character : Char) : Bool :=
  (character.toNat < 32 && character ≠ '\t') || character.toNat = 127

/-- The characters after a comment; it ends before the first control character. -/
def skipComment (rest : List Char) : List Char := rest.dropWhile fun character => !isControl character

/-- Blanks and a comment up to the end of a line. -/
def readLineRest? (rest : List Char) : Option (List Char) :=
  let after := match skipBlank rest with
    | '#' :: comment => skipComment comment
    | after => after
  match after with
  | [] => some []
  | after => readLineEnd? after

/-- Blanks, comments and line ends between the items of an array. -/
def skipLines : Nat → List Char → Option (List Char)
  | 0, rest => some rest
  | steps + 1, rest =>
    match skipBlank rest with
    | '#' :: comment => do skipLines steps (← readLineEnd? (skipComment comment))
    | '\n' :: after => skipLines steps after
    | '\r' :: after => do skipLines steps (← readLineEnd? ('\r' :: after))
    | after => some after

/-! ### Texts -/

def hexValue? (digits : List Char) : Option Nat :=
  digits.foldlM (fun value digit =>
    if digit.isDigit then some (value * 16 + (digit.toNat - '0'.toNat))
    else if 'a' ≤ digit ∧ digit ≤ 'f' then some (value * 16 + (digit.toNat - 'a'.toNat + 10))
    else if 'A' ≤ digit ∧ digit ≤ 'F' then some (value * 16 + (digit.toNat - 'A'.toNat + 10))
    else none) 0

/-- A character by its code of some digits. -/
def readCode? (count : Nat) (rest : List Char) : Option (Char × List Char) := do
  let digits := rest.take count
  if digits.length ≠ count then none
  else
    let code ← hexValue? digits
    if Nat.isValidChar code then some (Char.ofNat code, rest.drop count) else none

def readEscape? : List Char → Option (Char × List Char)
  | 'b' :: rest => some ('\x08', rest)
  | 't' :: rest => some ('\t', rest)
  | 'n' :: rest => some ('\n', rest)
  | 'f' :: rest => some ('\x0c', rest)
  | 'r' :: rest => some ('\r', rest)
  | '"' :: rest => some ('"', rest)
  | '\\' :: rest => some ('\\', rest)
  | 'u' :: rest => readCode? 4 rest
  | 'U' :: rest => readCode? 8 rest
  | _ => none

/-- Takes a text on one line after its opening mark. In a text between apostrophes a backslash stands
for itself. -/
def readLine? (mark : Char) : Nat → List Char → List Char → Option (String × List Char)
  | 0, _, _ => none
  | _, _, [] => none
  | steps + 1, taken, character :: rest =>
    if character = mark then some (String.ofList taken.reverse, rest)
    else if mark = '"' ∧ character = '\\' then do
      let (escaped, after) ← readEscape? rest
      readLine? mark steps (escaped :: taken) after
    else if isControl character then none
    else readLine? mark steps (character :: taken) rest

/-- Blanks and line ends after a backslash at the end of a line. -/
def skipFold : List Char → List Char
  | ' ' :: rest => skipFold rest
  | '\t' :: rest => skipFold rest
  | '\n' :: rest => skipFold rest
  | '\r' :: '\n' :: rest => skipFold rest
  | rest => rest

/-- Takes a text of several lines. Of the marks at its end, all but the last three belong to it, at
most two. -/
def readLines? (mark : Char) : Nat → List Char → List Char → Option (String × List Char)
  | 0, _, _ => none
  | _, _, [] => none
  | steps + 1, taken, character :: rest =>
    if character = mark then
      let marks := (character :: rest).takeWhile (· = mark)
      if 3 ≤ marks.length then
        let kept := min (marks.length - 3) 2
        some (String.ofList (taken.reverse ++ List.replicate kept mark), (character :: rest).drop (kept + 3))
      else readLines? mark steps (character :: taken) rest
    else if mark = '"' ∧ character = '\\' then
      match readLineEnd? (skipBlank rest) with
      | some after => readLines? mark steps taken (skipFold after)
      | none => do
        let (escaped, after) ← readEscape? rest
        readLines? mark steps (escaped :: taken) after
    else if character = '\n' then readLines? mark steps ('\n' :: taken) rest
    else if character = '\r' then do
      let after ← readLineEnd? ('\r' :: rest)
      readLines? mark steps ('\n' :: taken) after
    else if isControl character then none
    else readLines? mark steps (character :: taken) rest

/-- Takes a text after its first mark. A line end right after three marks does not count. -/
def readText? (mark : Char) (rest : List Char) : Option (String × List Char) :=
  match rest with
  | second :: third :: after =>
    if second = mark ∧ third = mark then
      let inner := (readLineEnd? after).getD after
      readLines? mark (inner.length + 1) [] inner
    else readLine? mark (rest.length + 1) [] rest
  | _ => readLine? mark (rest.length + 1) [] rest

/-! ### Keys -/

def isBare (character : Char) : Bool :=
  character.isAlphanum || character = '_' || character = '-'

def readKeyPart? (rest : List Char) : Option (String × List Char) :=
  match rest with
  | '"' :: after => readLine? '"' (after.length + 1) [] after
  | '\'' :: after => readLine? '\'' (after.length + 1) [] after
  | _ =>
    let bare := rest.takeWhile isBare
    if bare.isEmpty then none else some (String.ofList bare, rest.dropWhile isBare)

/-- Takes a dotted key with the blanks around its parts. -/
def readKeyFrom? : Nat → List String → List Char → Option (List String × List Char)
  | 0, _, _ => none
  | steps + 1, parts, rest => do
    let (part, after) ← readKeyPart? (skipBlank rest)
    match skipBlank after with
    | '.' :: more => readKeyFrom? steps (part :: parts) more
    | after => some (part :: parts, after)

/-- The parts before the last, the last part, and the characters after the key. -/
def readKey? (rest : List Char) : Option (List String × String × List Char) := do
  match ← readKeyFrom? 79 [] rest with
  | (last :: earlier, after) => some (earlier.reverse, last, after)
  | ([], _) => none

/-! ### Numbers and moments -/

/-- Digits of a kind, with single low lines between them. -/
def readDigits (accepts : Char → Bool) : List Char → List Char × List Char
  | [] => ([], [])
  | character :: '_' :: next :: rest =>
    if !accepts character then ([], character :: '_' :: next :: rest)
    else if accepts next then
      let (digits, after) := readDigits accepts (next :: rest)
      (character :: digits, after)
    else ([character], '_' :: next :: rest)
  | character :: rest =>
    if accepts character then
      let (digits, after) := readDigits accepts rest
      (character :: digits, after)
    else ([], character :: rest)

def decimalValue (digits : List Char) : Nat :=
  digits.foldl (fun value digit => value * 10 + (digit.toNat - '0'.toNat)) 0

def inRange (value : Int) : Bool :=
  Int64.minValue.toInt ≤ value && value ≤ Int64.maxValue.toInt

/-- Takes an integer with a base other than ten after its mark. -/
def readBased? (base : Nat) (accepts : Char → Bool) (rest : List Char) : Option (Toml × List Char) := do
  let (digits, after) := readDigits accepts rest
  if digits.isEmpty then none
  else
    let value ← digits.foldlM (fun value digit => (hexValue? [digit]).map (value * base + ·)) 0
    if inRange value then some (.integer value, after) else none

def isHexDigit (character : Char) : Bool := (hexValue? [character]).isSome

def isOctalDigit (character : Char) : Bool := '0' ≤ character && character ≤ '7'

def isBinaryDigit (character : Char) : Bool := character = '0' || character = '1'

def readWhole? (rest : List Char) : Option (Bool × List Char × List Char) :=
  let (negative, digits) := match rest with
    | '-' :: digits => (true, digits)
    | '+' :: digits => (false, digits)
    | digits => (false, digits)
  match digits with
  | '0' :: after => some (negative, ['0'], after)
  | _ =>
    let (whole, after) := readDigits Char.isDigit digits
    if whole.isEmpty then none else some (negative, whole, after)

/-- Takes the power of ten after its mark. -/
def readPower? (rest : List Char) : Option (Int × List Char) :=
  let (negative, digits) := match rest with
    | '-' :: digits => (true, digits)
    | '+' :: digits => (false, digits)
    | digits => (false, digits)
  let (power, after) := readDigits Char.isDigit digits
  if power.isEmpty then none
  else
    let value : Int := decimalValue power
    some (if negative then -value else value, after)

/-- A number that is rounded to plus infinity is refused. -/
def floatValue? (negative : Bool) (digits : List Char) (power : Int) : Option Toml :=
  let value := Binary64.ofDecimal negative (decimalValue digits) power
  if value = Binary64.infinite false then none else some (.float value)

def readNumber? (rest : List Char) : Option (Toml × List Char) := do
  match rest with
  | '0' :: 'x' :: after => readBased? 16 isHexDigit after
  | '0' :: 'o' :: after => readBased? 8 isOctalDigit after
  | '0' :: 'b' :: after => readBased? 2 isBinaryDigit after
  | _ =>
    let (negative, whole, after) ← readWhole? rest
    let (fraction, after) ← match after with
      | '.' :: more =>
        let (fraction, after) := readDigits Char.isDigit more
        if fraction.isEmpty then none else some (some fraction, after)
      | after => some (none, after)
    let (power, after) ← match after with
      | 'e' :: more => do
        let (power, after) ← readPower? more
        some (some power, after)
      | 'E' :: more => do
        let (power, after) ← readPower? more
        some (some power, after)
      | after => some (none, after)
    match fraction, power with
    | none, none =>
      let value : Int := if negative then -(decimalValue whole : Int) else decimalValue whole
      if inRange value then some (.integer value, after) else none
    | fraction, power =>
      let places := fraction.getD []
      let float ← floatValue? negative (whole ++ places) (power.getD 0 - places.length)
      some (float, after)

/-- A fixed number of digits with a value in a range. -/
def readField? (count low high : Nat) (rest : List Char) : Option (Nat × List Char) :=
  let digits := rest.take count
  let value := decimalValue digits
  if digits.length = count ∧ digits.all Char.isDigit ∧ low ≤ value ∧ value ≤ high then
    some (value, rest.drop count)
  else none

def expect? (expected : Char) : List Char → Option (List Char)
  | character :: rest => if character = expected then some rest else none
  | [] => none

def daysInMonth (year month : Nat) : Nat :=
  if month = 2 then
    if year % 4 = 0 ∧ (year % 100 ≠ 0 ∨ year % 400 = 0) then 29 else 28
  else if month = 4 ∨ month = 6 ∨ month = 9 ∨ month = 11 then 30 else 31

def readDate? (rest : List Char) : Option (List Char) := do
  let (year, rest) ← readField? 4 0 9999 rest
  let (month, rest) ← readField? 2 1 12 (← expect? '-' rest)
  let (_, rest) ← readField? 2 1 (daysInMonth year month) (← expect? '-' rest)
  some rest

def readTime? (rest : List Char) : Option (List Char) := do
  let (_, rest) ← readField? 2 0 23 rest
  let (_, rest) ← readField? 2 0 59 (← expect? ':' rest)
  let (_, rest) ← readField? 2 0 60 (← expect? ':' rest)
  match rest with
  | '.' :: fraction =>
    if (fraction.takeWhile Char.isDigit).isEmpty then none else some (fraction.dropWhile Char.isDigit)
  | _ => some rest

def readOffset? (rest : List Char) : Option (List Char) := do
  let (_, rest) ← readField? 2 0 23 rest
  let (_, rest) ← readField? 2 0 59 (← expect? ':' rest)
  some rest

/-- Takes a date, a time, or a date and a time with or without an offset. -/
def readMoment? (rest : List Char) : Option (List Char) :=
  match readDate? rest with
  | none => readTime? rest
  | some after =>
    let timed := match after with
      | 'T' :: time => readTime? time
      | 't' :: time => readTime? time
      | ' ' :: time => readTime? time
      | _ => none
    match timed with
    | none => some after
    | some ('Z' :: after) => some after
    | some ('z' :: after) => some after
    | some ('+' :: offset) => readOffset? offset
    | some ('-' :: offset) => readOffset? offset
    | some after => some after

/-! ### Values -/

def readWord? : List Char → List Char → Option (List Char)
  | [], rest => some rest
  | _ :: _, [] => none
  | letter :: letters, character :: rest => if character = letter then readWord? letters rest else none

/-- Infinity or not a number after a sign. -/
def readSpecial? (negative : Bool) (rest : List Char) : Option (Toml × List Char) :=
  match readWord? ['i', 'n', 'f'] rest with
  | some after => some (.float (Binary64.infinite negative), after)
  | none => do
    let after ← readWord? ['n', 'a', 'n'] rest
    some (.float (Binary64.notANumber negative), after)

/-- Takes items up to the end of an array. -/
def readItems? (readItem : List Char → Option (Toml × List Char)) :
    Nat → List Toml → List Char → Option (List Toml × List Char)
  | 0, _, _ => none
  | steps + 1, items, rest => do
    match ← skipLines (rest.length + 1) rest with
    | ']' :: after => some (items.reverse, after)
    | after =>
      let (item, after) ← readItem after
      match ← skipLines (after.length + 1) after with
      | ',' :: after => readItems? readItem steps (item :: items) after
      | ']' :: after => some ((item :: items).reverse, after)
      | _ => none

/-- Takes the lines of a table in braces, of which at least one is there. -/
def readPairs? (readItem : List Char → Option (Toml × List Char)) :
    Nat → List Draft.Line → List Char → Option (List Draft.Line × List Char)
  | 0, _, _ => none
  | steps + 1, lines, rest => do
    let (path, key, after) ← readKey? rest
    let (value, after) ← readItem (skipBlank (← expect? '=' after))
    match skipBlank after with
    | ',' :: after => readPairs? readItem steps (⟨path, key, value⟩ :: lines) after
    | '\x7d' :: after => some ((⟨path, key, value⟩ :: lines).reverse, after)
    | _ => none

/-- Takes a value that may hold `levels` levels of arrays and tables. -/
def readValue? (levels : Nat) (rest : List Char) : Option (Toml × List Char) :=
  match rest with
  | '"' :: after => (readText? '"' after).map fun (value, after) => (.text value, after)
  | '\'' :: after => (readText? '\'' after).map fun (value, after) => (.text value, after)
  | '[' :: after =>
    match levels with
    | 0 => none
    | levels + 1 => do
      let (items, after) ← readItems? (readValue? levels) (after.length + 1) [] after
      some (.array items, after)
  | '\x7b' :: after =>
    match levels with
    | 0 => none
    | levels + 1 =>
      match skipBlank after with
      | '\x7d' :: after => some (.table [], after)
      | after => do
        let (lines, after) ← readPairs? (readValue? levels) (after.length + 1) [] after
        some (← ofLines? lines, after)
  | 't' :: after => (readWord? ['r', 'u', 'e'] after).map fun after => (.bool true, after)
  | 'f' :: after => (readWord? ['a', 'l', 's', 'e'] after).map fun after => (.bool false, after)
  | 'i' :: _ => readSpecial? false rest
  | 'n' :: _ => readSpecial? false rest
  | '+' :: 'i' :: after => readSpecial? false ('i' :: after)
  | '+' :: 'n' :: after => readSpecial? false ('n' :: after)
  | '-' :: 'i' :: after => readSpecial? true ('i' :: after)
  | '-' :: 'n' :: after => readSpecial? true ('n' :: after)
  | _ =>
    match readMoment? rest with
    | some after => some (.moment (String.ofList (rest.take (rest.length - after.length))), after)
    | none => readNumber? rest
termination_by structural levels

def maximalLevels : Nat := 79

/-! ### Lines and sections -/

/-- Takes lines up to a header or the end. -/
def readPlainLines? : Nat → List Draft.Line → List Char → Option (List Draft.Line × List Char)
  | 0, _, _ => none
  | steps + 1, lines, rest =>
    match skipBlank rest with
    | [] => some (lines.reverse, [])
    | '[' :: after => some (lines.reverse, '[' :: after)
    | '#' :: after => do readPlainLines? steps lines (← readLineRest? ('#' :: after))
    | '\n' :: after => readPlainLines? steps lines after
    | '\r' :: after => do readPlainLines? steps lines (← readLineEnd? ('\r' :: after))
    | after => do
      let (path, key, after) ← readKey? after
      let (value, after) ← readValue? maximalLevels (skipBlank (← expect? '=' after))
      readPlainLines? steps (⟨path, key, value⟩ :: lines) (← readLineRest? after)

/-- Takes sections up to the end; each starts with a header. -/
def readSections? : Nat → List Draft.Section → List Char → Option (List Draft.Section)
  | 0, _, _ => none
  | steps + 1, sections, rest =>
    match rest with
    | [] => some sections.reverse
    | '[' :: '[' :: after => do
      let (path, key, after) ← readKey? after
      let after ← readLineRest? (← expect? ']' (← expect? ']' after))
      let (lines, after) ← readPlainLines? (after.length + 1) [] after
      readSections? steps (⟨true, path, key, lines⟩ :: sections) after
    | '[' :: after => do
      let (path, key, after) ← readKey? after
      let after ← readLineRest? (← expect? ']' after)
      let (lines, after) ← readPlainLines? (after.length + 1) [] after
      readSections? steps (⟨false, path, key, lines⟩ :: sections) after
    | _ => none

def readChars? (characters : List Char) : Option Toml := do
  let characters := match characters with
    | '\ufeff' :: rest => rest
    | all => all
  let (lines, after) ← readPlainLines? (characters.length + 1) [] characters
  let sections ← readSections? (after.length + 1) [] after
  ofSections? lines sections

/-- Reads a configuration text; nothing if it is not well formed. -/
def read? (text : String) : Option Toml := readChars? text.toList

end IntentRollout.Toml
