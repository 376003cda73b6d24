import IntentRollout.Json.Fault

/-!
Reading a document. Each step takes the characters that are left and gives back a value with the
characters after it, or the first fault. A list or object may stand inside at most 126 others.

A number with a point, an exponent, or more digits than a 64-bit integer holds is scaled by one
rounded multiplication or division with a power of ten; digits beyond the sixty-fourth bit count as
zeros.
-/

namespace IntentRollout.Json

def fail {α : Type} (fault : Fault) (unread : List Char) (past : Nat) : Except Failure α :=
  .error ⟨fault, unread, past⟩

def skipBlank : List Char → List Char
  | [] => []
  | character :: rest =>
    if character = ' ' ∨ character = '\n' ∨ character = '\t' ∨ character = '\r' then skipBlank rest
    else character :: rest

/-- Takes the rest of a word of which the first letter was seen. -/
def readWord : List Char → List Char → Except Failure (List Char)
  | [], rest => .ok rest
  | _ :: _, [] => fail .endInValue [] 0
  | expected :: letters, character :: rest =>
    if character = expected then readWord letters rest else fail .expectedWord (character :: rest) 1

/-! ### Numbers -/

def digit? (character : Char) : Option Nat :=
  if '0' ≤ character ∧ character ≤ '9' then some (character.toNat - '0'.toNat) else none

def isDigit (character : Char) : Bool := (digit? character).isSome

def startsWithDigit : List Char → Bool
  | [] => false
  | character :: _ => isDigit character

/-- Takes digits into a significand while it stays below `limit`; counts them. -/
def takeDigits (limit significand count : Nat) : List Char → Nat × Nat × List Char
  | [] => (significand, count, [])
  | character :: rest =>
    match digit? character with
    | none => (significand, count, character :: rest)
    | some digit =>
      if significand * 10 + digit < limit then
        takeDigits limit (significand * 10 + digit) (count + 1) rest
      else (significand, count, character :: rest)

/-- Divides by a power of ten, in steps of at most 308 places. -/
def scaleDown (value : Binary64) (places : Nat) : Binary64 :=
  if places ≤ 308 then value.div (Binary64.ofDecimal false 1 places)
  else if value.isZero then value
  else scaleDown (value.div (Binary64.ofDecimal false 1 308)) (places - 308)
termination_by places

/-- The significand times a power of ten, unless that is too large. -/
def scaled? (significand : Nat) (power : Int) : Option Binary64 :=
  let value := Binary64.ofNat significand
  if power < 0 then some (scaleDown value power.natAbs)
  else if power ≤ 308 then
    let product := value.mul (Binary64.ofDecimal false 1 power)
    if product.isFinite then some product else none
  else if value.isZero then some value
  else none

def signed (negative : Bool) (value : Binary64) : Number := .float (if negative then value.neg else value)

/-- The number that ends here. -/
def scaledNumber (negative : Bool) (significand : Nat) (power : Int) (rest : List Char) :
    Except Failure (Number × List Char) :=
  match scaled? significand power with
  | some value => .ok (signed negative value, rest)
  | none => fail .numberOutOfRange rest 0

/-- Takes the power after its mark. Powers stay within 32 bits. -/
def readPower (negative : Bool) (significand : Nat) (power : Int) (rest : List Char) :
    Except Failure (Number × List Char) :=
  let (down, digits) := match rest with
    | '+' :: digits => (false, digits)
    | '-' :: digits => (true, digits)
    | digits => (false, digits)
  match digits with
  | [] => fail .endInValue [] 0
  | character :: _ =>
    if isDigit character then
      let (written, _, after) := takeDigits (Nat.pow 2 31) 0 0 digits
      if startsWithDigit after then
        if significand ≠ 0 ∧ !down then fail .numberOutOfRange (after.drop 1) 0
        else .ok (signed negative (Binary64.zero false), after.dropWhile isDigit)
      else
        let total : Int := if down then power - written else power + written
        scaledNumber negative significand (max Int32.minValue.toInt (min total Int32.maxValue.toInt)) after
    else fail .invalidNumber digits 1

def readFraction (negative : Bool) (significand : Nat) (power : Int) (rest : List Char) :
    Except Failure (Number × List Char) :=
  let (significand, count, after) := takeDigits UInt64.size significand 0 rest
  let continued (after : List Char) : Except Failure (Number × List Char) :=
    match after with
    | 'e' :: more => readPower negative significand (power - count) more
    | 'E' :: more => readPower negative significand (power - count) more
    | _ => scaledNumber negative significand (power - count) after
  if startsWithDigit after then continued (after.dropWhile isDigit)
  else if count = 0 then
    match after with
    | [] => fail .endInValue [] 0
    | _ => fail .invalidNumber after 1
  else continued after

/-- An integer in the range of 64 bits stays one, except that zero has no sign. -/
def wholeNumber (negative : Bool) (significand : Nat) : Number :=
  if negative then
    if 0 < significand ∧ significand ≤ Nat.pow 2 63 then .integer (-significand)
    else .float (Binary64.ofNat significand).neg
  else .integer significand

def readNumber (negative : Bool) (rest : List Char) : Except Failure (Number × List Char) :=
  match rest with
  | [] => fail .endInValue [] 0
  | first :: more =>
    if first = '0' ∧ startsWithDigit more then fail .invalidNumber more 1
    else if isDigit first then
      let (significand, _, after) := takeDigits UInt64.size 0 0 rest
      let dropped := after.takeWhile isDigit
      match after.dropWhile isDigit with
      | '.' :: more => readFraction negative significand dropped.length more
      | 'e' :: more => readPower negative significand dropped.length more
      | 'E' :: more => readPower negative significand dropped.length more
      | after =>
        if dropped.isEmpty then .ok (wholeNumber negative significand, after)
        else scaledNumber negative significand dropped.length after
    else fail .invalidNumber rest 1

/-! ### Texts -/

def hexDigit? (character : Char) : Option Nat :=
  if '0' ≤ character ∧ character ≤ '9' then some (character.toNat - '0'.toNat)
  else if 'a' ≤ character ∧ character ≤ 'f' then some (character.toNat - 'a'.toNat + 10)
  else if 'A' ≤ character ∧ character ≤ 'F' then some (character.toNat - 'A'.toNat + 10)
  else none

/-- Takes the four hexadecimal digits of an escape. -/
def readHex (rest : List Char) : Except Failure (Nat × List Char) :=
  match rest with
  | first :: second :: third :: fourth :: after =>
    match hexDigit? first, hexDigit? second, hexDigit? third, hexDigit? fourth with
    | some a, some b, some c, some d => .ok (((a * 16 + b) * 16 + c) * 16 + d, after)
    | _, _, _, _ => fail .invalidEscape rest 4
  | _ =>
    if 4 ≤ byteCount rest then fail .invalidEscape rest 4 else fail .endInText [] 0

def leadingSurrogate (unit : Nat) : Bool := 0xD800 ≤ unit && unit ≤ 0xDBFF

def trailingSurrogate (unit : Nat) : Bool := 0xDC00 ≤ unit && unit ≤ 0xDFFF

/-- Takes an escape after its `u`; a leading surrogate needs its trailing one. -/
def readUnicode (rest : List Char) : Except Failure (Char × List Char) := do
  let (unit, after) ← readHex rest
  if trailingSurrogate unit then fail .loneSurrogate after 0
  else if leadingSurrogate unit then
    match after with
    | [] => fail .endInText [] 0
    | '\\' :: [] => fail .endInText [] 0
    | '\\' :: 'u' :: more =>
      let (second, after) ← readHex more
      if trailingSurrogate second then
        .ok (Char.ofNat ((unit - 0xD800) * 0x400 + (second - 0xDC00) + 0x10000), after)
      else fail .loneSurrogate after 0
    | '\\' :: more => fail .unfinishedSurrogate more 1
    | _ => fail .unfinishedSurrogate after 1
  else .ok (Char.ofNat unit, after)

def readEscape (rest : List Char) : Except Failure (Char × List Char) :=
  match rest with
  | [] => fail .endInText [] 0
  | '"' :: after => .ok ('"', after)
  | '\\' :: after => .ok ('\\', after)
  | '/' :: after => .ok ('/', after)
  | 'b' :: after => .ok ('\x08', after)
  | 'f' :: after => .ok ('\x0c', after)
  | 'n' :: after => .ok ('\n', after)
  | 'r' :: after => .ok ('\r', after)
  | 't' :: after => .ok ('\t', after)
  | 'u' :: after => readUnicode after
  | _ => fail .invalidEscape rest 1

/-- Takes a text after its opening mark, with the characters taken so far in reverse. Each step takes
a character, so the length of the text bounds their number. -/
def readTextFrom : Nat → List Char → List Char → Except Failure (String × List Char)
  | 0, _, rest => fail .endInText rest 0
  | _ + 1, _, [] => fail .endInText [] 0
  | steps + 1, taken, character :: rest =>
    if character = '"' then .ok (String.ofList taken.reverse, rest)
    else if character = '\\' then do
      let (escaped, after) ← readEscape rest
      readTextFrom steps (escaped :: taken) after
    else if character.toNat < 32 then fail .controlCharacter (character :: rest) 1
    else readTextFrom steps (character :: taken) rest

def readText (rest : List Char) : Except Failure (String × List Char) :=
  readTextFrom (rest.length + 1) [] rest

/-! ### Values -/

/-- What comes after the opening of a list or object or after one of its parts. -/
inductive Next where
  | part
  | stop
  deriving DecidableEq

/-- Looks for the next item of a list or its end. -/
def nextItem (first : Bool) (rest : List Char) : Except Failure (Next × List Char) :=
  match skipBlank rest with
  | [] => fail .endInList [] 0
  | ']' :: after => .ok (.stop, after)
  | ',' :: after =>
    if first then .ok (.part, ',' :: after)
    else match skipBlank after with
      | [] => fail .endInValue [] 0
      | ']' :: more => fail .trailingComma (']' :: more) 1
      | after => .ok (.part, after)
  | after => if first then .ok (.part, after) else fail .expectedListSeparator after 1

/-- Looks for the next key of an object, whose opening mark is taken, or for its end. -/
def nextKey (first : Bool) (rest : List Char) : Except Failure (Next × List Char) :=
  match skipBlank rest with
  | [] => fail .endInObject [] 0
  | '\x7d' :: after => .ok (.stop, after)
  | '"' :: after => if first then .ok (.part, after) else fail .expectedObjectSeparator ('"' :: after) 1
  | ',' :: after =>
    if first then fail .keyNotText (',' :: after) 1
    else match skipBlank after with
      | [] => fail .endInValue [] 0
      | '"' :: after => .ok (.part, after)
      | '\x7d' :: more => fail .trailingComma ('\x7d' :: more) 1
      | after => fail .keyNotText after 1
  | after => if first then fail .keyNotText after 1 else fail .expectedObjectSeparator after 1

def readColon (rest : List Char) : Except Failure (List Char) :=
  match skipBlank rest with
  | [] => fail .endInObject [] 0
  | ':' :: after => .ok after
  | after => fail .expectedColon after 1

/-- Takes items up to the end of a list. Each takes a character, which bounds their number. -/
def readItems {α : Type} (readItem : List Char → Except Failure (α × List Char)) :
    Nat → List α → List Char → Except Failure (List α × List Char)
  | 0, _, rest => fail .endInList rest 0
  | steps + 1, items, rest => do
    match ← nextItem items.isEmpty rest with
    | (.stop, after) => .ok (items.reverse, after)
    | (.part, after) =>
      let (item, after) ← readItem after
      readItems readItem steps (item :: items) after

/-- Takes members up to the end of an object. -/
def readMembers {α : Type} (readMember : List Char → Except Failure (α × List Char)) :
    Nat → List (String × α) → List Char → Except Failure (List (String × α) × List Char)
  | 0, _, rest => fail .endInObject rest 0
  | steps + 1, members, rest => do
    match ← nextKey members.isEmpty rest with
    | (.stop, after) => .ok (members.reverse, after)
    | (.part, after) =>
      let (key, after) ← readText after
      let after ← readColon after
      let (value, after) ← readMember after
      readMembers readMember steps ((key, value) :: members) after

/-- Takes a value that may hold `levels` levels of lists and objects. -/
def readValue (levels : Nat) (rest : List Char) : Except Failure (Json × List Char) :=
  match skipBlank rest with
  | [] => fail .endInValue [] 0
  | 'n' :: after => do .ok (.null, ← readWord ['u', 'l', 'l'] after)
  | 't' :: after => do .ok (.bool true, ← readWord ['r', 'u', 'e'] after)
  | 'f' :: after => do .ok (.bool false, ← readWord ['a', 'l', 's', 'e'] after)
  | '-' :: after => do
    let (value, after) ← readNumber true after
    .ok (.number value, after)
  | '"' :: after => do
    let (value, after) ← readText after
    .ok (.text value, after)
  | '[' :: after =>
    match levels with
    | 0 => fail .tooDeep ('[' :: after) 1
    | levels + 1 => do
      let (items, after) ← readItems (readValue levels) (after.length + 1) [] after
      .ok (.array items, after)
  | '\x7b' :: after =>
    match levels with
    | 0 => fail .tooDeep ('\x7b' :: after) 1
    | levels + 1 => do
      let (members, after) ← readMembers (readValue levels) (after.length + 1) [] after
      .ok (ofMembers members, after)
  | character :: after =>
    if isDigit character then do
      let (value, after) ← readNumber false (character :: after)
      .ok (.number value, after)
    else fail .expectedValue (character :: after) 1
termination_by structural levels

/-- Levels of lists and objects that a document may have. -/
def maximalLevels : Nat := 127

def readEnd {α : Type} (value : α) (rest : List Char) : Except Failure α :=
  match skipBlank rest with
  | [] => .ok value
  | after => fail .trailingCharacters after 1

/-- Reads a whole text in some way and places a fault in it. -/
def readWhole {α : Type} (readPart : List Char → Except Failure (α × List Char))
    (characters : List Char) : Except Error α :=
  match (readPart characters).bind fun (value, rest) => readEnd value rest with
  | .ok value => .ok value
  | .error failure => .error (failure.locate characters)

def readChars (characters : List Char) : Except Error Json :=
  readWhole (readValue maximalLevels) characters

def read (text : String) : Except Error Json := readChars text.toList

end IntentRollout.Json
