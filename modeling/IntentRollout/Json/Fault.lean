import IntentRollout.Binary64.Text
import IntentRollout.Json.Basic
import IntentRollout.Text.Blank
import IntentRollout.Text.Quoted

/-!
What can be wrong with a document, and where. A fault is found with some characters still unread; its
line and column are computed from these and the whole text.
-/

namespace IntentRollout.Json

inductive Found where
  | null
  | bool (value : Bool)
  | integer (value : Int)
  | float (value : Binary64)
  | text (value : String)
  | list
  | object
  deriving DecidableEq

def Found.phrase : Found → String
  | .null => "null"
  | .bool value => "boolean `" ++ (if value then "true" else "false") ++ "`"
  | .integer value => "integer `" ++ toString value ++ "`"
  | .float value => "floating point `" ++ value.exchangeText ++ "`"
  | .text value => "string " ++ quoted value
  | .list => "sequence"
  | .object => "map"

/-- A document of another shape than the one asked for. -/
inductive Mismatch where
  | type (found : Found) (expected : String)
  | value (found : Found) (expected : String)
  | length (found : Nat) (expected : String)
  | variant (found : String) (known : List String)
  | missing (field : String)
  | repeated (field : String)
  deriving DecidableEq

/-- The known variants of a choice, as a message lists them. -/
def expectedVariants (known : List String) : String :=
  match known.map fun variant => "`" ++ variant ++ "`" with
  | [] => "there are no variants"
  | [only] => "expected " ++ only
  | [first, second] => "expected " ++ first ++ " or " ++ second
  | several => "expected one of " ++ joined ", " several

def Mismatch.message : Mismatch → String
  | .type found expected => "invalid type: " ++ found.phrase ++ ", expected " ++ expected
  | .value found expected => "invalid value: " ++ found.phrase ++ ", expected " ++ expected
  | .length found expected => "invalid length " ++ toString found ++ ", expected " ++ expected
  | .variant found known => "unknown variant `" ++ found ++ "`, " ++ expectedVariants known
  | .missing field => "missing field `" ++ field ++ "`"
  | .repeated field => "duplicate field `" ++ field ++ "`"

/-- What is wrong at one place of a text. -/
inductive Fault where
  | endInList
  | endInObject
  | endInText
  | endInValue
  | expectedColon
  | expectedListSeparator
  | expectedObjectSeparator
  | expectedWord
  | expectedValue
  | invalidEscape
  | invalidNumber
  | numberOutOfRange
  | controlCharacter
  | keyNotText
  | loneSurrogate
  | trailingComma
  | trailingCharacters
  | unfinishedSurrogate
  | tooDeep
  | mismatch (shape : Mismatch)
  deriving DecidableEq

def Fault.message : Fault → String
  | .endInList => "EOF while parsing a list"
  | .endInObject => "EOF while parsing an object"
  | .endInText => "EOF while parsing a string"
  | .endInValue => "EOF while parsing a value"
  | .expectedColon => "expected `:`"
  | .expectedListSeparator => "expected `,` or `]`"
  | .expectedObjectSeparator => "expected `,` or `\x7d`"
  | .expectedWord => "expected ident"
  | .expectedValue => "expected value"
  | .invalidEscape => "invalid escape"
  | .invalidNumber => "invalid number"
  | .numberOutOfRange => "number out of range"
  | .controlCharacter => "control character (\\u0000-\\u001F) found while parsing a string"
  | .keyNotText => "key must be a string"
  | .loneSurrogate => "lone leading surrogate in hex escape"
  | .trailingComma => "trailing comma"
  | .trailingCharacters => "trailing characters"
  | .unfinishedSurrogate => "unexpected end of hex escape"
  | .tooDeep => "recursion limit exceeded"
  | .mismatch shape => shape.message

/-- A fault with the characters that were unread when it was found; `past` bytes of these had been
looked at already. -/
structure Failure where
  fault : Fault
  unread : List Char
  past : Nat
  deriving DecidableEq

/-- A fault with its line, counted from one, and its column, the bytes of that line before it. -/
structure Error where
  fault : Fault
  line : Nat
  column : Nat
  deriving DecidableEq

def Error.message (error : Error) : String :=
  error.fault.message ++ " at line " ++ toString error.line ++ " column " ++ toString error.column

def byteCount (characters : List Char) : Nat :=
  characters.foldl (fun total character => total + character.utf8Size) 0

/-- Line and column after some bytes of a text. -/
def placeAfter (line column : Nat) : Nat → List Char → Nat × Nat
  | _, [] => (line, column)
  | bytes, character :: rest =>
    if bytes < character.utf8Size then (line, column + bytes)
    else if character = '\n' then placeAfter (line + 1) 0 (bytes - 1) rest
    else placeAfter line (column + character.utf8Size) (bytes - character.utf8Size) rest

def Failure.locate (failure : Failure) (whole : List Char) : Error :=
  let all := byteCount whole
  let bytes := min all (all - byteCount failure.unread + failure.past)
  let place := placeAfter 1 0 bytes whole
  ⟨failure.fault, place.1, place.2⟩

end IntentRollout.Json
