import IntentRollout.Binary64.Text
import IntentRollout.Json.Basic

/-!
The written forms of a document: on one line without blanks, and indented by two blanks a level.
-/

namespace IntentRollout.Json

/-- One character of a text between quotation marks. Only the marks, the backslash and the controls
are escaped. -/
def escaped (character : Char) : List Char :=
  match character with
  | '"' => ['\\', '"']
  | '\\' => ['\\', '\\']
  | '\x08' => ['\\', 'b']
  | '\x0c' => ['\\', 'f']
  | '\n' => ['\\', 'n']
  | '\r' => ['\\', 'r']
  | '\t' => ['\\', 't']
  | _ =>
    if character.toNat < 32 then
      ['\\', 'u', '0', '0', Nat.digitChar (character.toNat / 16), Nat.digitChar (character.toNat % 16)]
    else [character]

def writtenText (text : String) : List Char := '"' :: text.toList.flatMap escaped ++ ['"']

def Number.written : Number → List Char
  | .integer value => (toString value).toList
  | .float value => value.exchangeText.toList

/-- The written form of a value without parts. -/
def writtenLeaf : Json → List Char
  | .null => ['n', 'u', 'l', 'l']
  | .bool true => ['t', 'r', 'u', 'e']
  | .bool false => ['f', 'a', 'l', 's', 'e']
  | .number value => value.written
  | .text value => writtenText value
  | .array _ => ['[', ']']
  | .object _ => ['\x7b', '\x7d']

mutual

def compactChars : Json → List Char
  | .array items => '[' :: compactItems items ++ [']']
  | .object members => '\x7b' :: compactMembers members ++ ['\x7d']
  | leaf => writtenLeaf leaf

def compactItems : List Json → List Char
  | [] => []
  | [item] => compactChars item
  | item :: rest => compactChars item ++ ',' :: compactItems rest

def compactMembers : List (String × Json) → List Char
  | [] => []
  | [(key, value)] => writtenText key ++ ':' :: compactChars value
  | (key, value) :: rest => writtenText key ++ ':' :: compactChars value ++ ',' :: compactMembers rest

end

/-- A line end and the blanks of a level. -/
def lineStart (level : Nat) : List Char := '\n' :: List.replicate (2 * level) ' '

mutual

/-- The indented form of a value that stands at some level. -/
def prettyChars (level : Nat) : Json → List Char
  | .array (item :: rest) =>
    '[' :: prettyItems (level + 1) (item :: rest) ++ lineStart level ++ [']']
  | .object (member :: rest) =>
    '\x7b' :: prettyMembers (level + 1) (member :: rest) ++ lineStart level ++ ['\x7d']
  | leaf => writtenLeaf leaf

def prettyItems (level : Nat) : List Json → List Char
  | [] => []
  | [item] => lineStart level ++ prettyChars level item
  | item :: rest => lineStart level ++ prettyChars level item ++ ',' :: prettyItems level rest

def prettyMembers (level : Nat) : List (String × Json) → List Char
  | [] => []
  | [(key, value)] => lineStart level ++ writtenText key ++ ':' :: ' ' :: prettyChars level value
  | (key, value) :: rest =>
    lineStart level ++ writtenText key ++ ':' :: ' ' :: prettyChars level value ++
      ',' :: prettyMembers level rest

end

def compact (document : Json) : String := String.ofList document.compactChars

def pretty (document : Json) : String := String.ofList (document.prettyChars 0)

end IntentRollout.Json
