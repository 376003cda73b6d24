import IntentRollout.Binary64.Text
import IntentRollout.Text.Blank
import IntentRollout.Toml.Basic

/-!
The written form of a configuration. A table starts with its own settings, one a line, and goes on with
the tables inside it, each below its own header; a list of tables becomes several tables of one name.
A table that holds nothing but tables needs no header.
-/

namespace IntentRollout.Toml

/-- A character that a text on one line cannot show as it is. -/
def needsEscape (character : Char) : Bool :=
  (character.toNat < 32 && character ≠ '\t' && character ≠ '\n') || character.toNat = 127

def longestRun (mark : Char) (characters : List Char) : Nat :=
  (characters.foldl (fun (run, longest) character =>
    let run := if character = mark then run + 1 else 0
    (run, max run longest)) (0, 0)).2

def codeDigits (code : Nat) : List Char :=
  [code / 4096, code / 256 % 16, code / 16 % 16, code % 16].map fun digit => (Nat.digitChar digit).toUpper

/-- The escape of a character other than the quotation mark, if it needs one. -/
def escape? (severalLines : Bool) : Char → Option (List Char)
  | '\x08' => some ['\\', 'b']
  | '\t' => some ['\\', 't']
  | '\n' => if severalLines then none else some ['\\', 'n']
  | '\x0c' => some ['\\', 'f']
  | '\r' => some ['\\', 'r']
  | '\\' => some ['\\', '\\']
  | character =>
    if needsEscape character then some ('\\' :: 'u' :: codeDigits character.toNat) else none

/-- The characters of a text with escapes. Up to `marks` quotation marks in a row stay as they are, and
so do line ends in a text of several lines; `run` marks come before. -/
def escapedText (marks : Nat) (severalLines : Bool) : Nat → List Char → List Char
  | _, [] => []
  | run, character :: rest =>
    if character = '"' then
      if run < marks then '"' :: escapedText marks severalLines (run + 1) rest
      else '\\' :: '"' :: escapedText marks severalLines 0 rest
    else
      (escape? severalLines character).getD [character] ++ escapedText marks severalLines 0 rest

def onLine (characters : List Char) : List Char := '"' :: escapedText 0 false 0 characters ++ ['"']

def plainOnLine (characters : List Char) : List Char := '\'' :: characters ++ ['\'']

/-- A line end after the opening marks of a text of several lines does not belong to it. -/
def opening (characters : List Char) : List Char := if characters.contains '\n' then ['\n'] else []

def onLines (characters : List Char) : List Char :=
  ['"', '"', '"'] ++ opening characters ++ escapedText 2 true 0 characters ++ ['"', '"', '"']

def plainOnLines (characters : List Char) : List Char :=
  ['\'', '\'', '\''] ++ opening characters ++ characters ++ ['\'', '\'', '\'']

/-- A text in the first notation that shows it without escapes, tabs apart; if there is none, with
escapes. -/
def writtenChars (characters : List Char) : List Char :=
  let controls := characters.any needsEscape
  let backslash := characters.contains '\\'
  let newline := characters.contains '\n'
  let marks := longestRun '"' characters
  let apostrophes := longestRun '\'' characters
  if !controls && !backslash && marks = 0 && !newline then onLine characters
  else if !controls && apostrophes = 0 && !newline then plainOnLine characters
  else if !controls && !backslash && marks ≤ 2 then onLines characters
  else if !controls && apostrophes ≤ 2 then plainOnLines characters
  else if newline then onLines characters
  else onLine characters

def writtenText (text : String) : String := String.ofList (writtenChars text.toList)

def isBareKey (characters : List Char) : Bool :=
  !characters.isEmpty && characters.all fun character =>
    character.isAlphanum || character = '_' || character = '-'

/-- A key has its place on one line. -/
def writtenKey (key : String) : String :=
  let characters := key.toList
  let controls := characters.any needsEscape
  if isBareKey characters then key
  else if controls || characters.contains '\n' then String.ofList (onLine characters)
  else if !characters.contains '\\' && !characters.contains '"' then String.ofList (onLine characters)
  else if !characters.contains '\'' then String.ofList (plainOnLine characters)
  else String.ofList (onLine characters)

/-- A number that shows that it is not an integer; one that is no number has no sign. -/
def writtenFloat (value : Binary64) : String :=
  if value.isNaN then "nan"
  else if value.isZero then (if value.negative then "-0.0" else "0.0")
  else value.plainText ++ (if value.isWhole then ".0" else "")

/-- The items of a list on one line if there are at most one, otherwise each on a line of its own. -/
def writtenList (items : List String) : String :=
  match items with
  | [] => "[]"
  | [item] => "[" ++ item ++ "]"
  | items => "[\n" ++ String.join (items.map fun item => "    " ++ item ++ ",\n") ++ "]"

mutual

/-- The written form of a value behind its key. -/
def written : Toml → String
  | .text value => writtenText value
  | .integer value => toString value
  | .float value => writtenFloat value
  | .bool value => if value then "true" else "false"
  | .moment written => written
  | .array items => writtenList (writtenItems items)
  | .table entries =>
    match writtenPairs entries with
    | [] => "\x7b\x7d"
    | pairs => "\x7b " ++ joined ", " pairs ++ " \x7d"

def writtenItems : List Toml → List String
  | [] => []
  | item :: rest => item.written :: writtenItems rest

def writtenPairs : List (String × Toml) → List String
  | [] => []
  | (key, value) :: rest => (writtenKey key ++ " = " ++ value.written) :: writtenPairs rest

end

/-- A header, if there is one, and the lines below it. -/
structure Block where
  header : Option String
  lines : List String
  deriving DecidableEq

def Block.written (block : Block) : String :=
  String.join ((block.header.toList ++ block.lines).map (· ++ "\n"))

def isTable : Toml → Bool
  | .table _ => true
  | _ => false

/-- A table, or a list of tables that is not empty. -/
def hasHeader : Toml → Bool
  | .table _ => true
  | .array (item :: rest) => (item :: rest).all isTable
  | _ => false

/-- The settings of a table that stand on lines of their own. -/
def ownLines (entries : List (String × Toml)) : List String :=
  writtenPairs (entries.filter fun entry => !entry.2.hasHeader)

def writtenPath (path : List String) : String := joined "." (path.map writtenKey)

/-- A table without settings of its own is left out if there are tables in it. -/
def tableBlock (path : List String) (entries : List (String × Toml)) : List Block :=
  let lines := ownLines entries
  if lines.isEmpty && (!entries.isEmpty || path.isEmpty) then []
  else [⟨if path.isEmpty then none else some ("[" ++ writtenPath path ++ "]"), lines⟩]

mutual

/-- The blocks of a table or of a list of tables. -/
def blocks (path : List String) : Toml → List Block
  | .table entries => tableBlock path entries ++ entryBlocks path entries
  | .array items => itemBlocks path items
  | _ => []

def itemBlocks (path : List String) : List Toml → List Block
  | [] => []
  | .table entries :: rest =>
    ⟨some ("[[" ++ writtenPath path ++ "]]"), ownLines entries⟩ :: entryBlocks path entries ++
      itemBlocks path rest
  | _ :: rest => itemBlocks path rest

def entryBlocks (path : List String) : List (String × Toml) → List Block
  | [] => []
  | (key, value) :: rest =>
    (if value.hasHeader then value.blocks (path ++ [key]) else []) ++ entryBlocks path rest

end

/-- The text of a table; blocks are separated by empty lines. -/
def print (entries : List (String × Toml)) : String :=
  joined "\n" ((blocks [] (.table entries)).map Block.written)

end IntentRollout.Toml
