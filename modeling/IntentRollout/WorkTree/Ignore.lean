import IntentRollout.Volume.Basic

/-!
Rules about files that are not taken under version control by themselves. The rules of a directory stand
in a file there and hold for everything below it. A rule without an inner slash is about the last name
of a place; other rules are about the whole way from the directory of the rule. Of the rules that fit,
the last one in the deepest directory decides.
-/

namespace IntentRollout

structure IgnoreRule where
  /-- The rule says that a place is not ignored. -/
  negated : Bool
  directoriesOnly : Bool
  anchored : Bool
  /-- A pattern for each name. -/
  patterns : List (List Char)
  deriving DecidableEq

namespace IgnoreRule

/-- Whether a name fits a pattern, in which a star stands for any characters and a question mark for
one. -/
def fits : List Char → List Char → Bool
  | [], [] => true
  | '*' :: patterns, [] => fits patterns []
  | '*' :: patterns, character :: rest =>
    fits patterns (character :: rest) || fits ('*' :: patterns) rest
  | '?' :: patterns, _ :: rest => fits patterns rest
  | '\\' :: mark :: patterns, character :: rest => mark = character && fits patterns rest
  | mark :: patterns, character :: rest => mark = character && fits patterns rest
  | _, _ => false
termination_by patterns name => patterns.length + name.length

def fitsAll : List (List Char) → List String → Bool
  | [], [] => true
  | pattern :: patterns, name :: names => fits pattern name.toList && fitsAll patterns names
  | _, _ => false

/-- Whether a rule fits a place that is named from the directory of the rule. -/
def applies (rule : IgnoreRule) (isDirectory : Bool) (names : List String) : Bool :=
  (isDirectory || !rule.directoriesOnly) &&
    fitsAll rule.patterns (if rule.anchored then names else names.drop (names.length - 1))

/-- The rule on a line; empty lines and remarks hold none. -/
def ofLine? (line : List Char) : Option IgnoreRule :=
  let line := ((line.reverse.dropWhile fun character => character = ' ' || character = '\r').reverse)
  match line with
  | [] => none
  | '#' :: _ => none
  | first :: rest =>
    let negated := first = '!'
    let body := if negated then rest else first :: rest
    let parts := pieces '/' body
    let directoriesOnly := parts.getLast? = some []
    let parts := if directoriesOnly then parts.dropLast else parts
    let patterns := if parts.head? = some [] then parts.tail else parts
    if patterns.isEmpty then none
    else some { negated, directoriesOnly, anchored := 1 < parts.length, patterns }

def ofText (text : String) : List IgnoreRule := (pieces '\n' text.toList).filterMap ofLine?

end IgnoreRule

namespace Volume

/-- The rules in the file of a directory. -/
def ignoreRules (volume : Volume) (directory : List String) : List IgnoreRule :=
  match (volume.file? (directory ++ [".gitignore"])).bind String.fromUTF8? with
  | some text => IgnoreRule.ofText text
  | none => []

/-- What the rules of the directories above a place, the deepest first, say about it. -/
def verdict? (volume : Volume) (place : List String) : Nat → Nat → Option Bool
  | _, 0 => none
  | top, depth + 1 =>
    if depth < top then none
    else
      let isDirectory := volume.entry? place = some .directory
      let rules := volume.ignoreRules (place.take depth)
      match rules.reverse.find? fun rule => rule.applies isDirectory (place.drop depth) with
      | some rule => some (!rule.negated)
      | none => verdict? volume place top depth

/-- Whether a place, or a directory on the way to it from the top, is ignored. -/
def isIgnored (volume : Volume) (top place : List String) : Bool :=
  (List.range (place.length - top.length)).any fun depth =>
    let above := place.take (top.length + depth + 1)
    volume.verdict? above top.length above.length = some true

def files (volume : Volume) (top : List String) : Table (List String) ByteArray :=
  volume.entries.filterMap fun place entry =>
    match entry with
    | .file bytes => if top.isPrefixOf place then some bytes else none
    | .directory => none

/-- Takes away a file, and the directories between it and the top that are left empty. -/
def uproot (volume : Volume) (top place : List String) : Volume :=
  let depths := (List.range (place.length - 1 - top.length)).reverse
  depths.foldl (fun volume depth =>
    let directory := place.take (top.length + depth + 1)
    if (volume.below directory).isEmpty then volume.prune directory else volume) (volume.prune place)

/-- Puts a file at a place, with the directories above it; what stands in the way goes. -/
def plant (volume : Volume) (place : List String) (bytes : ByteArray) : Volume :=
  let grounded := (List.range (place.length - 1)).foldl (fun volume depth =>
    let directory := place.take (depth + 1)
    if volume.entry? directory = some .directory then volume else volume.put directory .directory) volume
  (grounded.prune place).put place (.file bytes)

end Volume

end IntentRollout
