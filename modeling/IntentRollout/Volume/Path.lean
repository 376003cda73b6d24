import IntentRollout.Text.Pieces

/-!
Written paths. A path that starts with a slash is absolute; other paths are relative to some directory.
-/

namespace IntentRollout.Path

def isAbsolute (path : String) : Bool := path.toList.head? = some '/'

def endsWithSlash (path : String) : Bool := path.toList.getLast? = some '/'

/-- A path below a directory; an absolute path stands for itself. -/
def join (directory path : String) : String :=
  if isAbsolute path then path
  else if directory.isEmpty || endsWithSlash directory then directory ++ path
  else directory ++ "/" ++ path

/-- The names in a path. Empty names and single dots lead nowhere and are dropped. -/
def parts (path : String) : List String :=
  ((pieces '/' path.toList).map String.ofList).filter fun part => part ≠ "" ∧ part ≠ "."

/-- A path that ends with a slash or a dot can only lead to a directory. -/
def isOpen (path : String) : Bool :=
  match (pieces '/' path.toList).getLast? with
  | some [] => true
  | some ['.'] => true
  | _ => false

/-- A path whose last name is a single dot. -/
def endsWithDot (path : String) : Bool :=
  ((pieces '/' path.toList).reverse.dropWhile (· = [])).head? = some ['.']

/-- A path whose last name is one dot or two. -/
def endsWithDots (path : String) : Bool :=
  match ((pieces '/' path.toList).reverse.dropWhile (· = [])).head? with
  | some ['.'] => true
  | some ['.', '.'] => true
  | _ => false

/-- The path of the directory that holds a path. Empty names and single dots at an end do not count. -/
def parent (path : String) : String :=
  let named (reversed : List (List Char)) : List (List Char) :=
    reversed.dropWhile fun part => part = [] ∨ part = ['.']
  let above := named ((named (pieces '/' path.toList).reverse).drop 1)
  "/".intercalate (above.reverse.map String.ofList)

/-- The name of a place, as seen from a directory above it. -/
def ofParts (parts : List String) : String := "/".intercalate parts

/-- Whether a file name ends with a dot and an extension, with something before the dot. -/
def hasExtension (extension name : String) : Bool :=
  let ending := '.' :: extension.toList
  ending.isSuffixOf name.toList && ending.length < name.toList.length

end IntentRollout.Path
