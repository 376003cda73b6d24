import IntentRollout.Table
import IntentRollout.Volume.Path

/-!
A volume of files. A place is named by the names that lead to it from the root; the root itself is
always a directory. Since entries are kept in the order of their places, and a place comes before
everything below it, a walk through a directory is a listing in that order.
-/

namespace IntentRollout

inductive FileFault where
  | notFound
  | alreadyThere
  | notDirectory
  | isDirectory
  | nameTooLong
  | notEmpty
  | notAllowed
  | busy
  | zeroInName
  | notText
  | interrupted
  deriving DecidableEq

def FileFault.message : FileFault → String
  | .notFound => "No such file or directory (os error 2)"
  | .alreadyThere => "File exists (os error 17)"
  | .notDirectory => "Not a directory (os error 20)"
  | .isDirectory => "Is a directory (os error 21)"
  | .nameTooLong => "File name too long (os error 36)"
  | .notEmpty => "Directory not empty (os error 39)"
  | .notAllowed => "Invalid argument (os error 22)"
  | .busy => "Device or resource busy (os error 16)"
  | .zeroInName => "file name contained an unexpected NUL byte"
  | .notText => "stream did not contain valid UTF-8"
  | .interrupted => "Interrupted system call (os error 4)"

/-- Contents are the same if their bytes are. -/
instance decidableEqContents : DecidableEq ByteArray := fun first second =>
  decidable_of_iff (first.data = second.data) ⟨ByteArray.ext, congrArg ByteArray.data⟩

/-- What stands at a place. -/
inductive Entry where
  | file (bytes : ByteArray)
  | directory
  deriving DecidableEq

structure Volume where
  entries : Table (List String) Entry := Table.empty
  /-- The directory from which relative paths start. -/
  working : List String := []

namespace Volume

def ofDirectory (place : List String) : Volume where
  entries := (List.range place.length).foldl
    (fun entries depth => entries.insert (place.take (depth + 1)) .directory) Table.empty
  working := place

def entry? (volume : Volume) : List String → Option Entry
  | [] => some .directory
  | place => volume.entries.get? place

/-- The bytes of the file at a place. -/
def file? (volume : Volume) (place : List String) : Option ByteArray :=
  match volume.entry? place with
  | some (.file bytes) => some bytes
  | _ => none

def put (volume : Volume) (place : List String) (entry : Entry) : Volume :=
  { volume with entries := volume.entries.insert place entry }

/-- The longest name in bytes. -/
def longestName : Nat := 255

/-- Follows names from a place. All but the last must lead to directories; what is behind the last name
may be missing. -/
def follow (volume : Volume) : List String → List String → Except FileFault (List String)
  | place, [] => .ok place
  | place, name :: rest =>
    match volume.entry? place with
    | none => .error .notFound
    | some (.file _) => .error .notDirectory
    | some .directory =>
      if name = ".." then follow volume place.dropLast rest
      else if longestName < name.utf8ByteSize then .error .nameTooLong
      else follow volume (place ++ [name]) rest

def start (volume : Volume) (path : String) : List String :=
  if Path.isAbsolute path then [] else volume.working

/-- The place that a path leads to, whatever is there. -/
def approach (volume : Volume) (path : String) : Except FileFault (List String) :=
  if path.isEmpty then .error .notFound
  else if path.toList.contains '\x00' then .error .zeroInName
  else volume.follow (volume.start path) (Path.parts path)

/-- The place that a path leads to. Nothing may be there, unless the path can only lead to a directory. -/
def locate (volume : Volume) (path : String) : Except FileFault (List String) := do
  let place ← volume.approach path
  match Path.isOpen path, volume.entry? place with
  | true, none => .error .notFound
  | true, some (.file _) => .error .notDirectory
  | _, _ => .ok place

def find (volume : Volume) (path : String) : Except FileFault Entry := do
  match volume.entry? (← volume.locate path) with
  | some entry => .ok entry
  | none => .error .notFound

def isThere (volume : Volume) (path : String) : Bool := (volume.find path).toOption.isSome

def isDirectory (volume : Volume) (path : String) : Bool :=
  (volume.find path).toOption = some .directory

def isFile (volume : Volume) (path : String) : Bool :=
  match volume.find path with
  | .ok (.file _) => true
  | _ => false

def readBytes (volume : Volume) (path : String) : Except FileFault ByteArray := do
  match ← volume.find path with
  | .file bytes => .ok bytes
  | .directory => .error .isDirectory

def readText (volume : Volume) (path : String) : Except FileFault String := do
  match String.fromUTF8? (← volume.readBytes path) with
  | some text => .ok text
  | none => .error .notText

/-- Makes or replaces a file in a directory that is there. -/
def write (volume : Volume) (path : String) (bytes : ByteArray) : Except FileFault Volume := do
  if Path.endsWithSlash path then do
    let _ ← volume.approach path
    .error .isDirectory
  else
    let place ← volume.locate path
    if volume.entry? place = some .directory then .error .isDirectory
    else .ok (volume.put place (.file bytes))

/-- Makes the directories that are missing on the way along some names. A file on the way stops it;
what was made before stays. -/
def extend (volume : Volume) : List String → List String → Except FileFault Unit × Volume
  | _, [] => (.ok (), volume)
  | place, name :: rest =>
    if name = ".." then extend volume place.dropLast rest
    else if longestName < name.utf8ByteSize then (.error .nameTooLong, volume)
    else
      match volume.entry? (place ++ [name]) with
      | some .directory => extend volume (place ++ [name]) rest
      | some (.file _) => (.error (if rest.isEmpty then .alreadyThere else .notDirectory), volume)
      | none => extend (volume.put (place ++ [name]) .directory) (place ++ [name]) rest

/-- Makes a directory and those above it. One that is named with a dot after it must be there. -/
def makeDirectories (volume : Volume) (path : String) : Except FileFault Unit × Volume :=
  if path.toList.contains '\x00' then (.error .zeroInName, volume)
  else if Path.endsWithDot path then
    match volume.locate path with
    | .error .notFound =>
      let (_, made) := volume.extend (volume.start path) (Path.parts (Path.parent path))
      ((made.locate path).map fun _ => (), made)
    | result => (result.map fun _ => (), volume)
  else volume.extend (volume.start path) (Path.parts path)

/-- The entries below a place, named as seen from there, in the order of a walk. -/
def below (volume : Volume) (place : List String) : List (List String × Entry) :=
  volume.entries.entries.filterMap fun (other, entry) =>
    if place.isPrefixOf other && place.length < other.length then
      some (other.drop place.length, entry)
    else none

/-- The files below a place, named as seen from there, in the order of a walk. -/
def filesBelow (volume : Volume) (place : List String) : List (List String) :=
  (volume.below place).filterMap fun (names, entry) =>
    match entry with
    | .file _ => some names
    | .directory => none

/-- Takes away a place with everything below it. -/
def prune (volume : Volume) (place : List String) : Volume :=
  { volume with entries := volume.entries.filter fun other _ => !place.isPrefixOf other }

def removeFile (volume : Volume) (path : String) : Except FileFault Volume := do
  let place ← volume.locate path
  match volume.entry? place with
  | none => .error .notFound
  | some .directory => .error .isDirectory
  | some (.file _) => .ok (volume.prune place)

def clear (volume : Volume) (place : List String) : Volume :=
  { volume with
    entries := volume.entries.filter fun other _ =>
      !(place.isPrefixOf other && place.length < other.length) }

/-- Takes away a directory with everything in it. The root, and a directory that is named with a dot after
it, can only be emptied. -/
def removeDirectory (volume : Volume) (path : String) : Except FileFault Unit × Volume :=
  match volume.locate path with
  | .error fault => (.error fault, volume)
  | .ok place =>
    match volume.entry? place with
    | none => (.error .notFound, volume)
    | some (.file _) => (.error .notDirectory, volume)
    | some .directory =>
      if place.isEmpty || Path.endsWithDot path then (.error .notAllowed, volume.clear place)
      else (.ok (), volume.prune place)

def transfer (volume : Volume) (source target : List String) : Volume :=
  { volume with
    entries := Table.ofList ((volume.prune target).entries.entries.map fun (other, entry) =>
      if source.isPrefixOf other then (target ++ other.drop source.length, entry) else (other, entry)) }

/-- Renames a file or a directory; only what is of the same kind may be replaced, and a directory only
if it is empty. What is named by dots has no name that could change. -/
def rename (volume : Volume) (path target : String) : Except FileFault Volume := do
  if Path.endsWithDots path || Path.endsWithDots target then throw .busy
  let source ← volume.locate path
  let wantsDirectory := Path.isOpen target
  let target ← volume.approach target
  match volume.entry? source, volume.entry? target with
  | none, _ => .error .notFound
  | some (.file _), some .directory => .error .isDirectory
  | some .directory, some (.file _) => .error .notDirectory
  | some (.file _), _ =>
    if wantsDirectory then .error .notDirectory
    else if source = target then .ok volume
    else .ok (volume.transfer source target)
  | some .directory, found =>
    if source = target then .ok volume
    else if source.isEmpty || source.isPrefixOf target then .error .notAllowed
    else if found.isSome && !(volume.below target).isEmpty then .error .notEmpty
    else .ok (volume.transfer source target)

end Volume

/-- Work on a volume that may stop with an error; what was done before stays. -/
abbrev Filing (ε : Type) := ExceptT ε (StateM Volume)

namespace Filing

/-- Looks at the volume, and stops with a cause made of the fault. -/
def look {α ε : Type} (cause : FileFault → ε) (view : Volume → Except FileFault α) : Filing ε α :=
  fun volume => ((view volume).mapError cause, volume)

/-- Changes the volume, or stops and leaves it. -/
def change {ε : Type} (cause : FileFault → ε) (step : Volume → Except FileFault Volume) :
    Filing ε Unit :=
  fun volume =>
    match step volume with
    | .ok changed => (.ok (), changed)
    | .error fault => (.error (cause fault), volume)

def makeDirectories {ε : Type} (cause : FileFault → ε) (path : String) : Filing ε Unit := fun volume =>
  let (result, changed) := volume.makeDirectories path
  (result.mapError cause, changed)

def write {ε : Type} (cause : FileFault → ε) (path : String) (text : String) : Filing ε Unit :=
  change cause fun volume => volume.write path text.toUTF8

end Filing

end IntentRollout
