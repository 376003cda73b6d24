import IntentRollout.Volume.Basic

/-!
Edits of a volume from outside: what people and other programs do to files.
-/

namespace IntentRollout

inductive Edit where
  /-- Write a file, and make the directories above it. -/
  | write (path : String) (bytes : ByteArray)
  | removeFile (path : String)
  | removeDirectory (path : String)
  | makeDirectories (path : String)
  | rename (path target : String)
  deriving DecidableEq

namespace Path

def lastName (path : String) : String := String.ofList ((pieces '/' path.toList).getLast?.getD [])

end Path

namespace Volume

/-- Carries out an edit. What cannot be done leaves the volume as it is, apart from directories that were
made on the way. -/
def apply (volume : Volume) : Edit → Except FileFault Unit × Volume
  | .write path bytes =>
    match volume.makeDirectories (Path.parent path) with
    | (.error fault, made) => (.error fault, made)
    | (.ok (), made) => settle made (made.write path bytes)
  | .removeFile path => settle volume (volume.removeFile path)
  | .removeDirectory path => volume.removeDirectory path
  | .makeDirectories path => volume.makeDirectories path
  | .rename path target => settle volume (volume.rename path target)
where
  settle (volume : Volume) : Except FileFault Volume → Except FileFault Unit × Volume
    | .ok changed => (.ok (), changed)
    | .error fault => (.error fault, volume)

/-- Carries out edits in turn, whether or not each can be done. -/
def applyAll (volume : Volume) (edits : List Edit) : Volume :=
  edits.foldl (fun volume edit => (volume.apply edit).2) volume

/-- The paths of all files below a directory, as seen from there, in order. -/
def listing (volume : Volume) (path : String) : List String :=
  match volume.locate path with
  | .ok place =>
    ((volume.filesBelow place).map Path.ofParts).mergeSort fun first second => first ≤ second
  | .error _ => []

end Volume

end IntentRollout
