import IntentRollout.CommandLine.Program
import Std.Time.DateTime.Timestamp

/-!
The program. It takes up the files below the working directory, runs a command line on them, and writes
back what has changed. It has no network and no repository, so a rollout ends with its snapshot.
-/

namespace IntentRollout.CommandLine

def standardTerminal : Terminal IO where
  print := IO.print
  printError := IO.eprint
  readLine := do (← IO.getStdin).getLine

/-- How deep directories are taken up. -/
def depthLimit : Nat := 64

/-- Takes up what is below a directory of the working directory. Links and the like are left alone. -/
def takeUp (place names : List String) : Nat → Volume → IO Volume
  | 0, volume => pure volume
  | depth + 1, volume => do
    let directory := names.foldl (· / ·) (← IO.currentDir)
    (← directory.readDir).toList.foldlM (fun volume found => do
      let below := place ++ [found.fileName]
      match (← found.path.symlinkMetadata).type with
      | .dir =>
        if found.fileName = ".git" then pure volume
        else takeUp below (names ++ [found.fileName]) depth (volume.put below .directory)
      | .file => pure (volume.put below (.file (← IO.FS.readBinFile found.path)))
      | _ => pure volume) volume

def writeBack (path : String) : Entry → IO Unit
  | .directory => IO.FS.createDirAll path
  | .file bytes => IO.FS.writeBinFile path bytes

/-- Writes back what has changed; nothing is ever taken away by a command. -/
def writeBackAll (before after : Volume) : IO Unit :=
  after.entries.entries.forM fun (place, entry) =>
    if before.entry? place = some entry then pure ()
    else writeBack ("/" ++ Path.ofParts place) entry

/-- The instant that the clock of the system shows. -/
def currentInstant : IO Instant := do
  let shown ← Std.Time.Timestamp.now
  pure ⟨shown.val.second.val, shown.val.nano.val.toNat⟩

end IntentRollout.CommandLine

open IntentRollout IntentRollout.CommandLine in
def main (words : List String) : IO UInt32 := do
  let working := Path.parts (← IO.currentDir).toString
  let volume ← takeUp working [] depthLimit (Volume.ofDirectory working)
  let host : Host := { checkout := { volume, repository := none }, start := ← currentInstant }
  let (code, after) ← (run standardTerminal words).run host
  writeBackAll volume after.volume
  pure (UInt32.ofNat code)
