import IntentRollout.Bundle.Compilation
import IntentRollout.Json.Schema

/-!
Bundles as files, and the manifest of their digests. Below the output directory each site has a directory
with its files, and the manifest stands beside these. Later the manifest tells which files were changed,
which are gone, and which resource files do not belong there.
-/

namespace IntentRollout

structure Artifact where
  checksum : String
  /-- The length in bytes. -/
  size : Nat
  kind : String
  deriving DecidableEq

structure ManifestTotals where
  files : Nat
  sites : Nat
  resources : Nat
  deriving DecidableEq

structure Manifest where
  timestamp : String
  intentId : String
  algorithm : String
  sites : List String
  /-- By the name of the site. -/
  resourceCounts : Table String Nat
  /-- By the path below the output directory. -/
  files : Table String Artifact
  totals : ManifestTotals
  deriving DecidableEq

/-- The key of an artifact, and its path below the output directory. -/
def artifactPath (site fileName : String) : String := site ++ "/" ++ fileName

def RenderedFile.artifact (file : RenderedFile) : Artifact :=
  ⟨Digest.ofText file.contents, file.contents.utf8ByteSize, file.kind.name⟩

namespace Compilation

/-- All files with their paths, in the order of the bundles. -/
def artifacts (compilation : Compilation) : List (String × RenderedFile) :=
  compilation.bundles.entries.flatMap fun (site, bundle) =>
    bundle.rendered.map fun file => (artifactPath site file.name, file)

def manifest (compilation : Compilation) : Manifest :=
  let files := Table.ofList <| compilation.artifacts.map fun (path, file) => (path, file.artifact)
  { timestamp := compilation.timestamp
    intentId := compilation.intentId
    algorithm := "sha256"
    sites := compilation.sites
    resourceCounts := compilation.bundles.mapValues fun _ bundle => bundle.resources.length
    files
    totals := ⟨files.size, compilation.bundles.size, compilation.resourceCount⟩ }

end Compilation

/-! ### The document of a manifest -/

def Artifact.toJson (artifact : Artifact) : Json := .object [
  ("checksum", .text artifact.checksum), ("sizeBytes", .natural artifact.size),
  ("resourceKind", .text artifact.kind)]

def ManifestTotals.toJson (totals : ManifestTotals) : Json := .object [
  ("totalFiles", .natural totals.files), ("totalSites", .natural totals.sites),
  ("totalResources", .natural totals.resources)]

namespace Manifest

/-- The name of the manifest in an output directory. -/
def fileName : String := "manifest.json"

def toJson (manifest : Manifest) : Json := .object [
  ("timestamp", .text manifest.timestamp),
  ("intentId", .text manifest.intentId),
  ("checksumAlgorithm", .text manifest.algorithm),
  ("targetSites", .texts manifest.sites),
  ("resourceCounts", .object (manifest.resourceCounts.mapValues fun _ count => .natural count).entries),
  ("generatedFiles", .object (manifest.files.mapValues fun _ artifact => artifact.toJson).entries),
  ("summary", manifest.totals.toJson)]

def artifactSchema : Json.Schema := .record "ArtifactDigest" false [
  ("checksum", .text), ("sizeBytes", .natural "u64"), ("resourceKind", .text)]

def totalsSchema : Json.Schema := .record "ManifestSummary" false [
  ("totalFiles", .natural "usize"), ("totalSites", .natural "usize"),
  ("totalResources", .natural "usize")]

def schema : Json.Schema := .record "ChecksumManifest" false [
  ("timestamp", .text), ("intentId", .text), ("checksumAlgorithm", .text), ("targetSites", .list .text),
  ("resourceCounts", .table (.natural "usize")), ("generatedFiles", .table artifactSchema),
  ("summary", totalsSchema)]

end Manifest

namespace Json

def textMember? (document : Json) (name : String) : Option String := (document.member? name).bind text?

def naturalMember? (document : Json) (name : String) : Option Nat :=
  (document.member? name).bind natural?

/-- A member as a table of values of one kind. -/
def tableMember? {α : Type} (read? : Json → Option α) (document : Json) (name : String) :
    Option (Table String α) := do
  let members ← (← document.member? name).members?
  let entries ← members.mapM fun (key, value) => (read? value).map fun value => (key, value)
  some (Table.ofList entries)

/-- A member as a list of values of one kind. -/
def listMember? {α : Type} (read? : Json → Option α) (document : Json) (name : String) :
    Option (List α) := do
  (← (← document.member? name).array?).mapM read?

end Json

namespace Manifest

def artifact? (document : Json) : Option Artifact := do
  some ⟨← document.textMember? "checksum", ← document.naturalMember? "sizeBytes",
    ← document.textMember? "resourceKind"⟩

def totals? (document : Json) : Option ManifestTotals := do
  some ⟨← document.naturalMember? "totalFiles", ← document.naturalMember? "totalSites",
    ← document.naturalMember? "totalResources"⟩

/-- The manifest that a document of the right shape describes. -/
def ofJson? (document : Json) : Option Manifest := do
  some {
    timestamp := ← document.textMember? "timestamp"
    intentId := ← document.textMember? "intentId"
    algorithm := ← document.textMember? "checksumAlgorithm"
    sites := ← document.listMember? Json.text? "targetSites"
    resourceCounts := ← document.tableMember? Json.natural? "resourceCounts"
    files := ← document.tableMember? artifact? "generatedFiles"
    totals := ← totals? (← document.member? "summary") }

def read (text : String) : Except Json.Error Manifest := do
  match ofJson? (← schema.read text) with
  | some manifest => .ok manifest
  | none => .error ⟨.expectedValue, 1, 0⟩

def load (volume : Volume) (path : String) : Except CompileError Manifest := do
  let text ← (volume.readText path).mapError (.file path)
  (read text).mapError .notJson

def write (manifest : Manifest) (path : String) : Filing CompileError Unit :=
  Filing.write (.file path) path manifest.toJson.pretty

end Manifest

/-! ### Saving -/

/-- What was done to the files of a compilation. -/
structure Saved where
  manifestPath : String
  manifest : Manifest
  written : List String
  unchanged : List String

namespace Compilation

/-- Whether a file has contents with the same digest. -/
def isUnchanged (volume : Volume) (path contents : String) : Bool :=
  match volume.readBytes path with
  | .ok bytes => Digest.ofBytes bytes = Digest.ofText contents
  | .error _ => false

/-- Writes a file, unless it may be skipped and has the right contents; says whether it was written. -/
def saveFile (skipUnchanged : Bool) (path : String) (file : RenderedFile) : Filing CompileError Bool := do
  if skipUnchanged && isUnchanged (← get) path file.contents then pure false
  else do
    Filing.write (.file path) path file.contents
    pure true

/-- Writes the files of a site; gives their paths, and whether each was written. -/
def saveBundle (output : String) (skipUnchanged : Bool) (site : String) (bundle : Bundle) :
    Filing CompileError (List (String × Bool)) := do
  let directory := Path.join output site
  Filing.makeDirectories (.file directory) directory
  bundle.rendered.mapM fun file => do
    let written ← saveFile skipUnchanged (Path.join directory file.name) file
    pure (artifactPath site file.name, written)

/-- Writes all bundles below a directory, and the manifest beside them. -/
def save (compilation : Compilation) (output : String) (skipUnchanged : Bool) :
    Filing CompileError Saved := do
  let results ← compilation.bundles.entries.mapM fun (site, bundle) =>
    saveBundle output skipUnchanged site bundle
  let manifestPath := Path.join output Manifest.fileName
  compilation.manifest.write manifestPath
  pure {
    manifestPath
    manifest := compilation.manifest
    written := (results.flatten.filter (·.2)).map (·.1)
    unchanged := (results.flatten.filter (!·.2)).map (·.1) }

end Compilation

/-! ### Drift -/

/-- A difference between a manifest and the files. -/
inductive Drift where
  | modified (path expected actual : String)
  | missing (path : String)
  | unlisted (path : String)
  deriving DecidableEq

namespace Drift

def path : Drift → String
  | .modified path _ _ => path
  | .missing path => path
  | .unlisted path => path

def message : Drift → String
  | .modified path expected actual =>
    "modified: " ++ path ++ " (expected " ++ expected ++ ", found " ++ actual ++ ")"
  | .missing path => "missing: " ++ path
  | .unlisted path => "unlisted: " ++ path

end Drift

namespace Manifest

def listedDrift (volume : Volume) (root path : String) (artifact : Artifact) :
    Except CompileError (List Drift) :=
  match volume.readBytes (Path.join root path) with
  | .ok bytes =>
    let actual := Digest.ofBytes bytes
    .ok (if actual = artifact.checksum then [] else [.modified path artifact.checksum actual])
  | .error .notFound => .ok [.missing path]
  | .error fault => .error (.file (Path.join root path) fault)

/-- Whether a path leads to a resource file. -/
def isResourceFile (names : List String) : Bool :=
  match names.getLast? with
  | some name => Path.hasExtension "yaml" name
  | none => false

/-- The resource files at and below a directory, named as seen from there. -/
def resourceFiles (volume : Volume) (root : String) : Except CompileError (List (List String)) := do
  let place ← (volume.locate root).mapError (.walk root)
  match volume.entry? place with
  | none => .error (.walk root .notFound)
  | some (.file _) => .ok (if isResourceFile (Path.parts root) then [[]] else [])
  | some .directory => .ok ((volume.filesBelow place).filter isResourceFile)

/-- Compares the manifest with the files: the listed ones in their order, then the resource files that
are not listed. -/
def verify (manifest : Manifest) (volume : Volume) (root : String) :
    Except CompileError (List Drift) := do
  let listed ← manifest.files.entries.mapM fun (path, artifact) => listedDrift volume root path artifact
  let found := (← resourceFiles volume root).map Path.ofParts
  .ok (listed.flatten ++ (found.filter fun path => !manifest.files.contains path).map .unlisted)

end Manifest

end IntentRollout
