import IntentRollout.Rollout.Failure
import IntentRollout.Volume.Edit
import IntentRollout.WorkTree.Basic

/-!
The delivery tree as a directory under version control. Each site has a directory there, and its files
go to a directory below that, its scope. Publishing writes the files of a site and commits its scope only.
A reset goes back to a commit with all sites together, and then takes away what is left in every scope
that was written to. Any step of this may fail by mishap.
-/

namespace IntentRollout

/-- Where a delivery tree is, and in whose name it is changed. -/
structure DeliveryTree where
  root : String
  /-- The directory in the directory of a site that takes its files. -/
  siteDirectory : String
  author : String

/-- A delivery tree in use. -/
structure Checkout where
  volume : Volume
  repository : Option Repository
  /-- The scopes that were written to. -/
  touched : Table String Unit := Table.empty
  /-- For each step to come, whether it fails by mishap and without effect; those after the last do not. -/
  mishaps : List Bool := []

/-- Work on a checkout that may stop with an error; what was done before stays. -/
abbrev Delivering := ExceptT DeliveryError (StateM Checkout)

/-- Does a step, unless a mishap is due. -/
def Delivering.step {α : Type} (mishap : DeliveryError) (work : Delivering α) : Delivering α :=
  fun checkout =>
    match checkout.mishaps with
    | [] => work checkout
    | due :: mishaps =>
      let checkout := { checkout with mishaps }
      if due then (.error mishap, checkout) else work checkout

namespace DeliveryTree

def siteRoot (tree : DeliveryTree) (site : String) : String := Path.join tree.root site

/-- The directory for the files of a site. -/
def deployDirectory (tree : DeliveryTree) (site : String) : String :=
  Path.join (tree.siteRoot site) tree.siteDirectory

/-- The files of a site as commands name them. -/
def scope (tree : DeliveryTree) (site : String) : String := site ++ "/" ++ tree.siteDirectory

/-! ### Commands -/

/-- The repository of a delivery tree, and the place of its root. -/
def repository? (tree : DeliveryTree) (checkout : Checkout) :
    Except RepositoryFault (Repository × List String) :=
  match checkout.volume.isDirectory tree.root, checkout.volume.locate tree.root with
  | true, .ok place =>
    match checkout.repository with
    | some repository =>
      if repository.top.isPrefixOf place then .ok (repository, place) else .error .noRepository
    | none => .error .noRepository
  | _, _ => .error .noDirectory

/-- Goes along names, up where they say so. -/
def walk (place : List String) (names : List String) : List String :=
  names.foldl (fun place name => if name = ".." then place.dropLast else place ++ [name]) place

def scopePlace (repository : Repository) (root : List String) (scope : String) :
    Except RepositoryFault (List String) :=
  let place := walk (if Path.isAbsolute scope then [] else root) (Path.parts scope)
  if repository.top.isPrefixOf place then .ok place else .error (.outside scope)

def commandError (words : List String) (fault : RepositoryFault) : DeliveryError :=
  .command (joined " " ("git" :: words)) fault.message

/-- Runs a command on the repository; if it fails, nothing is changed. -/
def command {α : Type} (tree : DeliveryTree) (words : List String)
    (action : Repository → List String → Volume → Except RepositoryFault (α × Repository × Volume)) :
    Delivering α :=
  Delivering.step (commandError words .interrupted) fun checkout =>
    let result := do
      let (repository, root) ← tree.repository? checkout
      action repository root checkout.volume
    match result with
    | .ok (value, repository, volume) =>
      (.ok value, { checkout with repository := some repository, volume })
    | .error fault => (.error (commandError words fault), checkout)

def head (tree : DeliveryTree) : Delivering String :=
  tree.command ["rev-parse", "HEAD"] fun repository _ volume =>
    match repository.head with
    | some number => .ok (Repository.revision number, repository, volume)
    | none => .error (.unknownRevision "HEAD")

def stage (tree : DeliveryTree) (scope : String) : Delivering Unit :=
  tree.command ["add", "--", scope] fun repository root volume => do
    let place ← scopePlace repository root scope
    if volume.isIgnored repository.top place && !repository.index.contains place then
      throw (.ignored scope)
    if (volume.entry? place).isNone && (Repository.within place repository.index).isEmpty then
      throw (.noMatch scope)
    .ok ((), repository.stage volume place, volume)

/-- Whether a scope is as in the head. -/
def isClean (tree : DeliveryTree) (scope : String) : Delivering Bool :=
  tree.command ["status", "--porcelain", "--", scope] fun repository root volume => do
    let place ← scopePlace repository root scope
    .ok (repository.isClean volume place, repository, volume)

def commit (tree : DeliveryTree) (scope message : String) : Delivering Unit :=
  tree.command ["commit", "-m", message, "--", scope] fun repository root volume => do
    let place ← scopePlace repository root scope
    .ok ((), ← repository.commit place tree.author message, volume)

def resetHard (tree : DeliveryTree) (name : String) : Delivering Unit :=
  tree.command ["reset", "--hard", name] fun repository _ volume =>
    match repository.resolve? name with
    | some number => .ok ((), repository.reset volume number)
    | none => .error (.unknownRevision name)

/-- Takes away what is not under version control in some scopes. -/
def clean (tree : DeliveryTree) (scopes : List String) : Delivering Unit :=
  tree.command (["clean", "-fdq", "--"] ++ scopes) fun repository root volume => do
    let places ← scopes.mapM (scopePlace repository root)
    .ok ((), repository, places.foldl (repository.clean ·) volume)

/-! ### Publishing -/

def fileError (path : String) (fault : FileFault) : DeliveryError := .file path fault.message

/-- Work on the file or directory at a path. -/
def onPath {α : Type} (path : String) (filing : (FileFault → DeliveryError) → Filing DeliveryError α) :
    Delivering α :=
  Delivering.step (fileError path .interrupted) fun checkout =>
    let (result, volume) := (filing (fileError path)).run checkout.volume
    (result, { checkout with volume })

def makeDirectory (tree : DeliveryTree) (site : String) : Delivering Unit :=
  let path := tree.deployDirectory site
  onPath path fun cause => Filing.makeDirectories cause path

def writeFile (tree : DeliveryTree) (site : String) (file : RenderedFile) : Delivering Unit :=
  let path := Path.join (tree.deployDirectory site) file.name
  onPath path fun cause => Filing.write cause path file.contents

/-- What is done to the tree before it is known whether there is anything to commit, in order. Each step
may fail. -/
def publishSteps (tree : DeliveryTree) (site : String) (files : List RenderedFile) :
    List (Delivering Unit) :=
  tree.makeDirectory site :: files.map (tree.writeFile site) ++ [tree.stage (tree.scope site)]

/-- Stops unless the site has a directory, and notes its scope. -/
def begin (tree : DeliveryTree) (site : String) : Delivering Unit := fun checkout =>
  if checkout.volume.isDirectory (tree.siteRoot site) then
    (.ok (), { checkout with touched := checkout.touched.insert (tree.scope site) () })
  else (.error (.missingSite (tree.siteRoot site)), checkout)

/-- Writes files for a site and commits its scope; gives the new head, or nothing if the files were there
already. -/
def publish (tree : DeliveryTree) (site : String) (files : List RenderedFile) (message : String) :
    Delivering (Option String) := do
  tree.begin site
  (tree.publishSteps site files).forM id
  if ← tree.isClean (tree.scope site) then pure none
  else do
    tree.commit (tree.scope site) message
    some <$> tree.head

def reset (tree : DeliveryTree) (name : String) : Delivering Unit := do
  tree.resetHard name
  let touched := (← get).touched.keys
  if touched.isEmpty then pure () else tree.clean touched

end DeliveryTree

namespace Checkout

def init (volume : Volume) (top : List String) : Checkout := { volume, repository := some { top } }

/-- Commits all files in somebody's name. If there is nothing to commit, nothing is done. -/
def commitAll (checkout : Checkout) (author message : String) : Checkout :=
  match checkout.repository with
  | none => checkout
  | some repository =>
    let staged := repository.stage checkout.volume repository.top
    match staged.commit repository.top author message with
    | .ok made => { checkout with repository := some made }
    | .error _ => { checkout with repository := some staged }

/-- A delivery tree with a directory for each site, all of it committed. -/
def ofSites (volume : Volume) (root author message : String) (sites : List String) : Checkout :=
  let edits := sites.map fun site => Edit.write (root ++ "/" ++ site ++ "/.keep") ByteArray.empty
  let volume := volume.applyAll edits
  (init volume ((volume.locate root).toOption.getD [])).commitAll author message

end Checkout

end IntentRollout
