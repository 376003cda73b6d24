import IntentRollout.Text.Quoted
import IntentRollout.Text.Blank
import IntentRollout.WorkTree.Ignore
import IntentRollout.Wait

/-!
A directory under version control. A repository has commits, one of which is the head, and an index of
the files that the next commit is made of. Staging copies files of the directory to the index, a commit
takes a part of the index over the tree of the head, and a reset puts index and files back to a commit.
A command that fails changes nothing.
-/

namespace IntentRollout

abbrev FileTree := Table (List String) ByteArray

structure Commit where
  tree : FileTree
  /-- The number of the commit before it. -/
  parent : Option Nat
  author : String
  message : String

structure Repository where
  /-- The directory under version control. -/
  top : List String
  /-- In the order in which they were made, which numbers them. -/
  commits : List Commit := []
  head : Option Nat := none
  index : FileTree := Table.empty

inductive RepositoryFault where
  | noDirectory
  | noRepository
  | unknownRevision (name : String)
  | outside (path : String)
  | ignored (path : String)
  | noMatch (path : String)
  | emptyMessage
  | nothingToCommit
  | interrupted
  deriving DecidableEq

def RepositoryFault.message : RepositoryFault → String
  | .noDirectory => "no such directory"
  | .noRepository => "not a repository"
  | .unknownRevision name => "unknown revision " ++ quoted name
  | .outside path => quoted path ++ " is outside the repository"
  | .ignored path => quoted path ++ " is ignored"
  | .noMatch path => quoted path ++ " matches no files"
  | .emptyMessage => "the message is empty"
  | .nothingToCommit => "nothing to commit"
  | .interrupted => "interrupted"

/-! ### Messages -/

/-- The lines of a message without blanks at their ends; empty lines at the ends are dropped. -/
def messageLines (message : String) : List String :=
  let lines := (pieces '\n' message.toList).map fun line =>
    String.ofList (line.reverse.dropWhile blank).reverse
  ((lines.dropWhile (·.isEmpty)).reverse.dropWhile (·.isEmpty)).reverse

/-- The first paragraph of a message on one line. -/
def subject (message : String) : String :=
  joined " " ((messageLines message).takeWhile fun line => !line.isEmpty)

namespace Repository

def revision (number : Nat) : String := "r" ++ toString number

/-- Goes from a commit to the one before it, some times. -/
def ancestor? (repository : Repository) : Nat → Nat → Option Nat
  | number, 0 => some number
  | number, steps + 1 => do
    let commit ← repository.commits[number]?
    repository.ancestor? (← commit.parent) steps

/-- The number of the commit that a name stands for: the head, one some steps before it, or the name of
a commit. -/
def resolve? (repository : Repository) (name : String) : Option Nat :=
  match name.toList with
  | ['@'] => repository.head
  | ['H', 'E', 'A', 'D'] => repository.head
  | ['H', 'E', 'A', 'D', '^'] => do repository.ancestor? (← repository.head) 1
  | 'H' :: 'E' :: 'A' :: 'D' :: '~' :: steps => do
    let steps ← if steps.isEmpty then some 1 else Wait.readNatural? steps
    repository.ancestor? (← repository.head) steps
  | _ => (List.range repository.commits.length).find? fun number => revision number = name

def treeOf (repository : Repository) (number : Nat) : FileTree :=
  match repository.commits[number]? with
  | some commit => commit.tree
  | none => Table.empty

def headTree (repository : Repository) : FileTree :=
  match repository.head with
  | some number => repository.treeOf number
  | none => Table.empty

/-- The part of a tree at and below a place. -/
def within (scope : List String) (tree : FileTree) : FileTree :=
  tree.filter fun place _ => scope.isPrefixOf place

/-- The part of a tree that is not at or below a place. -/
def outside (scope : List String) (tree : FileTree) : FileTree :=
  tree.filter fun place _ => !scope.isPrefixOf place

/-- Whether a file of the directory is under version control or may come under it by itself. -/
def isEligible (repository : Repository) (volume : Volume) (place : List String) : Bool :=
  repository.index.contains place || !volume.isIgnored repository.top place

/-- Copies the files in a scope to the index, and drops from it those that are gone. -/
def stage (repository : Repository) (volume : Volume) (scope : List String) : Repository :=
  let found := (within scope (volume.files repository.top)).filter fun place _ =>
    repository.isEligible volume place
  { repository with index := (outside scope repository.index).union found }

/-- Whether a scope is as in the head, both in the index and among the files. -/
def isClean (repository : Repository) (volume : Volume) (scope : List String) : Bool :=
  let staged := within scope repository.index
  let found := (within scope (volume.files repository.top)).filter fun place _ =>
    repository.isEligible volume place
  staged = within scope repository.headTree && found = staged

def commit (repository : Repository) (scope : List String) (author message : String) :
    Except RepositoryFault Repository :=
  let tree := (outside scope repository.headTree).union (within scope repository.index)
  if (messageLines message).isEmpty then .error .emptyMessage
  else if tree = repository.headTree && repository.head.isSome then .error .nothingToCommit
  else
    let made : Commit := { tree, parent := repository.head, author, message }
    .ok { repository with
      commits := repository.commits ++ [made]
      head := some repository.commits.length }

/-- The files after a reset: those of the commit, and those that were not under version control. -/
def restore (repository : Repository) (volume : Volume) (tree : FileTree) : Volume :=
  let known := repository.headTree.union repository.index
  let cleared := known.keys.foldl (fun volume place =>
    if tree.contains place || (volume.file? place).isNone then volume
    else volume.uproot repository.top place) volume
  tree.entries.foldl (fun volume (place, bytes) =>
    if volume.file? place = some bytes then volume else volume.plant place bytes) cleared

/-- Puts head, index and files back to a commit. -/
def reset (repository : Repository) (volume : Volume) (number : Nat) : Repository × Volume :=
  let tree := repository.treeOf number
  ({ repository with head := some number, index := tree }, repository.restore volume tree)

/-- Takes away the files in a scope that are not under version control, and the directories there that
are left empty. -/
def clean (repository : Repository) (volume : Volume) (scope : List String) : Volume :=
  let strays := (within scope (volume.files repository.top)).keys.filter fun place =>
    !repository.index.contains place && !volume.isIgnored repository.top place
  let cleared := strays.foldl (fun volume place => volume.prune place) volume
  let directories := (cleared.entries.entries.filterMap fun (place, entry) =>
    if entry = .directory && scope.isPrefixOf place then some place else none).reverse
  directories.foldl (fun volume place =>
    if (volume.below place).isEmpty then volume.prune place else volume) cleared

def history (repository : Repository) : List Commit :=
  walk repository.commits.length repository.head
where
  walk : Nat → Option Nat → List Commit
    | 0, _ => []
    | _, none => []
    | steps + 1, some number =>
      match repository.commits[number]? with
      | none => []
      | some commit => commit :: walk steps commit.parent

end Repository

end IntentRollout
