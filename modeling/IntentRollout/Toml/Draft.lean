import IntentRollout.Toml.Basic

/-!
Putting the lines of a configuration text together. A table may be opened once by a header, may exist
before that because a header went through it, and may grow by dotted keys only where dotted keys made
it. Whatever would define something twice is refused.
-/

namespace IntentRollout.Toml

/-- A table under construction, or a finished value. -/
inductive Draft where
  | value (value : Toml)
  /-- A table is `implied` if no header opened it so far, and `dotted` if dotted keys made it. -/
  | table (implied dotted : Bool) (entries : List (String × Draft))
  /-- Tables of one name, each opened by its own header; the last one is open. -/
  | tables (items : List (List (String × Draft)))
  deriving Inhabited

namespace Draft

abbrev Entries := List (String × Draft)

def find? (entries : Entries) (key : String) : Option Draft :=
  (entries.find? (·.1 == key)).map (·.2)

/-- Changes an entry, or adds it at the end. -/
def set (entries : Entries) (key : String) (draft : Draft) : Entries :=
  if entries.any (·.1 == key) then
    entries.map fun entry => if entry.1 == key then (key, draft) else entry
  else entries ++ [(key, draft)]

def changeLast (change : Entries → Option Entries) : List Entries → Option (List Entries)
  | [] => none
  | [last] => (change last).map ([·])
  | item :: rest => (changeLast change rest).map (item :: ·)

/-- Puts a value at a dotted key. `open_` says whether this table may take the value itself. -/
def put (open_ : Bool) (entries : Entries) (path : List String) (key : String) (value : Toml) :
    Option Entries :=
  match path with
  | [] =>
    if open_ && (find? entries key).isNone then some (entries ++ [(key, .value value)]) else none
  | first :: path =>
    match find? entries first with
    | none => (put true [] path key value).map fun inner => set entries first (.table true true inner)
    | some (.table true dotted inner) =>
      (put dotted inner path key value).map fun inner => set entries first (.table true dotted inner)
    | some (.tables items) =>
      (changeLast (fun last => put false last path key value) items).map fun items =>
        set entries first (.tables items)
    | some _ => none

/-- Changes the table at a path of headers; missing tables on the way are implied. -/
def changeAt (entries : Entries) (path : List String) (change : Entries → Option Entries) :
    Option Entries :=
  match path with
  | [] => change entries
  | first :: path =>
    match find? entries first with
    | none => (changeAt [] path change).map fun inner => set entries first (.table true false inner)
    | some (.table implied dotted inner) =>
      (changeAt inner path change).map fun inner => set entries first (.table implied dotted inner)
    | some (.tables items) =>
      (changeLast (changeAt · path change) items).map fun items => set entries first (.tables items)
    | some (.value _) => none

structure Line where
  path : List String
  key : String
  value : Toml

structure Section where
  several : Bool
  path : List String
  key : String
  lines : List Line

def putLines (entries : Entries) (lines : List Line) : Option Entries :=
  lines.foldlM (fun entries line => put true entries line.path line.key line.value) entries

def addSection (entries : Entries) (part : Section) : Option Entries :=
  changeAt entries part.path fun parent =>
    match part.several, find? parent part.key with
    | false, none => do
      some (set parent part.key (.table false false (← putLines [] part.lines)))
    | false, some (.table true false inner) => do
      some (set parent part.key (.table false false (← putLines inner part.lines)))
    | true, none => do some (set parent part.key (.tables [← putLines [] part.lines]))
    | true, some (.tables items) => do
      some (set parent part.key (.tables (items ++ [← putLines [] part.lines])))
    | _, _ => none

mutual

def finish : Draft → Toml
  | .value content => content
  | .table _ _ entries => .table (finishEntries entries)
  | .tables items => .array (finishTables items)

def finishEntries : List (String × Draft) → List (String × Toml)
  | [] => []
  | (key, draft) :: rest => (key, draft.finish) :: finishEntries rest

def finishTables : List (List (String × Draft)) → List Toml
  | [] => []
  | entries :: rest => .table (finishEntries entries) :: finishTables rest

end

end Draft

/-- The table of dotted keys, as in braces. -/
def ofLines? (lines : List Draft.Line) : Option Toml :=
  (Draft.putLines [] lines).map fun entries => .table (Draft.finishEntries entries)

/-- The table of a whole text: lines before the first header, and the sections. -/
def ofSections? (lines : List Draft.Line) (sections : List Draft.Section) : Option Toml := do
  let entries ← sections.foldlM Draft.addSection (← Draft.putLines [] lines)
  some (.table (Draft.finishEntries entries))

end IntentRollout.Toml
