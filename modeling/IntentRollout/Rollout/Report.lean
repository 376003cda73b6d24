import IntentRollout.Bundle.Manifest
import IntentRollout.Rollout.Failure

/-!
Reports of attempts. Each attempt leaves a directory of its own, named for its start; if the name is
taken, a number is added. Nothing that stands there from before is touched.
-/

namespace IntentRollout

inductive LogLevel where
  | info
  | warn
  | error
  deriving DecidableEq

def LogLevel.name : LogLevel → String
  | .info => "INFO"
  | .warn => "WARN"
  | .error => "ERROR"

namespace LogLevel

def all : List LogLevel := [.info, .warn, .error]

/-- The level of a name, whatever its case. -/
def read? (text : String) : Option LogLevel := all.find? fun level => raised text = level.name

end LogLevel

/-- A line of a log without its time. -/
structure LogEntry where
  level : LogLevel
  message : String
  deriving DecidableEq

/-- A line of a log with its time. -/
def LogEntry.written (entry : LogEntry) (time : String) : String :=
  "[" ++ time ++ "] [" ++ entry.level.name ++ "] " ++ entry.message

structure GateRecord where
  passed : Bool
  violations : List Violation
  errorKind : Option String := none
  error : Option String := none
  deriving DecidableEq

namespace GateRecord

def ofOutcome : Except GateError Unit → GateRecord
  | .ok () => { passed := true, violations := [] }
  | .error (.violated violations) =>
    { passed := false, violations, errorKind := some (GateError.violated violations).kind }
  | .error error =>
    { passed := false, violations := [], errorKind := some error.kind, error := some error.message }

/-- The gate was not evaluated, because nothing is done for real. -/
def skipped : GateRecord := { passed := true, violations := [], errorKind := some "dry_run" }

end GateRecord

structure PublishRecord where
  target : String
  /-- Absent if nothing was committed. -/
  revision : Option String
  deriving DecidableEq

structure RollbackRecord where
  performed : Bool
  error : Option String := none
  deriving DecidableEq

structure ReportDetails where
  /-- The phase that ended a failed attempt. -/
  phase : Option String := none
  target : Option String := none
  error : Option String := none
  targets : List String := []
  published : List PublishRecord := []
  gates : Table String GateRecord := Table.empty
  /-- The violations of the gate that failed. -/
  violations : List Violation := []
  checksums : Table String String := Table.empty
  rollback : Option RollbackRecord := none
  deriving DecidableEq

structure Report where
  timestamp : String
  success : Bool
  mode : Mode
  dryRun : Bool
  rollbackPoint : Option String
  log : List String
  details : ReportDetails
  deriving DecidableEq

/-! ### The document of a report -/

/-- A member that is left out if it is absent. -/
def optionalMember (name : String) : Option String → List (String × Json)
  | some value => [(name, .text value)]
  | none => []

def GateRecord.toJson (record : GateRecord) : Json := .object <|
  [("passed", .bool record.passed), ("violations", .array (record.violations.map Violation.toJson))] ++
  optionalMember "errorKind" record.errorKind ++ optionalMember "error" record.error

def PublishRecord.toJson (record : PublishRecord) : Json := .object [
  ("target", .text record.target), ("revision", .optionalText record.revision)]

def RollbackRecord.toJson (record : RollbackRecord) : Json := .object <|
  ("performed", .bool record.performed) :: optionalMember "error" record.error

def textsByName (texts : Table String String) : Json :=
  .object (texts.mapValues fun _ text => .text text).entries

def ReportDetails.toJson (details : ReportDetails) : Json := .object <|
  optionalMember "phase" details.phase ++ optionalMember "target" details.target ++
  optionalMember "error" details.error ++
  [("targets", .texts details.targets),
    ("published", .array (details.published.map PublishRecord.toJson)),
    ("gates", .object (details.gates.mapValues fun _ record => record.toJson).entries)] ++
  (if details.violations.isEmpty then []
    else [("violations", .array (details.violations.map Violation.toJson))]) ++
  [("checksums", textsByName details.checksums)] ++
  (details.rollback.map fun record => ("rollback", record.toJson)).toList

namespace Report

def toJson (report : Report) : Json := .object [
  ("timestamp", .text report.timestamp), ("success", .bool report.success),
  ("mode", .text report.mode.name), ("dryRun", .bool report.dryRun),
  ("rollbackPoint", .optionalText report.rollbackPoint), ("executionLog", .texts report.log),
  ("details", report.details.toJson)]

/-! ### Reading -/

def violationSchema : Json.Schema := .record "Violation" false [
  ("metric", .text), ("operator", .choice (Operator.all.map Operator.symbol)), ("threshold", .float),
  ("actual", .float)]

def gateSchema : Json.Schema := .record "GateRecord" false [
  ("passed", .bool), ("violations", .list violationSchema), ("errorKind", .optional .text),
  ("error", .optional .text)]

def publishSchema : Json.Schema := .record "PublishRecord" false [
  ("target", .text), ("revision", .optional .text)]

def rollbackSchema : Json.Schema := .record "RollbackRecord" false [
  ("performed", .bool), ("error", .optional .text)]

def detailsSchema : Json.Schema := .record "ReportDetails" true [
  ("phase", .optional .text), ("target", .optional .text), ("error", .optional .text),
  ("targets", .list .text), ("published", .list publishSchema), ("gates", .table gateSchema),
  ("violations", .list violationSchema), ("checksums", .table .text),
  ("rollback", .optional rollbackSchema)]

def schema : Json.Schema := .record "ExecutionReport" false [
  ("timestamp", .text), ("success", .bool), ("mode", .choice (Mode.all.map Mode.name)), ("dryRun", .bool),
  ("rollbackPoint", .optional .text), ("executionLog", .list .text), ("details", detailsSchema)]

/-- A member that may be absent or null. -/
def optional? {α : Type} (read? : Json → Option α) (document : Json) (name : String) :
    Option (Option α) :=
  match document.member? name with
  | none => some none
  | some .null => some none
  | some value => (read? value).map some

def violation? (document : Json) : Option Violation := do
  some {
    constraint := {
      metric := ← document.textMember? "metric"
      operator := ← Operator.ofSymbol? (← document.textMember? "operator")
      threshold := ← (document.member? "threshold").bind Json.float? }
    actual := ← (document.member? "actual").bind Json.float? }

def gate? (document : Json) : Option GateRecord := do
  some {
    passed := ← (document.member? "passed").bind Json.bool?
    violations := ← document.listMember? violation? "violations"
    errorKind := ← optional? Json.text? document "errorKind"
    error := ← optional? Json.text? document "error" }

def publish? (document : Json) : Option PublishRecord := do
  some ⟨← document.textMember? "target", ← optional? Json.text? document "revision"⟩

def rollback? (document : Json) : Option RollbackRecord := do
  some ⟨← (document.member? "performed").bind Json.bool?, ← optional? Json.text? document "error"⟩

/-- A member that has a value of its own if it is absent. -/
def lenient? {α : Type} (document : Json) (name : String) (absent : α) (read? : Option α) : Option α :=
  if (document.member? name).isSome then read? else some absent

def details? (document : Json) : Option ReportDetails := do
  some {
    phase := ← optional? Json.text? document "phase"
    target := ← optional? Json.text? document "target"
    error := ← optional? Json.text? document "error"
    targets := ← lenient? document "targets" [] (document.listMember? Json.text? "targets")
    published := ← lenient? document "published" [] (document.listMember? publish? "published")
    gates := ← lenient? document "gates" Table.empty (document.tableMember? gate? "gates")
    violations := ← lenient? document "violations" [] (document.listMember? violation? "violations")
    checksums :=
      ← lenient? document "checksums" Table.empty (document.tableMember? Json.text? "checksums")
    rollback := ← optional? rollback? document "rollback" }

/-- The report that a document of the right shape describes. -/
def ofJson? (document : Json) : Option Report := do
  some {
    timestamp := ← document.textMember? "timestamp"
    success := ← (document.member? "success").bind Json.bool?
    mode := ← Mode.read? (← document.textMember? "mode")
    dryRun := ← (document.member? "dryRun").bind Json.bool?
    rollbackPoint := ← optional? Json.text? document "rollbackPoint"
    log := ← document.listMember? Json.text? "executionLog"
    details := ← details? (← document.member? "details") }

def read (text : String) : Except Json.Error Report := do
  match ofJson? (← schema.read text) with
  | some report => .ok report
  | none => .error ⟨.expectedValue, 1, 0⟩

def load (volume : Volume) (path : String) : Except RolloutError Report := do
  let text ← (volume.readText path).mapError (.report path)
  (read text).mapError .notJson

/-! ### Writing -/

def fileName : String := "execution_report.json"

def logName : String := "execution.log"

def freeDirectory (volume : Volume) (root stamp : String) : Nat → Nat → String
  | 0, number => Path.join root (stamp ++ "-" ++ toString number)
  | tries + 1, number =>
    let path := Path.join root (stamp ++ "-" ++ toString number)
    if volume.isThere path then freeDirectory volume root stamp tries (number + 1) else path

/-- The first free name: the stamp itself, or the stamp with the least number. The number stays at most that of the
entries of the volume, so counting in 32 bits gets as far on any volume with fewer than 2 ^ 31 of them. -/
def uniqueDirectory (volume : Volume) (root stamp : String) : String :=
  let path := Path.join root stamp
  if volume.isThere path then freeDirectory volume root stamp (volume.entries.size + 1) 1 else path

def writeFile (directory name text : String) : Filing RolloutError Unit :=
  let path := Path.join directory name
  Filing.write (.report path) path text

/-- Writes a report with the intent, if it was read, and what was compiled, if anything was; gives the
directory. -/
def write (report : Report) (root : String) (document : Option Json)
    (compilation : Option Compilation) : Filing RolloutError String := do
  let directory := uniqueDirectory (← get) root report.timestamp
  Filing.makeDirectories (.report directory) directory
  writeFile directory fileName report.toJson.pretty
  writeFile directory logName (joined "\n" report.log)
  match document with
  | some document => writeFile directory "intent.json" document.pretty
  | none => pure ()
  match compilation with
  | some compilation =>
    writeFile directory "checksums.json" (textsByName report.details.checksums).pretty
    let _ ← ExceptT.adapt RolloutError.compile (compilation.save (Path.join directory "rendered") false)
  | none => pure ()
  pure directory

end Report

end IntentRollout
