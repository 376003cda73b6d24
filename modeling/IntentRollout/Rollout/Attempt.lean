import IntentRollout.Rollout.Convergence
import IntentRollout.Rollout.Report

/-!
An attempt to roll out an intent. The phases run strictly in order, and the targets one after the other;
the first that fails ends the attempt. Once a publication was attempted, every end other than success
puts the delivery tree back to its snapshot. Every attempt leaves a report, except one that was declined
before anything changed.
-/

namespace IntentRollout

inductive IntentSource where
  | file (path : String)
  | document (document : Json)

/-- What an attempt is carried out with. -/
structure Rollout where
  config : Config
  options : Options
  /-- Whether the state of a target can be asked for. -/
  watches : String → Bool

/-- Whether consent to a phase is asked for. -/
def Rollout.needsConsent (rollout : Rollout) (phase : Phase) : Bool :=
  phase.isCheckpoint && rollout.options.mode = .safe && !rollout.options.dryRun

/-- Why an attempt stops. -/
inductive Halt where
  | failed (phase : Phase) (error : RolloutError)
  | declined
  | cancelled

/-- How far an attempt has got. -/
structure Standing where
  phase : Phase := .init
  snapshot : Option String := none
  document : Option Json := none
  compilation : Option Compilation := none
  /-- Whether a publication was attempted. -/
  mutated : Bool := false
  details : ReportDetails := {}

/-- How far an attempt has got, and what it has logged. -/
structure Progress extends Standing where
  /-- With the milliseconds since the start. -/
  log : List (Nat × LogEntry) := []

/-- What an attempt leaves: its outcome, the report, and what belongs to the report. -/
structure Conclusion where
  outcome : Outcome
  report : Option Report
  document : Option Json
  compilation : Option Compilation

/-- Work on an attempt that does not stop. -/
abbrev Working := StateT Progress Timeline

/-- Work on an attempt that may stop; what was done before stays. -/
abbrev Step := ExceptT Halt Working

namespace Attempt

/-! ### Parts of a step -/

def note (level : LogLevel) (message : String) : Working Unit := do
  let now ← getThe Nat
  modify fun progress => { progress with log := progress.log ++ [(now, ⟨level, message⟩)] }

def advance (change : Standing → Standing) : Working Unit :=
  modify fun progress => { progress with toStanding := change progress.toStanding }

def record (change : ReportDetails → ReportDetails) : Working Unit :=
  advance fun standing => { standing with details := change standing.details }

def ask (request : Request) : Working request.Reply := StateT.lift (Timeline.ask request)

/-- The value of a result; an error ends the attempt in a phase. -/
def require {α ε : Type} (phase : Phase) (cause : ε → RolloutError) (result : Except ε α) : Step α :=
  match result with
  | .ok value => pure value
  | .error error => throw (.failed phase (cause error))

/-- Stops if shutdown is requested. -/
def heed : Step Unit := do
  if ← ask .shutdown then throw .cancelled

/-- Goes on to a phase, after consent if that is needed. -/
def enter (rollout : Rollout) (phase : Phase) : Step Unit := do
  advance fun standing => { standing with phase }
  heed
  if rollout.needsConsent phase then
    if ← ask (.confirm phase) then heed
    else
      note .warn ("Checkpoint " ++ phase.written ++ " declined")
      throw .declined

/-! ### Phases -/

def takeSnapshot (rollout : Rollout) : Step Unit := do
  enter rollout .snapshot
  note .info "Creating snapshot for rollback"
  let result ← (Timeline.deliver rollout.options.retry (Timeline.ask .snapshot) :
    Timeline (Except DeliveryError String))
  let snapshot ← require .snapshot .delivery result
  note .info ("Snapshot created: " ++ snapshot)
  advance fun standing => { standing with snapshot := some snapshot }

/-- The targets in the order in which they are asked for, none of them twice. -/
def requestedTargets (config : Config) (requested : List String) : Except RolloutError (List String) := do
  let sites ← requested.mapM fun target =>
    match config.resolveTarget? target with
    | some sites => .ok sites
    | none => .error (.unknownTarget target config.knownSites)
  .ok sites.flatten.eraseDups

/-- The targets of an attempt: those asked for, or without any those of the intent. -/
def targets (config : Config) (intent : Intent) (requested : List String) :
    Except RolloutError (List String) :=
  if requested.isEmpty then requestedTargets config [config.intentTarget intent]
  else requestedTargets config requested

/-- The targets and the gate for an intent that has all required fields. -/
def accept (rollout : Rollout) (intent : Intent) (requested : List String) :
    Except RolloutError (List String × Gate) := do
  let missing := intent.missingFields rollout.options.requiredFields
  if !missing.isEmpty then throw (.missingFields missing)
  let targets ← targets rollout.config intent requested
  match Gate.read rollout.options.slo with
  | .ok gate => .ok (targets, gate)
  | .error fault => .error (.gate (joined "," targets) (.slo fault))

def readDocument (source : IntentSource) : Step Json := do
  match source with
  | .file path =>
    note .info ("Validating intent: " ++ path)
    let result ← (ask (.document path) : Working (Except IntentError Json))
    require .validate .intent result
  | .document document =>
    note .info "Validating intent document"
    pure document

def validate (rollout : Rollout) (source : IntentSource) (requested : List String) :
    Step (Intent × List String × Gate) := do
  enter rollout .validate
  let document ← readDocument source
  advance fun standing => { standing with document := some document }
  let intent ← require .validate .intent (Intent.ofJson document)
  let (targets, gate) ← require .validate id (accept rollout intent requested)
  note .info ("Intent " ++ intent.id ++ " is valid; targets: " ++ joined ", " targets)
  record fun details => { details with targets }
  pure (intent, targets, gate)

def noteWarnings (compilation : Compilation) : Working Unit :=
  compilation.warnings.forM fun warning => note .warn warning.message

def render (rollout : Rollout) (started : Instant) (intent : Intent) (targets : List String) :
    Step Compilation := do
  enter rollout .render
  note .info "Rendering intent to resource bundles"
  let compilation ← require .render .compile (rollout.config.compileFor started intent targets)
  noteWarnings compilation
  let checksums := compilation.checksums
  note .info ("Rendered " ++ toString compilation.resourceCount ++ " resources for " ++
    toString compilation.bundles.size ++ " site(s); " ++ toString checksums.size ++
    " checksums recorded")
  record fun details => { details with checksums }
  advance fun standing => { standing with compilation := some compilation }
  pure compilation

def commitMessage (started : Instant) (intent : Intent) (target : String) : String :=
  "deploy intent " ++ intent.id ++ " to " ++ target ++ " (" ++ started.stamp ++ ")"

def filesFor (compilation : Compilation) (target : String) : List RenderedFile :=
  ((compilation.bundles.get? target).map Bundle.rendered).getD []

def publish (rollout : Rollout) (started : Instant) (intent : Intent) (compilation : Compilation)
    (target : String) : Step (Option String) := do
  enter rollout (.publish target)
  note .info ("Publishing to delivery tree: " ++ target)
  let files := filesFor compilation target
  if rollout.options.dryRun then
    note .info ("DRY RUN: would publish " ++ toString files.length ++ " file(s) to " ++ target)
    record fun details => { details with published := details.published ++ [⟨target, none⟩] }
    pure none
  else
    advance fun standing => { standing with mutated := true }
    let request := Request.publish target files (commitMessage started intent target)
    let result ← (Timeline.deliver rollout.options.retry (Timeline.ask request) :
      Timeline (Except DeliveryError (Option String)))
    let revision ← require (.publish target) .delivery result
    match revision with
    | some revision => note .info ("Committed " ++ revision ++ " for " ++ target)
    | none => note .info ("No changes for " ++ target ++ "; nothing committed")
    record fun details => { details with published := details.published ++ [⟨target, revision⟩] }
    pure revision

def verify (rollout : Rollout) (target : String) (revision : Option String) : Step Unit := do
  enter rollout (.verify target)
  if rollout.options.dryRun then
    note .info ("DRY RUN: would wait for " ++ target ++ " to converge")
  else
    note .info ("Waiting for deployment verification on " ++ target)
    let convergence ← (Convergence.await (rollout.watches target) target revision rollout.options.verify :
      Timeline Convergence)
    if convergence.isSuccess then note .info (target ++ " verified (" ++ convergence.written ++ ")")
    else if convergence = .cancelled then throw .cancelled
    else throw (.failed (.verify target) (.verify target convergence))

def gate (rollout : Rollout) (gate : Gate) (target : String) : Step Unit := do
  enter rollout (.gate target)
  note .info ("Checking SLO gate for " ++ target)
  if rollout.options.dryRun then
    note .info ("DRY RUN: would evaluate SLO gate for " ++ target)
    record fun details => { details with gates := details.gates.insert target GateRecord.skipped }
  else
    match ← (ask (.fetch target) : Working (Option (Except Http.FetchError Metrics))) with
    | none => throw .cancelled
    | some fetched =>
      let verdict := gate.check fetched
      record fun details =>
        { details with gates := details.gates.insert target (GateRecord.ofOutcome verdict) }
      match verdict with
      | .ok () => note .info ("SLO gate passed for " ++ target)
      | .error error =>
        match error with
        | .violated violations =>
          note .error ("SLO gate failed for " ++ target ++ ": " ++ error.message)
          record fun details => { details with violations }
        | _ =>
          note .warn ("SLO gate could not be evaluated for " ++ target ++ ": " ++ error.message)
        throw (.failed (.gate target) (.gate target error))

/-- Publishes to a target, waits for it and gates it. -/
def processTarget (rollout : Rollout) (started : Instant) (intent : Intent) (compilation : Compilation)
    (objectives : Gate) (target : String) : Step Unit := do
  note .info ("Processing target: " ++ target)
  let revision ← publish rollout started intent compilation target
  verify rollout target revision
  gate rollout objectives target

def drive (rollout : Rollout) (started : Instant) (source : IntentSource) (requested : List String) :
    Step Unit := do
  takeSnapshot rollout
  let (intent, targets, objectives) ← validate rollout source requested
  let compilation ← render rollout started intent targets
  targets.forM (processTarget rollout started intent compilation objectives)

/-! ### Ends -/

/-- Puts the delivery tree back to the snapshot. -/
def rollback (rollout : Rollout) : Working Unit := do
  advance fun standing => { standing with phase := .rollback }
  note .warn "Executing rollback"
  match (← get).snapshot with
  | none =>
    note .error RolloutError.noSnapshot.message
    record fun details => { details with rollback := some ⟨false, some RolloutError.noSnapshot.message⟩ }
  | some snapshot =>
    if rollout.options.dryRun then
      note .info ("DRY RUN: would roll back to " ++ snapshot)
      record fun details => { details with rollback := some ⟨false, none⟩ }
    else
      let result ← (Timeline.deliver rollout.options.retry (Timeline.ask (.reset snapshot)) :
        Timeline (Except DeliveryError Unit))
      match result with
      | .ok () =>
        note .info ("Rolled back to " ++ snapshot)
        record fun details => { details with rollback := some ⟨true, none⟩ }
      | .error error =>
        note .error ("Rollback to " ++ snapshot ++ " failed: " ++ error.message)
        record fun details => { details with rollback := some ⟨false, some error.message⟩ }

def rollbackIfMutated (rollout : Rollout) : Working Unit := do
  if (← get).mutated then rollback rollout
  else note .info "Delivery tree untouched; no rollback needed"

/-- The lines of a log, with times counted from the start. -/
def logLines (started : Instant) (log : List (Nat × LogEntry)) : List String :=
  log.map fun (time, entry) => entry.written (started.after time).preciseText

def finish (rollout : Rollout) (started : Instant) (outcome : Outcome) : Working Conclusion := do
  advance fun standing => { standing with phase := .report }
  let progress ← get
  pure {
    outcome
    report := some {
      timestamp := started.stamp
      success := outcome = .succeeded
      mode := rollout.options.mode
      dryRun := rollout.options.dryRun
      rollbackPoint := progress.snapshot
      log := logLines started progress.log
      details := progress.details }
    document := progress.document
    compilation := progress.compilation }

/-- Records in which phase an attempt was stopped from outside. -/
def recordStop (phase : Phase) (error : String) : Working Unit :=
  record fun details =>
    { details with target := phase.target?, phase := some "CANCELLED", error := some error }

def conclude (rollout : Rollout) (started : Instant) : Except Halt Unit → Working Conclusion
  | .ok () => do
    note .info "Rollout completed successfully"
    finish rollout started .succeeded
  | .error (.failed phase error) => do
    note .error (phase.name ++ " failed: " ++ error.message)
    record fun details =>
      { details with phase := some phase.name, target := phase.target?, error := some error.message }
    rollbackIfMutated rollout
    finish rollout started .failed
  | .error .declined => do
    let progress ← get
    if progress.mutated then
      note .warn ("Rollout cancelled at " ++ progress.phase.written)
      recordStop progress.phase ("checkpoint " ++ progress.phase.written ++ " declined")
      rollback rollout
      finish rollout started .declined
    else pure ⟨.declined, none, none, none⟩
  | .error .cancelled => do
    let phase := (← get).phase
    note .warn ("Rollout interrupted during " ++ phase.written)
    recordStop phase ("interrupted during " ++ phase.written)
    rollbackIfMutated rollout
    finish rollout started .cancelled

/-- The targets as the first lines of the log name them. -/
def requestedText (requested : List String) : String :=
  if requested.isEmpty then "(from intent)" else joined ", " requested

def announce (rollout : Rollout) (requested : List String) : Working Unit := do
  note .info "edgeflow rollout starting"
  note .info ("Mode: " ++ rollout.options.mode.name ++ ", Targets: " ++ requestedText requested ++
    ", Dry run: " ++ toString rollout.options.dryRun)

def work (rollout : Rollout) (started : Instant) (source : IntentSource) (requested : List String) :
    Working Conclusion := do
  announce rollout requested
  conclude rollout started (← (drive rollout started source requested).run)

end Attempt

namespace Rollout

def plan (rollout : Rollout) (started : Instant) (source : IntentSource) (requested : List String) :
    Plan Conclusion := do
  let ((conclusion, _), _) ← ((Attempt.work rollout started source requested).run {}).run 0
  pure conclusion

end Rollout

namespace Conclusion

/-- Writes the report of an attempt, if it has one, and gives the directory. -/
def write (conclusion : Conclusion) (root : String) : Filing RolloutError (Option String) :=
  match conclusion.report with
  | some report => do
    let directory ← report.write root conclusion.document conclusion.compilation
    pure (some directory)
  | none => pure none

end Conclusion

end IntentRollout
