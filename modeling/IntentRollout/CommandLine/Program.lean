import IntentRollout.CommandLine.Complaint
import IntentRollout.CommandLine.Host
import IntentRollout.CommandLine.Invocation
import IntentRollout.Config.Reader

/-!
The commands. Each prints what it did and gives an exit code: zero when all is well, one when it is not,
two when the command line was misused. A program that breaks off has a code of its own.
-/

namespace IntentRollout.CommandLine

variable {m : Type → Type} [Monad m]

/-- Work of a command, which may end with a complaint. -/
abbrev Work (m : Type → Type) := ExceptT Complaint (StateT Host m)

namespace Work

def print (terminal : Terminal m) (line : String) : Work m Unit :=
  liftM (terminal.print (line ++ "\n"))

def printError (terminal : Terminal m) (line : String) : Work m Unit :=
  liftM (terminal.printError (line ++ "\n"))

/-- The value of a result; an error ends the command. -/
def require {α ε : Type} (complaint : ε → Complaint) (result : Except ε α) : Work m α :=
  ExceptT.mk (pure (result.mapError complaint))

def file {α ε : Type} (complaint : ε → Complaint) (filing : Filing ε α) : Work m α := do
  let result ← (Host.onFiles filing : StateT Host m (Except ε α))
  require complaint result

end Work

open Work

/-- The configuration in the working directory that is taken if none is named. -/
def localConfig : String := "edgeflow.toml"

def loadConfig (named : Option String) : Work m Config := do
  let volume := (← getThe Host).volume
  let path := named.or (if volume.isFile localConfig then some localConfig else none)
  match path with
  | some path => require .ofConfig (Config.load volume path)
  | none => pure {}

/-! ### Compiling -/

def loadIntent (path : String) : Work m Intent := do
  let complaint (error : IntentError) : Complaint :=
    .told ("failed to load intent " ++ path) (error.message :: error.causes)
  require complaint (Intent.load (← getThe Host).volume path)

/-- The text of all files, each after a line with its path. -/
def printFiles (terminal : Terminal m) (compilation : Compilation) : Work m Unit :=
  compilation.artifacts.forM fun (path, file) => do
    print terminal ("# " ++ path)
    liftM (terminal.print file.contents)
    print terminal "---"

def saveFiles (terminal : Terminal m) (compilation : Compilation) (output : String)
    (skipUnchanged : Bool) : Work m Unit := do
  let saved ← file .ofCompile (compilation.save output skipUnchanged)
  print terminal ("✓ Compiled intent " ++ compilation.intentId ++ " for " ++
    joined ", " compilation.sites ++ " (" ++ toString compilation.resourceCount ++ " resources)")
  print terminal ("  Written:   " ++ toString saved.written.length)
  print terminal ("  Unchanged: " ++ toString saved.unchanged.length)
  print terminal ("  Manifest:  " ++ saved.manifestPath)

def compile (terminal : Terminal m) (config : Config) (arguments : CompileArguments) :
    Work m Nat := do
  let intent ← loadIntent arguments.intent
  let instant := (← getThe Host).start
  let compilation ← require .ofCompile (config.compileRequested instant intent arguments.targets)
  compilation.warnings.forM fun warning => printError terminal ("warning: " ++ warning.message)
  if arguments.checksumsOnly then print terminal (textsByName compilation.checksums).pretty
  else if arguments.dryRun then printFiles terminal compilation
  else saveFiles terminal compilation arguments.output (!arguments.noCache)
  pure 0

/-! ### Gates -/

def failGate (terminal : Terminal m) (error : GateError) : Work m Nat := do
  printError terminal ("✗ SLO gate failed [" ++ error.kind ++ "]: " ++ error.message)
  match error with
  | .violated violations =>
    violations.forM fun violation => printError terminal ("  - " ++ violation.message)
  | _ => pure ()
  pure 1

def judgeMetrics (terminal : Terminal m) (gate : Gate) (verbose : Bool) (metrics : Metrics) :
    Work m Nat := do
  if verbose then
    gate.constraints.forM fun constraint => print terminal ("  constraint: " ++ constraint.written)
    print terminal ("  metrics: " ++ metrics.toJson.compact)
  match gate.judge metrics with
  | .ok () =>
    print terminal ("✓ SLO gate passed (" ++ toString gate.constraints.length ++ " constraints)")
    pure 0
  | .error error => failGate terminal error

def checkGate (terminal : Terminal m) (arguments : GateArguments) : Work m Nat := do
  match Gate.read arguments.slo with
  | .error fault => failGate terminal (.slo fault)
  | .ok gate =>
    let network := (← getThe Host).network
    match MetricsSource.fetchMetrics network (arguments.timeout * 1000) arguments.url with
    | .error error => failGate terminal (.fetch error)
    | .ok metrics => judgeMetrics terminal gate arguments.verbose metrics

/-! ### Rollouts -/

def announce (terminal : Terminal m) (outcome : Outcome) (directory : Option String) : Work m Unit :=
  let report := directory.getD ""
  match outcome, directory with
  | .succeeded, _ => print terminal ("✓ Rollout succeeded. Report: " ++ report)
  | .failed, _ => printError terminal ("✗ Rollout failed. Report: " ++ report)
  | .declined, none => printError terminal "Rollout declined; nothing was changed."
  | .declined, some _ => printError terminal ("Rollout declined and rolled back. Report: " ++ report)
  | .cancelled, _ => printError terminal ("Rollout interrupted. Report: " ++ report)

/-- What the requests of attempts go to under a configuration. -/
def sourcesOf (config : Config) (author : String) : Except ConfigError Sources := do
  let metrics ← MetricsSource.ofConfig config
  .ok {
    tree := ⟨config.rollout.deliveryRoot, config.rollout.siteDirectory, author⟩
    metrics
    sync := SyncSource.ofConfig config metrics.timeout }

def rollOut (terminal : Terminal m) (config : Config) (arguments : RolloutArguments) : Work m Nat := do
  let options ← require .ofConfig (Options.ofConfig config)
  let options := { options with mode := arguments.mode, dryRun := arguments.dryRun }
  let host ← getThe Host
  let sources ← require (fun error => .ofRollout (.config error)) (sourcesOf config host.author)
  let rollout : Rollout := ⟨config, options, sources.sync.watches⟩
  let plan := rollout.plan host.start (.file arguments.intent) arguments.targets
  let conclusion ← (plan.run (sources.environment terminal) : StateT Host m Conclusion)
  let directory ← file .ofRollout (conclusion.write options.reportDirectory)
  announce terminal conclusion.outcome directory
  pure conclusion.outcome.exitCode

/-! ### Verifying -/

def verifyChecksums (terminal : Terminal m) (arguments : VerifyArguments) : Work m Nat := do
  let path := arguments.manifest.getD (Path.join arguments.directory Manifest.fileName)
  let volume := (← getThe Host).volume
  let complaint (error : CompileError) : Complaint :=
    .told ("failed to read manifest " ++ path) (error.message :: error.causes)
  let manifest ← require complaint (Manifest.load volume path)
  match ← require .ofCompile (manifest.verify volume arguments.directory) with
  | [] =>
    print terminal ("✓ " ++ toString manifest.files.size ++ " files match " ++ path)
    pure 0
  | drift =>
    printError terminal ("✗ " ++ toString drift.length ++ " files drifted from " ++ path)
    drift.forM fun entry => printError terminal ("  " ++ entry.message)
    pure 1

/-! ### The program -/

def programName : String := "edgeflow"

def versionNumber : String := "0.1.0"

def versionText (command : Option Command) : String :=
  let name := match command with
    | some command => programName ++ "-" ++ command.name
    | none => programName
  name ++ " " ++ versionNumber

def usage : String :=
  "Usage: " ++ programName ++ " [-c CONFIG] [--log-format text|json] COMMAND\n\n" ++
  "  compile INTENT [-o DIR] [--targets SITES] [--dry-run | --checksums-only] [--no-cache]\n" ++
  "  gate --slo SLO --url URL [--timeout SECONDS] [-v]\n" ++
  "  rollout INTENT [--targets SITES] [--mode safe|headless] [--dry-run]\n" ++
  "  verify-checksums DIR [--manifest FILE]"

def perform (terminal : Terminal m) : Invocation → Work m Nat
  | .compile config arguments => do compile terminal (← loadConfig config) arguments
  | .rollout config arguments => do rollOut terminal (← loadConfig config) arguments
  | .gate arguments => checkGate terminal arguments
  | .verifyChecksums arguments => verifyChecksums terminal arguments
  | .version command => do
    print terminal (versionText command)
    pure 0
  | .help => do
    print terminal usage
    pure 0

/-- Runs a command line and gives the exit code. -/
def run (terminal : Terminal m) (words : List String) : StateT Host m Nat := do
  match Invocation.read words with
  | .error () =>
    terminal.printError (usage ++ "\n")
    pure 2
  | .ok invocation =>
    match ← (perform terminal invocation).run with
    | .ok code => pure code
    | .error complaint =>
      terminal.printError complaint.written
      pure complaint.exitCode

/-! ### Transcripts -/

/-- A terminal on paper: the input that is left, and what was printed. -/
structure Transcript where
  input : List Char := []
  output : String := ""
  errors : String := ""

namespace Transcript

/-- The characters up to and with a line end, and those after it. -/
def splitLine : List Char → List Char × List Char
  | [] => ([], [])
  | '\n' :: rest => (['\n'], rest)
  | character :: rest =>
    let (line, others) := splitLine rest
    (character :: line, others)

def terminal : Terminal (StateM Transcript) where
  print text := modify fun transcript => { transcript with output := transcript.output ++ text }
  printError text := modify fun transcript => { transcript with errors := transcript.errors ++ text }
  readLine := fun transcript =>
    let (line, input) := splitLine transcript.input
    (String.ofList line, { transcript with input })

end Transcript

def transcribe (host : Host) (words : List String) (input : String) : Nat × Transcript × Host :=
  let ((code, host), transcript) :=
    ((run Transcript.terminal words).run host).run { input := input.toList }
  (code, transcript, host)

end IntentRollout.CommandLine
