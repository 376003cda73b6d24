import IntentRollout.CommandLine.Options
import IntentRollout.Rollout.Phase
import IntentRollout.Wait

/-!
What a command line asks for: to compile an intent, to check a gate, to roll out an intent, or to verify
rendered files. Some options may stand before the name of the command or after it; after it they count
more.
-/

namespace IntentRollout.CommandLine

inductive Command where
  | compile
  | gate
  | rollout
  | verifyChecksums
  deriving DecidableEq

namespace Command

def all : List Command := [.compile, .gate, .rollout, .verifyChecksums]

def name : Command → String
  | .compile => "compile"
  | .gate => "gate"
  | .rollout => "rollout"
  | .verifyChecksums => "verify-checksums"

end Command

structure CompileArguments where
  intent : String
  output : String
  targets : List String
  dryRun : Bool
  checksumsOnly : Bool
  /-- Write every file, even if it is there already. -/
  noCache : Bool

structure GateArguments where
  slo : String
  url : String
  /-- In seconds. -/
  timeout : Nat
  verbose : Bool

structure RolloutArguments where
  intent : String
  targets : List String
  mode : Mode
  dryRun : Bool

structure VerifyArguments where
  directory : String
  manifest : Option String

/-- What is to be done; the first two with a configuration, if one is named. -/
inductive Invocation where
  | compile (config : Option String) (arguments : CompileArguments)
  | rollout (config : Option String) (arguments : RolloutArguments)
  | gate (arguments : GateArguments)
  | verifyChecksums (arguments : VerifyArguments)
  /-- Show the version of the program or of a command. -/
  | version (command : Option Command)
  | help

namespace Invocation

def isPath (value : String) : Bool := !value.isEmpty

def commonRules : List OptionRule := [
  { name := "config", letter := some 'c', form := .single, accepts := isPath },
  { name := "log-format", form := .single, accepts := fun value => value = "text" || value = "json" },
  { name := "version", letter := some 'V', form := .flag },
  { name := "help", letter := some 'h', form := .flag }]

def rules : Command → List OptionRule
  | .compile => [
    { name := "output-dir", letter := some 'o', form := .single, accepts := isPath },
    { name := "targets", form := .several },
    { name := "dry-run", form := .flag },
    { name := "checksums-only", form := .flag },
    { name := "no-cache", form := .flag }]
  | .gate => [
    { name := "slo", form := .single },
    { name := "url", form := .single },
    { name := "timeout", form := .single
      accepts := fun value => (Wait.readNatural? value.toList).isSome },
    { name := "verbose", letter := some 'v', form := .flag }]
  | .rollout => [
    { name := "targets", form := .several },
    { name := "mode", form := .single, accepts := fun value => (Mode.read? value).isSome },
    { name := "dry-run", form := .flag }]
  | .verifyChecksums => [{ name := "manifest", form := .single, accepts := isPath }]

def scanOf (rules : List OptionRule) : Scan :=
  { rules := rules ++ commonRules, questions := ["version", "help"] }

/-- The answer to a flag that asks for one. -/
def ofHalt (command : Option Command) : Halted → Except Unit Invocation
  | .misused => .error ()
  | .asked flag => if flag = "version" then .ok (.version command) else .ok .help

def operand? (given : Given) : Option String :=
  match given.operands with
  | [operand] => if operand.isEmpty then none else some operand
  | _ => none

/-- What the words of a command ask for. -/
def ofGiven? (config : Option String) (command : Command) (given : Given) : Option Invocation := do
  let config := (given.value? "config").or config
  match command with
  | .compile =>
    if given.has "dry-run" && given.has "checksums-only" then none
    else
      some (.compile config {
        intent := ← operand? given
        output := (given.value? "output-dir").getD "rendered"
        targets := given.values "targets"
        dryRun := given.has "dry-run"
        checksumsOnly := given.has "checksums-only"
        noCache := given.has "no-cache" })
  | .gate =>
    if given.operands.isEmpty then
      some (.gate {
        slo := ← given.value? "slo"
        url := ← given.value? "url"
        timeout := ((given.value? "timeout").bind fun value => Wait.readNatural? value.toList).getD 30
        verbose := given.has "verbose" })
    else none
  | .rollout =>
    some (.rollout config {
      intent := ← operand? given
      targets := given.values "targets"
      mode := ((given.value? "mode").bind Mode.read?).getD .safe
      dryRun := given.has "dry-run" })
  | .verifyChecksums =>
    some (.verifyChecksums { directory := ← operand? given, manifest := given.value? "manifest" })

/-- Help on the program or on one of its commands. -/
def helpOn : List String → Except Unit Invocation
  | [] => .ok .help
  | [name] => if name = "help" || Command.all.any (·.name = name) then .ok .help else .error ()
  | _ => .error ()

/-- Reads a command line; nothing comes of one that is misused. -/
def read (words : List String) : Except Unit Invocation :=
  match (scanOf []).untilOperand words with
  | .error halted => ofHalt none halted
  | .ok (_, none) => .error ()
  | .ok (given, some (name, rest)) =>
    if name = "help" then helpOn rest
    else
      match Command.all.find? (·.name = name) with
      | none => .error ()
      | some command =>
        match (scanOf (rules command)).words rest with
        | .error halted => ofHalt (some command) halted
        | .ok own =>
          match ofGiven? (given.value? "config") command own with
          | some invocation => .ok invocation
          | none => .error ()

end Invocation

end IntentRollout.CommandLine
