import IntentRollout.Rollout.Rehearsal

/-!
Scripts of rehearsals as documents. A script names calls of the delivery tree with their effects in turn,
states of targets in turn, metrics of targets with the time they take, answers to requests for consent,
and when shutdown is requested. What a script leaves out goes well.
-/

namespace IntentRollout

namespace Json

/-- A member that is there and not null. -/
def given? (document : Json) (name : String) : Option Json :=
  match document.member? name with
  | some .null => none
  | found => found

def givenText? (document : Json) (name : String) : Option String := (document.given? name).bind text?

def givenNatural? (document : Json) (name : String) : Option Nat := (document.given? name).bind natural?

def givenMembers (document : Json) (name : String) : List (String × Json) :=
  ((document.given? name).bind members?).getD []

end Json

/-- Attempts, first and longest pause. -/
def RetryPolicy.ofScript (document : Json) : RetryPolicy :=
  RetryPolicy.ofAttempts ((document.givenNatural? "maxAttempts").getD 3)
    ((document.givenNatural? "initialMs").getD 1000) ((document.givenNatural? "maxMs").getD 10000)

def VerifySettings.ofScript (document : Json) : VerifySettings :=
  let standard : VerifySettings := {}
  { gracePeriod := (document.givenNatural? "graceMs").getD standard.gracePeriod
    pollInterval := (document.givenNatural? "pollMs").getD standard.pollInterval
    timeout := (document.givenNatural? "timeoutMs").getD standard.timeout }

/-- Options with those that a script gives in place of others. -/
def Options.withScript (options : Options) (document : Json) : Options := { options with
  dryRun := ((document.given? "dryRun").bind Json.bool?).getD options.dryRun
  slo := (document.givenText? "slo").getD options.slo
  requiredFields := match (document.given? "requiredFields").bind Json.array? with
    | some fields => fields.filterMap Json.text?
    | none => options.requiredFields
  verify := ((document.given? "verify").map VerifySettings.ofScript).getD options.verify
  retry := ((document.given? "retry").map RetryPolicy.ofScript).getD options.retry }

/-- Shutdown at the start, after some milliseconds, or on a request; else never, with the line dropped or
not. -/
def Interruption.ofScript (document : Json) : Interruption :=
  match document with
  | .text "start" => .atStart
  | .text "drop" => .dropped
  | other =>
    match other.givenNatural? "afterMs", other.givenText? "on" with
    | some time, _ => .after time
    | none, some name => .on name
    | none, none => .never

def Adviser.ofScript (document : Json) : Adviser :=
  match document.givenText? "declineAt", document.givenText? "panicAt" with
  | none, none =>
    .answers ((((document.given? "answers").bind Json.array?).getD []).filterMap Json.bool?)
  | declined, breakdown => .declining (declined.getD "") breakdown

namespace DeliveryEffect

/-- What the delivery tree does when it is called, by a word; the label tells the calls apart in
messages. -/
def ofScript (label word : String) : DeliveryEffect :=
  match word with
  | "unchanged" => .unchanged
  | "command" => .refused (.command ("git " ++ label) "remote says no")
  | "spawn" => .refused (.spawn ("git " ++ label) "no such tool")
  | "io" => .refused (.file "tree/file" "disk full")
  | "missing" => .refused (.missingSite ("tree/" ++ label))
  | "task" => .refused (.task "worker lost")
  | _ => .done

def word : DeliveryEffect → String
  | .done => "ok"
  | .unchanged => "unchanged"
  | .refused (.command _ _) => "command"
  | .refused (.spawn _ _) => "spawn"
  | .refused (.file _ _) => "io"
  | .refused (.missingSite _) => "missing"
  | .refused (.task _) => "task"

end DeliveryEffect

/-- An event as a list that starts with what was called. -/
def DeliveryEvent.toJson : DeliveryEvent → Json
  | .called label effect => .texts [label, effect.word]
  | .published site files message => .array [.text "published", .text site, .texts files, .text message]
  | .returned head => .texts ["reset to", head]

/-- The state of a target: a word, or the reason why it failed or cannot be told. -/
def SyncState.ofScript (document : Json) : Except String SyncState :=
  match document with
  | .text "synced" => .ok .synced
  | other =>
    match other.givenText? "failed", other.givenText? "error" with
    | some reason, _ => .ok (.failed reason)
    | none, some reason => .error reason
    | none, none => .ok .pending

/-- Metrics, or the reason why there are none, and the time until they come. -/
def CannedMetrics.ofScript (target : String) (document : Json) : CannedMetrics :=
  let result := match document.givenText? "error", (document.given? "metrics").map Metrics.ofJson with
    | some reason, _ => .error ⟨"fake://" ++ target, .reported reason⟩
    | none, some (.ok metrics) => .ok metrics
    | none, _ => recordedMetrics Table.empty target
  ⟨result, (document.givenNatural? "delayMs").getD 0⟩

namespace Rehearsal

/-- The rehearsal that a script describes, with the files that there are at its start. -/
def ofScript (document : Json) (volume : Volume) : Rehearsal where
  script := {
    interruption := ((document.given? "cancel").map Interruption.ofScript).getD .never
    metrics := Table.ofList <| (document.givenMembers "metrics").map fun (target, canned) =>
      (target, CannedMetrics.ofScript target canned)
    volume }
  adviser := ((document.given? "confirm").map Adviser.ofScript).getD (.answers [])
  effects := Table.ofList <| (document.givenMembers "delivery").map fun (label, effects) =>
    (label, (effects.array?.getD []).map fun effect =>
      DeliveryEffect.ofScript label (effect.text?.getD ""))
  states := Table.ofList <| (document.givenMembers "sync").map fun (target, states) =>
    (target, (states.array?.getD []).map SyncState.ofScript)

/-- Whether the script gives states of a target. -/
def watches (rehearsal : Rehearsal) (target : String) : Bool := rehearsal.states.contains target

end Rehearsal

end IntentRollout
