import IntentRollout.Rollout.Attempt
import IntentRollout.Rollout.Shutdown

/-!
Rehearsals: plans run against canned replies on a clock of their own, on which waiting costs nothing and
all else takes no time. A rehearsal keeps a record of what the delivery tree was asked to do, which
phases needed consent, and which targets were polled.
-/

namespace IntentRollout

/-- What the delivery tree does when it is called. -/
inductive DeliveryEffect where
  | done
  /-- A publication finds that nothing changed; any other call is done. -/
  | unchanged
  | refused (error : DeliveryError)
  deriving DecidableEq

inductive Interruption where
  | never
  /-- Never, because the one who could request it is gone. -/
  | dropped
  | atStart
  /-- After so many milliseconds. -/
  | after (milliseconds : Nat)
  /-- When the first request of a name begins. -/
  | on (name : String)
  deriving DecidableEq

inductive Adviser where
  /-- In turn, and yes after the last. -/
  | answers (list : List Bool)
  /-- No at one phase, and a breakdown at another. -/
  | declining (phase : String) (breakdown : Option String)
  deriving DecidableEq

namespace Adviser

/-- The answer for a phase, and what answers the next request. A breakdown is no consent. -/
def confirm (adviser : Adviser) (phase : Phase) : Bool × Adviser :=
  match adviser with
  | .answers [] => (true, adviser)
  | .answers (answer :: rest) => (answer, .answers rest)
  | .declining declined breakdown =>
    (phase.written ≠ declined && some phase.written ≠ breakdown, adviser)

/-- The answers for some phases in turn, each with the adviser that is left. -/
def confirmAll : Adviser → List Phase → List Bool
  | _, [] => []
  | adviser, phase :: rest =>
    let (answer, next) := adviser.confirm phase
    answer :: next.confirmAll rest

end Adviser

/-- The metrics of a target, and how long they take to come. -/
structure CannedMetrics where
  result : Except Http.FetchError Metrics
  delay : Nat := 0

/-- The name by which a script speaks of a request. -/
def Request.label? : Request → Option String
  | .snapshot => some "snapshot"
  | .publish site _ _ => some ("publish:" ++ site)
  | .reset _ => some "reset"
  | .status target _ => some ("status:" ++ target)
  | .fetch target => some ("fetch:" ++ target)
  | .confirm phase => some ("confirm:" ++ phase.written)
  | _ => none

/-- What the delivery tree was asked to do, and what came of it. -/
inductive DeliveryEvent where
  | called (label : String) (effect : DeliveryEffect)
  | published (site : String) (files : List String) (message : String)
  | returned (head : String)

/-- The fixed part of a rehearsal. -/
structure Script where
  interruption : Interruption := .never
  metrics : Table String CannedMetrics := Table.empty
  volume : Volume := {}

/-- A rehearsal under way. -/
structure Rehearsal where
  script : Script
  adviser : Adviser := .answers []
  /-- The effects to come, by the name of the request; after the last all is done. -/
  effects : Table String (List DeliveryEffect) := Table.empty
  /-- The states to come of each target that can be asked; after the last it is pending. -/
  states : Table String (List (Except String SyncState)) := Table.empty
  now : Nat := 0
  /-- Whether a request has caused shutdown. -/
  interrupted : Bool := false
  head : Nat := 0
  commits : Nat := 0
  events : List DeliveryEvent := []
  asked : List Phase := []
  polls : List (String × Option String) := []

namespace Rehearsal

def revision (number : Nat) : String := "rev-" ++ toString number

/-- The line over which shutdown is requested, as it is now. -/
def line (rehearsal : Rehearsal) : Line :=
  if rehearsal.interrupted then .requested
  else
    match rehearsal.script.interruption with
    | .atStart => .requested
    | .after time => if time ≤ rehearsal.now then .requested else .quiet
    | .dropped => .dropped
    | _ => .quiet

/-- What is still to come over the line by itself. -/
def coming (rehearsal : Rehearsal) : List (Nat × Signal) :=
  match rehearsal.script.interruption with
  | .after time => if rehearsal.now < time then [(time, .request)] else []
  | _ => []

/-- The time when a wait ends, and whether shutdown ends it. -/
def elapse (rehearsal : Rehearsal) (milliseconds : Nat) : Bool × Nat :=
  rehearsal.line.cut rehearsal.now rehearsal.coming (rehearsal.now + milliseconds)

/-- Notes the start of a request, which may cause shutdown. -/
def begin (rehearsal : Rehearsal) (request : Request) : Rehearsal :=
  match rehearsal.script.interruption, request.label? with
  | .on name, some label => { rehearsal with interrupted := rehearsal.interrupted || name = label }
  | _, _ => rehearsal

/-- The first item of a list in a table, and the table without it. -/
def pop {α : Type} (table : Table String (List α)) (key : String) : Option α × Table String (List α) :=
  match table.get? key with
  | some (item :: rest) => (some item, table.insert key rest)
  | _ => (none, table)

/-- A call of the delivery tree, with what comes of it. -/
def deliver {α : Type} (rehearsal : Rehearsal) (label : String)
    (answer : Bool → Rehearsal → α × Rehearsal) : Except DeliveryError α × Rehearsal :=
  let (next, effects) := pop rehearsal.effects label
  let effect := next.getD .done
  let called :=
    { rehearsal with effects, events := rehearsal.events ++ [DeliveryEvent.called label effect] }
  match effect with
  | .refused error => (.error error, called)
  | .done =>
    let (value, after) := answer true called
    (.ok value, after)
  | .unchanged =>
    let (value, after) := answer false called
    (.ok value, after)

/-- Publishes files. What has not changed is not committed. -/
def publish (site : String) (files : List RenderedFile) (message : String) (changed : Bool)
    (rehearsal : Rehearsal) : Option String × Rehearsal :=
  let after := { rehearsal with
    events := rehearsal.events ++ [.published site (files.map (·.name)) message] }
  if changed then
    let number := rehearsal.commits + 1
    (some (revision number), { after with commits := number, head := number })
  else (none, after)

/-- The number in the name of a head. -/
def headOf (rehearsal : Rehearsal) (name : String) : Nat :=
  ((List.range (rehearsal.commits + 1)).find? fun number => revision number = name).getD
    rehearsal.head

def reply (rehearsal : Rehearsal) : (request : Request) → request.Reply × Rehearsal
  | .document path => (Intent.loadDocument rehearsal.script.volume path, rehearsal)
  | .snapshot => rehearsal.deliver "snapshot" fun _ called => (revision called.head, called)
  | .publish site files message =>
    rehearsal.deliver ("publish:" ++ site) (publish site files message)
  | .reset head => rehearsal.deliver "reset" fun _ called =>
    ((), { called with head := called.headOf head, events := called.events ++ [.returned head] })
  | .status target revision =>
    let (next, states) := pop rehearsal.states target
    (next.getD (.ok .pending),
      { rehearsal with states, polls := rehearsal.polls ++ [(target, revision)] })
  | .fetch target =>
    let canned := (rehearsal.script.metrics.get? target).getD
      ⟨.error ⟨"static://" ++ target, .noSnapshot⟩, 0⟩
    let (interrupted, now) := rehearsal.elapse canned.delay
    (if interrupted then none else some canned.result, { rehearsal with now })
  | .confirm phase =>
    let (answer, adviser) := rehearsal.adviser.confirm phase
    (answer, { rehearsal with adviser, asked := rehearsal.asked ++ [phase] })
  | .wait milliseconds =>
    let (interrupted, now) := rehearsal.elapse milliseconds
    (interrupted, { rehearsal with now })
  | .pause milliseconds => ((), { rehearsal with now := rehearsal.now + milliseconds })
  | .shutdown => (rehearsal.line.isRequested, rehearsal)

/-- The environment of plans that a rehearsal is. -/
def environment (request : Request) : StateM Rehearsal (Timed request.Reply) := fun rehearsal =>
  let (value, after) := (rehearsal.begin request).reply request
  (⟨value, after.now⟩, after)

def run {α : Type} (rehearsal : Rehearsal) (plan : Plan α) : α × Rehearsal :=
  plan.run environment rehearsal

end Rehearsal

end IntentRollout
