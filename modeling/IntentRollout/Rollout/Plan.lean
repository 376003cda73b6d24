import IntentRollout.Rollout.Failure

/-!
Attempts as trees of requests. Everything that an attempt wants from the world around it is a request, and
what it does next depends on the reply alone. So an attempt can be run against any environment, and what
it asks for can be stated over the tree. Each reply says at which time it came.
-/

namespace IntentRollout

/-- What an attempt asks of its environment. -/
inductive Request where
  /-- The document in a file. -/
  | document (path : String)
  /-- The present head of the delivery tree. -/
  | snapshot
  /-- Write and commit the files of a site. -/
  | publish (site : String) (files : List RenderedFile) (message : String)
  /-- Put the delivery tree back to a head. -/
  | reset (head : String)
  /-- The state of a target that should have taken over a revision. -/
  | status (target : String) (revision : Option String)
  /-- The metrics of a target, unless shutdown is requested before they come. -/
  | fetch (target : String)
  /-- Consent to a phase; an adviser that breaks down does not consent. -/
  | confirm (phase : Phase)
  /-- Wait so many milliseconds, unless shutdown is or gets requested. -/
  | wait (milliseconds : Nat)
  /-- Wait so many milliseconds in any case. -/
  | pause (milliseconds : Nat)
  /-- Whether shutdown is requested. -/
  | shutdown
  deriving DecidableEq

abbrev Request.Reply : Request → Type
  | .document _ => Except IntentError Json
  | .snapshot => Except DeliveryError String
  | .publish _ _ _ => Except DeliveryError (Option String)
  | .reset _ => Except DeliveryError Unit
  | .status _ _ => Except String SyncState
  | .fetch _ => Option (Except Http.FetchError Metrics)
  | .confirm _ => Bool
  | .wait _ => Bool
  | .pause _ => Unit
  | .shutdown => Bool

/-- A reply, and the milliseconds since the start when it came. -/
structure Timed (α : Type) where
  value : α
  now : Nat

inductive Plan (α : Type) where
  | done (value : α)
  | ask (request : Request) (next : Timed request.Reply → Plan α)

namespace Plan

variable {α β : Type}

def bind (plan : Plan α) (next : α → Plan β) : Plan β :=
  match plan with
  | .done value => next value
  | .ask request rest => .ask request fun reply => (rest reply).bind next

instance : Monad Plan where
  pure := .done
  bind := bind

/-- Runs a plan in an environment that answers each request. -/
def run {m : Type → Type} [Monad m] (environment : (request : Request) → m (Timed request.Reply)) :
    Plan α → m α
  | .done value => pure value
  | .ask request next => do
    let reply ← environment request
    (next reply).run environment

end Plan

/-- Plans that know the time of the last reply. -/
abbrev Timeline := StateT Nat Plan

namespace Timeline

def ask (request : Request) : Timeline request.Reply := fun _ =>
  .ask request fun reply => .done (reply.value, reply.now)

/-- Makes a request of the delivery tree, again and again if it fails in a transient way. -/
def deliver {α : Type} (policy : RetryPolicy) (call : Timeline (Except DeliveryError α)) :
    Timeline (Except DeliveryError α) :=
  policy.run DeliveryError.isTransient (fun milliseconds => ask (.pause milliseconds)) fun _ => call

end Timeline

end IntentRollout
