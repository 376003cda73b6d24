import IntentRollout.Rollout.Attempt
import IntentRollout.WorkTree.Delivery

/-!
What a command runs on: files, a repository, a network, a clock, and a terminal with somebody before it.
The clock stands still while a command works and goes on while it waits.
-/

namespace IntentRollout.CommandLine

/-- The terminal, with its effects in a monad. -/
structure Terminal (m : Type → Type) where
  print : String → m Unit
  printError : String → m Unit
  /-- The next line of input with its end; empty when there is no more. -/
  readLine : m String

structure Host where
  checkout : Checkout
  network : Http.Network := Http.Network.unreachable
  /-- The instant at which the command starts. -/
  start : Instant
  /-- The milliseconds since then. -/
  elapsed : Nat := 0
  /-- In whose name commits are made. -/
  author : String := "operator"

namespace Host

variable {m : Type → Type} [Monad m]

def volume (host : Host) : Volume := host.checkout.volume

def onFiles {α ε : Type} (filing : Filing ε α) : StateT Host m (Except ε α) := fun host =>
  let (result, volume) := filing.run host.volume
  pure (result, { host with checkout := { host.checkout with volume } })

def onTree {α : Type} (work : Delivering α) : StateT Host m (Except DeliveryError α) := fun host =>
  let (result, checkout) := work.run host.checkout
  pure (result, { host with checkout })

def wait (milliseconds : Nat) : StateT Host m Unit :=
  modify fun host => { host with elapsed := host.elapsed + milliseconds }

end Host

/-- Whether an answer consents. -/
def isYes (answer : String) : Bool :=
  let word := lowered (trimmed answer)
  word = "y" || word = "yes"

/-- What the requests of an attempt go to. -/
structure Sources where
  tree : DeliveryTree
  metrics : MetricsSource
  sync : SyncSource

namespace Sources

variable {m : Type → Type} [Monad m]

/-- The reply of a host to a request. -/
def reply (terminal : Terminal m) (sources : Sources) :
    (request : Request) → StateT Host m request.Reply
  | .document path => do pure (Intent.loadDocument (← get).volume path)
  | .snapshot => Host.onTree sources.tree.head
  | .publish site files message => Host.onTree (sources.tree.publish site files message)
  | .reset head => Host.onTree (sources.tree.reset head)
  | .status target revision => do pure (sources.sync.status (← get).network target revision)
  | .fetch target => do pure (some (sources.metrics.fetch (← get).network target))
  | .confirm phase => do
    terminal.printError ("Proceed with " ++ phase.written ++ "? (y/n): ")
    pure (isYes (← terminal.readLine))
  | .wait milliseconds => do
    Host.wait milliseconds
    pure false
  | .pause milliseconds => Host.wait milliseconds
  | .shutdown => pure false

/-- The environment of plans that a host is. -/
def environment (terminal : Terminal m) (sources : Sources) (request : Request) :
    StateT Host m (Timed request.Reply) := do
  let value ← sources.reply terminal request
  pure ⟨value, (← get).elapsed⟩

end Sources

end IntentRollout.CommandLine
