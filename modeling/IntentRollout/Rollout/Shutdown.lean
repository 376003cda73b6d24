/-!
The line over which shutdown is requested. Whoever holds the other end requests shutdown or hangs up, and
what comes after the first of these changes nothing. A wait that is not over when shutdown is heard of
ends there and then.
-/

namespace IntentRollout

inductive Signal where
  | request
  | hangUp
  deriving DecidableEq

inductive Line where
  /-- Nothing has come over it. -/
  | quiet
  | requested
  /-- The other end hung up without a request. -/
  | dropped
  deriving DecidableEq

namespace Line

def isRequested : Line → Bool
  | .requested => true
  | _ => false

def after : Line → Signal → Line
  | .quiet, .request => .requested
  | .quiet, .hangUp => .dropped
  | line, _ => line

/-- The line after some signals, each with its time. -/
def afterAll (line : Line) (signals : List (Nat × Signal)) : Line :=
  signals.foldl (fun line (_, signal) => line.after signal) line

/-- When shutdown is heard of by one who listens from a time on to what comes. A line that is dropped is
listened to in vain. -/
def heard? : Line → Nat → List (Nat × Signal) → Option Nat
  | .requested, now, _ => some now
  | .dropped, _, _ => none
  | .quiet, _, [] => none
  | .quiet, _, (time, signal) :: rest => (Line.quiet.after signal).heard? time rest

/-- How a wait ends that would be over at some time: whether shutdown ends it, and when. If both come at
once, the wait is over. -/
def cut (line : Line) (now : Nat) (signals : List (Nat × Signal)) (finish : Nat) : Bool × Nat :=
  if line.isRequested then (true, now)
  else
    match line.heard? now signals with
    | some time => if time < finish then (true, time) else (false, finish)
    | none => (false, finish)

end Line

end IntentRollout
