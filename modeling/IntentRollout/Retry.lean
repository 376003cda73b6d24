import IntentRollout.Wait

/-!
Trying a call again after a pause that doubles up to a ceiling.
-/

namespace IntentRollout

/-- How often a call is tried, and the first and the longest pause in milliseconds. -/
structure RetryPolicy where
  attempts : Nat := 3
  initialPause : Nat := 1000
  longestPause : Nat := 10000
  attempts_pos : 0 < attempts := by decide
  deriving DecidableEq

namespace RetryPolicy

/-- At least one attempt is made. -/
def ofAttempts (attempts initialPause longestPause : Nat) : RetryPolicy :=
  ⟨max attempts 1, initialPause, longestPause, by omega⟩

/-- One attempt and no pause. -/
def single : RetryPolicy := ofAttempts 1 0 0

/-- Two to a power, as far as 32 bits go. -/
def doubling (times : Nat) : Nat := if times < 32 then Nat.pow 2 times else UInt32.size - 1

/-- The pause after an attempt, counted from one, in a unit of which a second has so many. -/
def pauseIn (perSecond initialPause longestPause attempt : Nat) : Nat :=
  min (min (initialPause * doubling (attempt - 1)) (Wait.longestIn perSecond)) longestPause

/-- The pause after an attempt in milliseconds. -/
def pause (policy : RetryPolicy) : Nat → Nat := pauseIn 1000 policy.initialPause policy.longestPause

/-- Makes a call until it succeeds, fails in a way that is not worth another try, or no attempt is left.
Attempts are counted from one, and each is followed by its pause if there is another. -/
def runFrom {m : Type → Type} [Monad m] {ε α : Type} (policy : RetryPolicy) (retryable : ε → Bool)
    (wait : Nat → m Unit) (call : Nat → m (Except ε α)) : Nat → Nat → m (Except ε α)
  | 0, attempt => call attempt
  | left + 1, attempt => do
    match ← call attempt with
    | .ok value => pure (.ok value)
    | .error error =>
      if retryable error then do
        wait (policy.pause attempt)
        policy.runFrom retryable wait call left (attempt + 1)
      else pure (.error error)

def run {m : Type → Type} [Monad m] {ε α : Type} (policy : RetryPolicy) (retryable : ε → Bool)
    (wait : Nat → m Unit) (call : Nat → m (Except ε α)) : m (Except ε α) :=
  policy.runFrom retryable wait call (policy.attempts - 1) 1

/-- A call under trial: the outcomes to come, the time, and the attempts with their times. -/
structure Trial (ε α : Type) where
  outcomes : List (Except ε α)
  now : Nat := 0
  calls : List (Nat × Nat) := []

/-- Tries a call whose outcomes are known, on a clock that only the pauses advance. After the last
outcome every call has the final one. -/
def rehearse {ε α : Type} (policy : RetryPolicy) (retryable : ε → Bool) (final : Except ε α)
    (outcomes : List (Except ε α)) : Except ε α × Trial ε α :=
  let wait (pause : Nat) : StateM (Trial ε α) Unit :=
    modify fun trial => { trial with now := trial.now + pause }
  let call (attempt : Nat) : StateM (Trial ε α) (Except ε α) := fun trial =>
    (trial.outcomes.headD final,
      { trial with outcomes := trial.outcomes.tail, calls := trial.calls ++ [(attempt, trial.now)] })
  (policy.run retryable wait call).run { outcomes }

end RetryPolicy

end IntentRollout
