import IntentRollout.Proofs.DeliveryRetries
import IntentRollout.Proofs.PhaseRequests
import Mathlib.Algebra.BigOperators.Intervals
import Mathlib.Order.Bounds.Defs

/-! Calls that are tried again, call by call. On a clock that only the pauses advance, the calls end with
the first outcome that settles the matter or uses up the attempts, and each begins when all the pauses
before it are over. What is not worth another try settles the matter, so a call of the delivery tree is
repeated after the errors that another try could mend, and after no other. -/

namespace IntentRollout

/-- A number at which something does not hold is not the first at which it does. -/
theorem isLeast_of_not_first {holds : Nat → Prop} {first least : Nat} (fails : ¬ holds first)
    (later : IsLeast {number | first + 1 ≤ number ∧ holds number} least) :
    IsLeast {number | first ≤ number ∧ holds number} least := by
  refine ⟨⟨Nat.le_of_succ_le later.1.1, later.1.2⟩, fun number held => ?_⟩
  rcases Nat.eq_or_lt_of_le held.1 with rfl | after
  · exact absurd held.2 fails
  · exact later.2 ⟨after, held.2⟩

namespace RetryPolicy

variable {ε α : Type}

/-- The calls made so far, each with its attempt and the time when it began. -/
structure Course where
  now : Nat := 0
  calls : List (Nat × Nat) := []

namespace Course

def pass (milliseconds : Nat) : StateM Course Unit :=
  modify fun course => { course with now := course.now + milliseconds }

/-- A call that takes no time. Its outcome depends on how many calls there were, whatever the attempt. -/
def call (outcomes : Nat → Except ε α) (attempt : Nat) : StateM Course (Except ε α) := fun course =>
  (outcomes (course.calls.length + 1), { course with calls := course.calls ++ [(attempt, course.now)] })

end Course

def Settles (retryable : ε → Bool) : Except ε α → Prop
  | .ok _ => True
  | .error error => retryable error = false

/-- When an attempt begins: after the pauses of all attempts before it. -/
def begins (policy : RetryPolicy) (attempt : Nat) : Nat := ∑ earlier ∈ Finset.Ico 1 attempt, policy.pause earlier

def ledger (policy : RetryPolicy) (count : Nat) : List (Nat × Nat) :=
  (List.range' 1 count).map fun attempt => (attempt, policy.begins attempt)

variable {policy : RetryPolicy} {retryable : ε → Bool} {outcomes : Nat → Except ε α}

private theorem begins_succ (policy : RetryPolicy) (earlier : Nat) :
    policy.begins (earlier + 1 + 1) = policy.begins (earlier + 1) + policy.pause (earlier + 1) :=
  Finset.sum_Ico_succ_top (Nat.le_add_left 1 earlier) policy.pause

private theorem ledger_succ (policy : RetryPolicy) (earlier : Nat) :
    policy.ledger (earlier + 1) = policy.ledger earlier ++ [(earlier + 1, policy.begins (earlier + 1))] := by
  rw [ledger, List.range'_1_concat, List.map_append, Nat.add_comm 1]
  rfl

/-- One call adds itself to the ledger and has the outcome of its attempt. -/
theorem call_ledger (policy : RetryPolicy) (outcomes : Nat → Except ε α) (earlier : Nat) :
    Course.call outcomes (earlier + 1) ⟨policy.begins (earlier + 1), policy.ledger earlier⟩ =
      (outcomes (earlier + 1), ⟨policy.begins (earlier + 1), policy.ledger (earlier + 1)⟩) := by
  rw [ledger_succ]
  simp [Course.call, ledger]

/-- What settles the matter ends the calls. -/
theorem runFrom_of_settles {left earlier : Nat} (settled : Settles retryable (outcomes (earlier + 1))) :
    (policy.runFrom retryable Course.pass (Course.call outcomes) (left + 1) (earlier + 1)).run
        ⟨policy.begins (earlier + 1), policy.ledger earlier⟩ =
      (outcomes (earlier + 1), ⟨policy.begins (earlier + 1), policy.ledger (earlier + 1)⟩) := by
  rw [runFrom, StateT.run_bind, StateT.run, call_ledger]
  cases outcome : outcomes (earlier + 1) with
  | ok value => rfl
  | error error =>
    have permanent : ¬ retryable error = true := by rwa [outcome, Settles, ← Bool.not_eq_true] at settled
    dsimp only [Id.run, bind]
    rw [if_neg permanent]
    rfl

/-- Anything else makes them go on after a pause. -/
theorem runFrom_of_not_settles {left earlier : Nat} (unsettled : ¬ Settles retryable (outcomes (earlier + 1))) :
    (policy.runFrom retryable Course.pass (Course.call outcomes) (left + 1) (earlier + 1)).run
        ⟨policy.begins (earlier + 1), policy.ledger earlier⟩ =
      (policy.runFrom retryable Course.pass (Course.call outcomes) left (earlier + 1 + 1)).run
        ⟨policy.begins (earlier + 1 + 1), policy.ledger (earlier + 1)⟩ := by
  rw [runFrom, StateT.run_bind, StateT.run, call_ledger, begins_succ]
  cases outcome : outcomes (earlier + 1) with
  | ok value =>
    rw [outcome] at unsettled
    exact absurd trivial unsettled
  | error error =>
    have transient : retryable error = true := by
      rwa [outcome, Settles, Bool.not_eq_false] at unsettled
    dsimp only [Id.run, bind]
    rw [if_pos transient]
    rfl

/-- Calls from one attempt on, when those before it are in the ledger. -/
theorem runFrom_ledger (policy : RetryPolicy) (retryable : ε → Bool) (outcomes : Nat → Except ε α)
    (left earlier : Nat) :
    ∃ last, IsLeast {attempt | earlier + 1 ≤ attempt ∧
        (Settles retryable (outcomes attempt) ∨ attempt = earlier + 1 + left)} last ∧
      (policy.runFrom retryable Course.pass (Course.call outcomes) left (earlier + 1)).run
          ⟨policy.begins (earlier + 1), policy.ledger earlier⟩ =
        (outcomes last, ⟨policy.begins last, policy.ledger last⟩) := by
  induction left generalizing earlier with
  | zero =>
    exact ⟨earlier + 1, ⟨⟨Nat.le_refl _, .inr rfl⟩, fun _ later => later.1⟩, call_ledger policy outcomes earlier⟩
  | succ left ih =>
    by_cases settled : Settles retryable (outcomes (earlier + 1))
    · exact ⟨earlier + 1, ⟨⟨Nat.le_refl _, .inl settled⟩, fun _ later => later.1⟩, runFrom_of_settles settled⟩
    · obtain ⟨last, least, ran⟩ := ih (earlier + 1)
      rw [runFrom_of_not_settles settled, ← Nat.add_assoc, Nat.add_right_comm]
      refine ⟨last, isLeast_of_not_first ?_ least, ran⟩
      rintro (now | now)
      · exact settled now
      · omega

end RetryPolicy

inductive DeliveryError.Mendable : DeliveryError → Prop where
  | command (line stderr : String) : Mendable (.command line stderr)
  | spawn (line reason : String) : Mendable (.spawn line reason)
  | task (reason : String) : Mendable (.task reason)

private theorem DeliveryError.isTransient_iff {error : DeliveryError} : error.isTransient = true ↔ error.Mendable := by
  constructor
  · intro transient
    cases error with
    | command line stderr => exact .command line stderr
    | spawn line reason => exact .spawn line reason
    | task reason => exact .task reason
    | missingSite | file => cases transient
  · rintro (_ | _ | _) <;> rfl

def Request.isPause : Request → Bool
  | .pause _ => true
  | _ => false

namespace Timeline

variable {α : Type} {policy : RetryPolicy} {call : Timeline (Except DeliveryError α)}
  {exchange : Timed (Except DeliveryError α) → Exchange}

/-- In every environment, a call of the delivery tree is repeated after failures that another try could
mend, and after nothing else, until it was made so many times. -/
def Insists (policy : RetryPolicy) (most : Nat) (call : Timeline (Except DeliveryError α))
    (exchange : Timed (Except DeliveryError α) → Exchange) : Prop :=
  ∀ {σ : Type} (environment : (request : Request) → StateM σ (Timed request.Reply)) (state : σ) (start : Nat),
    ∃ earlier last,
      ((deliver policy call start).exchanges environment state).filter (!·.request.isPause) =
        (earlier ++ [last]).map exchange ∧
      ((deliver policy call start).run environment state).1.1 = last.value ∧
      (∀ reply ∈ earlier, ∃ error : DeliveryError, reply.value = .error error ∧ error.Mendable) ∧
      earlier.length + 1 ≤ most ∧
      ∀ error, last.value = .error error → error.Mendable → earlier.length + 1 = most

private theorem insists (calls : ∀ {start trace value finish}, Runs call start trace value finish →
      trace = [exchange ⟨value, finish⟩])
    (called : ∀ reply, (exchange reply).request.isPause = false) :
    Insists policy policy.attempts call exchange := by
  intro σ environment state start
  have ran := (deliver policy call start).run_exchanges environment state
  obtain ⟨replies, made, triedOut⟩ : ∃ replies,
      ((deliver policy call start).exchanges environment state).filter (!·.request.isPause) =
        replies.map exchange ∧ TriedOut policy.attempts replies _ :=
    (runs_deliver calls ran).triedOut (fun reply => by rw [called]; rfl) (fun _ _ => rfl)
  obtain ⟨last, ends, value⟩ := triedOut.last
  have split : replies.dropLast ++ [last] = replies := List.dropLast_append_getLast? last ends
  have counted : replies.dropLast.length + 1 = replies.length := by
    simpa using congrArg List.length split
  refine ⟨replies.dropLast, last, by rw [split, made], value.symm, fun reply member => ?_, ?_, ?_⟩
  · obtain ⟨error, failed, transient⟩ := triedOut.transient reply member
    exact ⟨error, failed, DeliveryError.isTransient_iff.mp transient⟩
  · rw [counted]
    exact triedOut.bounded
  · intro error failed mendable
    rw [counted]
    rcases triedOut.ended with ⟨value', done⟩ | ⟨error', done, permanent⟩ | exhausted
    · cases value.symm.trans failed |>.symm.trans done
    · cases failed.symm.trans (value.trans done)
      rw [DeliveryError.isTransient_iff.mpr mendable] at permanent
      cases permanent
    · exact exhausted

end Timeline

open RetryPolicy in
/-- Calls are tried until the first outcome that settles the matter, or until the attempts are used up, each
after all the pauses before it; and so is every call of the delivery tree. -/
theorem run_until_settled (attempts initialPause longestPause : Nat) :
    let policy := RetryPolicy.ofAttempts attempts initialPause longestPause
    (∀ {ε α : Type} (retryable : ε → Bool) (outcomes : Nat → Except ε α),
      ∃ last, IsLeast {attempt | 1 ≤ attempt ∧
          (Settles retryable (outcomes attempt) ∨ attempt = max 1 attempts)} last ∧
        (policy.run retryable Course.pass (Course.call outcomes)).run {} =
          (outcomes last, { now := policy.begins last, calls := policy.ledger last })) ∧
    Timeline.Insists policy (max 1 attempts) (Timeline.ask .snapshot) (fun reply => ⟨.snapshot, reply⟩) ∧
    (∀ site files message, Timeline.Insists policy (max 1 attempts)
      (Timeline.ask (.publish site files message)) (fun reply => ⟨.publish site files message, reply⟩)) ∧
    ∀ head, Timeline.Insists policy (max 1 attempts) (Timeline.ask (.reset head))
      (fun reply => ⟨.reset head, reply⟩) := by
  intro policy
  have most : policy.attempts = max 1 attempts := Nat.max_comm attempts 1
  refine ⟨fun retryable outcomes => ?_, ?_, fun site files message => ?_, fun head => ?_⟩
  · obtain ⟨last, least, ran⟩ := policy.runFrom_ledger retryable outcomes (policy.attempts - 1) 0
    rw [Nat.zero_add, Nat.add_sub_cancel' policy.attempts_pos, most] at least
    exact ⟨last, least, ran⟩
  all_goals
    rw [← most]
    exact Timeline.insists (fun asked => asked.ask) (fun _ => rfl)

/-- The first pauses of a policy double. -/
example : (RetryPolicy.ofAttempts 3 10 100).ledger 3 = [(1, 0), (2, 10), (3, 30)] := by decide

end IntentRollout
