import IntentRollout.Proofs.StopSignals

/-! Runs over a line by which shutdown can be requested at any time. Each exchange carries what came over
the line since the reply before, so every instant of a run lies in one of them; the replies to looks for
shutdown, to waits and to fetches are those that the line allows. -/

namespace IntentRollout

structure Moment where
  exchange : Exchange
  signals : List (Nat × Signal) := []

def Moment.now (moment : Moment) : Nat := moment.exchange.reply.now

namespace Line

variable {line : Line} {signals : List (Nat × Signal)} {now finish : Nat}

/-- Something that takes at least until some time is over, or interrupted by shutdown, at this time. It is
not over at the very time at which shutdown is requested. -/
def Ends (line : Line) (now : Nat) (signals : List (Nat × Signal)) (earliest : Nat) (interrupted : Bool)
    (time : Nat) : Prop :=
  ∃ finish, earliest ≤ finish ∧ (finish, Signal.request) ∉ signals ∧
    line.cut now signals finish = (interrupted, time)

/-- What the line allows as the reply to a request. A look for shutdown comes after all that came over the
line before; a wait and a fetch go on while it comes. -/
def Answers (line : Line) (now : Nat) (signals : List (Nat × Signal)) : Exchange → Prop
  | ⟨.shutdown, ⟨answer, _⟩⟩ => answer = (line.afterAll signals).isRequested
  | ⟨.wait milliseconds, ⟨interrupted, time⟩⟩ =>
    line.Ends now signals (now + milliseconds) interrupted time
  | ⟨.fetch _, ⟨fetched, time⟩⟩ => line.Ends now signals now fetched.isNone time
  | _ => True

def through (line : Line) (moments : List Moment) : Line :=
  line.afterAll (moments.flatMap fun moment => moment.signals)

private theorem afterAll_append (line : Line) (first rest : List (Nat × Signal)) :
    line.afterAll (first ++ rest) = (line.afterAll first).afterAll rest :=
  List.foldl_append

private theorem through_cons (line : Line) (moment : Moment) (moments : List Moment) :
    line.through (moment :: moments) = (line.afterAll moment.signals).through moments := by
  rw [through, List.flatMap_cons, afterAll_append, through]

private theorem through_append (line : Line) (first rest : List Moment) :
    line.through (first ++ rest) = (line.through first).through rest := by
  rw [through, List.flatMap_append, afterAll_append, through, through]

private theorem through_singleton (line : Line) (moment : Moment) :
    line.through [moment] = line.afterAll moment.signals := by
  rw [through_cons, through, List.flatMap_nil]
  rfl

theorem requested_afterAll (signals : List (Nat × Signal)) :
    Line.requested.afterAll signals = .requested := by
  induction signals with
  | nil => rfl
  | cons signal signals ih => exact ih

private theorem dropped_afterAll (signals : List (Nat × Signal)) : Line.dropped.afterAll signals = .dropped := by
  induction signals with
  | nil => rfl
  | cons signal signals ih => exact ih

private theorem isRequested_through (requested : line.isRequested = true) (moments : List Moment) :
    (line.through moments).isRequested = true := by
  cases line with
  | requested => rw [through, requested_afterAll]; rfl
  | quiet | dropped => cases requested

@[simp] theorem cut_requested : Line.requested.cut now signals finish = (true, now) := rfl

@[simp] theorem cut_dropped : Line.dropped.cut now signals finish = (false, finish) := by
  simp [cut, isRequested, heard?]

@[simp] theorem cut_quiet_nil : Line.quiet.cut now [] finish = (false, finish) := by
  simp [cut, isRequested, heard?]

/-- The first that comes over a quiet line decides. -/
@[simp] theorem cut_quiet_request (time : Nat) (rest : List (Nat × Signal)) :
    Line.quiet.cut now ((time, .request) :: rest) finish =
      if time < finish then (true, time) else (false, finish) := by
  simp [cut, isRequested, heard?, after]

@[simp] theorem cut_quiet_hangUp (time : Nat) (rest : List (Nat × Signal)) :
    Line.quiet.cut now ((time, .hangUp) :: rest) finish = (false, finish) := by
  simp [cut, isRequested, heard?, after]

theorem le_cut (onward : now ≤ finish) (later : ∀ signal ∈ signals, now ≤ signal.1) :
    now ≤ (line.cut now signals finish).2 := by
  cases line with
  | requested => simp
  | dropped => simpa using onward
  | quiet =>
    cases signals with
    | nil => simpa using onward
    | cons signal rest =>
      have reached := later signal List.mem_cons_self
      obtain ⟨time, request | hangUp⟩ := signal
      · by_cases sooner : time < finish
        · simpa [sooner] using reached
        · simpa [sooner] using onward
      · simpa using onward

/-- What shutdown can end is interrupted at the time of the request, or at once if that was before. -/
theorem Ends.told {earliest time : Nat} {interrupted : Bool}
    (ends : line.Ends now signals earliest interrupted time)
    (inside : ∀ signal ∈ signals, signal.1 ≤ time)
    (requested : (line.afterAll signals).isRequested = true) :
    interrupted = true ∧
      ((line.isRequested = true ∧ time = now) ∨ (time, Signal.request) ∈ signals) := by
  obtain ⟨finish, _, untied, cut⟩ := ends
  cases line with
  | requested =>
    cases cut
    exact ⟨rfl, .inl ⟨rfl, rfl⟩⟩
  | dropped =>
    rw [dropped_afterAll] at requested
    cases requested
  | quiet =>
    cases signals with
    | nil => cases requested
    | cons signal rest =>
      obtain ⟨heard, request | hangUp⟩ := signal
      · rw [cut_quiet_request] at cut
        split at cut
        next =>
          cases cut
          exact ⟨rfl, .inr List.mem_cons_self⟩
        next late =>
          cases cut
          have tied := Nat.le_antisymm (inside _ List.mem_cons_self) (Nat.le_of_not_lt late)
          dsimp only at tied
          rw [tied] at untied
          exact absurd List.mem_cons_self untied
      · have dropped : (Line.dropped.afterAll rest).isRequested = true := requested
        rw [dropped_afterAll] at dropped
        cases dropped

/-- Without a request, all that matters is that it takes its time. -/
theorem ends_iff {earliest time : Nat} {interrupted : Bool} (unrequested : line.isRequested = false)
    (silent : ∀ signal ∈ signals, signal.2 = .hangUp) :
    line.Ends now signals earliest interrupted time ↔ interrupted = false ∧ earliest ≤ time := by
  have cut (finish : Nat) : line.cut now signals finish = (false, finish) := by
    cases line with
    | requested => cases unrequested
    | dropped => exact cut_dropped
    | quiet =>
      cases signals with
      | nil => exact cut_quiet_nil
      | cons signal rest =>
        obtain ⟨time, request | hangUp⟩ := signal
        · cases silent _ List.mem_cons_self
        · exact cut_quiet_hangUp time rest
  have untied (finish : Nat) : (finish, Signal.request) ∉ signals := fun member => by
    cases silent _ member
  constructor
  · rintro ⟨finish, long, _, same⟩
    rw [cut] at same
    cases same
    exact ⟨rfl, long⟩
  · rintro ⟨rfl, long⟩
    exact ⟨time, long, untied time, cut time⟩

private theorem unrequested_afterAll (unrequested : line.isRequested = false)
    (silent : ∀ signal ∈ signals, signal.2 = .hangUp) : (line.afterAll signals).isRequested = false := by
  cases line with
  | requested => cases unrequested
  | dropped => rw [dropped_afterAll]; rfl
  | quiet =>
    cases signals with
    | nil => rfl
    | cons signal rest =>
      obtain ⟨time, request | hangUp⟩ := signal
      · cases silent _ List.mem_cons_self
      · exact congrArg isRequested (dropped_afterAll rest)

/-- Lines without a request allow the same replies. -/
theorem Answers.of_silent {other : Line} {others : List (Nat × Signal)} {exchange : Exchange}
    (answers : line.Answers now signals exchange)
    (unrequested : line.isRequested = false) (silent : ∀ signal ∈ signals, signal.2 = .hangUp)
    (unrequested' : other.isRequested = false) (silent' : ∀ signal ∈ others, signal.2 = .hangUp) :
    other.Answers now others exchange := by
  obtain ⟨request, reply⟩ := exchange
  cases request with
  | shutdown =>
    have looked : reply.value = (line.afterAll signals).isRequested := answers
    rw [unrequested_afterAll unrequested silent] at looked
    exact looked.trans (unrequested_afterAll unrequested' silent').symm
  | wait milliseconds => exact (ends_iff unrequested' silent').mpr ((ends_iff unrequested silent).mp answers)
  | fetch target => exact (ends_iff unrequested' silent').mpr ((ends_iff unrequested silent).mp answers)
  | document | snapshot | publish | reset | status | confirm | pause => trivial

end Line

def timeAfter (now : Nat) (moments : List Moment) : Nat :=
  moments.foldl (fun _ moment => moment.now) now

/-- Time goes on, and what comes over the line comes in its moment. -/
inductive Clocked : Nat → List Moment → Prop where
  | done {now} : Clocked now []
  | next {now moment rest} (onward : now ≤ moment.now)
      (inside : ∀ signal ∈ moment.signals, now ≤ signal.1 ∧ signal.1 ≤ moment.now)
      (later : Clocked moment.now rest) : Clocked now (moment :: rest)

inductive Answered : Line → Nat → List Moment → Prop where
  | done {line now} : Answered line now []
  | next {line now moment rest} (answers : line.Answers now moment.signals moment.exchange)
      (later : Answered (line.afterAll moment.signals) moment.now rest) :
      Answered line now (moment :: rest)

/-- Moments over a line that stood like this at some time. -/
structure Watched (line : Line) (now : Nat) (moments : List Moment) : Prop where
  clocked : Clocked now moments
  answered : Answered line now moments

namespace Watched

variable {line : Line} {now : Nat} {moments earlier later : List Moment} {moment : Moment}

theorem tail (watched : Watched line now (moment :: later)) :
    Watched (line.afterAll moment.signals) moment.now later := by
  obtain ⟨clocked, answered⟩ := watched
  cases clocked with
  | next _ _ clocked =>
    cases answered with
    | next _ answered => exact ⟨clocked, answered⟩

/-- What looks for shutdown while it is requested or after it was is told to stop. -/
theorem told_head (watched : Watched line now (moment :: later))
    (requested : (line.afterAll moment.signals).isRequested = true)
    (observes : moment.exchange.request.observes = true) :
    moment.exchange.halt? = some .cancelled ∧
      (moment.exchange.request ≠ .shutdown →
        (line.isRequested = true ∧ moment.now = now) ∨ (moment.now, Signal.request) ∈ moment.signals) := by
  obtain ⟨clocked, answered⟩ := watched
  cases clocked with
  | next _ inside _ =>
    cases answered with
    | next answers _ =>
      obtain ⟨⟨request, value, time⟩, signals⟩ := moment
      cases request with
      | shutdown =>
        have looked : value = (line.afterAll signals).isRequested := answers
        rw [requested] at looked
        cases looked
        exact ⟨rfl, fun other => absurd rfl other⟩
      | wait milliseconds =>
        obtain ⟨interrupted, heard⟩ := answers.told (fun signal member => (inside signal member).2) requested
        cases interrupted
        exact ⟨rfl, fun _ => heard⟩
      | fetch target =>
        obtain ⟨interrupted, heard⟩ := answers.told (fun signal member => (inside signal member).2) requested
        cases value with
        | none => exact ⟨rfl, fun _ => heard⟩
        | some fetched => cases interrupted
      | document | snapshot | publish | reset | status | confirm | pause => cases observes

theorem drop (watched : Watched line now (earlier ++ later)) :
    Watched (line.through earlier) (timeAfter now earlier) later := by
  induction earlier generalizing line now with
  | nil => exact watched
  | cons first earlier ih =>
    rw [Line.through_cons]
    exact ih watched.tail

theorem told (watched : Watched line now (earlier ++ moment :: later))
    (requested : (line.through (earlier ++ [moment])).isRequested = true)
    (observes : moment.exchange.request.observes = true) :
    moment.exchange.halt? = some .cancelled ∧
      (moment.exchange.request ≠ .shutdown →
        ((line.through earlier).isRequested = true ∧ moment.now = timeAfter now earlier) ∨
          (moment.now, Signal.request) ∈ moment.signals) := by
  rw [Line.through_append, Line.through_singleton] at requested
  exact watched.drop.told_head requested observes

theorem told_exchange (watched : Watched line now (earlier ++ later))
    (requested : (line.through earlier).isRequested = true) {front rest : List Exchange} {look : Exchange}
    (split : (earlier ++ later).map (·.exchange) = front ++ look :: rest)
    (reached : earlier.length ≤ front.length + 1) (observes : look.request.observes = true) :
    look.halt? = some .cancelled := by
  obtain ⟨before, onward, whole, rfl, same⟩ := List.map_eq_append_iff.mp split
  obtain ⟨moment, after, rfl, rfl, _⟩ := List.map_eq_cons_iff.mp same
  rw [whole] at watched
  refine (watched.told ?_ observes).1
  have reaches : before ++ [moment] <+: earlier ++ later := by
    rw [whole]
    exact ⟨after, by simp⟩
  obtain ⟨between, same⟩ := List.prefix_of_prefix_length_le (List.prefix_append earlier later) reaches
    (by simpa using reached)
  rw [← same, Line.through_append]
  exact Line.isRequested_through requested between

end Watched

def Unrequested (line : Line) (moments : List Moment) : Prop :=
  line.isRequested = false ∧ ∀ moment ∈ moments, ∀ signal ∈ moment.signals, signal.2 = .hangUp

theorem Unrequested.tail {line : Line} {moment : Moment} {moments : List Moment}
    (unrequested : Unrequested line (moment :: moments)) :
    Unrequested (line.afterAll moment.signals) moments :=
  ⟨Line.unrequested_afterAll unrequested.1 (unrequested.2 moment List.mem_cons_self),
    fun other member => unrequested.2 other (List.mem_cons_of_mem _ member)⟩

/-- Without a request, whether and when the other end hangs up makes no difference to the replies. -/
theorem Answered.of_unrequested {line other : Line} {now : Nat} {moments others : List Moment}
    (answered : Answered line now moments) (unrequested : Unrequested line moments)
    (unrequested' : Unrequested other others)
    (same : others.map (·.exchange) = moments.map (·.exchange)) : Answered other now others := by
  induction answered generalizing other others with
  | done =>
    obtain rfl := List.map_eq_nil_iff.mp same
    exact .done
  | @next line now moment moments answers _ ih =>
    cases others with
    | nil => cases same
    | cons first others =>
      rw [List.map_cons, List.map_cons, List.cons.injEq] at same
      obtain ⟨exchange, same⟩ := same
      have answers' := answers.of_silent unrequested.1 (unrequested.2 moment List.mem_cons_self)
        unrequested'.1 (unrequested'.2 first List.mem_cons_self)
      rw [← exchange] at answers'
      have later := ih unrequested.tail unrequested'.tail same
      rw [Moment.now, ← exchange] at later
      exact .next answers' later

end IntentRollout
