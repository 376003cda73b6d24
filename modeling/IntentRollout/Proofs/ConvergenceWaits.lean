import IntentRollout.Proofs.RehearsalRuns
import Mathlib.Algebra.Order.Floor.Div

/-! When a target is asked for its state, and how the wait for it ends. The states come from a script
without end, and asking takes no time, so all time passes in the waits between the questions. The wait
before the deadline is cut short, so that the last question falls on the deadline itself; whichever
question is answered first with a state that decides ends the wait, and so does shutdown. -/

namespace IntentRollout

namespace Timeline

variable {σ α β : Type} {environment : (request : Request) → StateM σ (Timed request.Reply)}

def outcome (environment : (request : Request) → StateM σ (Timed request.Reply)) (work : Timeline α)
    (start : Nat) (state : σ) : List Exchange × α × Nat :=
  ((work start).exchanges environment state, ((work start).run environment state).1)

def preceded (front : List Exchange) (outcome : List Exchange × α × Nat) : List Exchange × α × Nat :=
  (front ++ outcome.1, outcome.2)

private theorem preceded_preceded (front next : List Exchange) (outcome : List Exchange × α × Nat) :
    preceded front (preceded next outcome) = preceded (front ++ next) outcome := by
  rw [preceded, preceded, preceded, List.append_assoc]

private theorem outcome_pure (value : α) (start : Nat) (state : σ) :
    outcome environment (pure value) start state = ([], value, start) := rfl

private theorem outcome_ask_bind (request : Request) (next : request.Reply → Timeline β) (start : Nat) (state : σ) :
    outcome environment (ask request >>= next) start state =
      preceded [⟨request, (environment request state).1⟩]
        (outcome environment (next (environment request state).1.value) (environment request state).1.now
          (environment request state).2) := rfl

private theorem outcome_get_bind (next : Nat → Timeline β) (start : Nat) (state : σ) :
    outcome environment (get >>= next) start state = outcome environment (next start) start state := rfl

end Timeline

def Request.isStatus : Request → Bool
  | .status _ _ => true
  | _ => false

namespace Rehearsal

variable {rehearsal : Rehearsal} {finish : Nat}

/-- A rehearsal in which the states come from a script without end, whichever target is asked. -/
def scripted (script : Nat → Except String SyncState) :
    (request : Request) → StateM Rehearsal (Timed request.Reply)
  | .status target revision => fun rehearsal =>
    (⟨script rehearsal.polls.length, rehearsal.now⟩,
      { rehearsal with polls := rehearsal.polls ++ [(target, revision)] })
  | request => environment request

def Calm (rehearsal : Rehearsal) (finish : Nat) : Prop :=
  ∀ now < finish, { rehearsal with now }.line.isRequested = false

/-- Shutdown is requested at a time, and not before. -/
structure Heard (rehearsal : Rehearsal) (time : Nat) : Prop where
  interruption : rehearsal.script.interruption = .after time
  uninterrupted : rehearsal.interrupted = false

private theorem scripted_wait (script : Nat → Except String SyncState) (rehearsal : Rehearsal) (milliseconds : Nat) :
    scripted script (.wait milliseconds) rehearsal =
      (⟨(rehearsal.elapse milliseconds).1, (rehearsal.elapse milliseconds).2⟩,
        { rehearsal with now := (rehearsal.elapse milliseconds).2 }) := by
  change environment (.wait milliseconds) rehearsal = _
  rw [environment, begin_of_no_label rfl]
  rfl

/-- Before shutdown a wait takes its time. -/
theorem elapse_of_calm (unrequested : rehearsal.line.isRequested = false) (calm : rehearsal.Calm finish)
    {milliseconds : Nat} (inside : rehearsal.now + milliseconds ≤ finish) :
    rehearsal.elapse milliseconds = (false, rehearsal.now + milliseconds) := by
  have unheard : ∀ signal ∈ rehearsal.coming, ¬ signal.1 < rehearsal.now + milliseconds := by
    intro signal member early
    have requested := calm signal.1 (by omega)
    unfold coming at member
    split at member
    next time interruption =>
      split at member
      next =>
        obtain rfl := List.mem_singleton.mp member
        simp [line, interruption, Line.isRequested] at requested
      next => cases member
    next => cases member
  unfold elapse
  generalize rehearsal.line = line at unrequested ⊢
  cases line with
  | requested => cases unrequested
  | dropped => exact Line.cut_dropped
  | quiet =>
    obtain ⟨none, _⟩ | ⟨time, one, _⟩ := rehearsal.coming_cases
    · rw [none, Line.cut_quiet_nil]
    · rw [one] at unheard ⊢
      rw [Line.cut_quiet_request, if_neg (unheard _ (List.mem_singleton_self _))]

/-- Shutdown ends a wait that is not over. -/
theorem elapse_of_heard {time milliseconds : Nat} (heard : rehearsal.Heard time) (later : rehearsal.now < time)
    (sooner : time < rehearsal.now + milliseconds) : rehearsal.elapse milliseconds = (true, time) := by
  simp [elapse, line, coming, heard.interruption, heard.uninterrupted, later, sooner, Nat.not_le_of_lt]

private theorem Heard.calm {time : Nat} (heard : rehearsal.Heard time) : rehearsal.Calm time := by
  intro now before
  simp [line, heard.interruption, heard.uninterrupted, Nat.not_le_of_lt before, Line.isRequested]

end Rehearsal

namespace Convergence

def decided? : Except String SyncState → Option Convergence
  | .ok .synced => some .synced
  | .ok (.failed reason) => some (.failed reason)
  | .ok .pending => none
  | .error _ => none

end Convergence

/-- A wait for a target, from a time at which nothing was asked yet. -/
structure Vigil where
  rehearsal : Rehearsal
  script : Nat → Except String SyncState
  target : String
  revision : Option String
  settings : VerifySettings
  paced : 0 < settings.pollInterval
  unasked : rehearsal.polls = []

namespace Vigil

variable (vigil : Vigil)

def start : Nat := vigil.rehearsal.now

def deadline : Nat := vigil.start + vigil.settings.timeout

/-- The number of the question at the deadline. -/
def final : Nat := vigil.settings.timeout ⌈/⌉ vigil.settings.pollInterval

def times : List Nat :=
  (List.range vigil.final).map (fun number => vigil.start + number * vigil.settings.pollInterval) ++
    [vigil.deadline]

def questions : List Exchange :=
  vigil.times.zipIdx.map fun (time, number) =>
    ⟨.status vigil.target vigil.revision, ⟨vigil.script number, time⟩⟩

def outcome (work : Timeline Convergence) : List Exchange × Convergence × Nat :=
  Timeline.outcome (Rehearsal.scripted vigil.script) work vigil.start vigil.rehearsal

def polls (tries : Nat) : Timeline Convergence :=
  Convergence.poll vigil.target vigil.revision vigil.settings.pollInterval vigil.deadline tries

def instant (number : Nat) : Nat :=
  vigil.start + min (number * vigil.settings.pollInterval) vigil.settings.timeout

def question (number : Nat) : Exchange :=
  ⟨.status vigil.target vigil.revision, ⟨vigil.script number, vigil.instant number⟩⟩

def gap (number : Nat) : Nat := min vigil.settings.pollInterval (vigil.deadline - vigil.instant number)

def standing (number : Nat) : Rehearsal :=
  { vigil.rehearsal with
    now := vigil.instant number
    polls := List.replicate number (vigil.target, vigil.revision) }

def remaining (number tries : Nat) : List Exchange × Convergence × Nat :=
  Timeline.outcome (Rehearsal.scripted vigil.script) (vigil.polls tries) (vigil.instant number)
    (vigil.standing number)

variable {vigil : Vigil} {number tries : Nat}

private theorem lt_final : number < vigil.final ↔ number * vigil.settings.pollInterval < vigil.settings.timeout := by
  rw [← Nat.not_le, ← Nat.not_le, final, ceilDiv_le_iff_le_mul vigil.paced, Nat.mul_comm]

private theorem instant_of_lt (before : number < vigil.final) :
    vigil.instant number = vigil.start + number * vigil.settings.pollInterval := by
  rw [instant, Nat.min_eq_left (Nat.le_of_lt (lt_final.mp before))]

private theorem instant_final : vigil.instant vigil.final = vigil.deadline := by
  rw [instant, Nat.min_eq_right (Nat.not_lt.mp (lt_final.not.mp (Nat.lt_irrefl _))), deadline]

private theorem instant_lt_deadline (before : number < vigil.final) : vigil.instant number < vigil.deadline := by
  rw [instant_of_lt before]
  exact Nat.add_lt_add_left (lt_final.mp before) _

/-- The wait after a question lasts until the next. -/
theorem instant_add_gap (before : number < vigil.final) :
    vigil.instant number + vigil.gap number = vigil.instant (number + 1) := by
  have below := lt_final.mp before
  rw [gap, instant_of_lt before, instant, deadline, Nat.succ_mul]
  omega

private theorem instant_lt_succ (before : number < vigil.final) :
    vigil.instant number < vigil.instant (number + 1) := by
  have paced := vigil.paced
  have sooner := instant_lt_deadline before
  rw [← instant_add_gap before, gap]
  omega

private theorem instant_mono {first later : Nat} (onward : first ≤ later) : vigil.instant first ≤ vigil.instant later :=
  Nat.add_le_add_left (inf_le_inf_right _ (Nat.mul_le_mul_right _ onward)) _

private theorem times_eq : vigil.times = (List.range (vigil.final + 1)).map vigil.instant := by
  rw [times, List.range_succ, List.map_append, List.map_singleton, instant_final]
  congr 1
  exact List.map_congr_left fun number member => (instant_of_lt (List.mem_range.mp member)).symm

private theorem times_get {count : Nat} (onward : count ≤ vigil.final) :
    vigil.times[count]? = some (vigil.instant count) := by
  rw [times_eq, List.getElem?_map, List.getElem?_range (Nat.lt_succ_of_le onward), Option.map_some]

private theorem le_final_of_times_get {count time : Nat} (found : vigil.times[count]? = some time) :
    count ≤ vigil.final := by
  obtain ⟨inside, _⟩ := List.getElem?_eq_some_iff.mp found
  rw [times_eq, List.length_map, List.length_range] at inside
  exact Nat.le_of_lt_succ inside

private theorem questions_eq : vigil.questions = (List.range (vigil.final + 1)).map vigil.question := by
  rw [questions, times_eq]
  apply List.ext_getElem
  · simp
  · intro number inside inside'
    simp [question]

def asked (vigil : Vigil) (number : Nat) : Rehearsal :=
  { vigil.standing number with polls := List.replicate (number + 1) (vigil.target, vigil.revision) }

private theorem scripted_status (vigil : Vigil) (number : Nat) :
    Rehearsal.scripted vigil.script (.status vigil.target vigil.revision) (vigil.standing number) =
      (⟨vigil.script number, vigil.instant number⟩, vigil.asked number) := by
  rw [asked, List.replicate_succ']
  simp [Rehearsal.scripted, standing]

private theorem remaining_zero : vigil.remaining 0 tries = vigil.outcome (vigil.polls tries) := by
  have fresh : vigil.standing 0 = vigil.rehearsal := by
    rw [standing, instant, Nat.zero_mul, Nat.zero_min, Nat.add_zero, List.replicate_zero, ← vigil.unasked, start]
  rw [remaining, fresh, instant, Nat.zero_mul, Nat.zero_min, Nat.add_zero, outcome]

/-- A question whose answer decides is the last. -/
theorem remaining_of_decided {result : Convergence}
    (decided : Convergence.decided? (vigil.script number) = some result) :
    vigil.remaining number (tries + 1) = ([vigil.question number], result, vigil.instant number) := by
  rw [remaining, polls, Convergence.poll, Timeline.outcome_ask_bind, scripted_status]
  dsimp only
  cases answer : vigil.script number with
  | error message => rw [answer] at decided; cases decided
  | ok state =>
    rw [answer] at decided
    cases state with
    | pending => cases decided
    | synced | failed reason =>
      cases decided
      rw [Timeline.outcome_pure, question, answer]
      rfl

/-- After any other answer it depends on the time whether the wait goes on. -/
theorem remaining_of_undecided (undecided : Convergence.decided? (vigil.script number) = none) :
    vigil.remaining number (tries + 1) =
      Timeline.preceded [vigil.question number]
        (Timeline.outcome (Rehearsal.scripted vigil.script)
          (if vigil.deadline ≤ vigil.instant number then pure .timedOut
            else do
              if ← Timeline.ask (.wait (vigil.gap number)) then pure .cancelled
              else vigil.polls tries)
          (vigil.instant number) (vigil.asked number)) := by
  rw [remaining, polls, Convergence.poll, Timeline.outcome_ask_bind, scripted_status]
  dsimp only
  cases answer : vigil.script number with
  | error message =>
    rw [question, answer]
    rfl
  | ok state =>
    rw [answer] at undecided
    cases state with
    | synced | failed => cases undecided
    | pending =>
      rw [question, answer]
      rfl

/-- The question at the deadline is the last, too. -/
theorem remaining_final (undecided : Convergence.decided? (vigil.script vigil.final) = none) :
    vigil.remaining vigil.final (tries + 1) =
      ([vigil.question vigil.final], .timedOut, vigil.deadline) := by
  rw [remaining_of_undecided undecided, instant_final, if_pos (Nat.le_refl _), Timeline.outcome_pure]
  rfl

/-- After any other question comes a wait, in which shutdown may be heard of. -/
theorem remaining_of_elapse (before : number < vigil.final)
    (undecided : Convergence.decided? (vigil.script number) = none) {interrupted : Bool} {time : Nat}
    (elapsed : (vigil.asked number).elapse (vigil.gap number) = (interrupted, time)) :
    vigil.remaining number (tries + 1) =
      Timeline.preceded [vigil.question number, ⟨.wait (vigil.gap number), ⟨interrupted, time⟩⟩]
        (if interrupted then ([], .cancelled, time)
          else Timeline.outcome (Rehearsal.scripted vigil.script) (vigil.polls tries) time
            { vigil.asked number with now := time }) := by
  rw [remaining_of_undecided undecided, if_neg (Nat.not_le_of_lt (instant_lt_deadline before)),
    Timeline.outcome_ask_bind, Rehearsal.scripted_wait, elapsed]
  cases interrupted <;> rfl

/-- Without shutdown, the next question comes after the wait. -/
theorem remaining_of_calm (before : number < vigil.final)
    (undecided : Convergence.decided? (vigil.script number) = none)
    (calm : vigil.rehearsal.Calm (vigil.instant (number + 1))) :
    vigil.remaining number (tries + 1) =
      Timeline.preceded [vigil.question number, ⟨.wait (vigil.gap number), ⟨false, vigil.instant (number + 1)⟩⟩]
        (vigil.remaining (number + 1) tries) := by
  have elapsed : (vigil.asked number).elapse (vigil.gap number) = (false, vigil.instant (number + 1)) := by
    rw [← instant_add_gap before]
    exact Rehearsal.elapse_of_calm (calm _ (instant_lt_succ before)) calm (Nat.le_of_eq (instant_add_gap before))
  exact remaining_of_elapse before undecided elapsed

private theorem remaining_of_heard (before : number < vigil.final)
    (undecided : Convergence.decided? (vigil.script number) = none) {time : Nat}
    (heard : vigil.rehearsal.Heard time) (later : vigil.instant number < time)
    (sooner : time < vigil.instant (number + 1)) :
    vigil.remaining number (tries + 1) =
      ([vigil.question number, ⟨.wait (vigil.gap number), ⟨true, time⟩⟩], .cancelled, time) := by
  rw [← instant_add_gap before] at sooner
  have elapsed : (vigil.asked number).elapse (vigil.gap number) = (true, time) :=
    Rehearsal.elapse_of_heard ⟨heard.interruption, heard.uninterrupted⟩ later sooner
  exact remaining_of_elapse before undecided elapsed

def opening (vigil : Vigil) (count : Nat) : List Exchange :=
  (List.range count).flatMap fun number =>
    [vigil.question number, ⟨.wait (vigil.gap number), ⟨false, vigil.instant (number + 1)⟩⟩]

private theorem opening_succ (count : Nat) :
    vigil.opening (count + 1) = vigil.opening count ++
      [vigil.question count, ⟨.wait (vigil.gap count), ⟨false, vigil.instant (count + 1)⟩⟩] := by
  rw [opening, List.range_succ, List.flatMap_append, List.flatMap_singleton, opening]

/-- As long as no answer decides, question follows question. -/
theorem outcome_polls {count : Nat} (onward : count ≤ vigil.final)
    (undecided : ∀ number < count, Convergence.decided? (vigil.script number) = none)
    (calm : vigil.rehearsal.Calm (vigil.instant count)) (tries : Nat) :
    vigil.outcome (vigil.polls (tries + count)) =
      Timeline.preceded (vigil.opening count) (vigil.remaining count tries) := by
  induction count generalizing tries with
  | zero => rw [← remaining_zero]; rfl
  | succ count ih =>
    have before : vigil.rehearsal.Calm (vigil.instant count) := fun now sooner =>
      calm now (Nat.lt_of_lt_of_le sooner (instant_mono (Nat.le_succ count)))
    have opened := ih (Nat.le_of_succ_le onward)
      (fun number sooner => undecided number (Nat.lt_succ_of_lt sooner)) before (tries + 1)
    rw [Nat.add_right_comm, Nat.add_assoc] at opened
    rw [opened, remaining_of_calm onward (undecided count (Nat.lt_succ_self count)) calm,
      Timeline.preceded_preceded, opening_succ]

private theorem filter_opening (count : Nat) :
    (vigil.opening count).filter (·.request.isStatus) = (List.range count).map vigil.question := by
  induction count with
  | zero => rfl
  | succ count ih =>
    rw [opening_succ, List.filter_append, ih, List.range_succ, List.map_append]
    rfl

private theorem take_questions {count : Nat} (onward : count ≤ vigil.final) :
    vigil.questions.take (count + 1) = (List.range count).map vigil.question ++ [vigil.question count] := by
  rw [questions_eq, ← List.map_take, List.take_range, Nat.min_eq_left (Nat.succ_le_succ onward), List.range_succ,
    List.map_append]
  rfl

/-- There is always a question left to ask before the deadline. -/
theorem final_lt_queries : vigil.final < Convergence.queries vigil.settings := by
  have paced := vigil.paced
  have ceiling : vigil.final ≤ vigil.settings.timeout / vigil.settings.pollInterval + 1 := by
    rw [final, ceilDiv_le_iff_le_mul paced, Nat.mul_succ]
    have whole := Nat.div_add_mod vigil.settings.timeout vigil.settings.pollInterval
    have rest := Nat.mod_lt vigil.settings.timeout paced
    omega
  rw [Convergence.queries, Nat.max_eq_left paced]
  omega

/-- Without shutdown the first answer that decides ends the wait, or else the deadline does. -/
theorem outcome_of_calm (calm : vigil.rehearsal.Calm vigil.deadline) :
    ∃ last finish trace,
      IsLeast {number | (Convergence.decided? (vigil.script number)).isSome = true ∨ number = vigil.final} last ∧
      vigil.times[last]? = some finish ∧
      trace.filter (·.request.isStatus) = vigil.questions.take (last + 1) ∧
      ∀ tries, vigil.final < tries → vigil.outcome (vigil.polls tries) =
        (trace, (Convergence.decided? (vigil.script last)).getD .timedOut, finish) := by
  classical
  have ends : ∃ number, (Convergence.decided? (vigil.script number)).isSome = true ∨ number = vigil.final :=
    ⟨vigil.final, .inr rfl⟩
  have least := Nat.isLeast_find ends
  generalize Nat.find ends = last at least
  have onward : last ≤ vigil.final := least.2 (.inr rfl)
  have undecided : ∀ number < last, Convergence.decided? (vigil.script number) = none := fun number sooner =>
    Option.not_isSome_iff_eq_none.mp fun decided => Nat.not_le_of_lt sooner (least.2 (.inl decided))
  have before : vigil.rehearsal.Calm (vigil.instant last) := fun now sooner =>
    calm now (Nat.lt_of_lt_of_le sooner (instant_final ▸ instant_mono onward))
  refine ⟨last, vigil.instant last, vigil.opening last ++ [vigil.question last], least, times_get onward, ?_,
    fun tries enough => ?_⟩
  · rw [List.filter_append, filter_opening, take_questions onward]
    rfl
  · obtain ⟨more, rfl⟩ : ∃ more, tries = more + 1 + last := ⟨tries - last - 1, by omega⟩
    rw [outcome_polls onward undecided before]
    cases answer : Convergence.decided? (vigil.script last) with
    | some result =>
      rw [remaining_of_decided answer]
      rfl
    | none =>
      have reached : last = vigil.final := by simpa [answer] using least.1
      rw [reached] at answer ⊢
      rw [remaining_final answer, instant_final]
      rfl

def awaits (vigil : Vigil) (watched : Bool) : Timeline Convergence :=
  Convergence.await watched vigil.target vigil.revision vigil.settings

private theorem outcome_awaits_watched : vigil.outcome (vigil.awaits true) =
    vigil.outcome (vigil.polls (Convergence.queries vigil.settings)) := by
  rw [outcome, awaits, Convergence.await, if_pos rfl, Timeline.outcome_get_bind, outcome, polls, deadline, start]

/-- Shutdown between two questions ends the wait there and then. -/
theorem outcome_of_heard (before : number < vigil.final)
    (undecided : ∀ earlier ≤ number, Convergence.decided? (vigil.script earlier) = none) {time : Nat}
    (heard : vigil.rehearsal.Heard time) (later : vigil.instant number < time)
    (sooner : time < vigil.instant (number + 1)) :
    ∃ trace, trace.filter (·.request.isStatus) = vigil.questions.take (number + 1) ∧
      vigil.outcome (vigil.awaits true) = (trace, .cancelled, time) := by
  have calm : vigil.rehearsal.Calm (vigil.instant number) := fun now early =>
    heard.calm now (Nat.lt_trans early later)
  obtain ⟨more, enough⟩ : ∃ more, Convergence.queries vigil.settings = more + 1 + number :=
    ⟨Convergence.queries vigil.settings - number - 1, by have := vigil.final_lt_queries; omega⟩
  have opened := outcome_polls (Nat.le_of_lt before)
    (fun earlier sooner => undecided earlier (Nat.le_of_lt sooner)) calm (more + 1)
  rw [outcome_awaits_watched, enough, opened,
    remaining_of_heard before (undecided number (Nat.le_refl _)) heard later sooner]
  refine ⟨_, ?_, rfl⟩
  rw [List.filter_append, filter_opening, take_questions (Nat.le_of_lt before)]
  rfl

/-- A target that cannot be asked is waited for once. -/
theorem outcome_unwatched {interrupted : Bool} {time : Nat}
    (elapsed : vigil.rehearsal.elapse vigil.settings.gracePeriod = (interrupted, time)) :
    vigil.outcome (vigil.awaits false) =
      ([⟨.wait vigil.settings.gracePeriod, ⟨interrupted, time⟩⟩],
        if interrupted then .cancelled else .gracePeriodElapsed, time) := by
  have asks : vigil.awaits false = Timeline.ask (.wait vigil.settings.gracePeriod) >>= fun interrupted =>
    if interrupted then pure .cancelled else pure .gracePeriodElapsed := rfl
  rw [outcome, asks, Timeline.outcome_ask_bind, Rehearsal.scripted_wait, elapsed]
  cases interrupted <;> rfl

/-- The wait for a target ends. Without shutdown the questions fall on their times, one after the other, and
the first answer that decides is the result, or else the deadline ends the wait, however often it could
still ask. Shutdown between two questions ends it at once. A target that cannot be asked is given its time
of grace, unless shutdown comes in between. -/
theorem await_ends (vigil : Vigil) :
    (vigil.rehearsal.Calm vigil.deadline → ∃ last finish trace,
      IsLeast {number | (Convergence.decided? (vigil.script number)).isSome = true ∨ number = vigil.final} last ∧
      vigil.times[last]? = some finish ∧
      (Convergence.decided? (vigil.script last) = none → finish = vigil.deadline) ∧
      trace.filter (·.request.isStatus) = vigil.questions.take (last + 1) ∧
      vigil.outcome (vigil.awaits true) =
        (trace, (Convergence.decided? (vigil.script last)).getD .timedOut, finish) ∧
      ∀ tries, vigil.final < tries → vigil.outcome (vigil.polls tries) = vigil.outcome (vigil.awaits true)) ∧
    (∀ number before after time, vigil.times[number]? = some before → vigil.times[number + 1]? = some after →
      (∀ earlier ≤ number, Convergence.decided? (vigil.script earlier) = none) →
      vigil.rehearsal.Heard time → before < time → time < after →
      ∃ trace, trace.filter (·.request.isStatus) = vigil.questions.take (number + 1) ∧
        vigil.outcome (vigil.awaits true) = (trace, .cancelled, time)) ∧
    (vigil.rehearsal.line.isRequested = false →
      vigil.rehearsal.Calm (vigil.start + vigil.settings.gracePeriod) →
      vigil.outcome (vigil.awaits false) =
        ([⟨.wait vigil.settings.gracePeriod, ⟨false, vigil.start + vigil.settings.gracePeriod⟩⟩],
          .gracePeriodElapsed, vigil.start + vigil.settings.gracePeriod)) ∧
    ∀ time, vigil.rehearsal.Heard time → vigil.start < time →
      time < vigil.start + vigil.settings.gracePeriod →
      vigil.outcome (vigil.awaits false) =
        ([⟨.wait vigil.settings.gracePeriod, ⟨true, time⟩⟩], .cancelled, time) := by
  refine ⟨fun calm => ?_, fun number before after time first next undecided heard later sooner => ?_,
    fun unrequested calm => ?_, fun time heard later sooner => ?_⟩
  · obtain ⟨last, finish, trace, least, found, asked, ends⟩ := outcome_of_calm calm
    have awaited := ends _ vigil.final_lt_queries
    rw [← outcome_awaits_watched] at awaited
    refine ⟨last, finish, trace, least, found, fun undecided => ?_, asked, awaited, fun tries enough => ?_⟩
    · have reached : last = vigil.final := by simpa [undecided] using least.1
      rw [reached, times_get (Nat.le_refl _), instant_final, Option.some.injEq] at found
      exact found.symm
    · rw [ends tries enough, awaited]
  · have inside := le_final_of_times_get next
    rw [times_get inside, Option.some.injEq] at next
    rw [times_get (Nat.le_of_lt inside), Option.some.injEq] at first
    rw [← first] at later
    rw [← next] at sooner
    exact outcome_of_heard inside undecided heard later sooner
  · exact outcome_unwatched (Rehearsal.elapse_of_calm unrequested calm (Nat.le_refl _))
  · exact outcome_unwatched (Rehearsal.elapse_of_heard heard later sooner)

def pending (interruption : Interruption) : Vigil where
  rehearsal := { script := { interruption } }
  script _ := .ok .pending
  target := "alpha"
  revision := some "rev-1"
  settings := { timeout := 5, pollInterval := 2 }
  paced := by decide
  unasked := rfl

theorem pending_times_out_or_is_cancelled :
    (∃ trace, trace.filter (·.request.isStatus) = (pending .never).questions ∧
      (pending .never).outcome ((pending .never).awaits true) = (trace, .timedOut, 5)) ∧
    ∃ trace, trace.filter (·.request.isStatus) = (pending (.after 3)).questions.take 2 ∧
      (pending (.after 3)).outcome ((pending (.after 3)).awaits true) = (trace, .cancelled, 3) := by
  constructor
  · obtain ⟨last, finish, trace, least, found, late, asked, awaited, _⟩ :=
      (await_ends (pending .never)).1 fun _ _ => rfl
    have reached : last = 3 := least.1.resolve_left fun decided => by cases decided
    rw [reached] at asked awaited late
    cases late rfl
    exact ⟨trace, asked, awaited⟩
  · exact (await_ends (pending (.after 3))).2.1 1 2 4 3 (by decide) (by decide)
      (fun _ _ => rfl) ⟨rfl, rfl⟩ (by decide) (by decide)

end Vigil

end IntentRollout
