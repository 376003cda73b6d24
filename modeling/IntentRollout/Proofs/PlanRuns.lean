import IntentRollout.Rollout.Rehearsal

/-! Runs of plans against every environment. A run is the list of all exchanges, whatever the
replies were, and the value at its end. Work on an attempt is taken apart here once, so that later
proofs speak of exchanges and of how the attempt stands, and never of monads. -/

namespace IntentRollout

structure Exchange where
  request : Request
  reply : Timed request.Reply

namespace Plan

variable {α β σ : Type}

/-- A plan can go through these exchanges and end with this value. -/
inductive Run : Plan α → List Exchange → α → Prop where
  | done (value : α) : Run (.done value) [] value
  | ask {request next trace value} (reply : Timed request.Reply)
      (rest : Run (next reply) trace value) : Run (.ask request next) (⟨request, reply⟩ :: trace) value

theorem Run.bind {plan : Plan α} {next : α → Plan β} {trace : List Exchange} {value : β}
    (ran : Run (plan >>= next) trace value) :
    ∃ first middle rest, trace = first ++ rest ∧ Run plan first middle ∧ Run (next middle) rest value := by
  change Run (plan.bind next) trace value at ran
  induction plan generalizing trace with
  | done middle => exact ⟨[], middle, trace, rfl, .done middle, ran⟩
  | ask request continuation ih =>
    cases ran with
    | ask reply ran =>
      obtain ⟨first, middle, rest, rfl, before, after⟩ := ih reply ran
      exact ⟨⟨request, reply⟩ :: first, middle, rest, rfl, .ask reply before, after⟩

def exchanges (environment : (request : Request) → StateM σ (Timed request.Reply)) :
    Plan α → σ → List Exchange
  | .done _, _ => []
  | .ask request next, state =>
    let (reply, after) := environment request state
    ⟨request, reply⟩ :: (next reply).exchanges environment after

/-- Every environment has a run, and the interpreter of plans finds it. -/
theorem run_exchanges (environment : (request : Request) → StateM σ (Timed request.Reply))
    (plan : Plan α) (state : σ) :
    Run plan (plan.exchanges environment state) (plan.run environment state).1 := by
  induction plan generalizing state with
  | done value => exact .done value
  | ask request next ih => exact .ask _ (ih _ _)

end Plan

def Rehearsal.exchanges {α : Type} (rehearsal : Rehearsal) (plan : Plan α) : List Exchange :=
  plan.exchanges Rehearsal.environment rehearsal

theorem Rehearsal.ran {α : Type} (rehearsal : Rehearsal) (plan : Plan α) :
    plan.Run (rehearsal.exchanges plan) (rehearsal.run plan).1 :=
  plan.run_exchanges Rehearsal.environment rehearsal

namespace Timeline

variable {α β : Type} {start finish : Nat} {trace : List Exchange}

def Runs (work : Timeline α) (start : Nat) (trace : List Exchange) (value : α) (finish : Nat) : Prop :=
  (work start).Run trace (value, finish)

theorem Runs.pure {result value : α} (ran : Runs (Pure.pure result) start trace value finish) :
    trace = [] ∧ value = result ∧ finish = start := by
  cases ran
  exact ⟨rfl, rfl, rfl⟩

theorem Runs.bind {work : Timeline α} {next : α → Timeline β} {value : β}
    (ran : Runs (work >>= next) start trace value finish) :
    ∃ first middle time rest, trace = first ++ rest ∧ Runs work start first middle time ∧
      Runs (next middle) time rest value finish := by
  obtain ⟨first, ⟨middle, time⟩, rest, split, before, after⟩ := Plan.Run.bind ran
  exact ⟨first, middle, time, rest, split, before, after⟩

theorem Runs.ask {request : Request} {value : request.Reply}
    (ran : Runs (Timeline.ask request) start trace value finish) :
    trace = [⟨request, ⟨value, finish⟩⟩] := by
  cases ran with
  | ask reply rest =>
    cases rest
    rfl

theorem Runs.ask_bind {request : Request} {next : request.Reply → Timeline β} {value : β}
    (ran : Runs (Timeline.ask request >>= next) start trace value finish) :
    ∃ reply rest, trace = ⟨request, reply⟩ :: rest ∧
      Runs (next reply.value) reply.now rest value finish := by
  obtain ⟨first, middle, time, rest, rfl, asked, later⟩ := ran.bind
  obtain rfl := asked.ask
  exact ⟨⟨middle, time⟩, rest, rfl, later⟩

end Timeline

namespace Working

variable {α β : Type} {before after : Standing} {trace : List Exchange}

/-- A run of work on an attempt, from how it stood to how it stands then, whatever is logged. -/
def Runs (work : Working α) (before : Standing) (trace : List Exchange) (value : α)
    (after : Standing) : Prop :=
  ∃ log start entries finish,
    (work ⟨before, log⟩ start).Run trace ((value, ⟨after, entries⟩), finish)

theorem Runs.pure {result value : α} (ran : Runs (Pure.pure result) before trace value after) :
    trace = [] ∧ value = result ∧ after = before := by
  obtain ⟨log, start, entries, finish, ran⟩ := ran
  cases ran
  exact ⟨rfl, rfl, rfl⟩

theorem Runs.bind {work : Working α} {next : α → Working β} {value : β}
    (ran : Runs (work >>= next) before trace value after) :
    ∃ first middle standing rest, trace = first ++ rest ∧ Runs work before first middle standing ∧
      Runs (next middle) standing rest value after := by
  obtain ⟨log, start, entries, finish, ran⟩ := ran
  obtain ⟨first, ⟨⟨middle, standing, notes⟩, time⟩, rest, split, earlier, later⟩ := Plan.Run.bind ran
  exact ⟨first, middle, standing, rest, split, ⟨log, start, notes, time, earlier⟩,
    ⟨notes, time, entries, finish, later⟩⟩

theorem Runs.map {work : Working α} {change : α → β} {value : β}
    (ran : Runs (change <$> work) before trace value after) :
    ∃ result, value = change result ∧ Runs work before trace result after := by
  obtain ⟨log, start, entries, finish, ran⟩ := ran
  obtain ⟨first, ⟨⟨result, standing, notes⟩, time⟩, rest, rfl, earlier, later⟩ := Plan.Run.bind ran
  cases later
  rw [List.append_nil]
  exact ⟨result, rfl, log, start, entries, finish, earlier⟩

theorem Runs.lift {work : Timeline α} {value : α}
    (ran : Runs (liftM work : Working α) before trace value after) :
    (∃ start finish, Timeline.Runs work start trace value finish) ∧ after = before := by
  obtain ⟨log, start, entries, finish, ran⟩ := ran
  obtain ⟨first, ⟨middle, time⟩, rest, rfl, earlier, later⟩ := Plan.Run.bind ran
  cases later
  rw [List.append_nil]
  exact ⟨⟨start, finish, earlier⟩, rfl⟩

theorem Runs.lift_bind {work : Timeline α} {next : α → Working β} {value : β}
    (ran : Runs (liftM work >>= next) before trace value after) :
    ∃ start finish first middle rest, trace = first ++ rest ∧
      Timeline.Runs work start first middle finish ∧ Runs (next middle) before rest value after := by
  obtain ⟨first, middle, standing, rest, split, earlier, later⟩ := ran.bind
  obtain ⟨⟨start, finish, timed⟩, rfl⟩ := earlier.lift
  exact ⟨start, finish, first, middle, rest, split, timed, later⟩

theorem Runs.note {level : LogLevel} {message : String} {value : Unit}
    (ran : Runs (Attempt.note level message) before trace value after) :
    trace = [] ∧ after = before := by
  obtain ⟨log, start, entries, finish, ran⟩ := ran
  cases ran
  exact ⟨rfl, rfl⟩

theorem Runs.note_bind {level : LogLevel} {message : String} {next : Unit → Working β} {value : β}
    (ran : Runs (Attempt.note level message >>= next) before trace value after) :
    Runs (next ()) before trace value after := by
  obtain ⟨first, middle, standing, rest, rfl, noted, later⟩ := ran.bind
  obtain ⟨rfl, rfl⟩ := noted.note
  exact later

theorem Runs.advance {change : Standing → Standing} {value : Unit}
    (ran : Runs (Attempt.advance change) before trace value after) :
    trace = [] ∧ after = change before := by
  obtain ⟨log, start, entries, finish, ran⟩ := ran
  cases ran
  exact ⟨rfl, rfl⟩

theorem Runs.advance_bind {change : Standing → Standing} {next : Unit → Working β} {value : β}
    (ran : Runs (Attempt.advance change >>= next) before trace value after) :
    Runs (next ()) (change before) trace value after := by
  obtain ⟨first, middle, standing, rest, rfl, advanced, later⟩ := ran.bind
  obtain ⟨rfl, rfl⟩ := advanced.advance
  exact later

theorem Runs.get_bind {next : Progress → Working β} {value : β}
    (ran : Runs (get >>= next) before trace value after) :
    ∃ log, Runs (next ⟨before, log⟩) before trace value after := by
  obtain ⟨log, start, entries, finish, ran⟩ := ran
  exact ⟨log, log, start, entries, finish, ran⟩

end Working

namespace Step

variable {α β : Type} {before after : Standing} {trace : List Exchange}

abbrev Runs (step : Step α) (before : Standing) (trace : List Exchange) (result : Except Halt α)
    (after : Standing) : Prop :=
  Working.Runs step.run before trace result after

theorem runs_pure {value : α} {result : Except Halt α}
    (ran : Runs (pure value) before trace result after) :
    trace = [] ∧ result = .ok value ∧ after = before :=
  Working.Runs.pure ran

theorem runs_throw {halt : Halt} {result : Except Halt α}
    (ran : Runs (throw halt) before trace result after) :
    trace = [] ∧ result = .error halt ∧ after = before :=
  Working.Runs.pure ran

theorem runs_bind {step : Step α} {next : α → Step β} {result : Except Halt β}
    (ran : Runs (step >>= next) before trace result after) :
    (∃ halt, result = .error halt ∧ Runs step before trace (.error halt) after) ∨
      ∃ first value standing rest, trace = first ++ rest ∧ Runs step before first (.ok value) standing ∧
        Runs (next value) standing rest result after := by
  obtain ⟨first, middle, standing, rest, rfl, earlier, later⟩ := Working.Runs.bind ran
  cases middle with
  | error halt =>
    obtain ⟨rfl, rfl, rfl⟩ := Working.Runs.pure later
    exact .inl ⟨halt, rfl, by rwa [List.append_nil]⟩
  | ok value => exact .inr ⟨first, value, standing, rest, rfl, earlier, later⟩

private theorem runs_lift {work : Working α} {result : Except Halt α}
    (ran : Runs (liftM work) before trace result after) :
    ∃ value, result = .ok value ∧ Working.Runs work before trace value after :=
  Working.Runs.map ran

theorem runs_lift_bind {work : Working α} {next : α → Step β} {result : Except Halt β}
    (ran : Runs (liftM work >>= next) before trace result after) :
    ∃ first value standing rest, trace = first ++ rest ∧ Working.Runs work before first value standing ∧
      Runs (next value) standing rest result after := by
  obtain ⟨halt, rfl, stopped⟩ | ⟨first, value, standing, rest, split, earlier, later⟩ := runs_bind ran
  · obtain ⟨value, impossible, _⟩ := runs_lift stopped
    cases impossible
  · obtain ⟨_, same, ran⟩ := runs_lift earlier
    cases same
    exact ⟨first, value, standing, rest, split, ran, later⟩

theorem runs_time_bind {work : Timeline α} {next : α → Step β} {result : Except Halt β}
    (ran : Runs (liftM work >>= next) before trace result after) :
    ∃ start finish first value rest, trace = first ++ rest ∧
      Timeline.Runs work start first value finish ∧ Runs (next value) before rest result after := by
  have lifted : Runs (liftM (liftM work : Working α) >>= next) before trace result after := ran
  obtain ⟨first, value, standing, rest, split, earlier, later⟩ := runs_lift_bind lifted
  obtain ⟨⟨start, finish, timed⟩, rfl⟩ := earlier.lift
  exact ⟨start, finish, first, value, rest, split, timed, later⟩

theorem runs_ask_bind {request : Request} {next : request.Reply → Step β} {result : Except Halt β}
    (ran : Runs (liftM (Attempt.ask request) >>= next) before trace result after) :
    ∃ reply rest, trace = ⟨request, reply⟩ :: rest ∧ Runs (next reply.value) before rest result after := by
  have timed : Runs (liftM (Timeline.ask request) >>= next) before trace result after := ran
  obtain ⟨start, finish, first, value, rest, rfl, asked, later⟩ := runs_time_bind timed
  obtain rfl := asked.ask
  exact ⟨⟨value, finish⟩, rest, rfl, later⟩

theorem runs_note {level : LogLevel} {message : String} {result : Except Halt Unit}
    (ran : Runs (liftM (Attempt.note level message)) before trace result after) :
    trace = [] ∧ result = .ok () ∧ after = before := by
  obtain ⟨value, rfl, noted⟩ := runs_lift ran
  exact ⟨noted.note.1, rfl, noted.note.2⟩

theorem runs_note_bind {level : LogLevel} {message : String} {next : Unit → Step β}
    {result : Except Halt β}
    (ran : Runs (liftM (Attempt.note level message) >>= next) before trace result after) :
    Runs (next ()) before trace result after := by
  obtain ⟨first, value, standing, rest, rfl, noted, later⟩ := runs_lift_bind ran
  obtain ⟨rfl, rfl⟩ := noted.note
  exact later

theorem runs_advance {change : Standing → Standing} {result : Except Halt Unit}
    (ran : Runs (liftM (Attempt.advance change)) before trace result after) :
    trace = [] ∧ result = .ok () ∧ after = change before := by
  obtain ⟨value, rfl, advanced⟩ := runs_lift ran
  exact ⟨advanced.advance.1, rfl, advanced.advance.2⟩

theorem runs_advance_bind {change : Standing → Standing} {next : Unit → Step β}
    {result : Except Halt β}
    (ran : Runs (liftM (Attempt.advance change) >>= next) before trace result after) :
    Runs (next ()) (change before) trace result after := by
  obtain ⟨first, value, standing, rest, rfl, advanced, later⟩ := runs_lift_bind ran
  obtain ⟨rfl, rfl⟩ := advanced.advance
  exact later

theorem runs_record_bind {change : ReportDetails → ReportDetails} {next : Unit → Step β}
    {result : Except Halt β}
    (ran : Runs (liftM (Attempt.record change) >>= next) before trace result after) :
    Runs (next ()) { before with details := change before.details } trace result after :=
  runs_advance_bind ran

theorem runs_require_bind {ε : Type} {phase : Phase} {cause : ε → RolloutError} {needed : Except ε α}
    {next : α → Step β} {result : Except Halt β}
    (ran : Runs (Attempt.require phase cause needed >>= next) before trace result after) :
    (∃ error, needed = .error error ∧ trace = [] ∧ result = .error (.failed phase (cause error)) ∧
        after = before) ∨
      ∃ value, needed = .ok value ∧ Runs (next value) before trace result after := by
  cases needed with
  | error error => exact .inl ⟨error, rfl, Working.Runs.pure ran⟩
  | ok value =>
    obtain ⟨halt, rfl, stopped⟩ | ⟨first, value', standing, rest, rfl, earlier, later⟩ := runs_bind ran
    · obtain ⟨_, impossible, _⟩ := runs_pure stopped
      cases impossible
    · obtain ⟨rfl, same, rfl⟩ := runs_pure earlier
      cases same
      exact .inr ⟨value, rfl, later⟩

end Step

end IntentRollout
