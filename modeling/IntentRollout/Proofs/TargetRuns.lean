import IntentRollout.Proofs.PhaseRuns

/-! What an attempt can do for one target, and for its targets one after the other. A target is
published, waited for and gated; the first that stops the attempt is the last that is asked for
anything. -/

namespace IntentRollout

def Unsettled (answer : Except String SyncState) : Prop :=
  answer = .ok .pending ∨ ∃ reason, answer = .error reason

/-- Asking for the state of a target again and again. -/
inductive Polled (target : String) (revision : Option String) :
    List Exchange → Convergence → Prop where
  | synced {time} : Polled target revision [⟨.status target revision, ⟨.ok .synced, time⟩⟩] .synced
  | failed {reason time} :
      Polled target revision [⟨.status target revision, ⟨.ok (.failed reason), time⟩⟩] (.failed reason)
  | expired {reply} (unsettled : Unsettled reply.value) :
      Polled target revision [⟨.status target revision, reply⟩] .timedOut
  | exhausted : Polled target revision [] .timedOut
  | interrupted {reply milliseconds time} (unsettled : Unsettled reply.value) :
      Polled target revision
        [⟨.status target revision, reply⟩, ⟨.wait milliseconds, ⟨true, time⟩⟩] .cancelled
  | again {reply milliseconds time trace convergence} (unsettled : Unsettled reply.value)
      (rest : Polled target revision trace convergence) :
      Polled target revision
        (⟨.status target revision, reply⟩ :: ⟨.wait milliseconds, ⟨false, time⟩⟩ :: trace) convergence

inductive Awaited (watched : Bool) (target : String) (revision : Option String)
    (settings : VerifySettings) : List Exchange → Convergence → Prop where
  | elapsed {time} (unwatched : watched = false) :
      Awaited watched target revision settings [⟨.wait settings.gracePeriod, ⟨false, time⟩⟩]
        .gracePeriodElapsed
  | interrupted {time} (unwatched : watched = false) :
      Awaited watched target revision settings [⟨.wait settings.gracePeriod, ⟨true, time⟩⟩] .cancelled
  | polled {trace convergence} (watches : watched = true)
      (polled : Polled target revision trace convergence) :
      Awaited watched target revision settings trace convergence

namespace Convergence

open Timeline

variable {target : String} {revision : Option String} {start finish : Nat} {trace : List Exchange}
  {convergence : Convergence}

private theorem runs_poll {interval deadline tries : Nat}
    (ran : Runs (poll target revision interval deadline tries) start trace convergence finish) :
    Polled target revision trace convergence := by
  induction tries generalizing start trace with
  | zero =>
    obtain ⟨rfl, rfl, rfl⟩ := ran.pure
    exact .exhausted
  | succ tries ih =>
    obtain ⟨⟨answer, time⟩, rest, rfl, onward⟩ := ran.ask_bind
    have unsettled_cases (unsettled : Unsettled answer)
        (waited : Runs (do
          let now ← get
          if deadline ≤ now then pure Convergence.timedOut
          else if ← Timeline.ask (.wait (min interval (deadline - now))) then pure .cancelled
          else poll target revision interval deadline tries) time rest convergence finish) :
        Polled target revision (⟨.status target revision, ⟨answer, time⟩⟩ :: rest) convergence := by
      obtain ⟨first, now, later, further, rfl, looked, decided⟩ := Runs.bind waited
      cases looked
      split at decided
      · obtain ⟨rfl, rfl, rfl⟩ := decided.pure
        exact .expired unsettled
      · obtain ⟨⟨interrupted, woken⟩, rest, rfl, ended⟩ := decided.ask_bind
        cases interrupted with
        | true =>
          obtain ⟨rfl, rfl, rfl⟩ := Runs.pure ended
          exact .interrupted unsettled
        | false => exact .again unsettled (ih ended)
    match answer, onward with
    | .ok .synced, onward =>
      obtain ⟨rfl, rfl, rfl⟩ := Runs.pure onward
      exact .synced
    | .ok (.failed reason), onward =>
      obtain ⟨rfl, rfl, rfl⟩ := Runs.pure onward
      exact .failed
    | .ok .pending, onward => exact unsettled_cases (.inl rfl) onward
    | .error reason, onward => exact unsettled_cases (.inr ⟨reason, rfl⟩) onward

private theorem runs_await {watched : Bool} {settings : VerifySettings}
    (ran : Runs (await watched target revision settings) start trace convergence finish) :
    Awaited watched target revision settings trace convergence := by
  cases watched with
  | true =>
    obtain ⟨first, now, time, rest, rfl, looked, polled⟩ := Runs.bind ran
    cases looked
    exact .polled rfl (runs_poll polled)
  | false =>
    obtain ⟨⟨interrupted, time⟩, rest, rfl, ended⟩ := Runs.ask_bind ran
    cases interrupted with
    | true =>
      obtain ⟨rfl, rfl, rfl⟩ := Runs.pure ended
      exact .interrupted rfl
    | false =>
      obtain ⟨rfl, rfl, rfl⟩ := Runs.pure ended
      exact .elapsed rfl

end Convergence

namespace Attempt

open Step

variable (rollout : Rollout)

inductive Publishing (started : Instant) (intent : Intent) (compilation : Compilation)
    (target : String) (before : Standing) :
    List Exchange → Except Halt (Option String) → Standing → Prop where
  | halted {trace halt} (entered : Entered rollout (.publish target) trace (.error halt)) :
      Publishing started intent compilation target before trace (.error halt)
        { before with phase := .publish target }
  | rehearsed {trace} (entered : Entered rollout (.publish target) trace (.ok ()))
      (dry : rollout.options.dryRun = true) :
      Publishing started intent compilation target before trace (.ok none)
        { before with
          phase := .publish target,
          details := { before.details with published := before.details.published ++ [⟨target, none⟩] } }
  | refused {first rest error} (entered : Entered rollout (.publish target) first (.ok ()))
      (real : rollout.options.dryRun = false)
      (tried : Tried
        (.publish target (filesFor compilation target) (commitMessage started intent target))
        rollout.options.retry.attempts rest (.error error)) :
      Publishing started intent compilation target before (first ++ rest)
        (.error (.failed (.publish target) (.delivery error)))
        { before with phase := .publish target, mutated := true }
  | published {first rest revision} (entered : Entered rollout (.publish target) first (.ok ()))
      (real : rollout.options.dryRun = false)
      (tried : Tried
        (.publish target (filesFor compilation target) (commitMessage started intent target))
        rollout.options.retry.attempts rest (.ok revision)) :
      Publishing started intent compilation target before (first ++ rest) (.ok revision)
        { before with
          phase := .publish target, mutated := true,
          details :=
            { before.details with published := before.details.published ++ [⟨target, revision⟩] } }

inductive Verifying (target : String) (revision : Option String) (before : Standing) :
    List Exchange → Except Halt Unit → Standing → Prop where
  | halted {trace halt} (entered : Entered rollout (.verify target) trace (.error halt)) :
      Verifying target revision before trace (.error halt) { before with phase := .verify target }
  | rehearsed {trace} (entered : Entered rollout (.verify target) trace (.ok ()))
      (dry : rollout.options.dryRun = true) :
      Verifying target revision before trace (.ok ()) { before with phase := .verify target }
  | converged {first rest convergence} (entered : Entered rollout (.verify target) first (.ok ()))
      (real : rollout.options.dryRun = false)
      (awaited : Awaited (rollout.watches target) target revision rollout.options.verify rest convergence)
      (success : convergence.isSuccess = true) :
      Verifying target revision before (first ++ rest) (.ok ()) { before with phase := .verify target }
  | interrupted {first rest} (entered : Entered rollout (.verify target) first (.ok ()))
      (real : rollout.options.dryRun = false)
      (awaited : Awaited (rollout.watches target) target revision rollout.options.verify rest .cancelled) :
      Verifying target revision before (first ++ rest) (.error .cancelled)
        { before with phase := .verify target }
  | diverged {first rest convergence} (entered : Entered rollout (.verify target) first (.ok ()))
      (real : rollout.options.dryRun = false)
      (awaited : Awaited (rollout.watches target) target revision rollout.options.verify rest convergence)
      (uninterrupted : convergence ≠ .cancelled) :
      Verifying target revision before (first ++ rest)
        (.error (.failed (.verify target) (.verify target convergence)))
        { before with phase := .verify target }

inductive Gating (objectives : Gate) (target : String) (before : Standing) :
    List Exchange → Except Halt Unit → Standing → Prop where
  | halted {trace halt} (entered : Entered rollout (.gate target) trace (.error halt)) :
      Gating objectives target before trace (.error halt) { before with phase := .gate target }
  | rehearsed {trace} (entered : Entered rollout (.gate target) trace (.ok ()))
      (dry : rollout.options.dryRun = true) :
      Gating objectives target before trace (.ok ())
        { before with
          phase := .gate target,
          details :=
            { before.details with gates := before.details.gates.insert target GateRecord.skipped } }
  | interrupted {first time} (entered : Entered rollout (.gate target) first (.ok ()))
      (real : rollout.options.dryRun = false) :
      Gating objectives target before (first ++ [⟨.fetch target, ⟨none, time⟩⟩]) (.error .cancelled)
        { before with phase := .gate target }
  | passed {first fetched time} (entered : Entered rollout (.gate target) first (.ok ()))
      (real : rollout.options.dryRun = false) (passed : objectives.check fetched = .ok ()) :
      Gating objectives target before (first ++ [⟨.fetch target, ⟨some fetched, time⟩⟩]) (.ok ())
        { before with
          phase := .gate target,
          details :=
            { before.details with
              gates := before.details.gates.insert target (GateRecord.ofOutcome (.ok ())) } }
  | violated {first fetched time violations} (entered : Entered rollout (.gate target) first (.ok ()))
      (real : rollout.options.dryRun = false)
      (violated : objectives.check fetched = .error (.violated violations)) :
      Gating objectives target before (first ++ [⟨.fetch target, ⟨some fetched, time⟩⟩])
        (.error (.failed (.gate target) (.gate target (.violated violations))))
        { before with
          phase := .gate target,
          details :=
            { before.details with
              gates := before.details.gates.insert target
                (GateRecord.ofOutcome (.error (.violated violations))),
              violations } }
  | unclear {first fetched time error} (entered : Entered rollout (.gate target) first (.ok ()))
      (real : rollout.options.dryRun = false) (unclear : objectives.check fetched = .error error)
      (unjudged : error.isCheckFailure = true) :
      Gating objectives target before (first ++ [⟨.fetch target, ⟨some fetched, time⟩⟩])
        (.error (.failed (.gate target) (.gate target error)))
        { before with
          phase := .gate target,
          details :=
            { before.details with
              gates := before.details.gates.insert target (GateRecord.ofOutcome (.error error)) } }

variable {rollout} {before after : Standing} {trace : List Exchange} {target : String}

theorem runs_publish {started : Instant} {intent : Intent} {compilation : Compilation}
    {result : Except Halt (Option String)}
    (ran : Runs (publish rollout started intent compilation target) before trace result after) :
    Publishing rollout started intent compilation target before trace result after := by
  obtain ⟨halt, rfl, entered, rfl⟩ | ⟨first, rest, rfl, entered, onward⟩ := runs_enter_bind ran
  · exact .halted entered
  · have announced := runs_note_bind onward
    cases dry : rollout.options.dryRun with
    | true =>
      simp only [dry, if_true] at announced
      have recorded := runs_record_bind (runs_note_bind announced)
      obtain ⟨rfl, rfl, rfl⟩ := runs_pure recorded
      rw [List.append_nil]
      exact .rehearsed entered dry
    | false =>
      simp only [dry, Bool.false_eq_true, if_false] at announced
      obtain ⟨start, finish, tries, result, rest, rfl, delivered, decided⟩ :=
        runs_time_bind (runs_advance_bind announced)
      have tried : Tried
          (.publish target (filesFor compilation target) (commitMessage started intent target))
          rollout.options.retry.attempts tries result :=
        Timeline.runs_deliver (fun asked => asked.ask) delivered
      obtain ⟨error, rfl, rfl, rfl, rfl⟩ | ⟨revision, rfl, published⟩ := runs_require_bind decided
      · rw [List.append_nil]
        exact .refused entered dry tried
      · cases revision with
        | none | some revision =>
          have recorded := runs_record_bind (runs_note_bind published)
          obtain ⟨rfl, rfl, rfl⟩ := runs_pure recorded
          rw [List.append_nil]
          exact .published entered dry tried

theorem runs_verify {revision : Option String} {result : Except Halt Unit}
    (ran : Runs (verify rollout target revision) before trace result after) :
    Verifying rollout target revision before trace result after := by
  obtain ⟨halt, rfl, entered, rfl⟩ | ⟨first, rest, rfl, entered, onward⟩ := runs_enter_bind ran
  · exact .halted entered
  · cases dry : rollout.options.dryRun with
    | true =>
      simp only [dry, if_true] at onward
      obtain ⟨rfl, rfl, rfl⟩ := runs_note onward
      rw [List.append_nil]
      exact .rehearsed entered dry
    | false =>
      simp only [dry, Bool.false_eq_true, if_false] at onward
      obtain ⟨start, finish, waiting, convergence, rest, rfl, waited, decided⟩ :=
        runs_time_bind (runs_note_bind onward)
      have awaited := Convergence.runs_await waited
      split at decided
      next success =>
        obtain ⟨rfl, rfl, rfl⟩ := runs_note decided
        rw [List.append_nil]
        exact .converged entered dry awaited success
      next =>
        split at decided
        next cancelled =>
          obtain ⟨rfl, rfl, rfl⟩ := runs_throw decided
          rw [List.append_nil]
          exact .interrupted entered dry (cancelled ▸ awaited)
        next uninterrupted =>
          obtain ⟨rfl, rfl, rfl⟩ := runs_throw decided
          rw [List.append_nil]
          exact .diverged entered dry awaited uninterrupted

theorem runs_gate {objectives : Gate} {result : Except Halt Unit}
    (ran : Runs (gate rollout objectives target) before trace result after) :
    Gating rollout objectives target before trace result after := by
  obtain ⟨halt, rfl, entered, rfl⟩ | ⟨first, rest, rfl, entered, onward⟩ := runs_enter_bind ran
  · exact .halted entered
  · have announced := runs_note_bind onward
    cases dry : rollout.options.dryRun with
    | true =>
      simp only [dry, if_true] at announced
      have noted := runs_note_bind announced
      obtain ⟨rfl, rfl, rfl⟩ := runs_advance noted
      rw [List.append_nil]
      exact .rehearsed entered dry
    | false =>
      simp only [dry, Bool.false_eq_true, if_false] at announced
      obtain ⟨⟨reply, time⟩, rest, rfl, answered⟩ := runs_ask_bind announced
      cases reply with
      | none =>
        obtain ⟨rfl, rfl, rfl⟩ := runs_throw answered
        exact .interrupted entered dry
      | some fetched =>
        have recorded := runs_record_bind answered
        cases verdict : objectives.check fetched with
        | ok passed =>
          simp only [verdict] at recorded
          obtain ⟨rfl, rfl, rfl⟩ := runs_note recorded
          exact .passed entered dry verdict
        | error error =>
          simp only [verdict] at recorded
          cases error with
          | violated violations =>
            have ended := runs_record_bind (runs_note_bind recorded)
            obtain ⟨rfl, rfl, rfl⟩ := runs_throw ended
            exact .violated entered dry verdict
          | slo fault | missingMetric metric available | fetch error =>
            have noted := runs_note_bind recorded
            obtain ⟨rfl, rfl, rfl⟩ := runs_throw noted
            exact .unclear entered dry verdict rfl

end Attempt

end IntentRollout
