import IntentRollout.Proofs.Cancellation
import IntentRollout.Proofs.Checkpoints
import IntentRollout.Proofs.LockedPhases

/-! The mode of an attempt decides only whether consent is asked for. An attempt in the safe mode whose adviser always
consents does what the attempt in the headless mode does. -/

namespace IntentRollout

namespace Attempt

variable {ours theirs : List (Nat × LogEntry)} (rollout : Rollout) (mode : Mode) (dry : Bool) (started : Instant)

private theorem locked_rollback :
    Locked ours theirs Eq (rollback (rollout.under mode dry)) (rollback (rollout.under .headless dry)) := by
  refine .bind_eq (.advance _) fun _ => .bind_eq (.note _ _) fun _ => .get_bind fun standing log => ?_
  cases standing.snapshot with
  | none => exact .bind_eq (.note _ _) fun _ => .record _
  | some snapshot =>
    change Locked _ _ _ (if dry then _ else _) (if dry then _ else _)
    split
    · exact .bind_eq (.note _ _) fun _ => .record _
    · refine .bind_eq (.lift (Timeline.plain_deliver _ (Timeline.plain_ask nofun))) fun result => ?_
      cases result with
      | ok => exact .bind_eq (.note _ _) fun _ => .record _
      | error error => exact .bind_eq (.note _ _) fun _ => .record _

private theorem locked_rollbackIfMutated : Locked ours theirs Eq
    (rollbackIfMutated (rollout.under mode dry)) (rollbackIfMutated (rollout.under .headless dry)) := by
  refine .get_bind fun standing log => ?_
  split
  · exact locked_rollback rollout mode dry
  · exact .note _ _

/-- The same end of an attempt in both modes; the reports differ in the mode and in the first lines. -/
structure Ended (mode : Mode) (started : Instant) (ours theirs : List (Nat × LogEntry)) (one other : Conclusion) :
    Prop where
  outcome : one.outcome = other.outcome
  document : one.document = other.document
  compilation : one.compilation = other.compilation
  reported : ∃ (report : Report) (rest : List String),
    one.report = some { report with mode, log := logLines started ours ++ rest } ∧
    other.report = some { report with mode := .headless, log := logLines started theirs ++ rest }

private theorem locked_finish (outcome : Outcome) : Locked ours theirs (Ended mode started ours theirs)
    (finish (rollout.under mode dry) started outcome) (finish (rollout.under .headless dry) started outcome) := by
  refine .bind_eq (.advance _) fun _ => .get_bind fun standing log => .pure ⟨rfl, rfl, rfl, ?_⟩
  let report : Report :=
    { timestamp := started.stamp, success := outcome = .succeeded, mode
      dryRun := dry, rollbackPoint := standing.snapshot, log := [], details := standing.details }
  refine ⟨report, logLines started log, ?_, ?_⟩ <;> rw [logLines, List.map_append] <;> rfl

private theorem locked_conclude {result : Except Halt Unit} (kept : result ≠ .error .declined) :
    Locked ours theirs (Ended mode started ours theirs)
      (conclude (rollout.under mode dry) started result) (conclude (rollout.under .headless dry) started result) := by
  cases result with
  | ok => exact .bind_eq (.note _ _) fun _ => locked_finish rollout mode dry started _
  | error halt =>
    cases halt with
    | failed phase error =>
      exact .bind_eq (.note _ _) fun _ => .bind_eq (.record _) fun _ =>
        .bind_eq (locked_rollbackIfMutated rollout mode dry) fun _ => locked_finish rollout mode dry started _
    | declined => exact absurd rfl kept
    | cancelled =>
      refine .get_bind fun standing log => .bind_eq (.note _ _) fun _ => .bind_eq (.record _) fun _ =>
        .bind_eq (locked_rollbackIfMutated rollout mode dry) fun _ => locked_finish rollout mode dry started _

private theorem mirrors_plan (source : IntentSource) (requested : List String) : Plan.Mirrors
    (Ended mode started (opening (rollout.under mode dry) requested) (opening (rollout.under .headless dry) requested))
    ((rollout.under mode dry).plan started source requested)
    ((rollout.under .headless dry).plan started source requested) := by
  have worked : Locked (opening (rollout.under mode dry) requested) (opening (rollout.under .headless dry) requested)
      (Ended mode started (opening (rollout.under mode dry) requested)
        (opening (rollout.under .headless dry) requested))
      ((drive (rollout.under mode dry) started source requested).run >>= conclude (rollout.under mode dry) started)
      ((drive (rollout.under .headless dry) started source requested).run >>=
        conclude (rollout.under .headless dry) started) := by
    refine Locked.bind (locked_drive rollout mode dry started source requested) fun result _ both => ?_
    obtain ⟨rfl, kept⟩ := both
    exact locked_conclude rollout mode dry started kept
  have whole := worked {} [] 0
  rw [List.append_nil, List.append_nil] at whole
  rw [plan_eq, plan_eq]
  refine whole.bind fun _ _ abreast => ?_
  cases abreast with
  | intro values => exact .done values

end Attempt

def Rollout.inMode (rollout : Rollout) (mode : Mode) : Rollout := rollout.under mode rollout.options.dryRun

def Rollout.modeLine (rollout : Rollout) (started : Instant) (requested : List String) : String :=
  (Attempt.modeEntry rollout requested).written (started.after 0).preciseText

private theorem Attempt.logLines_opening (rollout : Rollout) (started : Instant) (requested rest : List String) :
    logLines started (opening rollout requested) ++ rest =
      LogEntry.written ⟨.info, "edgeflow rollout starting"⟩ (started.after 0).preciseText ::
        rollout.modeLine started requested :: rest := rfl

/-- With consent to everything, the mode changes nothing but what the report says of it: the world gets the same calls
at the same times and ends in the same state, at the same time, and the reports agree apart from the mode and the line
of the log that states it. -/
theorem Rollout.mode_toggles_consent {σ μ : Type} (rollout : Rollout) (started : Instant) (source : IntentSource)
    (requested : List String) (world : World σ) (adviser : Phase → StateM μ Bool) (state : σ) (mind : μ)
    (granted : Granted (((rollout.inMode .safe).plan started source requested).exchanges
      (world.advised adviser).answer (state, mind))) :
    let consulting := (rollout.inMode .safe).plan started source requested
    let alone := (rollout.inMode .headless).plan started source requested
    let safe := (world.advised adviser).run consulting (state, mind)
    let headless := world.run alone state
    (world.advised adviser).calls consulting (state, mind) = world.calls alone state ∧
      safe.2.1 = headless.2 ∧ safe.1.outcome = headless.1.outcome ∧ safe.1.document = headless.1.document ∧
      safe.1.compilation = headless.1.compilation ∧
      ∃ (report : Report) (first : String) (rest : List String),
        safe.1.report = some { report with
          mode := .safe, log := first :: (rollout.inMode .safe).modeLine started requested :: rest } ∧
        headless.1.report = some { report with
          mode := .headless, log := first :: (rollout.inMode .headless).modeLine started requested :: rest } := by
  have mirrors : Plan.Mirrors
      (Attempt.Ended .safe started (Attempt.opening (rollout.inMode .safe) requested)
        (Attempt.opening (rollout.inMode .headless) requested))
      ((rollout.inMode .safe).plan started source requested)
      ((rollout.inMode .headless).plan started source requested) :=
    Attempt.mirrors_plan rollout .safe rollout.options.dryRun started source requested
  obtain ⟨calls, ended, final⟩ := mirrors.run world adviser state mind granted
  obtain ⟨report, rest, ours, theirs⟩ := ended.reported
  rw [Attempt.logLines_opening] at ours theirs
  exact ⟨calls, final, ended.outcome, ended.document, ended.compilation, report, _, rest, ours, theirs⟩

def Rehearsal.world : World Rehearsal where
  answer := Rehearsal.environment
  clock := (·.now)
  look rehearsal := by
    rw [Rehearsal.environment, Rehearsal.begin_of_no_label rfl]
    exact ⟨rfl, rfl⟩

def Adviser.always (_ : Phase) : StateM Unit Bool := pure true

theorem Rollout.mode_toggled_midway :
    asked ((Rollout.unattended.inMode .safe).both.exchanges (Rehearsal.world.advised Adviser.always).answer
        (Rehearsal.requestedMidway, ())) =
          [.snapshot, .validate, .render, .publish "edge1", .gate "edge1", .publish "edge2"] ∧
      (Rehearsal.world.run (Rollout.unattended.inMode .headless).both Rehearsal.requestedMidway).1.outcome =
        .cancelled ∧
      (Rehearsal.world.advised Adviser.always).calls (Rollout.unattended.inMode .safe).both
          (Rehearsal.requestedMidway, ()) =
        Rehearsal.world.calls (Rollout.unattended.inMode .headless).both Rehearsal.requestedMidway := by
  have consents : ∀ phase mind, (Adviser.always phase mind).1 = true := fun _ _ => rfl
  have granted := granted_of_consents Rehearsal.world consents (Rollout.unattended.inMode .safe).both
    Rehearsal.requestedMidway ()
  have toggled := Rollout.mode_toggles_consent Rollout.unattended ⟨0, 0⟩ .forBoth [] Rehearsal.world Adviser.always
    Rehearsal.requestedMidway () granted
  exact ⟨by decide +kernel, by decide +kernel, toggled.1⟩

end IntentRollout
