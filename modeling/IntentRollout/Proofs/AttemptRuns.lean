import IntentRollout.Proofs.TargetRuns

/-! What a whole attempt can do: it is driven until it stops or has gone through all targets, and then
concluded. Laws of attempts are proved over these descriptions. -/

namespace IntentRollout

namespace Standing

def marked (standing : Standing) (phase : String) (target : Option String) (error : String) : Standing :=
  { standing with
    details := { standing.details with phase := some phase, target, error := some error } }

def failed (standing : Standing) (phase : Phase) (error : RolloutError) : Standing :=
  standing.marked phase.name phase.target? error.message

def stopped (standing : Standing) (error : String) : Standing :=
  standing.marked "CANCELLED" standing.phase.target? error

def halted (standing : Standing) : Halt → Standing
  | .failed phase error => standing.failed phase error
  | .declined => standing.stopped ("checkpoint " ++ standing.phase.written ++ " declined")
  | .cancelled => standing.stopped ("interrupted during " ++ standing.phase.written)

/-- What the targets are served with: the document of the intent, and what it was compiled to. -/
def prepared (standing : Standing) : Option Json × Option Compilation := (standing.document, standing.compilation)

/-- What stopped an attempt is all that it adds to the record. -/
theorem halted_eq (standing : Standing) (halt : Halt) :
    ∃ phase target error, standing.halted halt = standing.marked phase target error := by
  cases halt <;> exact ⟨_, _, _, rfl⟩

end Standing

namespace Attempt

open Step

variable (rollout : Rollout) (started : Instant)

inductive Serving (intent : Intent) (compilation : Compilation) (objectives : Gate) (target : String)
    (before : Standing) : List Exchange → Except Halt Unit → Standing → Prop where
  | unpublished {trace halt after}
      (publishing : Publishing rollout started intent compilation target before trace (.error halt) after) :
      Serving intent compilation objectives target before trace (.error halt) after
  | unverified {first revision middle rest halt after}
      (publishing : Publishing rollout started intent compilation target before first (.ok revision) middle)
      (verifying : Verifying rollout target revision middle rest (.error halt) after) :
      Serving intent compilation objectives target before (first ++ rest) (.error halt) after
  | gated {first revision published second verified third result after}
      (publishing :
        Publishing rollout started intent compilation target before first (.ok revision) published)
      (verifying : Verifying rollout target revision published second (.ok ()) verified)
      (gating : Gating rollout objectives target verified third result after) :
      Serving intent compilation objectives target before (first ++ (second ++ third)) result after

/-- Targets one after the other, until one stops the attempt. -/
inductive ServingAll (intent : Intent) (compilation : Compilation) (objectives : Gate) :
    List String → Standing → List Exchange → Except Halt Unit → Standing → Prop where
  | done {before} : ServingAll intent compilation objectives [] before [] (.ok ()) before
  | stopped {target targets before trace halt after}
      (serving : Serving rollout started intent compilation objectives target before trace
        (.error halt) after) :
      ServingAll intent compilation objectives (target :: targets) before trace (.error halt) after
  | passed {target targets before first middle rest result after}
      (serving : Serving rollout started intent compilation objectives target before first (.ok ()) middle)
      (others : ServingAll intent compilation objectives targets middle rest result after) :
      ServingAll intent compilation objectives (target :: targets) before (first ++ rest) result after

/-- All phases in order, until one stops the attempt. -/
inductive Driving (source : IntentSource) (requested : List String) (before : Standing) :
    List Exchange → Except Halt Unit → Standing → Prop where
  | unremembered {trace halt after}
      (snapshotting : Snapshotting rollout before trace (.error halt) after) :
      Driving source requested before trace (.error halt) after
  | invalid {first remembered rest halt after}
      (snapshotting : Snapshotting rollout before first (.ok ()) remembered)
      (validating : Validating rollout source requested remembered rest (.error halt) after) :
      Driving source requested before (first ++ rest) (.error halt) after
  | unrendered {first remembered second intent targets objectives valid rest halt after}
      (snapshotting : Snapshotting rollout before first (.ok ()) remembered)
      (validating :
        Validating rollout source requested remembered second (.ok (intent, targets, objectives)) valid)
      (rendering : Rendering rollout started intent targets valid rest (.error halt) after) :
      Driving source requested before (first ++ (second ++ rest)) (.error halt) after
  | served {first remembered second intent targets objectives valid third compilation rendered rest
        result after}
      (snapshotting : Snapshotting rollout before first (.ok ()) remembered)
      (validating :
        Validating rollout source requested remembered second (.ok (intent, targets, objectives)) valid)
      (rendering : Rendering rollout started intent targets valid third (.ok compilation) rendered)
      (serving :
        ServingAll rollout started intent compilation objectives targets rendered rest result after) :
      Driving source requested before (first ++ (second ++ (third ++ rest))) result after

inductive RollingBack (before : Standing) : List Exchange → Standing → Prop where
  | impossible (unknown : before.snapshot = none) :
      RollingBack before []
        { before with
          phase := .rollback,
          details := { before.details with rollback := some ⟨false, some RolloutError.noSnapshot.message⟩ } }
  | rehearsed {head} (known : before.snapshot = some head) (dry : rollout.options.dryRun = true) :
      RollingBack before []
        { before with
          phase := .rollback, details := { before.details with rollback := some ⟨false, none⟩ } }
  | restored {head trace} (known : before.snapshot = some head) (real : rollout.options.dryRun = false)
      (tried : Tried (.reset head) rollout.options.retry.attempts trace (.ok ())) :
      RollingBack before trace
        { before with
          phase := .rollback, details := { before.details with rollback := some ⟨true, none⟩ } }
  | refused {head trace error} (known : before.snapshot = some head)
      (real : rollout.options.dryRun = false)
      (tried : Tried (.reset head) rollout.options.retry.attempts trace (.error error)) :
      RollingBack before trace
        { before with
          phase := .rollback,
          details := { before.details with rollback := some ⟨false, some error.message⟩ } }

inductive Tidying (before : Standing) : List Exchange → Standing → Prop where
  | untouched (clean : before.mutated = false) : Tidying before [] before
  | mutated {trace after} (mutated : before.mutated = true)
      (rollingBack : RollingBack rollout before trace after) : Tidying before trace after

def conclusionOf (outcome : Outcome) (standing : Standing) (lines : List String) : Conclusion where
  outcome
  report := some {
    timestamp := started.stamp
    success := outcome = .succeeded
    mode := rollout.options.mode
    dryRun := rollout.options.dryRun
    rollbackPoint := standing.snapshot
    log := lines
    details := standing.details }
  document := standing.document
  compilation := standing.compilation

inductive Concluding : Except Halt Unit → Standing → List Exchange → Conclusion → Prop where
  | succeeded {standing lines} :
      Concluding (.ok ()) standing [] (conclusionOf rollout started .succeeded standing lines)
  | failed {standing phase error trace after lines}
      (tidying : Tidying rollout (standing.failed phase error) trace after) :
      Concluding (.error (.failed phase error)) standing trace
        (conclusionOf rollout started .failed after lines)
  | forgone {standing} (clean : standing.mutated = false) :
      Concluding (.error .declined) standing [] ⟨.declined, none, none, none⟩
  | declined {standing trace after lines} (mutated : standing.mutated = true)
      (rollingBack : RollingBack rollout
        (standing.stopped ("checkpoint " ++ standing.phase.written ++ " declined")) trace after) :
      Concluding (.error .declined) standing trace
        (conclusionOf rollout started .declined after lines)
  | cancelled {standing trace after lines}
      (tidying : Tidying rollout
        (standing.stopped ("interrupted during " ++ standing.phase.written)) trace after) :
      Concluding (.error .cancelled) standing trace
        (conclusionOf rollout started .cancelled after lines)

variable {rollout started} {before after : Standing} {trace : List Exchange}

def outcomeOf : Except Halt Unit → Outcome
  | .ok () => .succeeded
  | .error (.failed _ _) => .failed
  | .error .declined => .declined
  | .error .cancelled => .cancelled

theorem outcomeOf_error_ne (halt : Halt) : outcomeOf (.error halt) ≠ .succeeded := by
  cases halt <;> exact nofun

theorem outcomeOf_eq_succeeded {result : Except Halt Unit} :
    outcomeOf result = .succeeded ↔ result = .ok () := by
  cases result with
  | ok => simp [outcomeOf]
  | error halt => simp [outcomeOf_error_ne]

theorem Concluding.outcome_eq {result : Except Halt Unit} {standing : Standing} {conclusion : Conclusion}
    (concluding : Concluding rollout started result standing trace conclusion) :
    conclusion.outcome = outcomeOf result := by
  cases concluding <;> rfl

/-- An attempt succeeds, is given up before anything changed, or is put on record with what stopped it. -/
theorem Concluding.parted {result : Except Halt Unit} {standing : Standing} {conclusion : Conclusion}
    (concluding : Concluding rollout started result standing trace conclusion) :
    (∃ lines, result = .ok () ∧ trace = [] ∧
        conclusion = conclusionOf rollout started .succeeded standing lines) ∨
      (result = .error .declined ∧ standing.mutated = false ∧ trace = [] ∧
        conclusion = ⟨.declined, none, none, none⟩) ∨
      ∃ halt after lines, result = .error halt ∧
        Tidying rollout (standing.halted halt) trace after ∧
        conclusion = conclusionOf rollout started (outcomeOf result) after lines := by
  cases concluding with
  | succeeded => exact .inl ⟨_, rfl, rfl, rfl⟩
  | forgone clean => exact .inr (.inl ⟨rfl, clean, rfl, rfl⟩)
  | failed tidying | cancelled tidying => exact .inr (.inr ⟨_, _, _, rfl, tidying, rfl⟩)
  | declined mutated rollingBack =>
    exact .inr (.inr ⟨.declined, _, _, rfl, .mutated mutated rollingBack, rfl⟩)

theorem Tidying.details_eq (tidying : Tidying rollout before trace after) :
    after.details = { before.details with rollback := after.details.rollback } := by
  cases tidying with
  | untouched => rfl
  | mutated _ rollingBack => cases rollingBack <;> rfl

theorem Tidying.snapshot_eq (tidying : Tidying rollout before trace after) :
    after.snapshot = before.snapshot := by
  cases tidying with
  | untouched => rfl
  | mutated _ rollingBack => cases rollingBack <;> rfl

theorem Tidying.prepared_eq (tidying : Tidying rollout before trace after) : after.prepared = before.prepared := by
  cases tidying with
  | untouched => rfl
  | mutated _ rollingBack => cases rollingBack <;> rfl

theorem Tidying.compilation_eq (tidying : Tidying rollout before trace after) :
    after.compilation = before.compilation :=
  congrArg Prod.snd tidying.prepared_eq

/-- What a report is written with is what there was when the attempt was driven to its end. -/
theorem Concluding.prepared_eq {result : Except Halt Unit} {standing : Standing} {conclusion : Conclusion}
    (concluding : Concluding rollout started result standing trace conclusion) {report : Report}
    (reported : conclusion.report = some report) :
    report.timestamp = started.stamp ∧ (conclusion.document, conclusion.compilation) = standing.prepared := by
  obtain ⟨lines, rfl, _, rfl⟩ | ⟨_, _, _, rfl⟩ | ⟨halt, after, lines, rfl, tidying, rfl⟩ := concluding.parted
  · cases reported
    exact ⟨rfl, rfl⟩
  · cases reported
  · cases reported
    obtain ⟨phase, target, error, marked⟩ := standing.halted_eq halt
    rw [marked] at tidying
    exact ⟨rfl, tidying.prepared_eq⟩

theorem Serving.prepared_eq {intent : Intent} {compilation : Compilation} {objectives : Gate} {target : String}
    {result : Except Halt Unit}
    (serving : Serving rollout started intent compilation objectives target before trace result after) :
    after.prepared = before.prepared := by
  have published {trace : List Exchange} {result : Except Halt (Option String)} {after : Standing}
      (publishing : Publishing rollout started intent compilation target before trace result after) :
      after.prepared = before.prepared := by cases publishing <;> rfl
  have verified {before after : Standing} {trace : List Exchange} {revision : Option String} {result : Except Halt Unit}
      (verifying : Verifying rollout target revision before trace result after) :
      after.prepared = before.prepared := by cases verifying <;> rfl
  have gated {before after : Standing} {trace : List Exchange} {result : Except Halt Unit}
      (gating : Gating rollout objectives target before trace result after) :
      after.prepared = before.prepared := by cases gating <;> rfl
  cases serving with
  | unpublished publishing => exact published publishing
  | unverified publishing verifying => exact (verified verifying).trans (published publishing)
  | gated publishing verifying gating =>
    exact (gated gating).trans ((verified verifying).trans (published publishing))

theorem ServingAll.prepared_eq {intent : Intent} {compilation : Compilation} {objectives : Gate}
    {targets : List String} {result : Except Halt Unit}
    (serving : ServingAll rollout started intent compilation objectives targets before trace result after) :
    after.prepared = before.prepared := by
  induction serving with
  | done => rfl
  | stopped serving => exact serving.prepared_eq
  | passed serving _ ih => exact ih.trans serving.prepared_eq

theorem ServingAll.compilation_eq {intent : Intent} {compilation : Compilation} {objectives : Gate}
    {targets : List String} {result : Except Halt Unit}
    (serving : ServingAll rollout started intent compilation objectives targets before trace result after) :
    after.compilation = before.compilation :=
  congrArg Prod.snd serving.prepared_eq

private theorem runs_processTarget {intent : Intent} {compilation : Compilation} {objectives : Gate}
    {target : String} {result : Except Halt Unit}
    (ran : Runs (processTarget rollout started intent compilation objectives target) before trace
      result after) :
    Serving rollout started intent compilation objectives target before trace result after := by
  obtain ⟨halt, rfl, stopped⟩ | ⟨first, revision, published, rest, rfl, publishing, onward⟩ :=
    runs_bind (runs_note_bind ran)
  · exact .unpublished (runs_publish stopped)
  · obtain ⟨halt, rfl, stopped⟩ | ⟨second, _, verified, third, rfl, verifying, gating⟩ :=
      runs_bind onward
    · exact .unverified (runs_publish publishing) (runs_verify stopped)
    · exact .gated (runs_publish publishing) (runs_verify verifying) (runs_gate gating)

theorem runs_processTargets {intent : Intent} {compilation : Compilation} {objectives : Gate}
    {targets : List String} {result : Except Halt Unit}
    (ran : Runs (targets.forM (processTarget rollout started intent compilation objectives)) before
      trace result after) :
    ServingAll rollout started intent compilation objectives targets before trace result after := by
  induction targets generalizing before trace with
  | nil =>
    obtain ⟨rfl, rfl, rfl⟩ := runs_pure ran
    exact .done
  | cons target targets ih =>
    obtain ⟨halt, rfl, stopped⟩ | ⟨first, _, middle, rest, rfl, served, others⟩ := runs_bind ran
    · exact .stopped (runs_processTarget stopped)
    · exact .passed (runs_processTarget served) (ih others)

private theorem runs_drive {source : IntentSource} {requested : List String} {result : Except Halt Unit}
    (ran : Runs (drive rollout started source requested) before trace result after) :
    Driving rollout started source requested before trace result after := by
  obtain ⟨halt, rfl, stopped⟩ | ⟨first, _, remembered, rest, rfl, snapshotting, onward⟩ := runs_bind ran
  · exact .unremembered (runs_takeSnapshot stopped)
  · replace snapshotting := runs_takeSnapshot snapshotting
    obtain ⟨halt, rfl, stopped⟩ |
        ⟨second, ⟨intent, targets, objectives⟩, valid, rest, rfl, validating, onward⟩ := runs_bind onward
    · exact .invalid snapshotting (runs_validate stopped)
    · replace validating := runs_validate validating
      obtain ⟨halt, rfl, stopped⟩ | ⟨third, compilation, rendered, rest, rfl, rendering, serving⟩ :=
        runs_bind onward
      · exact .unrendered snapshotting validating (runs_render stopped)
      · exact .served snapshotting validating (runs_render rendering) (runs_processTargets serving)

private theorem runs_rollback {value : Unit} (ran : Working.Runs (rollback rollout) before trace value after) :
    RollingBack rollout before trace after := by
  obtain ⟨log, onward⟩ := ran.advance_bind.note_bind.get_bind
  obtain ⟨phase, snapshot, document, compilation, mutated, details⟩ := before
  cases snapshot with
  | none =>
    obtain ⟨rfl, rfl⟩ := Working.Runs.advance (Working.Runs.note_bind onward)
    exact .impossible rfl
  | some head =>
    simp only at onward
    cases dry : rollout.options.dryRun with
    | true =>
      simp only [dry, if_true] at onward
      obtain ⟨rfl, rfl⟩ := onward.note_bind.advance
      exact .rehearsed rfl dry
    | false =>
      simp only [dry, Bool.false_eq_true, if_false] at onward
      obtain ⟨start, finish, tries, result, rest, rfl, delivered, recorded⟩ := onward.lift_bind
      have tried : Tried (.reset head) rollout.options.retry.attempts tries result :=
        Timeline.runs_deliver (fun asked => asked.ask) delivered
      cases result with
      | ok done =>
        obtain ⟨rfl, rfl⟩ := recorded.note_bind.advance
        rw [List.append_nil]
        exact .restored rfl dry tried
      | error error =>
        obtain ⟨rfl, rfl⟩ := recorded.note_bind.advance
        rw [List.append_nil]
        exact .refused rfl dry tried

private theorem runs_rollbackIfMutated {value : Unit}
    (ran : Working.Runs (rollbackIfMutated rollout) before trace value after) :
    Tidying rollout before trace after := by
  obtain ⟨log, onward⟩ := ran.get_bind
  cases mutated : before.mutated with
  | false =>
    simp only [mutated, Bool.false_eq_true, if_false] at onward
    obtain ⟨rfl, rfl⟩ := onward.note
    exact .untouched mutated
  | true =>
    simp only [mutated, if_true] at onward
    exact .mutated mutated (runs_rollback onward)

private theorem runs_finish {outcome : Outcome} {conclusion : Conclusion}
    (ran : Working.Runs (finish rollout started outcome) before trace conclusion after) :
    trace = [] ∧ ∃ lines, conclusion = conclusionOf rollout started outcome before lines := by
  obtain ⟨log, ended⟩ := ran.advance_bind.get_bind
  obtain ⟨rfl, rfl, rfl⟩ := ended.pure
  exact ⟨rfl, logLines started log, rfl⟩

private theorem runs_recordStop_bind {error : String} {β : Type} {next : Unit → Working β} {value : β}
    (ran : Working.Runs (recordStop before.phase error >>= next) before trace value after) :
    Working.Runs (next ()) (before.stopped error) trace value after := by
  unfold recordStop record at ran
  exact ran.advance_bind

theorem runs_conclude {result : Except Halt Unit} {conclusion : Conclusion}
    (ran : Working.Runs (conclude rollout started result) before trace conclusion after) :
    Concluding rollout started result before trace conclusion := by
  match result with
  | .ok () =>
    obtain ⟨rfl, lines, rfl⟩ := runs_finish ran.note_bind
    exact .succeeded
  | .error (.failed phase error) =>
    obtain ⟨first, _, standing, rest, rfl, tidied, finished⟩ := ran.note_bind.advance_bind.bind
    obtain ⟨rfl, lines, rfl⟩ := runs_finish finished
    rw [List.append_nil]
    exact .failed (runs_rollbackIfMutated tidied)
  | .error .declined =>
    obtain ⟨log, onward⟩ := ran.get_bind
    cases mutated : before.mutated with
    | false =>
      simp only [mutated, Bool.false_eq_true, if_false] at onward
      obtain ⟨rfl, rfl, rfl⟩ := onward.pure
      exact .forgone mutated
    | true =>
      simp only [mutated, if_true] at onward
      have recorded := runs_recordStop_bind onward.note_bind
      obtain ⟨first, _, standing, rest, rfl, restored, finished⟩ := recorded.bind
      obtain ⟨rfl, lines, rfl⟩ := runs_finish finished
      rw [List.append_nil]
      exact .declined mutated (runs_rollback restored)
  | .error .cancelled =>
    obtain ⟨log, onward⟩ := ran.get_bind
    have recorded := runs_recordStop_bind onward.note_bind
    obtain ⟨first, _, standing, rest, rfl, tidied, finished⟩ := recorded.bind
    obtain ⟨rfl, lines, rfl⟩ := runs_finish finished
    rw [List.append_nil]
    exact .cancelled (runs_rollbackIfMutated tidied)

private theorem runs_announce {requested : List String} {value : Unit}
    (ran : Working.Runs (announce rollout requested) before trace value after) :
    trace = [] ∧ after = before :=
  ran.note_bind.note

end Attempt

/-- Every run of an attempt is a drive from the start and a conclusion of what the drive ended with. -/
theorem Rollout.run_plan {rollout : Rollout} {started : Instant} {source : IntentSource}
    {requested : List String} {trace : List Exchange} {conclusion : Conclusion}
    (ran : (rollout.plan started source requested).Run trace conclusion) :
    ∃ driven result standing ended, trace = driven ++ ended ∧
      Attempt.Driving rollout started source requested {} driven result standing ∧
      Attempt.Concluding rollout started result standing ended conclusion := by
  obtain ⟨worked, ⟨⟨conclusion, final⟩, finish⟩, rest, rfl, work, returned⟩ := Plan.Run.bind ran
  cases returned
  have ran : Working.Runs (Attempt.work rollout started source requested) {} worked conclusion
      final.toStanding := ⟨[], 0, final.log, finish, work⟩
  obtain ⟨announced, _, standing, onward, rfl, announcing, working⟩ := ran.bind
  obtain ⟨rfl, rfl⟩ := Attempt.runs_announce announcing
  obtain ⟨driven, result, standing, ended, rfl, driving, concluding⟩ := working.bind
  refine ⟨driven, result, standing, ended, ?_, Attempt.runs_drive driving,
    Attempt.runs_conclude concluding⟩
  rw [List.nil_append, List.append_nil]

end IntentRollout
