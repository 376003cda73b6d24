import IntentRollout.Proofs.DryRuns
import IntentRollout.Proofs.LockedPhases

/-! A dry run foretells the attempt for real. Both prepare in lock step, so in the same environment they come to the
same intent, targets and rendering, or are stopped by the same failure; what is left of a dry run cannot fail. -/

namespace IntentRollout

namespace Attempt

variable {rollout : Rollout} {started : Instant} {before after : Standing} {trace : List Exchange}
  {intent : Intent} {compilation : Compilation} {objectives : Gate}

def complete (rollout : Rollout) (started : Instant) :
    Except Halt (Intent × List String × Gate × Compilation) → Working Conclusion
  | .ok (intent, targets, objectives, compilation) => do
    conclude rollout started
      (← (targets.forM (processTarget rollout started intent compilation objectives)).run)
  | .error halt => conclude rollout started (.error halt)

def preparing (rollout : Rollout) (started : Instant) (source : IntentSource) (requested : List String) :
    Plan ((Except Halt (Intent × List String × Gate × Compilation) × Progress) × Nat) :=
  (prepare rollout started source requested).run ⟨{}, opening rollout requested⟩ 0

private theorem plan_parts (rollout : Rollout) (started : Instant) (source : IntentSource) (requested : List String) :
    rollout.plan started source requested =
      (preparing rollout started source requested).bind fun prepared =>
        (complete rollout started prepared.1.1 prepared.1.2 prepared.2).bind fun ended => .done ended.1.1 := by
  have parts : (drive rollout started source requested).run >>= conclude rollout started =
      (prepare rollout started source requested).run >>= complete rollout started := by
    rw [drive_eq, ExceptT.run_bind, bind_assoc]
    refine bind_congr fun prepared => ?_
    cases prepared with
    | ok ready => rfl
    | error halt => exact pure_bind _ _
  rw [plan_eq, parts]
  exact Plan.bind_bind _ _ _

/-- In an environment, the second half of an attempt goes on where the first half ended. -/
theorem runs_parts {σ : Type} {environment : (request : Request) → StateM σ (Timed request.Reply)} {state later : σ}
    {source : IntentSource} {requested : List String}
    {result : Except Halt (Intent × List String × Gate × Compilation)} {progress : Progress} {now : Nat}
    (prepared : (preparing rollout started source requested).run environment state =
      (((result, progress), now), later)) :
    ∃ rest after, (rollout.plan started source requested).exchanges environment state =
        (preparing rollout started source requested).exchanges environment state ++ rest ∧
      Working.Runs (complete rollout started result) progress.toStanding rest
        ((rollout.plan started source requested).run environment state).1 after := by
  have ran := Plan.run_exchanges environment (complete rollout started result progress now) later
  rw [plan_parts, Plan.exchanges_bind, Plan.run_bind, prepared]
  dsimp only
  rw [Plan.exchanges_bind, Plan.run_bind]
  exact ⟨_, _, congrArg _ (List.append_nil _), progress.log, now, _, _, ran⟩

private theorem mirrors_preparing (rollout : Rollout) (mode : Mode) (started : Instant) (source : IntentSource)
    (requested : List String) : Plan.Mirrors
      (Abreast (opening (rollout.under mode true) requested) (opening (rollout.under .headless false) requested) Onward)
      (preparing (rollout.under mode true) started source requested)
      (preparing (rollout.under .headless false) started source requested) := by
  have locked : Step.Locked (opening (rollout.under mode true) requested)
      (opening (rollout.under .headless false) requested)
      (prepare (rollout.under mode true) started source requested)
      (prepare (rollout.under .headless false) started source requested) :=
    locked_prepare rollout mode true false started source requested
  have mirrors := locked {} [] 0
  rw [List.append_nil, List.append_nil] at mirrors
  exact mirrors

private theorem runs_complete {targets : List String} {conclusion : Conclusion}
    (ran : Working.Runs (complete rollout started (.ok (intent, targets, objectives, compilation))) before trace
      conclusion after) :
    ∃ served result standing ended, trace = served ++ ended ∧
      ServingAll rollout started intent compilation objectives targets before served result standing ∧
      Concluding rollout started result standing ended conclusion := by
  obtain ⟨served, result, standing, ended, rfl, serving, concluding⟩ := ran.bind
  exact ⟨served, result, standing, ended, rfl, runs_processTargets serving, runs_conclude concluding⟩

private theorem runs_complete_error {halt : Halt} {conclusion : Conclusion}
    (ran : Working.Runs (complete rollout started (.error halt)) before trace conclusion after) :
    Concluding rollout started (.error halt) before trace conclusion := runs_conclude ran

/-- How an attempt stands that was not told to stop before its targets. -/
inductive Prepared (rollout : Rollout) :
    Except Halt (Intent × List String × Gate × Compilation) → Standing → Prop where
  | failed {phase error standing} (early : phase ∈ [Phase.snapshot, .validate, .render])
      (clean : standing.mutated = false) (unrendered : standing.compilation = none) :
      Prepared rollout (.error (.failed phase error)) standing
  | ready {intent targets objectives compilation standing} (clean : standing.mutated = false)
      (rendered : standing.compilation = some compilation)
      (recorded : standing.details = { targets, checksums := compilation.checksums })
      (stated : Gate.read rollout.options.slo = .ok objectives) (distinct : targets.Nodup) :
      Prepared rollout (.ok (intent, targets, objectives, compilation)) standing

private theorem not_undisturbed_of_entered {phase : Phase} {halt : Halt}
    (entered : Entered rollout phase trace (.error halt)) : ¬ Undisturbed trace := by
  intro quiet
  cases entered <;> simp [Undisturbed, Exchange.halt?] at quiet

private theorem runs_prepare {source : IntentSource} {requested : List String}
    {result : Except Halt (Intent × List String × Gate × Compilation)}
    (ran : Step.Runs (prepare rollout started source requested) {} trace result after) (quiet : Undisturbed trace) :
    Prepared rollout result after := by
  obtain ⟨halt, rfl, stopped⟩ | ⟨first, _, remembered, rest, rfl, snapshotting, onward⟩ := Step.runs_bind ran
  · cases runs_takeSnapshot stopped with
    | halted entered => exact absurd quiet (not_undisturbed_of_entered entered)
    | refused => exact .failed (by simp) rfl rfl
  replace snapshotting := runs_takeSnapshot snapshotting
  replace quiet := quiet.right
  obtain ⟨halt, rfl, stopped⟩ | ⟨second, ⟨intent, targets, objectives⟩, valid, rest, rfl, validating, onward⟩ :=
    Step.runs_bind onward
  · cases snapshotting with
    | taken =>
      cases runs_validate stopped with
      | halted entered => exact absurd quiet (not_undisturbed_of_entered entered)
      | unreadable | malformed | refused => exact .failed (by simp) rfl rfl
  replace validating := runs_validate validating
  replace quiet := quiet.right
  obtain ⟨halt, rfl, stopped⟩ | ⟨third, compilation, rendered, rest, rfl, rendering, ended⟩ := Step.runs_bind onward
  · cases snapshotting with
    | taken =>
      cases validating with
      | accepted =>
        cases runs_render stopped with
        | halted entered => exact absurd quiet (not_undisturbed_of_entered entered)
        | refused => exact .failed (by simp) rfl rfl
  · obtain ⟨rfl, rfl, rfl⟩ := Step.runs_pure ended
    cases snapshotting with
    | taken =>
      cases validating with
      | accepted _ _ _ accepted =>
        obtain ⟨-, resolved, stated⟩ := accept_eq_ok.mp accepted
        cases runs_render rendering with
        | compiled => exact .ready rfl rfl rfl stated (targets_nodup resolved)

/-- Nothing but being told to stop can stop a dry run at a target, and it commits nothing there. -/
theorem Serving.rehearsed {target : String} {result : Except Halt Unit}
    (serving : Serving rollout started intent compilation objectives target before trace result after)
    (dry : rollout.options.dryRun = true) (quiet : Undisturbed trace) :
    result = .ok () ∧ after.details.published = before.details.published ++ [⟨target, none⟩] := by
  cases serving with
  | unpublished publishing =>
    cases publishing with
    | halted entered => exact absurd quiet (not_undisturbed_of_entered entered)
    | refused _ real => simp [dry] at real
  | unverified _ verifying =>
    cases verifying with
    | halted entered => exact absurd quiet.right (not_undisturbed_of_entered entered)
    | interrupted _ real | diverged _ real => simp [dry] at real
  | gated publishing verifying gating =>
    cases publishing with
    | published _ real => simp [dry] at real
    | rehearsed =>
      have kept := verifying.details_eq
      cases gating with
      | halted entered => exact absurd quiet.right.right (not_undisturbed_of_entered entered)
      | rehearsed => exact ⟨rfl, by dsimp only; rw [kept]⟩
      | interrupted _ real | passed _ real | violated _ real | unclear _ real => simp [dry] at real

theorem ServingAll.rehearsed {targets : List String} {result : Except Halt Unit}
    (serving : ServingAll rollout started intent compilation objectives targets before trace result after)
    (dry : rollout.options.dryRun = true) (quiet : Undisturbed trace) :
    result = .ok () ∧ after.details.published = before.details.published ++ targets.map (⟨·, none⟩) := by
  induction serving with
  | done => exact ⟨rfl, (List.append_nil _).symm⟩
  | stopped serving => cases (serving.rehearsed dry quiet).1
  | passed serving _ ih =>
    obtain ⟨passed, published⟩ := ih quiet.right
    rw [published, (serving.rehearsed dry quiet.left).2, List.append_assoc]
    exact ⟨passed, rfl⟩

end Attempt

/-- What stops an attempt at its targets: a failure there, or being told to stop. -/
def Halt.Late : Halt → Prop
  | .failed phase _ => phase.target?.isSome = true
  | .declined => False
  | .cancelled => True

namespace Attempt

private theorem late_of_entered {phase : Phase} {halt : Halt} (entered : Entered rollout phase trace (.error halt))
    (free : rollout.needsConsent phase = false) : halt.Late := by
  cases entered with
  | interrupted | withdrawn => trivial
  | refused asked => simp [free] at asked

theorem Serving.late {target : String} {halt : Halt}
    (serving : Serving rollout started intent compilation objectives target before trace (.error halt) after)
    (free : ∀ phase, rollout.needsConsent phase = false) : halt.Late := by
  cases serving with
  | unpublished publishing =>
    cases publishing with
    | halted entered => exact late_of_entered entered (free _)
    | refused => rfl
  | unverified _ verifying =>
    cases verifying with
    | halted entered => exact late_of_entered entered (free _)
    | interrupted => trivial
    | diverged => rfl
  | gated _ _ gating =>
    cases gating with
    | halted entered => exact late_of_entered entered (free _)
    | interrupted => trivial
    | violated | unclear => rfl

theorem ServingAll.late {targets : List String} {result : Except Halt Unit}
    (serving : ServingAll rollout started intent compilation objectives targets before trace result after)
    (free : ∀ phase, rollout.needsConsent phase = false) {halt : Halt} (halted : result = .error halt) : halt.Late := by
  induction serving with
  | done => cases halted
  | stopped serving =>
    cases halted
    exact serving.late free
  | passed _ _ ih => exact ih halted

private theorem name_of_target {phase : Phase} (targeted : phase.target?.isSome = true) :
    ∀ early ∈ [Phase.snapshot, .validate, .render], phase.name ≠ early.name := by
  cases phase <;> simp_all [Phase.target?, Phase.name]

/-- What is left of an attempt that got as far as its targets says so. -/
theorem Concluding.late {result : Except Halt Unit} {standing : Standing} {conclusion : Conclusion}
    (concluding : Concluding rollout started result standing trace conclusion)
    (late : ∀ halt, result = .error halt → halt.Late) (unmarked : standing.details.phase = none) :
    ∃ report, conclusion.report = some report ∧ conclusion.compilation = standing.compilation ∧
      report.details.targets = standing.details.targets ∧ report.details.checksums = standing.details.checksums ∧
      ∀ early ∈ [Phase.snapshot, .validate, .render], report.details.phase ≠ some early.name := by
  obtain ⟨lines, rfl, _, rfl⟩ | ⟨rfl, _⟩ | ⟨halt, after, lines, rfl, tidying, rfl⟩ := concluding.parted
  · exact ⟨_, rfl, rfl, rfl, rfl, fun early _ => by dsimp only; rw [unmarked]; exact nofun⟩
  · exact (late _ rfl).elim
  · have details := tidying.details_eq
    have compilation := tidying.compilation_eq
    have ended := late halt rfl
    refine ⟨_, rfl, ?_⟩
    dsimp only [conclusionOf]
    rw [details, compilation]
    cases halt with
    | failed phase error =>
      exact ⟨rfl, rfl, rfl, fun early member same => name_of_target ended early member (Option.some.inj same)⟩
    | declined => exact ended.elim
    | cancelled =>
      have other : ∀ early ∈ [Phase.snapshot, .validate, .render], "CANCELLED" ≠ early.name := by decide
      exact ⟨rfl, rfl, rfl, fun early member same => other early member (Option.some.inj same)⟩

end Attempt

/-- What a dry run and an attempt for real have in common. The attempt for real gets past RENDER if it has a rendering,
and then none of the phases up to that one stopped it. -/
structure Foretold (dry real : Conclusion) (ours theirs : Report) : Prop where
  reported : dry.report = some ours
  answered : real.report = some theirs
  rendered : dry.outcome = .succeeded ↔ real.compilation.isSome = true
  passed : dry.outcome = .succeeded ↔
    ∀ early ∈ [Phase.snapshot, .validate, .render], theirs.details.phase ≠ some early.name
  failed : dry.outcome ≠ .succeeded → dry.outcome = .failed ∧ real.outcome = .failed ∧ theirs.details = ours.details ∧
    ours.details.phase.isSome = true ∧ ours.details.error.isSome = true
  targets : theirs.details.targets = ours.details.targets
  checksums : theirs.details.checksums = ours.details.checksums
  completed : dry.outcome = .succeeded → Completed ours.details.targets ours.details ∧
    ∀ record ∈ ours.details.published, record.revision = none

namespace Attempt

/-- From the same standing before the targets, a dry run comes to what it foretells. -/
theorem foretold_of_prepared {rollout : Rollout} {mode : Mode} {standing before after : Standing}
    {result : Except Halt (Intent × List String × Gate × Compilation)} {trace rest : List Exchange}
    {dry real : Conclusion} (prepared : Prepared (rollout.under mode true) result standing)
    (rehearsing : Working.Runs (complete (rollout.under mode true) started result) standing trace dry before)
    (working : Working.Runs (complete (rollout.under .headless false) started result) standing rest real after)
    (quiet : Undisturbed trace) : ∃ ours theirs, Foretold dry real ours theirs := by
  cases prepared with
  | failed early clean unrendered =>
    obtain ⟨_, ⟨⟨⟩, _⟩ | ⟨_, ⟨⟩, _⟩ | ⟨_, lines, ⟨⟩, rfl⟩⟩ := (runs_complete_error rehearsing).of_clean clean
    obtain ⟨_, ⟨⟨⟩, _⟩ | ⟨_, ⟨⟩, _⟩ | ⟨_, lines', ⟨⟩, rfl⟩⟩ := (runs_complete_error working).of_clean clean
    refine ⟨_, _, rfl, rfl, ⟨nofun, ?_⟩, ⟨nofun, ?_⟩, fun _ => ⟨rfl, rfl, rfl, rfl, rfl⟩, rfl, rfl, nofun⟩
    · intro rendered
      have kept : standing.compilation.isSome = true := rendered
      rw [unrendered] at kept
      cases kept
    · intro passed
      exact absurd rfl (passed _ early)
  | @ready intent targets objectives compilation _ clean rendered recorded stated distinct =>
    obtain ⟨served, result, ended, concluded, rfl, serving, concluding⟩ := runs_complete rehearsing
    obtain ⟨rfl, published⟩ := serving.rehearsed rfl quiet.left
    obtain ⟨lines, _, _, rfl⟩ | ⟨⟨⟩, _⟩ | ⟨_, _, _, ⟨⟩, _⟩ := concluding.parted
    obtain ⟨_, _, ended', _, rfl, serving', concluding'⟩ := runs_complete working
    have ours := serving.details_eq stated
    have theirs := serving'.details_eq stated
    have documented := serving.documented recorded stated distinct
    obtain ⟨report, reported, compilation', targets', checksums', passed⟩ := concluding'.late
      (fun halt => serving'.late fun phase => headless_needsConsent rollout false phase) (by rw [theirs, recorded])
    refine ⟨_, report, rfl, reported, ⟨fun _ => ?_, fun _ => rfl⟩, ⟨fun _ => passed, fun _ => rfl⟩,
      fun failed => absurd rfl failed, ?_, ?_, fun _ => ⟨documented.completed rfl, ?_⟩⟩
    · rw [compilation', serving'.compilation_eq, rendered]
      rfl
    · dsimp only
      rw [targets', theirs, ours]
    · dsimp only
      rw [checksums', theirs, ours]
    · intro record member
      dsimp only at member
      rw [published, recorded] at member
      obtain ⟨target, _, rfl⟩ := List.mem_map.mp member
      rfl

end Attempt

/-- A dry run touches nothing, whatever its mode and its environment, and unless shutdown is requested, it foretells
what the attempt for real comes to in the same environment. -/
theorem Rollout.dry_run_foretells {σ : Type} (rollout : Rollout) (mode : Mode) (started : Instant)
    (source : IntentSource) (requested : List String)
    (environment : (request : Request) → StateM σ (Timed request.Reply)) (state : σ) :
    let rehearsed := (rollout.under mode true).plan started source requested
    let earnest := (rollout.under .headless false).plan started source requested
    let trace := rehearsed.exchanges environment state
    Untouching rollout.options.retry.attempts trace ∧
      (Undisturbed trace → ∃ ours theirs,
        Foretold (rehearsed.run environment state).1 (earnest.run environment state).1 ours theirs) := by
  have dry : (rollout.under mode true).options.dryRun = true := rfl
  have untouching := Rollout.untouching_of_dryRun dry
    (Plan.run_exchanges environment ((rollout.under mode true).plan started source requested) state)
  refine ⟨untouching, fun quiet => ?_⟩
  have first := Plan.run_exchanges environment
    (Attempt.preparing (rollout.under mode true) started source requested) state
  rcases prepared : (Attempt.preparing (rollout.under mode true) started source requested).run environment state
    with ⟨⟨⟨result, progress⟩, now⟩, later⟩
  rcases prepared' : (Attempt.preparing (rollout.under .headless false) started source requested).run environment state
    with ⟨⟨⟨result', progress'⟩, now'⟩, later'⟩
  obtain ⟨rest, after, split, rehearsing⟩ := Attempt.runs_parts prepared
  obtain ⟨rest', after', _, working⟩ := Attempt.runs_parts prepared'
  rw [split] at untouching quiet
  obtain ⟨_, values, _⟩ := (Attempt.mirrors_preparing rollout mode started source requested).same
    fun exchange member => untouching.unasked exchange (List.mem_append_left _ member)
  rw [prepared] at values first
  rw [prepared'] at values
  cases values with
  | intro onward =>
    obtain ⟨rfl, _⟩ := onward
    have kept := Attempt.runs_prepare ⟨_, _, _, _, first⟩ quiet.left
    exact Attempt.foretold_of_prepared kept rehearsing working quiet.right

/-- The second target is too slow, which no dry run can see. -/
theorem Rollout.slow_target_rehearsed :
    (Rehearsal.secondSlow.run (Rollout.unattended.under .safe true).both).1.outcome = .succeeded ∧
      (Rehearsal.secondSlow.run (Rollout.unattended.under .headless false).both).1.outcome = .failed ∧
      Undisturbed (Rehearsal.secondSlow.exchanges (Rollout.unattended.under .safe true).both) ∧
      ∃ ours theirs, Foretold (Rehearsal.secondSlow.run (Rollout.unattended.under .safe true).both).1
        (Rehearsal.secondSlow.run (Rollout.unattended.under .headless false).both).1 ours theirs := by
  have quiet : Undisturbed (Rehearsal.secondSlow.exchanges (Rollout.unattended.under .safe true).both) := by
    unfold Undisturbed
    decide +kernel
  have foretells := Rollout.dry_run_foretells Rollout.unattended .safe ⟨0, 0⟩ .forBoth [] Rehearsal.environment
    Rehearsal.secondSlow
  exact ⟨by decide +kernel, by decide +kernel, quiet, foretells.2 quiet⟩

end IntentRollout
