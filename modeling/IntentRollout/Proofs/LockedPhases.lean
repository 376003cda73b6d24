import IntentRollout.Proofs.LockedWork

/-! The phases of an attempt in lock step. Neither the mode nor whether it is done for real makes a difference to what
an attempt does before its targets, consent apart, and the mode makes none after that. -/

namespace IntentRollout

def Rollout.under (rollout : Rollout) (mode : Mode) (dryRun : Bool) : Rollout :=
  { rollout with options := { rollout.options with mode, dryRun } }

namespace Attempt

variable {ours theirs : List (Nat × LogEntry)} (rollout : Rollout) (mode : Mode) (dry real : Bool)

theorem headless_needsConsent (phase : Phase) : (rollout.under .headless dry).needsConsent phase = false := by
  simp [Rollout.needsConsent, Rollout.under]

/-- What entering a phase is like when consent is asked for. -/
theorem enter_asked {phase : Phase} (asked : rollout.needsConsent phase = true) (standing : Standing)
    (log : List (Nat × LogEntry)) (now : Nat) :
    (enter rollout phase).run ⟨standing, log⟩ now = .ask .shutdown fun first =>
      if first.value then .done ((.error .cancelled, ⟨{ standing with phase }, log⟩), first.now)
      else .ask (.confirm phase) fun answer =>
        if answer.value then .ask .shutdown fun second =>
          .done ((if second.value then .error .cancelled else .ok (), ⟨{ standing with phase }, log⟩), second.now)
        else .done ((.error .declined,
          ⟨{ standing with phase }, log ++ [(answer.now, ⟨.warn, "Checkpoint " ++ phase.written ++ " declined"⟩)]⟩),
          answer.now) := by
  rw [enter, asked]
  refine congrArg (Plan.ask .shutdown) (funext fun first => ?_)
  obtain ⟨stop, time⟩ := first
  cases stop with
  | true => rfl
  | false =>
    refine congrArg (Plan.ask (.confirm phase)) (funext fun answer => ?_)
    obtain ⟨consent, later⟩ := answer
    cases consent with
    | false => rfl
    | true =>
      refine congrArg (Plan.ask .shutdown) (funext fun second => ?_)
      obtain ⟨stop, last⟩ := second
      cases stop <;> rfl

private theorem enter_free {phase : Phase} (free : rollout.needsConsent phase = false) (standing : Standing)
    (log : List (Nat × LogEntry)) (now : Nat) :
    (enter rollout phase).run ⟨standing, log⟩ now = .ask .shutdown fun first =>
      .done ((if first.value then .error .cancelled else .ok (), ⟨{ standing with phase }, log⟩), first.now) := by
  rw [enter, free]
  refine congrArg (Plan.ask .shutdown) (funext fun first => ?_)
  obtain ⟨stop, time⟩ := first
  cases stop <;> rfl

/-- Where one mode asks for consent, the look after it finds what the look before it did. -/
theorem locked_enter (phase : Phase) : Step.Locked ours theirs
    (enter (rollout.under mode dry) phase) (enter (rollout.under .headless real) phase) := by
  intro standing log now
  have ends (first : Timed Bool) : Plan.Mirrors (Abreast ours theirs Onward)
      (.done ((if first.value then .error .cancelled else .ok (), ⟨{ standing with phase }, ours ++ log⟩), first.now))
      (.done ((if first.value then .error .cancelled else .ok (), ⟨{ standing with phase }, theirs ++ log⟩),
        first.now)) :=
    .done (.intro ⟨rfl, by split <;> nofun⟩)
  rw [enter_free _ (headless_needsConsent rollout real phase)]
  cases asked : (rollout.under mode dry).needsConsent phase with
  | false =>
    rw [enter_free _ asked]
    exact .ask nofun ends
  | true =>
    rw [enter_asked _ asked]
    refine .consulted phase _ (fun _ _ second => _) ?_ (fun first quiet => if_neg (by simp [quiet]))
      (fun first answer consent => if_pos consent) fun first _ _ => ends first
    intro first stop
    rw [if_pos stop]
    simpa only [stop, if_true] using ends first

private theorem locked_takeSnapshot : Step.Locked ours theirs
    (takeSnapshot (rollout.under mode dry)) (takeSnapshot (rollout.under .headless real)) :=
  .bind (locked_enter rollout mode dry real .snapshot) fun _ =>
  .bind (.note _ _) fun _ =>
  .bind (.time (Timeline.plain_deliver _ (Timeline.plain_ask nofun))) fun _ =>
  .bind (.require _ _ _) fun _ =>
  .bind (.note _ _) fun _ => .advance _

private theorem locked_readDocument (source : IntentSource) :
    Step.Locked ours theirs (readDocument source) (readDocument source) := by
  cases source with
  | file path => exact .bind (.note _ _) fun _ => .bind (.ask nofun) fun _ => .require _ _ _
  | document document => exact .bind (.note _ _) fun _ => .pure _

private theorem locked_validate (source : IntentSource) (requested : List String) : Step.Locked ours theirs
    (validate (rollout.under mode dry) source requested) (validate (rollout.under .headless real) source requested) :=
  .bind (locked_enter rollout mode dry real .validate) fun _ =>
  .bind (locked_readDocument source) fun _ =>
  .bind (.advance _) fun _ =>
  .bind (.require _ _ _) fun _ =>
  .bind (.require _ _ _) fun _ =>
  .bind (.note _ _) fun _ =>
  .bind (.record _) fun _ => .pure _

private theorem locked_noteWarnings (compilation : Compilation) :
    Locked ours theirs Eq (noteWarnings compilation) (noteWarnings compilation) := by
  rw [noteWarnings]
  induction compilation.warnings with
  | nil => exact .pure rfl
  | cons warning rest ih => exact .bind_eq (.note _ _) fun _ => ih

private theorem locked_render (started : Instant) (intent : Intent) (targets : List String) : Step.Locked ours theirs
    (render (rollout.under mode dry) started intent targets)
    (render (rollout.under .headless real) started intent targets) :=
  .bind (locked_enter rollout mode dry real .render) fun _ =>
  .bind (.note _ _) fun _ =>
  .bind (.require _ _ _) fun compilation =>
  .bind (.lift (locked_noteWarnings compilation)) fun _ =>
  .bind (.note _ _) fun _ =>
  .bind (.record _) fun _ =>
  .bind (.advance _) fun _ => .pure _

def prepare (rollout : Rollout) (started : Instant) (source : IntentSource) (requested : List String) :
    Step (Intent × List String × Gate × Compilation) := do
  takeSnapshot rollout
  let (intent, targets, objectives) ← validate rollout source requested
  let compilation ← render rollout started intent targets
  pure (intent, targets, objectives, compilation)

theorem drive_eq (started : Instant) (source : IntentSource) (requested : List String) :
    drive rollout started source requested = prepare rollout started source requested >>=
      fun (intent, targets, objectives, compilation) =>
        targets.forM (processTarget rollout started intent compilation objectives) := by
  rw [drive, prepare, bind_assoc]
  refine bind_congr fun _ => ?_
  rw [bind_assoc]
  refine bind_congr fun (intent, targets, objectives) => ?_
  dsimp only
  rw [bind_assoc]
  refine bind_congr fun compilation => ?_
  rw [pure_bind]

theorem locked_prepare (started : Instant) (source : IntentSource) (requested : List String) :
    Step.Locked ours theirs (prepare (rollout.under mode dry) started source requested)
      (prepare (rollout.under .headless real) started source requested) :=
  .bind (locked_takeSnapshot rollout mode dry real) fun _ =>
  .bind (locked_validate rollout mode dry real source requested) fun (intent, targets, _) =>
  .bind (locked_render rollout mode dry real started intent targets) fun _ => .pure _

variable (started : Instant) (intent : Intent) (compilation : Compilation) (target : String)

private theorem locked_publish : Step.Locked ours theirs
    (publish (rollout.under mode dry) started intent compilation target)
    (publish (rollout.under .headless dry) started intent compilation target) := by
  refine .bind (locked_enter rollout mode dry dry (.publish target)) fun _ => .bind (.note _ _) fun _ => ?_
  change Step.Locked _ _ (if dry then _ else _) (if dry then _ else _)
  split
  · exact .bind (.note _ _) fun _ => .bind (.record _) fun _ => .pure _
  · refine .bind (.advance _) fun _ =>
      .bind (.time (Timeline.plain_deliver _ (Timeline.plain_ask nofun))) fun result =>
      .bind (.require _ _ _) fun revision => ?_
    cases revision with
    | none => exact .bind (.note _ _) fun _ => .bind (.record _) fun _ => .pure _
    | some revision => exact .bind (.note _ _) fun _ => .bind (.record _) fun _ => .pure _

private theorem locked_verify (revision : Option String) : Step.Locked ours theirs
    (verify (rollout.under mode dry) target revision) (verify (rollout.under .headless dry) target revision) := by
  refine .bind (locked_enter rollout mode dry dry (.verify target)) fun _ => ?_
  change Step.Locked _ _ (if dry then _ else _) (if dry then _ else _)
  split
  · exact .note _ _
  · refine .bind (.note _ _) fun _ => .bind (.time (Timeline.plain_await _ _ _ _)) fun convergence => ?_
    split
    · exact .note _ _
    · split
      · exact .throw nofun
      · exact .throw nofun

private theorem locked_gate (objectives : Gate) : Step.Locked ours theirs
    (gate (rollout.under mode dry) objectives target) (gate (rollout.under .headless dry) objectives target) := by
  refine .bind (locked_enter rollout mode dry dry (.gate target)) fun _ => .bind (.note _ _) fun _ => ?_
  change Step.Locked _ _ (if dry then _ else _) (if dry then _ else _)
  split
  · exact .bind (.note _ _) fun _ => .record _
  · refine .bind (.ask nofun) fun reply => ?_
    cases reply with
    | none => exact .throw nofun
    | some fetched =>
      refine .bind (.record _) fun _ => ?_
      cases objectives.check fetched with
      | ok => exact .note _ _
      | error error =>
        cases error with
        | violated violations =>
          exact .bind (.note _ _) fun _ => .bind (.record _) fun _ => .throw nofun
        | _ => exact .bind (.note _ _) fun _ => .throw nofun

private theorem locked_processTarget (objectives : Gate) : Step.Locked ours theirs
    (processTarget (rollout.under mode dry) started intent compilation objectives target)
    (processTarget (rollout.under .headless dry) started intent compilation objectives target) :=
  .bind (.note _ _) fun _ =>
  .bind (locked_publish rollout mode dry started intent compilation target) fun revision =>
  .bind (locked_verify rollout mode dry target revision) fun _ => locked_gate rollout mode dry target objectives

theorem locked_drive (source : IntentSource) (requested : List String) : Step.Locked ours theirs
    (drive (rollout.under mode dry) started source requested)
    (drive (rollout.under .headless dry) started source requested) := by
  rw [drive_eq, drive_eq]
  exact .bind (locked_prepare rollout mode dry dry started source requested)
    fun (intent, _, objectives, compilation) =>
      .forM fun target => locked_processTarget rollout mode dry started intent compilation target objectives

def modeEntry (requested : List String) : LogEntry :=
  ⟨.info, "Mode: " ++ rollout.options.mode.name ++ ", Targets: " ++ requestedText requested ++
    ", Dry run: " ++ toString rollout.options.dryRun⟩

/-- The entries with which the log of an attempt starts. -/
def opening (requested : List String) : List (Nat × LogEntry) :=
  [(0, ⟨.info, "edgeflow rollout starting"⟩), (0, modeEntry rollout requested)]

theorem plan_eq (source : IntentSource) (requested : List String) : rollout.plan started source requested =
    Plan.bind (((drive rollout started source requested).run >>= conclude rollout started)
      ⟨{}, opening rollout requested⟩ 0) fun ended => .done ended.1.1 := rfl

end Attempt

end IntentRollout
