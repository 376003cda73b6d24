import IntentRollout.Proofs.DeliveryRetries

/-! What each phase of an attempt can do. A phase is described by its exchanges, by what it ends
with and by how the attempt stands then, one constructor for each way through it. -/

namespace IntentRollout

/-- Going on to a phase: shutdown is looked for, and again after consent. -/
inductive Entered (rollout : Rollout) (phase : Phase) : List Exchange → Except Halt Unit → Prop where
  | interrupted {time} : Entered rollout phase [⟨.shutdown, ⟨true, time⟩⟩] (.error .cancelled)
  | free {time} (free : rollout.needsConsent phase = false) :
      Entered rollout phase [⟨.shutdown, ⟨false, time⟩⟩] (.ok ())
  | refused {time later} (asked : rollout.needsConsent phase = true) :
      Entered rollout phase [⟨.shutdown, ⟨false, time⟩⟩, ⟨.confirm phase, ⟨false, later⟩⟩]
        (.error .declined)
  | withdrawn {time later last} (asked : rollout.needsConsent phase = true) :
      Entered rollout phase [⟨.shutdown, ⟨false, time⟩⟩, ⟨.confirm phase, ⟨true, later⟩⟩,
        ⟨.shutdown, ⟨true, last⟩⟩] (.error .cancelled)
  | agreed {time later last} (asked : rollout.needsConsent phase = true) :
      Entered rollout phase [⟨.shutdown, ⟨false, time⟩⟩, ⟨.confirm phase, ⟨true, later⟩⟩,
        ⟨.shutdown, ⟨false, last⟩⟩] (.ok ())

namespace Attempt

open Step

variable {rollout : Rollout} {before after : Standing} {trace : List Exchange}

private theorem runs_heed {result : Except Halt Unit} (ran : Runs heed before trace result after) :
    after = before ∧ ∃ requested time, trace = [⟨.shutdown, ⟨requested, time⟩⟩] ∧
      result = if requested then .error .cancelled else .ok () := by
  obtain ⟨⟨requested, time⟩, rest, rfl, onward⟩ := runs_ask_bind ran
  cases requested with
  | true =>
    obtain ⟨rfl, rfl, rfl⟩ := runs_throw onward
    exact ⟨rfl, true, time, rfl, rfl⟩
  | false =>
    obtain ⟨rfl, rfl, rfl⟩ := runs_pure onward
    exact ⟨rfl, false, time, rfl, rfl⟩

private theorem runs_heed_bind {β : Type} {next : Unit → Step β} {result : Except Halt β}
    (ran : Runs (heed >>= next) before trace result after) :
    (∃ time, trace = [⟨.shutdown, ⟨true, time⟩⟩] ∧ result = .error .cancelled ∧ after = before) ∨
      ∃ time rest, trace = ⟨.shutdown, ⟨false, time⟩⟩ :: rest ∧
        Runs (next ()) before rest result after := by
  obtain ⟨halt, rfl, stopped⟩ | ⟨first, value, standing, rest, rfl, earlier, later⟩ := runs_bind ran
  · obtain ⟨rfl, requested, time, rfl, same⟩ := runs_heed stopped
    cases requested <;> cases same
    exact .inl ⟨time, rfl, rfl, rfl⟩
  · obtain ⟨rfl, requested, time, rfl, same⟩ := runs_heed earlier
    cases requested <;> cases same
    exact .inr ⟨time, rest, rfl, later⟩

private theorem runs_enter {phase : Phase} {result : Except Halt Unit}
    (ran : Runs (enter rollout phase) before trace result after) :
    after = { before with phase } ∧ Entered rollout phase trace result := by
  obtain ⟨time, rfl, rfl, rfl⟩ | ⟨time, rest, rfl, onward⟩ := runs_heed_bind (runs_advance_bind ran)
  · exact ⟨rfl, .interrupted⟩
  · cases asked : rollout.needsConsent phase with
    | false =>
      simp only [asked, Bool.false_eq_true, if_false] at onward
      obtain ⟨rfl, rfl, rfl⟩ := runs_pure onward
      exact ⟨rfl, .free asked⟩
    | true =>
      simp only [asked, if_true] at onward
      obtain ⟨⟨consent, later⟩, rest, rfl, answered⟩ := runs_ask_bind onward
      cases consent with
      | true =>
        obtain ⟨rfl, requested, last, rfl, rfl⟩ := runs_heed answered
        cases requested with
        | true => exact ⟨rfl, .withdrawn asked⟩
        | false => exact ⟨rfl, .agreed asked⟩
      | false =>
        obtain ⟨rfl, rfl, rfl⟩ := runs_throw (runs_note_bind answered)
        exact ⟨rfl, .refused asked⟩

theorem runs_enter_bind {phase : Phase} {β : Type} {next : Unit → Step β} {result : Except Halt β}
    (ran : Runs (enter rollout phase >>= next) before trace result after) :
    (∃ halt, result = .error halt ∧ Entered rollout phase trace (.error halt) ∧
        after = { before with phase }) ∨
      ∃ first rest, trace = first ++ rest ∧ Entered rollout phase first (.ok ()) ∧
        Runs (next ()) { before with phase } rest result after := by
  obtain ⟨halt, rfl, stopped⟩ | ⟨first, value, standing, rest, split, earlier, later⟩ := runs_bind ran
  · obtain ⟨same, entered⟩ := runs_enter stopped
    exact .inl ⟨halt, rfl, entered, same⟩
  · obtain ⟨rfl, entered⟩ := runs_enter earlier
    exact .inr ⟨first, rest, split, entered, later⟩

end Attempt

namespace Exchange

abbrev snapshot (reply : Timed (Except DeliveryError String)) : Exchange := ⟨.snapshot, reply⟩

abbrev publish (site : String) (files : List RenderedFile) (message : String)
    (reply : Timed (Except DeliveryError (Option String))) : Exchange :=
  ⟨.publish site files message, reply⟩

abbrev reset (head : String) (reply : Timed (Except DeliveryError Unit)) : Exchange :=
  ⟨.reset head, reply⟩

end Exchange

namespace Attempt

open Step

variable (rollout : Rollout)

inductive Snapshotting (before : Standing) :
    List Exchange → Except Halt Unit → Standing → Prop where
  | halted {trace halt} (entered : Entered rollout .snapshot trace (.error halt)) :
      Snapshotting before trace (.error halt) { before with phase := .snapshot }
  | refused {first rest error} (entered : Entered rollout .snapshot first (.ok ()))
      (tried : Tried .snapshot rollout.options.retry.attempts rest (.error error)) :
      Snapshotting before (first ++ rest) (.error (.failed .snapshot (.delivery error)))
        { before with phase := .snapshot }
  | taken {first rest head} (entered : Entered rollout .snapshot first (.ok ()))
      (tried : Tried .snapshot rollout.options.retry.attempts rest (.ok head)) :
      Snapshotting before (first ++ rest) (.ok ())
        { before with phase := .snapshot, snapshot := some head }

inductive Provided : IntentSource → List Exchange → Json → Prop where
  | read {path document time} :
      Provided (.file path) [⟨.document path, ⟨.ok document, time⟩⟩] document
  | given {document} : Provided (.document document) [] document

inductive Validating (source : IntentSource) (requested : List String) (before : Standing) :
    List Exchange → Except Halt (Intent × List String × Gate) → Standing → Prop where
  | halted {trace halt} (entered : Entered rollout .validate trace (.error halt)) :
      Validating source requested before trace (.error halt) { before with phase := .validate }
  | unreadable {first path error time} (entered : Entered rollout .validate first (.ok ()))
      (named : source = .file path) :
      Validating source requested before (first ++ [⟨.document path, ⟨.error error, time⟩⟩])
        (.error (.failed .validate (.intent error))) { before with phase := .validate }
  | malformed {first rest document error} (entered : Entered rollout .validate first (.ok ()))
      (provided : Provided source rest document) (malformed : Intent.ofJson document = .error error) :
      Validating source requested before (first ++ rest) (.error (.failed .validate (.intent error)))
        { before with phase := .validate, document := some document }
  | refused {first rest document intent error} (entered : Entered rollout .validate first (.ok ()))
      (provided : Provided source rest document) (read : Intent.ofJson document = .ok intent)
      (refused : accept rollout intent requested = .error error) :
      Validating source requested before (first ++ rest) (.error (.failed .validate error))
        { before with phase := .validate, document := some document }
  | accepted {first rest document intent targets objectives}
      (entered : Entered rollout .validate first (.ok ())) (provided : Provided source rest document)
      (read : Intent.ofJson document = .ok intent)
      (accepted : accept rollout intent requested = .ok (targets, objectives)) :
      Validating source requested before (first ++ rest) (.ok (intent, targets, objectives))
        { before with
          phase := .validate, document := some document, details := { before.details with targets } }

inductive Rendering (started : Instant) (intent : Intent) (targets : List String)
    (before : Standing) : List Exchange → Except Halt Compilation → Standing → Prop where
  | halted {trace halt} (entered : Entered rollout .render trace (.error halt)) :
      Rendering started intent targets before trace (.error halt) { before with phase := .render }
  | refused {trace error} (entered : Entered rollout .render trace (.ok ()))
      (refused : rollout.config.compileFor started intent targets = .error error) :
      Rendering started intent targets before trace (.error (.failed .render (.compile error)))
        { before with phase := .render }
  | compiled {trace compilation} (entered : Entered rollout .render trace (.ok ()))
      (compiled : rollout.config.compileFor started intent targets = .ok compilation) :
      Rendering started intent targets before trace (.ok compilation)
        { before with
          phase := .render, compilation := some compilation,
          details := { before.details with checksums := compilation.checksums } }

variable {rollout} {before after : Standing} {trace : List Exchange}

theorem runs_takeSnapshot {result : Except Halt Unit}
    (ran : Runs (takeSnapshot rollout) before trace result after) :
    Snapshotting rollout before trace result after := by
  obtain ⟨halt, rfl, entered, rfl⟩ | ⟨first, rest, rfl, entered, onward⟩ := runs_enter_bind ran
  · exact .halted entered
  · obtain ⟨start, finish, tries, result, rest, rfl, delivered, decided⟩ :=
      runs_time_bind (runs_note_bind onward)
    have tried : Tried .snapshot rollout.options.retry.attempts tries result :=
      Timeline.runs_deliver (fun asked => asked.ask) delivered
    obtain ⟨error, rfl, rfl, rfl, rfl⟩ | ⟨head, rfl, taken⟩ := runs_require_bind decided
    · rw [List.append_nil]
      exact .refused entered tried
    · obtain ⟨rfl, rfl, rfl⟩ := runs_advance (runs_note_bind taken)
      rw [List.append_nil]
      exact .taken entered tried

private theorem runs_readDocument {source : IntentSource} {result : Except Halt Json}
    (ran : Runs (readDocument source) before trace result after) :
    after = before ∧
      ((∃ document, result = .ok document ∧ Provided source trace document) ∨
        ∃ path error time, source = .file path ∧ trace = [⟨.document path, ⟨.error error, time⟩⟩] ∧
          result = .error (.failed .validate (.intent error))) := by
  cases source with
  | file path =>
    obtain ⟨⟨reply, time⟩, rest, rfl, read⟩ := runs_ask_bind (runs_note_bind ran)
    cases reply with
    | ok document =>
      obtain ⟨rfl, rfl, rfl⟩ := runs_pure read
      exact ⟨rfl, .inl ⟨document, rfl, .read⟩⟩
    | error error =>
      obtain ⟨rfl, rfl, rfl⟩ := runs_throw read
      exact ⟨rfl, .inr ⟨path, error, time, rfl, rfl, rfl⟩⟩
  | document document =>
    have noted := runs_note_bind ran
    obtain ⟨rfl, rfl, rfl⟩ := runs_pure noted
    exact ⟨rfl, .inl ⟨document, rfl, .given⟩⟩

theorem runs_validate {source : IntentSource} {requested : List String}
    {result : Except Halt (Intent × List String × Gate)}
    (ran : Runs (validate rollout source requested) before trace result after) :
    Validating rollout source requested before trace result after := by
  obtain ⟨halt, rfl, entered, rfl⟩ | ⟨first, rest, rfl, entered, onward⟩ := runs_enter_bind ran
  · exact .halted entered
  · obtain ⟨halt, rfl, stopped⟩ | ⟨reading, document, standing, rest, rfl, read, checked⟩ :=
      runs_bind onward
    · obtain ⟨rfl, ⟨_, impossible, _⟩ | ⟨path, error, time, rfl, rfl, same⟩⟩ := runs_readDocument stopped
      · cases impossible
      · cases same
        exact .unreadable entered rfl
    · obtain ⟨rfl, ⟨_, same, provided⟩ | ⟨_, _, _, _, _, impossible⟩⟩ := runs_readDocument read
      · cases same
        obtain ⟨error, malformed, rfl, rfl, rfl⟩ | ⟨intent, readable, judged⟩ :=
          runs_require_bind (runs_advance_bind checked)
        · rw [List.append_nil]
          exact .malformed entered provided malformed
        · obtain ⟨error, refused, rfl, rfl, rfl⟩ | ⟨⟨targets, objectives⟩, accepted, ended⟩ :=
            runs_require_bind judged
          · rw [List.append_nil]
            exact .refused entered provided readable refused
          · have recorded := runs_record_bind (runs_note_bind ended)
            obtain ⟨rfl, rfl, rfl⟩ := runs_pure recorded
            rw [List.append_nil]
            exact .accepted entered provided readable accepted
      · cases impossible

private theorem runs_noteWarnings {compilation : Compilation} {value : Unit}
    (ran : Working.Runs (noteWarnings compilation) before trace value after) :
    trace = [] ∧ after = before := by
  unfold noteWarnings at ran
  generalize compilation.warnings = warnings at ran
  induction warnings with
  | nil =>
    obtain ⟨rfl, _, rfl⟩ := ran.pure
    exact ⟨rfl, rfl⟩
  | cons warning warnings ih => exact ih ran.note_bind

theorem runs_render {started : Instant} {intent : Intent} {targets : List String}
    {result : Except Halt Compilation}
    (ran : Runs (render rollout started intent targets) before trace result after) :
    Rendering rollout started intent targets before trace result after := by
  obtain ⟨halt, rfl, entered, rfl⟩ | ⟨first, rest, rfl, entered, onward⟩ := runs_enter_bind ran
  · exact .halted entered
  · obtain ⟨error, refused, rfl, rfl, rfl⟩ | ⟨compilation, compiled, noted⟩ :=
      runs_require_bind (runs_note_bind onward)
    · rw [List.append_nil]
      exact .refused entered refused
    · obtain ⟨warned, _, standing, rest, rfl, warnings, recorded⟩ := runs_lift_bind noted
      obtain ⟨rfl, rfl⟩ := runs_noteWarnings warnings
      have compiledNow := runs_advance_bind (runs_record_bind (runs_note_bind recorded))
      obtain ⟨rfl, rfl, rfl⟩ := runs_pure compiledNow
      rw [List.append_nil, List.append_nil]
      exact .compiled entered compiled

end Attempt

end IntentRollout
