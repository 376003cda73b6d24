import IntentRollout.Proofs.ArtifactNames
import IntentRollout.Proofs.AttemptRuns

/-! How far an attempt comes before its targets. The exchanges tell whether the document of the intent was read, and
the document whether it was rendered; the report is written with just these. -/

namespace IntentRollout

namespace Attempt

variable (rollout : Rollout) (started : Instant) (source : IntentSource) (requested : List String)

inductive Reading : List Exchange → Option Json → Prop where
  | unremembered {trace halt standing} (snapshotting : Snapshotting rollout {} trace (.error halt) standing) :
      Reading trace none
  | halted {first remembered rest halt} (snapshotting : Snapshotting rollout {} first (.ok ()) remembered)
      (entered : Entered rollout .validate rest (.error halt)) : Reading (first ++ rest) none
  | unreadable {first remembered second path error time} (named : source = .file path)
      (snapshotting : Snapshotting rollout {} first (.ok ()) remembered)
      (entered : Entered rollout .validate second (.ok ())) :
      Reading (first ++ (second ++ [⟨.document path, ⟨.error error, time⟩⟩])) none
  | read {first remembered second rest document} (snapshotting : Snapshotting rollout {} first (.ok ()) remembered)
      (entered : Entered rollout .validate second (.ok ())) (provided : Provided source rest document) :
      Reading (first ++ (second ++ rest)) (some document)

inductive Compiling : Option Json → List Exchange → Option Compilation → Prop where
  | unread : Compiling none [] none
  | malformed {document error} (malformed : Intent.ofJson document = .error error) : Compiling (some document) [] none
  | refused {document intent error} (read : Intent.ofJson document = .ok intent)
      (refused : accept rollout intent requested = .error error) : Compiling (some document) [] none
  | halted {document intent targets objectives trace halt} (read : Intent.ofJson document = .ok intent)
      (accepted : accept rollout intent requested = .ok (targets, objectives))
      (entered : Entered rollout .render trace (.error halt)) : Compiling (some document) trace none
  | failed {document intent targets objectives trace error} (read : Intent.ofJson document = .ok intent)
      (accepted : accept rollout intent requested = .ok (targets, objectives))
      (entered : Entered rollout .render trace (.ok ()))
      (failed : rollout.config.compileFor started intent targets = .error error) : Compiling (some document) trace none
  | rendered {document intent targets objectives trace compilation} (read : Intent.ofJson document = .ok intent)
      (accepted : accept rollout intent requested = .ok (targets, objectives))
      (entered : Entered rollout .render trace (.ok ()))
      (compiled : rollout.config.compileFor started intent targets = .ok compilation) :
      Compiling (some document) trace (some compilation)

/-- The exchanges of an attempt begin with the reading and the rendering of its intent. -/
def Opening (trace : List Exchange) (document : Option Json) (compilation : Option Compilation) : Prop :=
  ∃ reading compiling rest, trace = reading ++ (compiling ++ rest) ∧ Reading rollout source reading document ∧
    Compiling rollout started requested document compiling compilation

variable {rollout started source requested} {trace : List Exchange}

theorem Driving.opening {result : Except Halt Unit} {standing : Standing}
    (driving : Driving rollout started source requested {} trace result standing) :
    Opening rollout started source requested trace standing.document standing.compilation := by
  have blank {trace : List Exchange} {result : Except Halt Unit} {after : Standing}
      (snapshotting : Snapshotting rollout {} trace result after) : after.prepared = (none, none) := by
    cases snapshotting <;> rfl
  cases driving with
  | unremembered snapshotting =>
    obtain ⟨document, compilation⟩ := Prod.mk.inj (blank snapshotting)
    rw [document, compilation]
    exact ⟨trace, [], [], (List.append_nil _).symm, .unremembered snapshotting, .unread⟩
  | invalid snapshotting validating =>
    obtain ⟨document, compilation⟩ := Prod.mk.inj (blank snapshotting)
    cases validating with
    | halted entered =>
      dsimp only
      rw [document, compilation]
      exact ⟨_, [], [], (List.append_nil _).symm, .halted snapshotting entered, .unread⟩
    | unreadable entered named =>
      dsimp only
      rw [document, compilation]
      exact ⟨_, [], [], (List.append_nil _).symm, .unreadable named snapshotting entered, .unread⟩
    | malformed entered provided malformed =>
      dsimp only
      rw [compilation]
      exact ⟨_, [], [], (List.append_nil _).symm, .read snapshotting entered provided, .malformed malformed⟩
    | refused entered provided read refused =>
      dsimp only
      rw [compilation]
      exact ⟨_, [], [], (List.append_nil _).symm, .read snapshotting entered provided, .refused read refused⟩
  | unrendered snapshotting validating rendering =>
    obtain ⟨document, compilation⟩ := Prod.mk.inj (blank snapshotting)
    cases validating with
    | accepted entered provided read accepted =>
      have reading := Reading.read snapshotting entered provided
      cases rendering with
      | halted stopped =>
        dsimp only
        rw [compilation]
        exact ⟨_, _, [], by simp, reading, .halted read accepted stopped⟩
      | refused rendering failed =>
        dsimp only
        rw [compilation]
        exact ⟨_, _, [], by simp, reading, .failed read accepted rendering failed⟩
  | served snapshotting validating rendering serving =>
    obtain ⟨document, compilation⟩ := Prod.mk.inj serving.prepared_eq
    cases validating with
    | accepted entered provided read accepted =>
      cases rendering with
      | compiled rendering compiled =>
        rw [document, compilation, ← List.append_assoc]
        exact ⟨_, _, _, rfl, .read snapshotting entered provided, .rendered read accepted rendering compiled⟩

/-- What was rendered is in order if the names of the sites lead down. -/
theorem Opening.orderly {document : Option Json} {compilation : Option Compilation}
    (opening : Opening rollout started source requested trace document compilation)
    (plain : ∀ site ∈ rollout.config.siteNames, Path.Plain site) : ∀ made ∈ compilation, made.Orderly := by
  obtain ⟨_, _, _, _, _, compiling⟩ := opening
  intro made rendered
  cases rendered
  cases compiling with
  | rendered read _ _ compiled =>
    obtain ⟨groups, resolved, found, bundles⟩ := Config.compiled_of_compileFor compiled
    refine Compilation.orderly_of_compileFor read compiled fun site member => plain site ?_
    exact Config.configured_of_mapM resolved site
      ((bundles.mem_keys found (Config.configured_of_mapM resolved) site).mp member)

end Attempt

/-- The report of an attempt is written with what was read and what was rendered. -/
theorem Rollout.opening_of_run {rollout : Rollout} {started : Instant} {source : IntentSource}
    {requested : List String} {trace : List Exchange} {conclusion : Conclusion} {report : Report}
    (ran : (rollout.plan started source requested).Run trace conclusion) (reported : conclusion.report = some report) :
    report.timestamp = started.stamp ∧ Attempt.Opening rollout started source requested trace conclusion.document
      conclusion.compilation := by
  obtain ⟨driven, result, standing, ended, rfl, driving, concluding⟩ := Rollout.run_plan ran
  obtain ⟨stamped, same⟩ := concluding.prepared_eq reported
  obtain ⟨document, compilation⟩ := Prod.mk.inj same
  obtain ⟨reading, compiling, rest, rfl, read, compiled⟩ := driving.opening
  refine ⟨stamped, reading, compiling, rest ++ ended, by simp, ?_, ?_⟩
  · rwa [document]
  · rwa [document, compilation]

end IntentRollout
