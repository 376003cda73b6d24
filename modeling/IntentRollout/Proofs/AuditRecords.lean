import IntentRollout.Proofs.FreeNames
import IntentRollout.Proofs.AttemptOpenings
import IntentRollout.Proofs.ReportChanges
import IntentRollout.Proofs.RollbackLaw

/-! Reports as records that stay. Each attempt writes its report under the first name that is free, so no attempt
touches the records of those before it, whatever they came to and however far their reports got. This is so if the
root of the reports leads down from what is there: where a step up follows a name at which nothing is yet, a name
may seem free that is not. -/

namespace IntentRollout

namespace Conclusion

/-- The report of an attempt is written below a root: to an end, or up to a change that broke off. -/
inductive Writes (conclusion : Conclusion) (root : String) (before : Volume) :
    Except RolloutError (Option String) → Volume → Prop where
  | ended {result after} (ended : (conclusion.write root).on before = (result, after)) :
      Writes conclusion root before result after
  | broken {report error after} (reported : conclusion.report = some report)
      (carried : Carried (Report.uniqueDirectory before root report.timestamp) false
        (report.changes conclusion.document conclusion.compilation) before after) :
      Writes conclusion root before (.error error) after

variable {conclusion : Conclusion} {report : Report} {root : String} {before after : Volume}
  {result : Except RolloutError (Option String)}

theorem Writes.carried (reported : conclusion.report = some report)
    (dotless : Path.endsWithDot (Report.uniqueDirectory before root report.timestamp) = false)
    (plain : ∀ made ∈ conclusion.compilation, ∀ site ∈ made.sites, Path.Plain site)
    (writes : conclusion.Writes root before result after) :
    Carried (Report.uniqueDirectory before root report.timestamp) result.isOk
        (report.changes conclusion.document conclusion.compilation) before after ∧
      ∀ directory, result = .ok directory →
        directory = some (Report.uniqueDirectory before root report.timestamp) := by
  cases writes with
  | broken reported' carried =>
    obtain rfl := Option.some_inj.mp (reported.symm.trans reported')
    exact ⟨carried, nofun⟩
  | ended ended =>
    rw [write, reported] at ended
    dsimp only at ended
    rw [Filing.on_bind] at ended
    cases wrote : (report.write root conclusion.document conclusion.compilation).on before with
    | mk outcome volume =>
      have carried := Report.carried_of_write dotless plain wrote
      rw [wrote] at ended
      cases outcome with
      | error =>
        cases ended
        exact ⟨carried, nofun⟩
      | ok home =>
        cases ended
        refine ⟨carried, fun directory same => ?_⟩
        cases same
        exact congrArg some (Report.directory_of_write wrote)

end Conclusion

/-- Attempts under one configuration, one after the other. Between them all else may change, but no file at the place
of the reports. -/
inductive Attempts (config : Config) (root : String) (place : List String) (first : Volume) : Volume → Prop where
  | none : Attempts config root place first first
  | attempt {rollout started source requested trace conclusion before result after}
      (earlier : Attempts config root place first before) (configured : rollout.config = config)
      (ran : (Rollout.plan rollout started source requested).Run trace conclusion)
      (writes : conclusion.Writes root before result after) : Attempts config root place first after
  | elsewhere {before after} (earlier : Attempts config root place first before)
      (rooted : Report.Rooted root place after)
      (kept : ∀ target, place <+: target → after.file? target = before.file? target) :
      Attempts config root place first after

section Records

variable {rollout : Rollout} {started : Instant} {source : IntentSource} {requested : List String}
  {trace : List Exchange} {conclusion : Conclusion} {report : Report} {root : String} {place : List String}
  {first before after : Volume} {result : Except RolloutError (Option String)}

private theorem Conclusion.Writes.of_unreported (unreported : conclusion.report = none)
    (writes : conclusion.Writes root before result after) : after = before := by
  cases writes with
  | ended ended =>
    rw [Conclusion.on_write_of_none unreported] at ended
    cases ended
    rfl
  | broken reported =>
    rw [unreported] at reported
    cases reported

/-- What one attempt does to the volume when its report is written. -/
theorem Conclusion.Writes.stays (plain : ∀ site ∈ rollout.config.siteNames, Path.Plain site)
    (ran : (rollout.plan started source requested).Run trace conclusion) (reported : conclusion.report = some report)
    (rooted : Report.Rooted root place before) (writes : conclusion.Writes root before result after) :
    ∃ number ≤ before.entries.size, Report.FirstFree before root started.stamp number ∧
      report.Stays conclusion.document conclusion.compilation root place (Report.numbered started.stamp number) before
        result.isOk after ∧
      (∀ directory, result = .ok directory →
        directory = some (Path.join root (Report.numbered started.stamp number))) ∧
      Report.Rooted root place after := by
  obtain ⟨stamped, opening⟩ := Rollout.opening_of_run ran reported
  have orderly := opening.orderly plain
  obtain ⟨slashless, marked⟩ := started.stamp_alphabet
  have named := Report.plain_numbered slashless marked
  obtain ⟨number, found, first, few⟩ := Report.uniqueDirectory_eq named before root
  rw [← stamped] at found
  have dotless : Path.endsWithDot (Report.uniqueDirectory before root report.timestamp) = false := by
    rw [found]
    exact Path.endsWithDot_join (stamped ▸ named number) root
  have sites : ∀ made ∈ conclusion.compilation, ∀ site ∈ made.sites, Path.Plain site := by
    intro made rendered site member
    obtain ⟨entry, listed, rfl⟩ := List.mem_map.mp member
    exact (orderly made rendered).sites entry listed
  obtain ⟨carried, told⟩ := writes.carried reported dotless sites
  rw [found, stamped] at carried told
  obtain ⟨stays, rooted⟩ := Report.stays_of_carried rooted (named number) first.free orderly carried
  exact ⟨number, few, first, stays, told, rooted⟩

/-- What stood at the place of the reports stands there after all attempts. -/
theorem Attempts.kept {config : Config} (plain : ∀ site ∈ config.siteNames, Path.Plain site)
    (rooted : Report.Rooted root place first) (attempts : Attempts config root place first after) :
    Report.Rooted root place after ∧
      ∀ target bytes, place <+: target → first.file? target = some bytes → after.file? target = some bytes := by
  induction attempts with
  | none => exact ⟨rooted, fun _ _ _ held => held⟩
  | elsewhere _ rooted' kept ih =>
    refine ⟨rooted', fun target bytes inside held => ?_⟩
    rw [kept target inside]
    exact ih.2 target bytes inside held
  | @attempt _ _ _ _ _ conclusion before _ after _ configured ran writes ih =>
    obtain ⟨rooted, kept⟩ := ih
    cases reported : conclusion.report with
    | none =>
      obtain rfl := writes.of_unreported reported
      exact ⟨rooted, kept⟩
    | some report =>
      subst configured
      obtain ⟨_, _, _, stays, _, rooted⟩ := writes.stays plain ran reported rooted
      exact ⟨rooted, fun target bytes inside held => stays.files target bytes (kept target bytes inside held)⟩

/-- No record is overwritten, whatever attempts there are and however far their reports get, if the names of the
sites lead down and no step up comes in the root of the reports after what is missing there. -/
theorem Rollout.records_kept (plain : ∀ site ∈ rollout.config.siteNames, Path.Plain site)
    (rooted : Report.Rooted root place first) (earlier : Attempts rollout.config root place first before)
    (ran : (rollout.plan started source requested).Run trace conclusion) (reported : conclusion.report = some report)
    (writes : conclusion.Writes root before result after) :
    (∃ number ≤ before.entries.size, Report.FirstFree before root started.stamp number ∧
      report.Stays conclusion.document conclusion.compilation root place (Report.numbered started.stamp number) before
        result.isOk after ∧
      ∀ directory, result = .ok directory →
        directory = some (Path.join root (Report.numbered started.stamp number))) ∧
    (∀ target bytes, place <+: target → first.file? target = some bytes → after.file? target = some bytes) ∧
    Attempt.Opening rollout started source requested trace conclusion.document conclusion.compilation := by
  obtain ⟨rooted, kept⟩ := earlier.kept plain rooted
  obtain ⟨number, few, first, stays, told, _⟩ := writes.stays plain ran reported rooted
  refine ⟨⟨number, few, first, stays, told⟩, ?_, (Rollout.opening_of_run ran reported).2⟩
  exact fun target bytes inside held => stays.files target bytes (kept target bytes inside held)

end Records

def Rehearsal.treeless : Rehearsal where
  script := {}
  effects := Table.ofList [("snapshot", [.refused (.missingSite "tree")])]

def Volume.recorded : Volume where
  entries := Table.ofList [(["reports"], .directory), (["reports", "19700101_000000"], .directory),
    (["reports", "19700101_000000", "execution.log"], .file "kept".toUTF8)]

/-- Another attempt with the same start gets a directory of its own. -/
theorem Rollout.second_record_kept :
    ∃ (report : Report) (directory : String) (after : Volume),
      ((Rehearsal.treeless.run Rollout.unattended.both).1.write "reports").on Volume.recorded =
        (.ok (some directory), after) ∧ directory = "reports/19700101_000000-1" ∧
      ∃ number, Report.FirstFree Volume.recorded "reports" (Instant.stamp ⟨0, 0⟩) number ∧
        report.Stays (Rehearsal.treeless.run Rollout.unattended.both).1.document
          (Rehearsal.treeless.run Rollout.unattended.both).1.compilation "reports" ["reports"]
          (Report.numbered (Instant.stamp ⟨0, 0⟩) number) Volume.recorded true after := by
  have plain : ∀ site ∈ Rollout.unattended.config.siteNames, Path.Plain site := by decide
  have rooted : Report.Rooted "reports" ["reports"] Volume.recorded :=
    ⟨by decide, [], ["reports"], [], by decide, rfl, rfl, by decide, rfl⟩
  have reported : (Rehearsal.treeless.run Rollout.unattended.both).1.report.isSome = true := by decide +kernel
  obtain ⟨report, reported⟩ := Option.isSome_iff_exists.mp reported
  have named : (((Rehearsal.treeless.run Rollout.unattended.both).1.write "reports").on Volume.recorded).1.toOption =
      some (some "reports/19700101_000000-1") := by decide +kernel
  cases wrote : ((Rehearsal.treeless.run Rollout.unattended.both).1.write "reports").on Volume.recorded with
  | mk result after =>
    rw [wrote] at named
    obtain rfl := toOption_eq_some.mp named
    obtain ⟨⟨number, _, first, stays, _⟩, _, _⟩ := Rollout.records_kept plain rooted .none
      (Rehearsal.treeless.ran Rollout.unattended.both) reported (.ended wrote)
    exact ⟨report, _, after, rfl, rfl, number, first, stays⟩

/-- A configuration whose reports go through a directory that need not be there. -/
def Config.roundabout : Config where
  rollout := { reportDirectory := "new/../reports" }

def Rollout.roundabout : Rollout where
  config := .roundabout
  options := { Rollout.unattended.options with reportDirectory := Config.roundabout.rollout.reportDirectory }
  watches := Rollout.unattended.watches

/-- What is missing is made on the way back to the reports, where the name was free only because nothing could be
reached: another attempt with the same start takes the directory of a record, and its log the place of the other. -/
theorem Rollout.record_overwritten :
    Config.roundabout.validate = .ok () ∧ (∀ site ∈ Config.roundabout.siteNames, Path.Plain site) ∧
      Volume.recorded.Grounded ∧
      Volume.recorded.file? ["reports", "19700101_000000", "execution.log"] = some "kept".toUTF8 ∧
      (((Rehearsal.treeless.run Rollout.roundabout.both).1.write Rollout.roundabout.options.reportDirectory).on
        Volume.recorded).1.toOption = some (some "new/../reports/19700101_000000") ∧
      (((Rehearsal.treeless.run Rollout.roundabout.both).1.write Rollout.roundabout.options.reportDirectory).on
        Volume.recorded).2.file? ["reports", "19700101_000000", "execution.log"] ≠ some "kept".toUTF8 :=
  ⟨by decide +kernel, by decide, by decide, by decide +kernel, by decide +kernel, by decide +kernel⟩

end IntentRollout
