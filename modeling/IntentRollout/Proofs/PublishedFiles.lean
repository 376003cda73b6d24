import IntentRollout.Proofs.DigestKeys
import IntentRollout.Proofs.ReportTruth

/-! What is published is what was put on record. Targets are resolved once and compiled once, and the targets,
the bundles and the digests are about the same sites; so every publication hands over the bundle of its own site,
file by file with the digests of the report. -/

namespace IntentRollout

def HandsOver (compilation : Compilation) (targets : List String) (trace : List Exchange) : Prop :=
  ∀ site files message reply, Exchange.publish site files message reply ∈ trace →
    site ∈ targets ∧ files = Attempt.filesFor compilation site

namespace HandsOver

variable {compilation : Compilation} {targets : List String} {trace first rest : List Exchange}

private theorem of_unpublished (quiet : ∀ exchange ∈ trace, exchange.request.isPublish = false) :
    HandsOver compilation targets trace := by
  intro site files message reply member
  cases quiet _ member

theorem append (earlier : HandsOver compilation targets first) (later : HandsOver compilation targets rest) :
    HandsOver compilation targets (first ++ rest) := by
  intro site files message reply member
  rcases List.mem_append.mp member with member | member
  · exact earlier _ _ _ _ member
  · exact later _ _ _ _ member

/-- What was asked before and published nothing does not count. -/
theorem after (hands : HandsOver compilation targets rest)
    (quiet : ∀ exchange ∈ first, exchange.request.isPublish = false) :
    HandsOver compilation targets (first ++ rest) :=
  (of_unpublished quiet).append hands

theorem weaken {others : List String} (hands : HandsOver compilation targets trace) (more : targets ⊆ others) :
    HandsOver compilation others trace := by
  intro site files message reply member
  obtain ⟨target, same⟩ := hands _ _ _ _ member
  exact ⟨more target, same⟩

end HandsOver

namespace Attempt

variable {rollout : Rollout} {started : Instant} {before after : Standing} {trace : List Exchange}
  {intent : Intent} {compilation : Compilation} {objectives : Gate} {target : String}

private theorem requestedTargets_eq_ok {config : Config} {requested targets : List String}
    (resolved : requestedTargets config requested = .ok targets) :
    ∃ groups, requested.mapM config.resolveTarget = .ok groups ∧ targets = groups.flatten.eraseDups := by
  obtain ⟨groups, stand, same⟩ := bind_eq_ok.mp resolved
  cases same
  refine ⟨groups, ?_, rfl⟩
  rw [mapM_eq_ok] at stand ⊢
  apply stand.imp
  intro target sites stands
  split at stands
  next found =>
    cases stands
    exact Config.resolveTarget_eq_ok.mpr found
  next => cases stands

/-- The targets of an attempt stand for themselves. -/
theorem mem_of_targets_resolved {config : Config} {requested targets : List String} {groups : List (List String)}
    (resolved : Attempt.targets config intent requested = .ok targets)
    (again : targets.mapM config.resolveTarget = .ok groups) (site : String) :
    site ∈ targets ↔ site ∈ groups.flatten := by
  unfold Attempt.targets at resolved
  have closed {asked : List String} (resolved : requestedTargets config asked = .ok targets) :
      site ∈ targets ↔ site ∈ groups.flatten := by
    obtain ⟨once, stand, rfl⟩ := requestedTargets_eq_ok resolved
    exact Config.mem_of_all_resolved_again stand (fun _ => List.mem_eraseDups) again site
  split at resolved
  · exact closed resolved
  · exact closed resolved

private theorem Publishing.hands {result : Except Halt (Option String)}
    (publishing : Publishing rollout started intent compilation target before trace result after) :
    HandsOver compilation [target] trace := by
  have entering {trace : List Exchange} {result : Except Halt Unit}
      (entered : Entered rollout (.publish target) trace result) : HandsOver compilation [target] trace := by
    apply HandsOver.of_unpublished
    intro exchange member
    have idle := entered.no_acts exchange member
    cases same : exchange.request <;> simp_all [Request.isPublish, Request.acts, Request.isCall]
  have trying {trace : List Exchange} {result : Except DeliveryError (Option String)}
      (tried : Tried (.publish target (filesFor compilation target) (commitMessage started intent target))
        rollout.options.retry.attempts trace result) : HandsOver compilation [target] trace := by
    intro site files message reply member
    obtain ⟨_, same⟩ | ⟨_, _, same⟩ := tried.members _ member
    · cases same
      exact ⟨List.mem_singleton_self _, rfl⟩
    · cases same
  cases publishing with
  | halted entered | rehearsed entered => exact entering entered
  | refused entered _ tried | published entered _ tried => exact (entering entered).append (trying tried)

private theorem Serving.hands {result : Except Halt Unit}
    (serving : Serving rollout started intent compilation objectives target before trace result after) :
    HandsOver compilation [target] trace := by
  cases serving with
  | unpublished publishing => exact publishing.hands
  | unverified publishing verifying =>
    exact publishing.hands.append (.of_unpublished (verifying.owned.no_publish (by simp)))
  | gated publishing verifying gating =>
    exact publishing.hands.append ((HandsOver.of_unpublished (verifying.owned.no_publish (by simp))).append
      (.of_unpublished (gating.owned.no_publish (by simp))))

private theorem ServingAll.hands {targets : List String} {result : Except Halt Unit}
    (serving : ServingAll rollout started intent compilation objectives targets before trace result after) :
    HandsOver compilation targets trace := by
  induction serving with
  | done => exact .of_unpublished (by simp)
  | stopped serving => exact serving.hands.weaken (by simp)
  | passed serving _ ih => exact (serving.hands.weaken (by simp)).append (ih.weaken (List.subset_cons_self _ _))

/-- How an attempt stands with its resources: nothing was rendered and nothing published, or there is one
compilation for its targets, with its digests on record, and publications hand it over. -/
inductive Catalogued (rollout : Rollout) (started : Instant) (requested : List String) (trace : List Exchange)
    (standing : Standing) : Prop where
  | unrendered (none : standing.compilation = none) (unchecked : standing.details.checksums = Table.empty)
      (unpublished : publishes trace = false) : Catalogued rollout started requested trace standing
  | rendered {intent : Intent} {compilation : Compilation} (rendered : standing.compilation = some compilation)
      (resolved : targets rollout.config intent requested = .ok standing.details.targets)
      (compiled : rollout.config.compileFor started intent standing.details.targets = .ok compilation)
      (checked : standing.details.checksums = compilation.checksums)
      (hands : HandsOver compilation standing.details.targets trace) :
      Catalogued rollout started requested trace standing

private theorem Driving.catalogued {source : IntentSource} {requested : List String} {result : Except Halt Unit}
    (driving : Driving rollout started source requested {} trace result after) :
    Catalogued rollout started requested trace after := by
  have remembered {trace : List Exchange} {result : Except Halt Unit} {after : Standing}
      (snapshotting : Snapshotting rollout {} trace result after) :
      after.compilation = none ∧ after.details = {} ∧ publishes trace = false := by
    have quiet := publishes_eq_false.mpr (snapshotting.owned.no_publish (by simp))
    cases snapshotting <;> exact ⟨rfl, rfl, quiet⟩
  cases driving with
  | unremembered snapshotting =>
    obtain ⟨none, blank, quiet⟩ := remembered snapshotting
    exact .unrendered none (by rw [blank]) quiet
  | invalid snapshotting validating =>
    obtain ⟨none, blank, quiet⟩ := remembered snapshotting
    have checking := publishes_eq_false.mpr (validating.owned.no_publish (by simp))
    cases validating with
    | halted | unreadable | malformed | refused =>
      exact .unrendered none (by dsimp only; rw [blank]) (by rw [publishes_append, quiet, checking]; rfl)
  | unrendered snapshotting validating rendering =>
    obtain ⟨none, blank, quiet⟩ := remembered snapshotting
    have checking := publishes_eq_false.mpr (validating.owned.no_publish (by simp))
    have compiling := publishes_eq_false.mpr (rendering.owned.no_publish (by simp))
    cases validating with
    | accepted =>
      cases rendering with
      | halted | refused =>
        refine .unrendered none (by dsimp only; rw [blank]) ?_
        rw [publishes_append, publishes_append, quiet, checking, compiling]
        rfl
  | served snapshotting validating rendering serving =>
    obtain ⟨none, blank, quiet⟩ := remembered snapshotting
    have hands := ((serving.hands.after (rendering.owned.no_publish (by simp))).after
      (validating.owned.no_publish (by simp))).after (snapshotting.owned.no_publish (by simp))
    have kept := serving.compilation_eq
    cases validating with
    | accepted _ _ _ accepted =>
      obtain ⟨-, resolved, stated⟩ := accept_eq_ok.mp accepted
      have recorded := serving.details_eq stated
      cases rendering with
      | compiled _ compiled =>
        have targets := congrArg ReportDetails.targets recorded
        have checksums := congrArg ReportDetails.checksums recorded
        dsimp only at targets
        rw [← targets] at resolved compiled hands
        exact .rendered kept resolved compiled checksums hands

/-- Who published leaves a report. -/
theorem Concluding.reported_of_mutated {result : Except Halt Unit} {standing : Standing} {conclusion : Conclusion}
    (concluding : Concluding rollout started result standing trace conclusion) (mutated : standing.mutated = true) :
    ∃ report, conclusion.report = some report := by
  obtain ⟨lines, _, _, rfl⟩ | ⟨_, clean, _, _⟩ | ⟨halt, after, lines, _, _, rfl⟩ := concluding.parted
  · exact ⟨_, rfl⟩
  · rw [mutated] at clean
    cases clean
  · exact ⟨_, rfl⟩

end Attempt

structure Covered (rollout : Rollout) (started : Instant) (report : Report) (compilation : Compilation) : Prop where
  compiled : ∃ intent, rollout.config.compileFor started intent report.details.targets = .ok compilation
  targeted : ∀ site, site ∈ compilation.bundles.keys ↔ site ∈ report.details.targets
  digested : ∀ key, key ∈ report.details.checksums.keys ↔
    ∃ site bundle resource, site ∈ report.details.targets ∧ compilation.bundles.get? site = some bundle ∧
      resource ∈ bundle.resources ∧ key = Compilation.digestKey site resource

/-- Files that are the bundle of a target, with their digests on record and in the manifest. -/
inductive Recorded (report : Report) (compilation : Compilation) (site : String) : List RenderedFile → Prop where
  | rendered {bundle : Bundle} (targeted : site ∈ report.details.targets)
      (held : compilation.bundles.get? site = some bundle) (own : bundle.site = site) (nonempty : bundle.rendered ≠ [])
      (digests : ∀ resource ∈ bundle.resources,
        report.details.checksums.get? (Compilation.digestKey site resource) =
          some (Digest.ofText resource.rendered.contents))
      (listed : ∀ file ∈ bundle.rendered, ∃ artifact,
        compilation.manifest.files.get? (artifactPath site file.name) = some artifact ∧
          artifact.checksum = Digest.ofText file.contents) :
      Recorded report compilation site bundle.rendered

private theorem SiteRequest.rendered_ne_nil (request : SiteRequest) : request.bundle.rendered ≠ [] := by
  simp [SiteRequest.bundle, Bundle.rendered]

/-- The bundle of a target is on record. -/
theorem Compilation.MadeFor.recorded {compilation : Compilation} {intent : Intent} (made : compilation.MadeFor intent)
    {report : Report} (checked : report.details.checksums = compilation.checksums) {site : String}
    (targeted : site ∈ report.details.targets) (known : site ∈ compilation.bundles.keys) :
    Recorded report compilation site (Attempt.filesFor compilation site) := by
  obtain ⟨bundle, held⟩ := Table.mem_keys.mp known
  have member := Table.get?_eq_some.mp held
  obtain ⟨request, rfl, _, named⟩ := made _ member
  rw [Attempt.filesFor, held]
  refine .rendered targeted held named request.rendered_ne_nil ?_ ?_
  · intro resource listed
    rw [checked, made.get?_checksums]
    exact ⟨_, member, resource, listed, rfl, rfl⟩
  · intro file listed
    obtain ⟨resource, inside, rfl⟩ := List.mem_map.mp listed
    exact ⟨_, made.get?_files.mpr ⟨_, member, resource, inside, rfl, rfl⟩, rfl⟩

private theorem Compilation.mem_keys_checksums {compilation : Compilation} {key : String} :
    key ∈ compilation.checksums.keys ↔
      ∃ site bundle resource, compilation.bundles.get? site = some bundle ∧ resource ∈ bundle.resources ∧
        key = digestKey site resource := by
  rw [checksums, Table.mem_keys_ofList, List.map_flatMap]
  simp only [List.map_map, List.mem_flatMap, List.mem_map, Prod.exists, Table.get?_eq_some, Function.comp_apply,
    @eq_comm _ _ key]
  constructor
  · rintro ⟨site, bundle, member, resource, listed, same⟩
    exact ⟨site, bundle, resource, member, listed, same⟩
  · rintro ⟨site, bundle, resource, member, listed, same⟩
    exact ⟨site, bundle, member, resource, listed, same⟩

/-- What an attempt publishes, and what its report says that it has. -/
structure PublishedAsRecorded (rollout : Rollout) (started : Instant) (trace : List Exchange)
    (conclusion : Conclusion) : Prop where
  covered : ∀ report compilation, conclusion.report = some report → conclusion.compilation = some compilation →
    Covered rollout started report compilation
  blank : ∀ report, conclusion.report = some report → conclusion.compilation = none →
    report.details.checksums = Table.empty
  recorded : ∀ site files message reply, Exchange.publish site files message reply ∈ trace →
    ∃ report compilation, conclusion.report = some report ∧ conclusion.compilation = some compilation ∧
      Recorded report compilation site files

theorem Returning.unpublished {attempts : Nat} {trace : List Exchange} (returns : Returning attempts trace) :
    ∀ exchange ∈ trace, exchange.request.isPublish = false := by
  obtain rfl | ⟨head, result, tried⟩ := returns
  · exact nofun
  · have owned : Phase.rollback.Owns trace := tried.owned fun _ => rfl
    exact owned.no_publish (by simp)

namespace Attempt

variable {rollout : Rollout} {started : Instant} {requested : List String} {trace : List Exchange}
  {standing : Standing} {report : Report}

/-- What an attempt stands with is what its report covers. -/
theorem covered_of_compiled {intent : Intent} {compilation : Compilation}
    (resolved : targets rollout.config intent requested = .ok report.details.targets)
    (compiled : rollout.config.compileFor started intent report.details.targets = .ok compilation)
    (checked : report.details.checksums = compilation.checksums) : Covered rollout started report compilation := by
  obtain ⟨groups, again, found, bundles⟩ := Config.compiled_of_compileFor compiled
  have targeted (site : String) : site ∈ compilation.bundles.keys ↔ site ∈ report.details.targets := by
    rw [bundles.mem_keys found (Config.configured_of_mapM again), mem_of_targets_resolved resolved again]
  refine ⟨⟨intent, compiled⟩, targeted, ?_⟩
  intro key
  rw [checked, Compilation.mem_keys_checksums]
  constructor
  · rintro ⟨site, bundle, resource, held, listed, same⟩
    exact ⟨site, bundle, resource, (targeted site).mp (Table.mem_keys.mpr ⟨bundle, held⟩), held, listed, same⟩
  · rintro ⟨site, bundle, resource, _, held, listed, same⟩
    exact ⟨site, bundle, resource, held, listed, same⟩

end Attempt

/-- Every attempt publishes what it has put on record, at each try. -/
theorem Rollout.published_as_recorded {rollout : Rollout} {started : Instant} {source : IntentSource}
    {requested : List String} {trace : List Exchange} {conclusion : Conclusion}
    (ran : (rollout.plan started source requested).Run trace conclusion) :
    PublishedAsRecorded rollout started trace conclusion := by
  obtain ⟨driven, result, standing, ended, rfl, driving, concluding⟩ := Rollout.run_plan ran
  have left := driving.driven
  have returns : Returning rollout.options.retry.attempts ended :=
    (concluding.returns left).imp id fun ended => ended.2.2
  have reports {report : Report} (reported : conclusion.report = some report) :
      conclusion.compilation = standing.compilation ∧ report.details.targets = standing.details.targets ∧
        report.details.checksums = standing.details.checksums := by
    have same := (concluding.reports reported).details_eq
    exact ⟨congrArg Prod.snd (concluding.prepared_eq reported).2, by rw [same], by rw [same]⟩
  have published {site : String} {files : List RenderedFile} {message : String}
      {reply : Timed (Except DeliveryError (Option String))}
      (member : Exchange.publish site files message reply ∈ driven ++ ended) :
      Exchange.publish site files message reply ∈ driven := by
    rcases List.mem_append.mp member with member | member
    · exact member
    · cases returns.unpublished _ member
  cases driving.catalogued with
  | unrendered none unchecked quiet =>
    refine ⟨?_, ?_, ?_⟩
    · intro report compilation reported rendered
      rw [(reports reported).1, none] at rendered
      cases rendered
    · intro report reported _
      rw [(reports reported).2.2, unchecked]
    · intro site files message reply member
      cases publishes_eq_false.mp quiet _ (published member)
  | @rendered intent compilation rendered resolved compiled checked hands =>
    have covered {report : Report} (reported : conclusion.report = some report) :
        Covered rollout started report compilation := by
      obtain ⟨_, targets, checksums⟩ := reports reported
      rw [← targets] at resolved compiled
      exact Attempt.covered_of_compiled resolved compiled (checksums.trans checked)
    refine ⟨?_, ?_, ?_⟩
    · intro report other reported same
      rw [(reports reported).1, rendered] at same
      cases same
      exact covered reported
    · intro report reported none
      rw [(reports reported).1, rendered] at none
      cases none
    · intro site files message reply member
      have mutated : standing.mutated = true := by
        rw [left.counts]
        exact List.any_eq_true.mpr ⟨_, published member, rfl⟩
      obtain ⟨report, reported⟩ := concluding.reported_of_mutated mutated
      obtain ⟨same, targets, checksums⟩ := reports reported
      obtain ⟨targeted, rfl⟩ := hands _ _ _ _ (published member)
      rw [← targets] at targeted
      obtain ⟨_, _, _, bundles⟩ := Config.compiled_of_compileFor compiled
      have made := Compilation.madeFor_of_compiled bundles
      exact ⟨report, compilation, reported, same.trans rendered,
        made.recorded (checksums.trans checked) targeted (((covered reported).targeted site).mpr targeted)⟩

/-- The second site is published, though its metrics are refused afterwards. -/
theorem Rollout.both_published_as_recorded :
    publishes (Rehearsal.secondSlow.exchanges Rollout.unattended.both) = true ∧
      PublishedAsRecorded Rollout.unattended ⟨0, 0⟩ (Rehearsal.secondSlow.exchanges Rollout.unattended.both)
        (Rehearsal.secondSlow.run Rollout.unattended.both).1 := by
  refine ⟨by decide +kernel, ?_⟩
  exact Rollout.published_as_recorded (Rehearsal.secondSlow.ran Rollout.unattended.both)

end IntentRollout
