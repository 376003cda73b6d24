import IntentRollout.Proofs.GatingOrder

/-! What a report says is what happened. The invariant is what is on record while targets are served: all
that passed, and of the one under way as much as was done. The end of an attempt adds only what stopped it
and whether the tree was put back. -/

namespace IntentRollout

inductive Violates (rollout : Rollout) (target : String) (metrics : Metrics) : Exchange → Prop where
  | intro {objectives time} (stated : Gate.read rollout.options.slo = .ok objectives)
      (known : ∀ constraint ∈ objectives.constraints, metrics.contains constraint.metric = true)
      (unmet : ∃ constraint ∈ objectives.constraints, ¬ constraint.Met metrics) :
      Violates rollout target metrics ⟨.fetch target, ⟨some (.ok metrics), time⟩⟩

/-- A target violates its objectives, and after that the tree is put back, if anything is done at all. -/
inductive EndsViolated (rollout : Rollout) (target : String) (metrics : Metrics) :
    List Exchange → Prop where
  | intro {front judged ending} (violates : Violates rollout target metrics judged)
      (returns : Returning rollout.options.retry.attempts ending) :
      EndsViolated rollout target metrics (front ++ judged :: ending)

def Peaceful (rollout : Rollout) (trace : List Exchange) : Prop :=
  ∀ exchange ∈ trace, ∀ target metrics, ¬ Violates rollout target metrics exchange

namespace Peaceful

variable {rollout : Rollout} {trace first rest : List Exchange} {phase : Phase}

theorem nil : Peaceful rollout [] := fun _ member => absurd member List.not_mem_nil

theorem append (earlier : Peaceful rollout first) (later : Peaceful rollout rest) :
    Peaceful rollout (first ++ rest) := by
  intro exchange member
  rcases List.mem_append.mp member with member | member
  · exact earlier exchange member
  · exact later exchange member

private theorem of_owned (owned : phase.Owns trace) (other : ∀ target, phase ≠ .gate target) :
    Peaceful rollout trace := by
  rintro _ member target metrics ⟨⟩
  have allowed := owned _ member
  simp [Phase.allows, other] at allowed

private theorem of_entered {result : Except Halt Unit} (entered : Entered rollout phase trace result) :
    Peaceful rollout trace := by
  rintro _ member target metrics ⟨⟩
  cases entered.no_acts _ member

private theorem of_fetch {objectives : Gate} {target : String}
    {reply : Timed (Option (Except Http.FetchError Metrics))}
    (stated : Gate.read rollout.options.slo = .ok objectives)
    (unviolated : ∀ metrics violations, reply.value = some (.ok metrics) →
      objectives.check (.ok metrics) ≠ .error (.violated violations)) :
    Peaceful rollout [⟨.fetch target, reply⟩] := by
  intro exchange member found metrics violates
  obtain rfl := List.mem_singleton.mp member
  cases violates with
  | @intro others _ stated' known unmet =>
    obtain rfl : objectives = others := by simpa [stated] using stated'
    obtain ⟨violations, violated⟩ := Gate.exists_check_eq_violated.mpr ⟨known, unmet⟩
    exact unviolated metrics violations rfl violated

end Peaceful

private theorem Violates.of_check {rollout : Rollout} {objectives : Gate} {target : String} {metrics : Metrics}
    {violations : List Violation} {time : Nat} (stated : Gate.read rollout.options.slo = .ok objectives)
    (violated : objectives.check (.ok metrics) = .error (.violated violations)) :
    Violates rollout target metrics ⟨.fetch target, ⟨some (.ok metrics), time⟩⟩ := by
  obtain ⟨known, unmet⟩ := Gate.exists_check_eq_violated.mp ⟨violations, violated⟩
  exact .intro stated known unmet

structure Completed (done : List String) (details : ReportDetails) : Prop where
  published : details.published.map (·.target) = done
  gated : details.gates.keys.Perm done
  passed : ∀ target ∈ done, ∃ record, details.gates.get? target = some record ∧ record.passed = true

/-- The first of some targets are on record as published, and as many or one less as gated. All of these
passed, except maybe the last. -/
structure Accounted (targets : List String) (details : ReportDetails) : Prop where
  published : details.published.map (·.target) <+: targets
  gated : ∃ gated, gated <+: targets ∧ details.gates.keys.Perm gated ∧
    gated.length ≤ details.published.length ∧ details.published.length ≤ gated.length + 1 ∧
    ∀ target ∈ gated.dropLast, ∃ record, details.gates.get? target = some record ∧ record.passed = true

inductive Filed (rollout : Rollout) (target : String) (before : ReportDetails) :
    List Exchange → Except Halt Unit → ReportDetails → Prop where
  | unpublished {trace halt} (peaceful : Peaceful rollout trace) :
      Filed rollout target before trace (.error halt) before
  | published {trace halt revision} (peaceful : Peaceful rollout trace) :
      Filed rollout target before trace (.error halt)
        { before with published := before.published ++ [⟨target, revision⟩] }
  | gated {trace result revision record} (peaceful : Peaceful rollout trace)
      (passed : result = .ok () → record.passed = true) :
      Filed rollout target before trace result
        { before with
          published := before.published ++ [⟨target, revision⟩],
          gates := before.gates.insert target record }
  | violated {objectives front metrics time violations revision} (peaceful : Peaceful rollout front)
      (stated : Gate.read rollout.options.slo = .ok objectives)
      (violated : objectives.check (.ok metrics) = .error (.violated violations)) :
      Filed rollout target before (front ++ [⟨.fetch target, ⟨some (.ok metrics), time⟩⟩])
        (.error (.failed (.gate target) (.gate target (.violated violations))))
        { before with
          published := before.published ++ [⟨target, revision⟩],
          gates := before.gates.insert target (GateRecord.ofOutcome (.error (.violated violations))),
          violations }

private theorem Completed.accounted {done : List String} {details : ReportDetails}
    (completed : Completed done details) (others : List String) : Accounted (done ++ others) details where
  published := completed.published ▸ List.prefix_append done others
  gated := by
    have published : details.published.length = done.length := by
      rw [← completed.published, List.length_map]
    refine ⟨done, List.prefix_append done others, completed.gated, by omega, by omega, ?_⟩
    exact fun target member => completed.passed target (List.dropLast_subset done member)

/-- A target that is gated joins those that passed; of these nothing on record changes. -/
theorem Completed.insert {done : List String} {details : ReportDetails} {target : String}
    (completed : Completed done details) (fresh : target ∉ done) (record : GateRecord) :
    (details.gates.insert target record).keys.Perm (done ++ [target]) ∧
      ∀ other ∈ done, ∃ record', (details.gates.insert target record).get? other = some record' ∧
        record'.passed = true := by
  constructor
  · have absent : target ∉ details.gates.keys := fun member => fresh (completed.gated.mem_iff.mp member)
    exact (Table.keys_insert_perm record absent).trans
      ((completed.gated.cons target).trans (List.perm_append_singleton target done).symm)
  · intro other member
    have differs : target ≠ other := fun same => fresh (same ▸ member)
    rw [Table.get?_insert, if_neg differs]
    exact completed.passed other member

namespace Filed

variable {rollout : Rollout} {target : String} {before after : ReportDetails} {trace : List Exchange}
  {done : List String}

theorem completed (filed : Filed rollout target before trace (.ok ()) after)
    (completed : Completed done before) (fresh : target ∉ done) : Completed (done ++ [target]) after := by
  cases filed with
  | @gated _ _ _ record _ passed =>
    obtain ⟨keys, kept⟩ := completed.insert fresh record
    refine ⟨by simp [completed.published], keys, ?_⟩
    intro other member
    rcases List.mem_append.mp member with member | member
    · exact kept other member
    · obtain rfl := List.mem_singleton.mp member
      exact ⟨record, by simp, passed rfl⟩

private theorem accounted {result : Except Halt Unit} (filed : Filed rollout target before trace result after)
    (completed : Completed done before) (fresh : target ∉ done) (others : List String) :
    Accounted (done ++ target :: others) after := by
  have published : before.published.length = done.length := by
    rw [← completed.published, List.length_map]
  have through : done ++ [target] <+: done ++ target :: others := ⟨others, by simp⟩
  cases filed with
  | unpublished => exact completed.accounted _
  | published =>
    refine ⟨by simp [completed.published], done, List.prefix_append _ _, completed.gated,
      by simp; omega, by simp; omega, ?_⟩
    intro other member
    exact completed.passed other (List.dropLast_subset done member)
  | gated | violated =>
    obtain ⟨keys, kept⟩ := completed.insert fresh _
    refine ⟨by simp [completed.published], done ++ [target], through, keys,
      by simp; omega, by simp; omega, ?_⟩
    intro other member
    rw [List.dropLast_concat] at member
    exact kept other member

end Filed

/-- What the record says of violations: that there are none if there are none, else those of the target
that was judged last. -/
inductive Judged (rollout : Rollout) : List Exchange → Except Halt Unit → ReportDetails → Prop where
  | peaceful {trace result details} (peaceful : Peaceful rollout trace) (none : details.violations = []) :
      Judged rollout trace result details
  | violated {objectives front target metrics time violations details} (peaceful : Peaceful rollout front)
      (stated : Gate.read rollout.options.slo = .ok objectives)
      (violated : objectives.check (.ok metrics) = .error (.violated violations))
      (recorded : details.gates.get? target =
        some (GateRecord.ofOutcome (.error (.violated violations))))
      (listed : details.violations = violations) :
      Judged rollout (front ++ [⟨.fetch target, ⟨some (.ok metrics), time⟩⟩])
        (.error (.failed (.gate target) (.gate target (.violated violations)))) details

private theorem Judged.prepend {rollout : Rollout} {first rest : List Exchange} {result : Except Halt Unit}
    {details : ReportDetails} (earlier : Peaceful rollout first) (judged : Judged rollout rest result details) :
    Judged rollout (first ++ rest) result details := by
  cases judged with
  | peaceful peaceful none => exact .peaceful (earlier.append peaceful) none
  | violated peaceful stated violated recorded listed =>
    rw [← List.append_assoc]
    exact .violated (earlier.append peaceful) stated violated recorded listed

theorem Filed.judged {rollout : Rollout} {target : String} {before after : ReportDetails}
    {trace : List Exchange} {result : Except Halt Unit}
    (filed : Filed rollout target before trace result after) (none : before.violations = []) :
    Judged rollout trace result after := by
  cases filed with
  | unpublished peaceful | published peaceful | gated peaceful => exact .peaceful peaceful none
  | violated peaceful stated violated => exact .violated peaceful stated violated (by simp) rfl

private theorem Filed.unviolated {rollout : Rollout} {target : String} {before after : ReportDetails}
    {trace : List Exchange} (filed : Filed rollout target before trace (.ok ()) after) :
    Peaceful rollout trace ∧ after.violations = before.violations := by
  cases filed with
  | gated peaceful => exact ⟨peaceful, rfl⟩

theorem Filed.details_eq {rollout : Rollout} {target : String} {before after : ReportDetails}
    {trace : List Exchange} {result : Except Halt Unit}
    (filed : Filed rollout target before trace result after) :
    after = { before with
      published := after.published, gates := after.gates, violations := after.violations } := by
  cases filed <;> rfl

namespace Attempt

variable {rollout : Rollout} {started : Instant} {before after : Standing} {trace : List Exchange}
  {intent : Intent} {compilation : Compilation} {objectives : Gate} {target : String}

theorem Publishing.details_eq {result : Except Halt (Option String)}
    (publishing : Publishing rollout started intent compilation target before trace result after) :
    after.details = match result with
      | .ok revision =>
        { before.details with published := before.details.published ++ [⟨target, revision⟩] }
      | .error _ => before.details := by
  cases publishing <;> rfl

theorem Verifying.details_eq {revision : Option String} {result : Except Halt Unit}
    (verifying : Verifying rollout target revision before trace result after) :
    after.details = before.details := by
  cases verifying <;> rfl

theorem Gating.filed {result : Except Halt Unit} {first : List Exchange} {earlier : ReportDetails}
    {revision : Option String}
    (gating : Gating rollout objectives target before trace result after)
    (stated : Gate.read rollout.options.slo = .ok objectives) (peaceful : Peaceful rollout first)
    (published : before.details =
      { earlier with published := earlier.published ++ [⟨target, revision⟩] }) :
    Filed rollout target earlier (first ++ trace) result after.details := by
  have fetch {entering : List Exchange} {fetched : Except Http.FetchError Metrics} {time : Nat}
      (entered : Entered rollout (.gate target) entering (.ok ()))
      (unviolated : ∀ violations, objectives.check fetched ≠ .error (.violated violations)) :
      Peaceful rollout (first ++ (entering ++ [⟨.fetch target, ⟨some fetched, time⟩⟩])) := by
    apply peaceful.append
    apply Peaceful.append (.of_entered entered)
    apply Peaceful.of_fetch stated
    intro metrics violations same
    cases same
    exact unviolated violations
  cases gating with
  | halted entered =>
    dsimp only
    rw [published]
    exact .published (peaceful.append (.of_entered entered))
  | interrupted entered =>
    dsimp only
    rw [published]
    exact .published (peaceful.append (.append (.of_entered entered) (.of_fetch stated nofun)))
  | rehearsed entered =>
    dsimp only
    rw [published]
    exact .gated (peaceful.append (.of_entered entered)) fun _ => rfl
  | passed entered _ passed =>
    dsimp only
    rw [published]
    exact .gated (fetch entered (by simp [passed])) fun _ => rfl
  | unclear entered _ unclear unjudged =>
    dsimp only
    rw [published]
    refine .gated (fetch entered ?_) nofun
    intro violations violated
    rw [unclear] at violated
    cases violated
    cases unjudged
  | @violated _ fetched _ _ entered _ violated =>
    obtain ⟨metrics, rfl, _⟩ := Gate.check_eq_violated.mp violated
    dsimp only
    rw [published, ← List.append_assoc]
    exact .violated (peaceful.append (.of_entered entered)) stated violated

theorem Serving.filed {result : Except Halt Unit}
    (serving : Serving rollout started intent compilation objectives target before trace result after)
    (stated : Gate.read rollout.options.slo = .ok objectives) :
    Filed rollout target before.details trace result after.details := by
  cases serving with
  | unpublished publishing =>
    rw [publishing.details_eq]
    exact .unpublished (.of_owned publishing.owned (by simp))
  | unverified publishing verifying =>
    rw [verifying.details_eq, publishing.details_eq]
    exact .published (.append (.of_owned publishing.owned (by simp)) (.of_owned verifying.owned (by simp)))
  | gated publishing verifying gating =>
    rw [← List.append_assoc]
    have quiet : Peaceful rollout _ :=
      .append (.of_owned publishing.owned (by simp)) (.of_owned verifying.owned (by simp))
    exact gating.filed stated quiet (verifying.details_eq.trans publishing.details_eq)

theorem ServingAll.details_eq {targets : List String} {result : Except Halt Unit}
    (serving : ServingAll rollout started intent compilation objectives targets before trace result after)
    (stated : Gate.read rollout.options.slo = .ok objectives) :
    after.details = { before.details with
      published := after.details.published, gates := after.details.gates,
      violations := after.details.violations } := by
  induction serving with
  | done => rfl
  | stopped serving => exact (serving.filed stated).details_eq
  | passed serving _ ih =>
    rw [(serving.filed stated).details_eq] at ih
    exact ih

theorem ServingAll.judged {targets : List String} {result : Except Halt Unit}
    (serving : ServingAll rollout started intent compilation objectives targets before trace result after)
    (stated : Gate.read rollout.options.slo = .ok objectives) (none : before.details.violations = []) :
    Judged rollout trace result after.details := by
  induction serving with
  | done => exact .peaceful .nil none
  | stopped serving => exact (serving.filed stated).judged none
  | passed serving _ ih =>
    obtain ⟨peaceful, unviolated⟩ := (serving.filed stated).unviolated
    exact (ih (unviolated.trans none)).prepend peaceful

private theorem fresh_of_nodup {done targets : List String} (distinct : (done ++ target :: targets).Nodup) :
    target ∉ done := fun member =>
  (List.nodup_append.mp distinct).2.2 target member target List.mem_cons_self rfl

/-- Targets that are served after others that passed are on record as far as they were served. -/
theorem ServingAll.recorded {done targets : List String} {result : Except Halt Unit}
    (serving : ServingAll rollout started intent compilation objectives targets before trace result after)
    (stated : Gate.read rollout.options.slo = .ok objectives) (distinct : (done ++ targets).Nodup)
    (completed : Completed done before.details) :
    Accounted (done ++ targets) after.details ∧
      (result = .ok () → Completed (done ++ targets) after.details) := by
  induction serving generalizing done with
  | done => exact ⟨completed.accounted [], fun _ => by rwa [List.append_nil]⟩
  | stopped serving =>
    exact ⟨(serving.filed stated).accounted completed (fresh_of_nodup distinct) _, nofun⟩
  | passed serving _ ih =>
    have passed := (serving.filed stated).completed completed (fresh_of_nodup distinct)
    rw [List.append_cons] at distinct ⊢
    exact ih distinct passed

structure Documented (rollout : Rollout) (trace : List Exchange) (result : Except Halt Unit)
    (details : ReportDetails) : Prop where
  accounted : Accounted details.targets details
  completed : result = .ok () → Completed details.targets details
  unmarked : details.phase = none ∧ details.target = none ∧ details.error = none
  judged : Judged rollout trace result details

/-- Before any target is served, nothing is on record but what is to be done. -/
theorem Documented.of_unserved {targets : List String} {checksums : Table String String} {halt : Halt}
    (peaceful : Peaceful rollout trace) :
    Documented rollout trace (.error halt) { targets, checksums } where
  accounted := ⟨List.nil_prefix, [], List.nil_prefix, .refl _, by simp, by simp, by simp⟩
  completed := nofun
  unmarked := ⟨rfl, rfl, rfl⟩
  judged := .peaceful peaceful rfl

private theorem Documented.prepend {first rest : List Exchange} {result : Except Halt Unit} {details : ReportDetails}
    (earlier : Peaceful rollout first) (documented : Documented rollout rest result details) :
    Documented rollout (first ++ rest) result details :=
  { documented with judged := documented.judged.prepend earlier }

/-- What the checks put on record stays as it is while targets are served. -/
theorem ServingAll.documented {targets : List String} {checksums : Table String String}
    {result : Except Halt Unit}
    (serving : ServingAll rollout started intent compilation objectives targets before trace result after)
    (checked : before.details = { targets, checksums })
    (stated : Gate.read rollout.options.slo = .ok objectives) (distinct : targets.Nodup) :
    Documented rollout trace result after.details := by
  have others := serving.details_eq stated
  have judged := serving.judged stated (by rw [checked])
  have none : Completed [] before.details :=
    ⟨by simp [checked], by simp [checked, Table.keys, Table.empty], by simp⟩
  have recorded := serving.recorded stated (show ([] ++ targets).Nodup from distinct) none
  rw [checked] at others
  have same : after.details.targets = targets := congrArg ReportDetails.targets others
  refine ⟨?_, ?_, ⟨?_, ?_, ?_⟩, judged⟩
  · rw [same]
    exact recorded.1
  · intro passed
    rw [same]
    exact recorded.2 passed
  · exact congrArg ReportDetails.phase others
  · exact congrArg ReportDetails.target others
  · exact congrArg ReportDetails.error others

theorem Snapshotting.details_eq {result : Except Halt Unit}
    (snapshotting : Snapshotting rollout before trace result after) : after.details = before.details := by
  cases snapshotting <;> rfl

theorem Driving.documented {source : IntentSource} {requested : List String} {result : Except Halt Unit}
    (driving : Driving rollout started source requested {} trace result after) :
    Documented rollout trace result after.details := by
  have quiet {phase : Phase} {trace : List Exchange} (owned : phase.Owns trace)
      (other : ∀ target, phase ≠ .gate target) : Peaceful rollout trace := .of_owned owned other
  cases driving with
  | unremembered snapshotting =>
    rw [snapshotting.details_eq]
    exact .of_unserved (quiet snapshotting.owned (by simp))
  | invalid snapshotting validating =>
    have peaceful := (quiet snapshotting.owned (by simp)).append (quiet validating.owned (by simp))
    cases validating with
    | halted | unreadable | malformed | refused =>
      dsimp only
      rw [snapshotting.details_eq]
      exact .of_unserved peaceful
  | unrendered snapshotting validating rendering =>
    have peaceful := (quiet snapshotting.owned (by simp)).append
      ((quiet validating.owned (by simp)).append (quiet rendering.owned (by simp)))
    cases validating with
    | accepted =>
      cases rendering with
      | halted | refused =>
        dsimp only
        rw [snapshotting.details_eq]
        exact .of_unserved peaceful
  | served snapshotting validating rendering serving =>
    have remembering := quiet snapshotting.owned (by simp)
    have checking := quiet validating.owned (by simp)
    have compiling := quiet rendering.owned (by simp)
    cases validating with
    | accepted _ _ _ accepted =>
      obtain ⟨-, resolved, stated⟩ := accept_eq_ok.mp accepted
      cases rendering with
      | compiled =>
        have documented := serving.documented (by dsimp only; rw [snapshotting.details_eq]) stated
          (targets_nodup resolved)
        exact ((documented.prepend compiling).prepend checking).prepend remembering

theorem Driving.remembers {source : IntentSource} {requested : List String} {result : Except Halt Unit}
    (driving : Driving rollout started source requested {} trace result after) (head : String) :
    after.snapshot = some head ↔ ∃ time, ⟨.snapshot, ⟨.ok head, time⟩⟩ ∈ trace := by
  obtain ⟨idle, _, rfl⟩ | ⟨opening, taken, time, work, rfl, idle, tracks⟩ := driving.course
  · refine ⟨nofun, ?_⟩
    rintro ⟨time, member⟩
    cases idle.untaken _ member
  · rw [tracks.remembers]
    constructor
    · intro same
      cases same
      exact ⟨time, List.mem_append_right _ List.mem_cons_self⟩
    · rintro ⟨other, member⟩
      rcases List.mem_append.mp member with member | member
      · cases idle.untaken _ member
      · rcases List.mem_cons.mp member with same | member
        · cases same
          rfl
        · cases tracks.untaken _ member

end Attempt

private theorem Returning.peaceful {rollout : Rollout} {attempts : Nat} {trace : List Exchange}
    (returns : Returning attempts trace) : Peaceful rollout trace := by
  obtain rfl | ⟨head, result, tried⟩ := returns
  · exact .nil
  · exact .of_owned (show Phase.rollback.Owns trace from tried.owned fun _ => rfl) (by simp)

theorem Returning.untaken {attempts : Nat} {trace : List Exchange} (returns : Returning attempts trace)
    {head : String} {time : Nat} : ⟨.snapshot, ⟨.ok head, time⟩⟩ ∉ trace := by
  intro member
  obtain rfl | ⟨_, _, tried⟩ := returns
  · cases member
  · have owned : Phase.rollback.Owns trace := tried.owned fun _ => rfl
    cases owned.no_snapshot (by simp) _ member

private theorem Tried.restores_iff {head : String} {attempts : Nat} {trace : List Exchange}
    {result : Except DeliveryError Unit} (tried : Tried (.reset head) attempts trace result) :
    result.toBool = true ↔ ∃ head time, ⟨.reset head, ⟨.ok (), time⟩⟩ ∈ trace := by
  cases result with
  | error error =>
    refine ⟨nofun, ?_⟩
    rintro ⟨other, time, member⟩
    cases tried.refused _ member
  | ok done =>
    obtain ⟨opening, time, rfl, _⟩ := tried.succeeded
    exact ⟨fun _ => ⟨head, time, List.mem_append_right _ (List.mem_singleton_self _)⟩, fun _ => rfl⟩

private theorem Outcome.exitCode_eq_zero {outcome : Outcome} : outcome.exitCode = 0 ↔ outcome = .succeeded := by
  cases outcome <;> simp [exitCode]

/-- A violation that was found ended the drive, and is on record. -/
theorem Judged.of_violates {rollout : Rollout} {trace : List Exchange} {result : Except Halt Unit}
    {details : ReportDetails} {exchange : Exchange} {target : String} {metrics : Metrics}
    (judged : Judged rollout trace result details) (member : exchange ∈ trace)
    (violates : Violates rollout target metrics exchange) :
    ∃ objectives violations, Gate.read rollout.options.slo = .ok objectives ∧
      objectives.check (.ok metrics) = .error (.violated violations) ∧
      result = .error (.failed (.gate target) (.gate target (.violated violations))) ∧
      details.gates.get? target = some (GateRecord.ofOutcome (.error (.violated violations))) ∧
      details.violations = violations := by
  cases judged with
  | peaceful peaceful => exact absurd violates (peaceful _ member _ _)
  | violated peaceful stated violated recorded listed =>
    rcases List.mem_append.mp member with member | member
    · exact absurd violates (peaceful _ member _ _)
    · obtain rfl := List.mem_singleton.mp member
      cases violates with
      | intro => exact ⟨_, _, stated, violated, rfl, recorded, listed⟩

theorem EndsViolated.found {rollout : Rollout} {target : String} {metrics : Metrics}
    {driven ended : List Exchange} (ends : EndsViolated rollout target metrics (driven ++ ended))
    (returns : Returning rollout.options.retry.attempts ended) :
    ∃ exchange ∈ driven, Violates rollout target metrics exchange := by
  generalize whole : driven ++ ended = trace at ends
  cases ends with
  | @intro front judged ending violates =>
    have member : judged ∈ driven ++ ended := by simp [whole]
    rcases List.mem_append.mp member with member | member
    · exact ⟨judged, member, violates⟩
    · exact absurd violates (returns.peaceful _ member _ _)

private theorem Judged.violations_iff {rollout : Rollout} {driven ended : List Exchange} {result : Except Halt Unit}
    {details : ReportDetails} (judged : Judged rollout driven result details)
    (returns : Returning rollout.options.retry.attempts ended) :
    details.violations ≠ [] ↔ ∃ target metrics, EndsViolated rollout target metrics (driven ++ ended) := by
  constructor
  · intro some
    cases judged with
    | peaceful _ none => exact absurd none some
    | violated _ stated violated =>
      rw [List.append_assoc]
      exact ⟨_, _, .intro (.of_check stated violated) returns⟩
  · rintro ⟨target, metrics, ends⟩
    obtain ⟨exchange, member, violates⟩ := ends.found returns
    obtain ⟨objectives, violations, _, violated, _, _, rfl⟩ := judged.of_violates member violates
    obtain ⟨_, _, some, _⟩ := Gate.check_eq_violated.mp violated
    exact some

inductive Reported (standing : Standing) : Except Halt Unit → Report → Prop where
  | succeeded {report} (success : report.success = true) (remembered : report.rollbackPoint = standing.snapshot)
      (same : report.details = standing.details) : Reported standing (.ok ()) report
  | halted {halt report} (failure : report.success = false)
      (remembered : report.rollbackPoint = standing.snapshot)
      (same : report.details =
        { (standing.halted halt).details with rollback := report.details.rollback }) :
      Reported standing (.error halt) report

theorem Attempt.Concluding.reports {rollout : Rollout} {started : Instant} {result : Except Halt Unit}
    {standing : Standing} {trace : List Exchange} {conclusion : Conclusion} {report : Report}
    (concluding : Attempt.Concluding rollout started result standing trace conclusion)
    (reported : conclusion.report = some report) : Reported standing result report := by
  obtain ⟨lines, rfl, _, rfl⟩ | ⟨_, _, _, rfl⟩ | ⟨halt, after, lines, rfl, tidying, rfl⟩ := concluding.parted
  · cases reported
    exact .succeeded rfl rfl rfl
  · cases reported
  · cases reported
    refine .halted (decide_eq_false (Attempt.outcomeOf_error_ne halt)) ?_ tidying.details_eq
    obtain ⟨phase, target, error, marked⟩ := standing.halted_eq halt
    rw [marked] at tidying
    exact tidying.snapshot_eq

/-- A report that says what happened. -/
structure Truthful (rollout : Rollout) (trace : List Exchange) (outcome : Outcome) (report : Report) :
    Prop where
  success : report.success = true ↔ outcome = .succeeded
  exit : report.success = true ↔ outcome.exitCode = 0
  accounted : Accounted report.details.targets report.details
  completed : report.success = true → Completed report.details.targets report.details ∧
    report.details.phase = none ∧ report.details.target = none ∧ report.details.error = none ∧
    report.details.rollback = none
  halted : report.success = false →
    report.details.phase.isSome = true ∧ report.details.error.isSome = true ∧
      (report.details.rollback.isSome = true ↔ publishes trace = true) ∧
      ∀ record, report.details.rollback = some record →
        (record.performed = true ↔ ∃ head time, ⟨.reset head, ⟨.ok (), time⟩⟩ ∈ trace)
  remembered : ∀ head, report.rollbackPoint = some head ↔ ∃ time, ⟨.snapshot, ⟨.ok head, time⟩⟩ ∈ trace
  violated : report.details.violations ≠ [] ↔ ∃ target metrics, EndsViolated rollout target metrics trace
  /-- Violations are those of the gate that ended the attempt, and all that there were. -/
  listed : ∀ target metrics, EndsViolated rollout target metrics trace →
    outcome = .failed ∧ report.details.phase = some (Phase.gate target).name ∧
      report.details.target = some target ∧
      (∃ record, report.details.gates.get? target = some record ∧ record.passed = false ∧
        record.violations = report.details.violations) ∧
      ∀ violation, violation ∈ report.details.violations ↔
        ∃ objectives, Gate.read rollout.options.slo = .ok objectives ∧
          violation.constraint ∈ objectives.constraints ∧ violation.Shows metrics

namespace Reported

variable {standing : Standing} {result : Except Halt Unit} {report : Report}

private theorem success_iff (reported : Reported standing result report) :
    report.success = true ↔ result = .ok () := by
  cases reported with
  | succeeded success => simp [success]
  | halted failure => simp [failure]

private theorem rollbackPoint_eq (reported : Reported standing result report) :
    report.rollbackPoint = standing.snapshot := by
  cases reported with
  | succeeded _ remembered | halted _ remembered => exact remembered

theorem details_eq (reported : Reported standing result report) :
    report.details = { standing.details with
      phase := report.details.phase, target := report.details.target, error := report.details.error,
      rollback := report.details.rollback } := by
  cases reported with
  | succeeded _ _ same => rw [same]
  | @halted halt _ _ _ same =>
    obtain ⟨phase, target, error, marked⟩ := standing.halted_eq halt
    rw [marked] at same
    rw [same]
    rfl

theorem completed (reported : Reported standing result report) {rollout : Rollout} {trace : List Exchange}
    (documented : Attempt.Documented rollout trace result standing.details)
    (unrecorded : standing.details.rollback = none) (success : report.success = true) :
    Completed report.details.targets report.details ∧ report.details.phase = none ∧
      report.details.target = none ∧ report.details.error = none ∧ report.details.rollback = none := by
  cases reported with
  | succeeded _ _ same =>
    obtain ⟨phase, target, error⟩ := documented.unmarked
    rw [same]
    exact ⟨documented.completed rfl, phase, target, error, unrecorded⟩
  | halted failure =>
    rw [failure] at success
    cases success

theorem marked (reported : Reported standing result report) (failure : report.success = false) :
    report.details.phase.isSome = true ∧ report.details.error.isSome = true := by
  cases reported with
  | succeeded success =>
    rw [success] at failure
    cases failure
  | @halted halt _ _ _ same =>
    obtain ⟨phase, target, error, marked⟩ := standing.halted_eq halt
    rw [same, marked]
    exact ⟨rfl, rfl⟩

/-- A target that violated its objectives is on record as what ended the attempt. -/
theorem lists (reported : Reported standing result report) {rollout : Rollout} {trace : List Exchange}
    {exchange : Exchange} {target : String} {metrics : Metrics}
    (documented : Attempt.Documented rollout trace result standing.details) (member : exchange ∈ trace)
    (violates : Violates rollout target metrics exchange) :
    Attempt.outcomeOf result = .failed ∧ report.details.phase = some (Phase.gate target).name ∧
      report.details.target = some target ∧
      (∃ record, report.details.gates.get? target = some record ∧ record.passed = false ∧
        record.violations = report.details.violations) ∧
      ∀ violation, violation ∈ report.details.violations ↔
        ∃ objectives, Gate.read rollout.options.slo = .ok objectives ∧
          violation.constraint ∈ objectives.constraints ∧ violation.Shows metrics := by
  have same := reported.details_eq
  have violations : report.details.violations = standing.details.violations := by rw [same]
  have gates : report.details.gates = standing.details.gates := by rw [same]
  obtain ⟨objectives, found, stated, violated, rfl, recorded, rfl⟩ :=
    documented.judged.of_violates member violates
  obtain ⟨_, fetched, _, _, listed⟩ := Gate.check_eq_violated.mp violated
  cases fetched
  cases reported with
  | halted _ _ marked =>
    refine ⟨rfl, by rw [marked]; rfl, by rw [marked]; rfl, ⟨_, gates ▸ recorded, rfl, violations.symm⟩, ?_⟩
    intro violation
    rw [violations, listed, Gate.mem_violations]
    simp [stated]

end Reported

/-- The tree was put back if anything was published, and the report says whether that succeeded. -/
theorem Attempt.Concluding.restores {rollout : Rollout} {started : Instant} {result : Except Halt Unit}
    {standing : Standing} {driven ended : List Exchange} {conclusion : Conclusion} {report : Report}
    (concluding : Attempt.Concluding rollout started result standing ended conclusion)
    (left : Attempt.Driven rollout driven standing) (reported : conclusion.report = some report)
    (failure : conclusion.outcome ≠ .succeeded) :
    (report.details.rollback.isSome = true ↔ publishes (driven ++ ended) = true) ∧
      ∀ record, report.details.rollback = some record →
        (record.performed = true ↔ ∃ head time, ⟨.reset head, ⟨.ok (), time⟩⟩ ∈ driven ++ ended) := by
  obtain ⟨rfl, clean, unrecorded⟩ |
      ⟨head, restoring, error, other, mutated, _, _, tried, returned, _, recorded, _⟩ :=
    concluding.settled left.known left.unrecorded
  · rw [unrecorded report reported, List.append_nil, ← left.counts, clean.resolve_left failure]
    exact ⟨by simp, nofun⟩
  · obtain rfl := Option.some_inj.mp (returned.symm.trans reported)
    rw [recorded, publishes_append, ← left.counts, mutated]
    have kept {head : String} {time : Nat} : (⟨.reset head, ⟨.ok (), time⟩⟩ : Exchange) ∉ driven := by
      intro member
      cases left.kept _ member
    refine ⟨by simp, ?_⟩
    intro record same
    cases same
    rw [tried.restores_iff]
    simp [kept]

/-- Every report tells the truth, whatever the environment answered. -/
theorem Rollout.report_truthful {rollout : Rollout} {started : Instant} {source : IntentSource}
    {requested : List String} {trace : List Exchange} {conclusion : Conclusion} {report : Report}
    (ran : (rollout.plan started source requested).Run trace conclusion)
    (reported : conclusion.report = some report) :
    Truthful rollout trace conclusion.outcome report := by
  obtain ⟨driven, result, standing, ended, rfl, driving, concluding⟩ := Rollout.run_plan ran
  have left := driving.driven
  have documented := driving.documented
  have reports := concluding.reports reported
  have same := reports.details_eq
  have returns : Returning rollout.options.retry.attempts ended :=
    (concluding.returns left).imp id fun ended => ended.2.2
  have succeeded : report.success = true ↔ conclusion.outcome = .succeeded := by
    rw [reports.success_iff, concluding.outcome_eq, Attempt.outcomeOf_eq_succeeded]
  have violations : report.details.violations = standing.details.violations := by rw [same]
  refine {
    success := succeeded
    exit := succeeded.trans Outcome.exitCode_eq_zero.symm
    accounted := ?_
    completed := reports.completed documented left.unrecorded
    halted := ?_
    remembered := ?_
    violated := by rw [violations, documented.judged.violations_iff returns]
    listed := ?_ }
  · rw [same]
    exact ⟨documented.accounted.published, documented.accounted.gated⟩
  · intro failure
    obtain ⟨phase, error⟩ := reports.marked failure
    exact ⟨phase, error, concluding.restores left reported (mt succeeded.mpr (by simp [failure]))⟩
  · intro head
    rw [reports.rollbackPoint_eq, driving.remembers]
    simp [returns.untaken]
  · intro target metrics ends
    obtain ⟨exchange, member, violates⟩ := ends.found returns
    rw [concluding.outcome_eq]
    exact reports.lists documented member violates

def Rehearsal.secondSlow : Rehearsal where
  script :=
    { metrics := Table.ofList
        [("edge1", .fast), ("edge2", { result := .ok (Table.ofList [("latency", .ofNat 9)]) })] }

theorem Rollout.report_of_violation :
    ∃ report, (Rehearsal.secondSlow.run Rollout.unattended.both).1.report = some report ∧
      (report.success, report.details.target, report.details.violations.length) =
        (false, some "edge2", 1) ∧
      Truthful Rollout.unattended (Rehearsal.secondSlow.exchanges Rollout.unattended.both)
        (Rehearsal.secondSlow.run Rollout.unattended.both).1.outcome report := by
  have listed : ((Rehearsal.secondSlow.run Rollout.unattended.both).1.report.map fun report =>
      (report.success, report.details.target, report.details.violations.length)) =
        some (false, some "edge2", 1) := by decide +kernel
  obtain ⟨report, reported, same⟩ := Option.map_eq_some_iff.mp listed
  have ran := Rehearsal.secondSlow.ran Rollout.unattended.both
  exact ⟨report, reported, same, Rollout.report_truthful ran reported⟩

end IntentRollout
