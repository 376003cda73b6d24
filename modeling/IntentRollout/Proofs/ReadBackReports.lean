import IntentRollout.Proofs.ConstraintGrammar
import IntentRollout.Proofs.ReportFiles
import IntentRollout.Proofs.ReportText
import IntentRollout.Proofs.ReportTruth

/-! Reports that are read back. The violations on record are those that gates found, so their numbers are thresholds
of objectives and values of metrics. If these are finite, nothing of a report is lost in its file. -/

namespace IntentRollout

/-- What gates found in the metrics that came has a property. -/
def Finds (property : Violation → Prop) (rollout : Rollout) (trace : List Exchange) : Prop :=
  ∀ target metrics time, (⟨.fetch target, ⟨some (.ok metrics), time⟩⟩ : Exchange) ∈ trace →
    ∀ objectives violations, Gate.read rollout.options.slo = .ok objectives →
      objectives.check (.ok metrics) = .error (.violated violations) → ∀ violation ∈ violations, property violation

section Runs

variable {property : Violation → Prop} {rollout : Rollout} {started : Instant} {before after : Standing}
  {trace first rest : List Exchange} {intent : Intent} {compilation : Compilation} {objectives : Gate}
  {target : String} {result : Except Halt Unit}

theorem Finds.left (finds : Finds property rollout (first ++ rest)) : Finds property rollout first :=
  fun target metrics time member => finds target metrics time (List.mem_append_left rest member)

theorem Finds.right (finds : Finds property rollout (first ++ rest)) : Finds property rollout rest :=
  fun target metrics time member => finds target metrics time (List.mem_append_right first member)

namespace ReportDetails.Every

variable {details : ReportDetails}

theorem initial : ReportDetails.Every property {} := ⟨nofun, nofun⟩

theorem insert (every : details.Every property) {record : GateRecord}
    (judged : ∀ violation ∈ record.violations, property violation) (target : String) :
    { details with gates := details.gates.insert target record }.Every property where
  gates entry member := by
    rcases Entries.mem_insert member with rfl | earlier
    · exact judged
    · exact every.gates entry earlier
  violations := every.violations

end ReportDetails.Every

namespace Attempt

/-- Only a gate that finds violations puts some on record. -/
theorem Gating.every (gating : Gating rollout objectives target before trace result after)
    (stated : Gate.read rollout.options.slo = .ok objectives) (finds : Finds property rollout trace)
    (every : before.details.Every property) : after.details.Every property := by
  cases gating with
  | halted | interrupted => exact every
  | rehearsed | passed => exact every.insert (List.forall_mem_nil _) target
  | @violated first fetched time violations _ _ violated =>
    obtain ⟨metrics, rfl, -⟩ := Gate.check_eq_violated.mp violated
    have fetch : (⟨.fetch target, ⟨some (.ok metrics), time⟩⟩ : Exchange) ∈
        first ++ [⟨.fetch target, ⟨some (.ok metrics), time⟩⟩] :=
      List.mem_append_right first (List.mem_singleton_self _)
    have found := finds target metrics time fetch objectives violations stated violated
    exact ⟨(every.insert found target).gates, found⟩
  | @unclear _ _ _ error _ _ _ unjudged =>
    refine every.insert ?_ target
    cases error with
    | violated => cases unjudged
    | slo | missingMetric | fetch => exact List.forall_mem_nil _

private theorem Serving.every
    (serving : Serving rollout started intent compilation objectives target before trace result after)
    (stated : Gate.read rollout.options.slo = .ok objectives) (finds : Finds property rollout trace)
    (every : before.details.Every property) : after.details.Every property := by
  have published {trace after} {result : Except Halt (Option String)}
      (publishing : Publishing rollout started intent compilation target before trace result after) :
      after.details.Every property := by
    rw [publishing.details_eq]
    cases result with
    | ok => exact ⟨every.gates, every.violations⟩
    | error => exact every
  cases serving with
  | unpublished publishing => exact published publishing
  | unverified publishing verifying =>
    rw [verifying.details_eq]
    exact published publishing
  | gated publishing verifying gating =>
    refine gating.every stated finds.right.right ?_
    rw [verifying.details_eq]
    exact published publishing

private theorem ServingAll.every {targets : List String}
    (serving : ServingAll rollout started intent compilation objectives targets before trace result after)
    (stated : Gate.read rollout.options.slo = .ok objectives) (finds : Finds property rollout trace)
    (every : before.details.Every property) : after.details.Every property := by
  induction serving with
  | done => exact every
  | stopped serving => exact serving.every stated finds every
  | passed serving _ ih => exact ih finds.right (serving.every stated finds.left every)

private theorem Validating.every {source : IntentSource} {requested : List String}
    {accepted : Except Halt (Intent × List String × Gate)}
    (validating : Validating rollout source requested before trace accepted after)
    (every : before.details.Every property) : after.details.Every property := by
  cases validating <;> exact ⟨every.gates, every.violations⟩

theorem Validating.stated {source : IntentSource} {requested targets : List String}
    (validating : Validating rollout source requested before trace (.ok (intent, targets, objectives)) after) :
    Gate.read rollout.options.slo = .ok objectives := by
  cases validating with
  | accepted _ _ _ accepted => exact (accept_eq_ok.mp accepted).2.2

private theorem Rendering.every {targets : List String} {rendered : Except Halt Compilation}
    (rendering : Rendering rollout started intent targets before trace rendered after)
    (every : before.details.Every property) : after.details.Every property := by
  cases rendering <;> exact ⟨every.gates, every.violations⟩

private theorem Driving.every {source : IntentSource} {requested : List String}
    (driving : Driving rollout started source requested before trace result after)
    (finds : Finds property rollout trace) (every : before.details.Every property) :
    after.details.Every property := by
  have remembered {trace after} {result : Except Halt Unit}
      (snapshotting : Snapshotting rollout before trace result after) : after.details.Every property :=
    snapshotting.details_eq ▸ every
  cases driving with
  | unremembered snapshotting => exact remembered snapshotting
  | invalid snapshotting validating => exact validating.every (remembered snapshotting)
  | unrendered snapshotting validating rendering =>
    exact rendering.every (validating.every (remembered snapshotting))
  | served snapshotting validating rendering serving =>
    exact serving.every validating.stated finds.right.right.right
      (rendering.every (validating.every (remembered snapshotting)))

end Attempt

/-- The violations in a report are those that gates found. -/
theorem Rollout.report_every {source : IntentSource} {requested : List String} {conclusion : Conclusion}
    {report : Report} (ran : (rollout.plan started source requested).Run trace conclusion)
    (reported : conclusion.report = some report) (finds : Finds property rollout trace) :
    report.details.Every property := by
  obtain ⟨driven, result, standing, ended, rfl, driving, concluding⟩ := Rollout.run_plan ran
  have every := driving.every finds.left .initial
  rw [(concluding.reports reported).details_eq]
  exact ⟨every.gates, every.violations⟩

end Runs

structure Violation.Finite (violation : Violation) : Prop where
  threshold : violation.constraint.threshold.isFinite = true
  actual : violation.actual.isFinite = true

private theorem Slo.finite_of_readConstraints {text : String} {constraints : List Constraint}
    (read : readConstraints text = .ok constraints) : ∀ constraint ∈ constraints, constraint.threshold.isFinite = true := by
  cases readConstraints_eq.mp read with
  | constraints stated nonempty accepted =>
    clear read stated nonempty
    induction accepted with
    | nil => nofun
    | cons here _ ih =>
      rw [List.forall_mem_cons]
      obtain ⟨_, finite⟩ := here
      exact ⟨finite, ih⟩

def Metrics.Finite (metrics : Metrics) : Prop := ∀ entry ∈ metrics.entries, entry.2.isFinite = true

private theorem finds_finite {rollout : Rollout} {trace : List Exchange}
    (finite : ∀ target metrics time, (⟨.fetch target, ⟨some (.ok metrics), time⟩⟩ : Exchange) ∈ trace → metrics.Finite) :
    Finds Violation.Finite rollout trace := by
  intro target metrics time member objectives violations stated violated violation listed
  obtain ⟨_, same, _, _, rfl⟩ := Gate.check_eq_violated.mp violated
  cases same
  obtain ⟨judged, shown, _⟩ := Gate.mem_violations.mp listed
  obtain ⟨constraints, read, same⟩ := bind_eq_ok.mp stated
  cases same
  exact ⟨Slo.finite_of_readConstraints read _ judged, finite target metrics time member _ (Table.get?_eq_some.mp shown)⟩

namespace Json

private theorem mem_floats_object {members : List (String × Json)} (name : String) {document : Json}
    (member : (name, document) ∈ members) {value : Binary64} (inside : value ∈ document.floats) :
    value ∈ (Json.object members).floats := mem_memberFloats member inside

private theorem mem_floats_array {items : List Json} {document : Json} (member : document ∈ items) {value : Binary64}
    (inside : value ∈ document.floats) : value ∈ (Json.array items).floats := mem_itemFloats member inside

private theorem floats_finite {value : Binary64} (finite : value.isFinite = true) :
    (Json.finite value).floats = [value] := by
  rw [Json.finite, if_pos finite]
  rfl

end Json

private theorem Violation.floats_toJson {violation : Violation} (finite : violation.Finite) :
    violation.toJson.floats = [violation.constraint.threshold, violation.actual] := by
  simp [Violation.toJson, Json.floats, Json.memberFloats, Json.floats_finite finite.threshold,
    Json.floats_finite finite.actual]

/-- The numbers of every violation stand in the document of the details. -/
theorem ReportDetails.every_floats (details : ReportDetails) :
    details.Every fun violation => ∀ value ∈ violation.toJson.floats, value ∈ details.toJson.floats where
  gates entry member violation listed value inside := by
    have gate : value ∈ entry.2.toJson.floats := by
      have listed : value ∈ (Json.array (entry.2.violations.map Violation.toJson)).floats :=
        Json.mem_floats_array (List.mem_map_of_mem listed) inside
      exact Json.mem_floats_object "violations" (by simp) listed
    have gates : value ∈ (Json.object (details.gates.mapValues fun _ record => record.toJson).entries).floats :=
      Json.mem_floats_object entry.1 (List.mem_map.mpr ⟨entry, member, rfl⟩) gate
    exact Json.mem_floats_object "gates" (by simp) gates
  violations violation listed value inside := by
    have some : details.violations ≠ [] := List.ne_nil_of_mem listed
    have listed : value ∈ (Json.array (details.violations.map Violation.toJson)).floats :=
      Json.mem_floats_array (List.mem_map_of_mem listed) inside
    exact Json.mem_floats_object "violations" (by simp [some]) listed

private theorem Report.mem_floats {report : Report} {value : Binary64} (inside : value ∈ report.details.toJson.floats) :
    value ∈ report.toJson.floats :=
  Json.mem_floats_object "details" (by simp) inside

private theorem Report.every_legible {report : Report} (finite : report.details.Every Violation.Finite)
    (legible : ∀ value ∈ report.toJson.floats, value.isFinite = true → Json.Legible value) :
    report.details.Every Violation.Legible := by
  have each (violation : Violation) (finite : violation.Finite)
      (held : ∀ value ∈ violation.toJson.floats, value ∈ report.details.toJson.floats) : violation.Legible := by
    rw [Violation.floats_toJson finite] at held
    have threshold := held violation.constraint.threshold (by simp)
    have actual := held violation.actual (by simp)
    exact ⟨⟨finite.threshold, legible _ (Report.mem_floats threshold) finite.threshold⟩,
      finite.actual, legible _ (Report.mem_floats actual) finite.actual⟩
  have floats := report.details.every_floats
  exact ⟨fun entry member violation listed =>
      each violation (finite.gates entry member violation listed) (floats.gates entry member violation listed),
    fun violation listed => each violation (finite.violations violation listed) (floats.violations violation listed)⟩

/-- Every report of an attempt whose metrics were finite comes back whole from its text, and from the file that it
is written to, if the numbers in it are read from their own texts. -/
theorem Rollout.report_read_back {rollout : Rollout} {started : Instant} {source : IntentSource}
    {requested : List String} {trace : List Exchange} {conclusion : Conclusion} {report : Report}
    (ran : (rollout.plan started source requested).Run trace conclusion)
    (reported : conclusion.report = some report)
    (finite : ∀ target metrics time, (⟨.fetch target, ⟨some (.ok metrics), time⟩⟩ : Exchange) ∈ trace → metrics.Finite)
    (legible : ∀ value ∈ report.toJson.floats, value.isFinite = true → Json.Legible value) :
    Report.read report.toJson.pretty = .ok report ∧
      ∀ root directory before after, (conclusion.write root).on before = (.ok (some directory), after) →
        Report.load after (Path.join directory Report.fileName) = .ok report := by
  have every := Report.every_legible (Rollout.report_every ran reported (finds_finite finite)) legible
  have read := Report.read_pretty every
  refine ⟨read, fun root directory before after wrote => ?_⟩
  have text := Conclusion.readText_of_write reported wrote
  exact bind_eq_ok.mpr ⟨_, mapError_eq_ok.mpr text, mapError_eq_ok.mpr read⟩

def Exchange.bringsFinite : Exchange → Bool
  | ⟨.fetch _, ⟨some (.ok metrics), _⟩⟩ => metrics.entries.all (·.2.isFinite)
  | _ => true

/-- The threshold and the latency of the second target stand in its gate and among the violations. -/
theorem Rollout.violated_report_read_back :
    ∃ report, (Rehearsal.secondSlow.run Rollout.unattended.both).1.report = some report ∧
      report.toJson.floats = [.ofNat 5, .ofNat 9, .ofNat 5, .ofNat 9] ∧
      Report.read report.toJson.pretty = .ok report ∧
      ∀ root directory before after,
        ((Rehearsal.secondSlow.run Rollout.unattended.both).1.write root).on before = (.ok (some directory), after) →
          Report.load after (Path.join directory Report.fileName) = .ok report := by
  have floats : ((Rehearsal.secondSlow.run Rollout.unattended.both).1.report.map (·.toJson.floats)) =
      some [.ofNat 5, .ofNat 9, .ofNat 5, .ofNat 9] := by decide +kernel
  have finite : (Rehearsal.secondSlow.exchanges Rollout.unattended.both).all (·.bringsFinite) = true := by
    decide +kernel
  have five : Json.Legible (.ofNat 5) := Json.legible_of_float? (by decide +kernel) (by decide +kernel)
  have nine : Json.Legible (.ofNat 9) := Json.legible_of_float? (by decide +kernel) (by decide +kernel)
  obtain ⟨report, reported, floats⟩ := Option.map_eq_some_iff.mp floats
  refine ⟨report, reported, floats, Rollout.report_read_back
    (Rehearsal.secondSlow.ran Rollout.unattended.both) reported ?_ ?_⟩
  · intro target metrics time member entry listed
    exact List.all_eq_true.mp (List.all_eq_true.mp finite _ member) entry listed
  · intro value member _
    rw [floats] at member
    simp only [List.mem_cons, List.not_mem_nil, or_false] at member
    rcases member with rfl | rfl | rfl | rfl
    · exact five
    · exact nine
    · exact five
    · exact nine

end IntentRollout
