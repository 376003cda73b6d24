import IntentRollout.Proofs.GateVerdicts
import IntentRollout.Proofs.TableLaws

/-! The verdict of a gate, case by case. What could not be fetched or is missing is never a pass and never a
violation, and nothing that the objectives do not name has a say in the verdict. -/

namespace IntentRollout

instance (constraint : Constraint) (metrics : Metrics) : Decidable (constraint.Met metrics) :=
  decidable_of_iff
      ((metrics.get? constraint.metric).any (constraint.operator.holds · constraint.threshold) = true) <| by
    rw [Option.any_eq_true, Constraint.Met]

def GateError.unlisted : GateError → GateError
  | .missingMetric metric _ => .missingMetric metric []
  | error => error

/-- The constraints of violations are those that are not met, and their values are those that there are. -/
structure Violations (constraints : List Constraint) (metrics : Metrics) (violations : List Violation) : Prop where
  unmet : violations.map (·.constraint) = constraints.filter fun constraint => ¬ constraint.Met metrics
  shown : ∀ violation ∈ violations, metrics.get? violation.constraint.metric = some violation.actual

/-- A violation is told by its constraint. -/
theorem eq_of_map_constraint {metrics : Metrics} {violations others : List Violation}
    (shown : ∀ violation ∈ violations, metrics.get? violation.constraint.metric = some violation.actual)
    (alike : ∀ violation ∈ others, metrics.get? violation.constraint.metric = some violation.actual)
    (same : violations.map (·.constraint) = others.map (·.constraint)) : violations = others := by
  induction violations generalizing others with
  | nil => exact (List.map_eq_nil_iff.mp same.symm).symm
  | cons violation violations ih =>
    cases others with
    | nil => cases same
    | cons other others =>
      obtain ⟨here, later⟩ := List.forall_mem_cons.mp shown
      obtain ⟨there, rest⟩ := List.forall_mem_cons.mp alike
      obtain ⟨stated, tail⟩ := List.cons.inj same
      obtain ⟨constraint, actual⟩ := violation
      obtain ⟨constraint', actual'⟩ := other
      obtain rfl : constraint = constraint' := stated
      obtain rfl : actual = actual' := Option.some_inj.mp (here.symm.trans there)
      rw [ih later rest tail]

theorem Violations.unique {constraints : List Constraint} {metrics : Metrics} {violations others : List Violation}
    (first : Violations constraints metrics violations) (second : Violations constraints metrics others) :
    violations = others :=
  eq_of_map_constraint first.shown second.shown (first.unmet.trans second.unmet.symm)

namespace Gate

inductive Judged (gate : Gate) : Except Http.FetchError Metrics → Except GateError Unit → Prop where
  | unfetched (error : Http.FetchError) : Judged gate (.error error) (.error (.fetch error))
  | missing {metrics : Metrics} {front rest : List Constraint} {constraint : Constraint}
      (stated : gate.constraints = front ++ constraint :: rest)
      (known : ∀ earlier ∈ front, metrics.contains earlier.metric = true)
      (absent : metrics.contains constraint.metric = false) :
      Judged gate (.ok metrics) (.error (.missingMetric constraint.metric metrics.keys))
  | violated {metrics : Metrics} {violations : List Violation}
      (known : ∀ constraint ∈ gate.constraints, metrics.contains constraint.metric = true)
      (nonempty : violations ≠ []) (exact : Violations gate.constraints metrics violations) :
      Judged gate (.ok metrics) (.error (.violated violations))
  | passed {metrics : Metrics} (met : ∀ constraint ∈ gate.constraints, constraint.Met metrics) :
      Judged gate (.ok metrics) (.ok ())

variable {gate : Gate} {metrics : Metrics}

private theorem map_filterMap_violation? {constraints : List Constraint}
    (known : ∀ constraint ∈ constraints, metrics.contains constraint.metric = true) :
    (constraints.filterMap (violation? metrics)).map (·.constraint) =
      constraints.filter fun constraint => ¬ constraint.Met metrics := by
  induction constraints with
  | nil => rfl
  | cons constraint rest ih =>
    obtain ⟨here, later⟩ := List.forall_mem_cons.mp known
    by_cases met : constraint.Met metrics
    · rw [List.filterMap_cons_none ((violation?_eq_none here).mpr met), ih later,
        List.filter_cons_of_neg (by simpa using met)]
    · obtain ⟨violation, violated⟩ := Option.ne_none_iff_exists'.mp (mt (violation?_eq_none here).mp met)
      rw [List.filterMap_cons_some violated, List.map_cons, ih later, (violation?_eq_some.mp violated).1,
        List.filter_cons_of_pos (by simpa using met)]

private theorem violations_filterMap {constraints : List Constraint}
    (known : ∀ constraint ∈ constraints, metrics.contains constraint.metric = true) :
    Violations constraints metrics (constraints.filterMap (violation? metrics)) := by
  refine ⟨map_filterMap_violation? known, ?_⟩
  intro violation member
  obtain ⟨constraint, _, violated⟩ := List.mem_filterMap.mp member
  exact (violation?_eq_some.mp violated).2.1

private theorem check_eq_missing {front rest : List Constraint} {constraint : Constraint}
    (stated : gate.constraints = front ++ constraint :: rest)
    (known : ∀ earlier ∈ front, metrics.contains earlier.metric = true)
    (absent : metrics.contains constraint.metric = false) :
    gate.check (.ok metrics) = .error (.missingMetric constraint.metric metrics.keys) := by
  have found : gate.constraints.find? (fun constraint => !metrics.contains constraint.metric) =
      some constraint := by
    rw [stated, List.find?_append, List.find?_eq_none.mpr (by simpa using known)]
    simp [absent]
  rw [check_ok, judge, evaluate, found]
  rfl

private theorem check_of_judged {fetched : Except Http.FetchError Metrics} {verdict : Except GateError Unit}
    (judged : gate.Judged fetched verdict) : gate.check fetched = verdict := by
  cases judged with
  | unfetched error => exact check_error error
  | missing stated known absent => exact check_eq_missing stated known absent
  | violated known nonempty exact =>
    exact check_eq_violated.mpr ⟨_, rfl, nonempty, known, exact.unique (violations_filterMap known)⟩
  | passed met => exact check_eq_ok.mpr ⟨_, rfl, met⟩

/-- There is a verdict on whatever was fetched: the first metric that is missing decides, and when none is
the constraints do. -/
theorem exists_judged (fetched : Except Http.FetchError Metrics) : ∃ verdict, gate.Judged fetched verdict := by
  cases fetched with
  | error error => exact ⟨_, .unfetched error⟩
  | ok metrics =>
    by_cases known : ∀ constraint ∈ gate.constraints, metrics.contains constraint.metric = true
    · have exact := violations_filterMap known
      by_cases none : gate.constraints.filterMap (violation? metrics) = []
      · refine ⟨_, .passed ?_⟩
        intro constraint member
        exact (violation?_eq_none (known constraint member)).mp (List.filterMap_eq_nil_iff.mp none constraint member)
      · exact ⟨_, .violated known none exact⟩
    · have some : (gate.constraints.find? fun constraint => !metrics.contains constraint.metric).isSome = true := by
        rw [List.find?_isSome]
        simpa using known
      obtain ⟨constraint, found⟩ := Option.isSome_iff_exists.mp some
      obtain ⟨absent, front, rest, stated, earlier⟩ := List.find?_eq_some_iff_append.mp found
      exact ⟨_, .missing stated (by simpa using earlier) (by simpa using absent)⟩

/-- A gate comes to the one verdict that there is on what was fetched. -/
theorem check_eq {fetched : Except Http.FetchError Metrics} {verdict : Except GateError Unit} :
    gate.check fetched = verdict ↔ gate.Judged fetched verdict := by
  constructor
  · rintro rfl
    obtain ⟨verdict, judged⟩ := gate.exists_judged fetched
    rwa [check_of_judged judged]
  · exact check_of_judged

/-- Metrics that have the same values for all constraints of a gate. -/
def Alike (gate : Gate) (metrics others : Metrics) : Prop :=
  ∀ constraint ∈ gate.constraints, metrics.get? constraint.metric = others.get? constraint.metric

variable {others : Metrics}

private theorem Alike.contains_eq (alike : gate.Alike metrics others) {constraint : Constraint}
    (member : constraint ∈ gate.constraints) :
    others.contains constraint.metric = metrics.contains constraint.metric := by
  rw [Table.contains, Table.contains, alike constraint member]

private theorem Alike.met_iff (alike : gate.Alike metrics others) {constraint : Constraint}
    (member : constraint ∈ gate.constraints) : constraint.Met others ↔ constraint.Met metrics := by
  rw [Constraint.Met, Constraint.Met, alike constraint member]

theorem Alike.violations (alike : gate.Alike metrics others) {violations : List Violation}
    (exact : Violations gate.constraints metrics violations) : Violations gate.constraints others violations := by
  constructor
  · rw [exact.unmet]
    apply List.filter_congr
    intro constraint member
    exact decide_eq_decide.mpr (not_congr (alike.met_iff member).symm)
  · intro violation member
    have stated : violation.constraint ∈ gate.constraints := by
      apply List.mem_of_mem_filter (p := fun constraint => ¬ constraint.Met metrics)
      rw [← exact.unmet]
      exact List.mem_map_of_mem member
    rw [← alike _ stated]
    exact exact.shown violation member

/-- Metrics that a gate does not name change nothing but the list of those that there are. -/
theorem Alike.check_eq (alike : gate.Alike metrics others) :
    (gate.check (.ok metrics)).mapError GateError.unlisted =
      (gate.check (.ok others)).mapError GateError.unlisted := by
  obtain ⟨verdict, judged⟩ := gate.exists_judged (.ok metrics)
  rw [check_of_judged judged]
  cases judged with
  | missing stated known absent =>
    have known' : ∀ earlier : Constraint, earlier ∈ _ → others.contains earlier.metric = true := fun earlier member =>
      (alike.contains_eq (by simp [stated, member])).trans (known earlier member)
    have absent' : others.contains _ = false := (alike.contains_eq (by simp [stated])).trans absent
    rw [check_eq_missing stated known' absent']
    rfl
  | violated known nonempty exact =>
    have judged : gate.Judged (.ok others) _ := .violated
      (fun constraint member => (alike.contains_eq member).trans (known constraint member)) nonempty
      (alike.violations exact)
    rw [check_of_judged judged]
  | passed met =>
    have judged : gate.Judged (.ok others) _ :=
      .passed fun constraint member => (alike.met_iff member).mpr (met constraint member)
    rw [check_of_judged judged]

private theorem check_eq_ok_of_mem {other : Gate}
    (same : ∀ constraint, constraint ∈ gate.constraints ↔ constraint ∈ other.constraints)
    (fetched : Except Http.FetchError Metrics) : gate.check fetched = .ok () ↔ other.check fetched = .ok () := by
  simp only [check_eq_ok, same]

end Gate

namespace Metrics

/-- What is read from the members of a document are those that are numbers. -/
theorem get?_ofJson {members : List (String × Json)} (distinct : (members.map (·.1)).Nodup) {metrics : Metrics}
    (read : ofJson (.object members) = .ok metrics) {name : String} {value : Binary64} :
    metrics.get? name = some value ↔ ∃ number, (name, .number number) ∈ members ∧ number.toBinary64 = value := by
  cases read
  rw [Table.get?_ofList_eq_some, List.mem_filterMap]
  · constructor
    · rintro ⟨⟨key, document⟩, member, kept⟩
      cases document with
      | number number =>
        cases kept
        exact ⟨number, member, rfl⟩
      | _ => cases kept
    · rintro ⟨number, member, rfl⟩
      exact ⟨_, member, rfl⟩
  · refine Entries.nodup_keys_filterMap distinct fun member kept same => ?_
    dsimp only at same
    split at same
    · cases same
      rfl
    · cases same

end Metrics

/-- Documents with the same members for all that a gate names are read to metrics that are alike. -/
theorem Gate.alike_of_members {gate : Gate} {members others : List (String × Json)}
    (distinct : (members.map (·.1)).Nodup) (distinct' : (others.map (·.1)).Nodup)
    (same : ∀ constraint ∈ gate.constraints, ∀ value,
      (constraint.metric, value) ∈ members ↔ (constraint.metric, value) ∈ others) {metrics metrics' : Metrics}
    (read : Metrics.ofJson (.object members) = .ok metrics)
    (read' : Metrics.ofJson (.object others) = .ok metrics') : gate.Alike metrics metrics' := by
  intro constraint member
  ext value
  rw [Metrics.get?_ofJson distinct read, Metrics.get?_ofJson distinct' read']
  simp only [same constraint member]

/-- What holds of the verdicts of a gate, whatever is fetched. -/
structure Gate.Fair (gate : Gate) : Prop where
  judged : ∀ fetched verdict, gate.check fetched = verdict ↔ gate.Judged fetched verdict
  numeric : ∀ members metrics, (members.map (·.1)).Nodup → Metrics.ofJson (.object members) = .ok metrics →
    ∀ name value, metrics.get? name = some value ↔
      ∃ number, (name, .number number) ∈ members ∧ number.toBinary64 = value
  apart : ∀ metrics others, gate.Alike metrics others →
    (gate.check (.ok metrics)).mapError GateError.unlisted = (gate.check (.ok others)).mapError GateError.unlisted
  unnamed : ∀ members others metrics metrics', (members.map (·.1)).Nodup → (others.map (·.1)).Nodup →
    (∀ constraint ∈ gate.constraints, ∀ value,
      (constraint.metric, value) ∈ members ↔ (constraint.metric, value) ∈ others) →
    Metrics.ofJson (.object members) = .ok metrics → Metrics.ofJson (.object others) = .ok metrics' →
    (gate.check (.ok metrics)).mapError GateError.unlisted =
      (gate.check (.ok metrics')).mapError GateError.unlisted
  rearranged : ∀ other : Gate, (∀ constraint, constraint ∈ gate.constraints ↔ constraint ∈ other.constraints) →
    ∀ fetched, gate.check fetched = .ok () ↔ other.check fetched = .ok ()

/-- Every gate is fair: its verdict follows from what was fetched case by case, from the numbers in a document
alone, and members that it does not name do not count. -/
theorem Gate.fair (gate : Gate) : gate.Fair where
  judged _ _ := check_eq
  numeric _ _ distinct read _ _ := Metrics.get?_ofJson distinct read
  apart _ _ alike := alike.check_eq
  unnamed _ _ _ _ distinct distinct' same read read' := (alike_of_members distinct distinct' same read read').check_eq
  rearranged _ same fetched := check_eq_ok_of_mem same fetched

end IntentRollout
