import IntentRollout.Slo.Gate

/-! What the verdicts of a gate mean. A gate passes metrics that meet all its constraints, and a violation
that it lists is one of its constraints with the value that does not meet it. -/

namespace IntentRollout

/-- Metrics that have a value for a constraint, in its relation to the threshold. -/
def Constraint.Met (constraint : Constraint) (metrics : Metrics) : Prop :=
  ∃ actual, metrics.get? constraint.metric = some actual ∧
    constraint.operator.holds actual constraint.threshold = true

def Violation.Shows (violation : Violation) (metrics : Metrics) : Prop :=
  metrics.get? violation.constraint.metric = some violation.actual ∧
    violation.constraint.operator.holds violation.actual violation.constraint.threshold = false

theorem Violation.Shows.unmet {violation : Violation} {metrics : Metrics} (shown : violation.Shows metrics) :
    ¬ violation.constraint.Met metrics := by
  rintro ⟨actual, found, holds⟩
  obtain rfl := Option.some_inj.mp (shown.1.symm.trans found)
  rw [shown.2] at holds
  cases holds

namespace Gate

variable {gate : Gate} {metrics : Metrics}

theorem violation?_eq_some {constraint : Constraint} {violation : Violation} :
    violation? metrics constraint = some violation ↔
      violation.constraint = constraint ∧ violation.Shows metrics := by
  unfold violation? Violation.Shows
  obtain ⟨stated, actual⟩ := violation
  constructor
  · intro violated
    obtain ⟨value, found, decided⟩ := Option.bind_eq_some_iff.mp violated
    split at decided
    next => cases decided
    next unheld =>
      cases decided
      exact ⟨rfl, found, eq_false_of_ne_true unheld⟩
  · rintro ⟨rfl, found, unheld⟩
    dsimp only at found unheld
    simp [found, unheld]

theorem violation?_eq_none {constraint : Constraint} (known : metrics.contains constraint.metric = true) :
    violation? metrics constraint = none ↔ constraint.Met metrics := by
  unfold violation? Constraint.Met
  cases found : metrics.get? constraint.metric with
  | none => simp [Table.contains, found] at known
  | some value => simp

private theorem evaluate_eq_ok {violations : List Violation} :
    gate.evaluate metrics = .ok violations ↔
      (∀ constraint ∈ gate.constraints, metrics.contains constraint.metric = true) ∧
        violations = gate.constraints.filterMap (violation? metrics) := by
  unfold evaluate
  cases missing : gate.constraints.find? fun constraint => !metrics.contains constraint.metric with
  | some constraint =>
    have absent := List.find?_some missing
    have member := List.mem_of_find?_eq_some missing
    refine ⟨nofun, ?_⟩
    rintro ⟨known, _⟩
    simp [known constraint member] at absent
  | none =>
    have known := List.find?_eq_none.mp missing
    constructor
    · intro same
      cases same
      exact ⟨fun constraint member => by simpa using known constraint member, rfl⟩
    · rintro ⟨_, rfl⟩
      rfl

private theorem evaluate_eq_error {error : GateError} (unclear : gate.evaluate metrics = .error error) :
    ∃ metric available, error = .missingMetric metric available := by
  unfold evaluate at unclear
  split at unclear
  · cases unclear
    exact ⟨_, _, rfl⟩
  · cases unclear

theorem check_error (error : Http.FetchError) : gate.check (.error error) = .error (.fetch error) := rfl

theorem check_ok : gate.check (.ok metrics) = gate.judge metrics := rfl

/-- Metrics pass if and only if they came and meet every constraint. -/
theorem check_eq_ok {fetched : Except Http.FetchError Metrics} :
    gate.check fetched = .ok () ↔
      ∃ metrics, fetched = .ok metrics ∧ ∀ constraint ∈ gate.constraints, constraint.Met metrics := by
  cases fetched with
  | error error => simp [check_error]
  | ok metrics =>
    have judged : gate.judge metrics = .ok () ↔ gate.evaluate metrics = .ok [] := by
      unfold judge
      cases evaluated : gate.evaluate metrics with
      | error error => simp [bind, Except.bind]
      | ok violations => cases violations <;> simp [bind, Except.bind]
    rw [check_ok, judged, evaluate_eq_ok]
    constructor
    · rintro ⟨known, none⟩
      refine ⟨metrics, rfl, ?_⟩
      intro constraint member
      exact (violation?_eq_none (known constraint member)).mp
        (List.filterMap_eq_nil_iff.mp none.symm constraint member)
    · rintro ⟨_, same, met⟩
      cases same
      have known : ∀ constraint ∈ gate.constraints, metrics.contains constraint.metric = true := by
        intro constraint member
        obtain ⟨actual, found, _⟩ := met constraint member
        rw [Table.contains, found, Option.isSome_some]
      refine ⟨known, Eq.symm ?_⟩
      apply List.filterMap_eq_nil_iff.mpr
      intro constraint member
      exact (violation?_eq_none (known constraint member)).mpr (met constraint member)

/-- Metrics violate a gate if and only if they came, have a value for every constraint and do not meet
some; the violations listed are all that there are. -/
theorem check_eq_violated {fetched : Except Http.FetchError Metrics} {violations : List Violation} :
    gate.check fetched = .error (.violated violations) ↔
      ∃ metrics, fetched = .ok metrics ∧ violations ≠ [] ∧
        (∀ constraint ∈ gate.constraints, metrics.contains constraint.metric = true) ∧
        violations = gate.constraints.filterMap (violation? metrics) := by
  cases fetched with
  | error error => simp [check_error]
  | ok metrics =>
    have judged : gate.judge metrics = .error (.violated violations) ↔
        violations ≠ [] ∧ gate.evaluate metrics = .ok violations := by
      unfold judge
      cases evaluated : gate.evaluate metrics with
      | error error =>
        obtain ⟨metric, available, rfl⟩ := evaluate_eq_error evaluated
        simp [bind, Except.bind]
      | ok found =>
        cases found with
        | nil =>
          simp only [bind, Except.bind, reduceCtorEq, false_iff]
          rintro ⟨nonempty, same⟩
          cases same
          exact nonempty rfl
        | cons first rest =>
          simp only [bind, Except.bind, Except.error.injEq, GateError.violated.injEq, Except.ok.injEq]
          constructor
          · rintro rfl
            exact ⟨by simp, rfl⟩
          · exact fun ⟨_, same⟩ => same
    rw [check_ok, judged, evaluate_eq_ok]
    constructor
    · exact fun ⟨nonempty, known, same⟩ => ⟨metrics, rfl, nonempty, known, same⟩
    · rintro ⟨_, same, nonempty, known, listed⟩
      cases same
      exact ⟨nonempty, known, listed⟩

theorem mem_violations {violation : Violation} :
    violation ∈ gate.constraints.filterMap (violation? metrics) ↔
      violation.constraint ∈ gate.constraints ∧ violation.Shows metrics := by
  rw [List.mem_filterMap]
  constructor
  · rintro ⟨constraint, member, violated⟩
    obtain ⟨rfl, shown⟩ := violation?_eq_some.mp violated
    exact ⟨member, shown⟩
  · rintro ⟨member, shown⟩
    exact ⟨violation.constraint, member, violation?_eq_some.mpr ⟨rfl, shown⟩⟩

theorem exists_check_eq_violated :
    (∃ violations, gate.check (.ok metrics) = .error (.violated violations)) ↔
      (∀ constraint ∈ gate.constraints, metrics.contains constraint.metric = true) ∧
        ∃ constraint ∈ gate.constraints, ¬ constraint.Met metrics := by
  constructor
  · rintro ⟨violations, violated⟩
    obtain ⟨_, same, some, known, listed⟩ := check_eq_violated.mp violated
    cases same
    obtain ⟨violation, member⟩ := List.exists_mem_of_ne_nil violations some
    obtain ⟨stated, shown⟩ := mem_violations.mp (listed ▸ member)
    exact ⟨known, violation.constraint, stated, shown.unmet⟩
  · rintro ⟨known, constraint, member, unmet⟩
    refine ⟨_, check_eq_violated.mpr ⟨metrics, rfl, fun none => unmet ?_, known, rfl⟩⟩
    exact (violation?_eq_none (known constraint member)).mp
      (List.filterMap_eq_nil_iff.mp none constraint member)

end Gate

end IntentRollout
