import Mathlib.Data.List.Forall2

/-! Work on each item of a list that stops at the first error. It comes to its end when the work on every
item does, and then its results are those of the items. -/

namespace IntentRollout

variable {ε α β : Type}

@[simp] theorem bind_eq_ok {first : Except ε α} {next : α → Except ε β} {value : β} :
    (first >>= next) = .ok value ↔ ∃ middle, first = .ok middle ∧ next middle = .ok value := by
  cases first with
  | error => simp [bind, Except.bind]
  | ok middle => simp [bind, Except.bind]

theorem bind_eq_error {first : Except ε α} {next : α → Except ε β} {error : ε} :
    (first >>= next) = .error error ↔
      first = .error error ∨ ∃ middle, first = .ok middle ∧ next middle = .error error := by
  cases first with
  | error => simp [bind, Except.bind]
  | ok middle => simp [bind, Except.bind]

@[simp] theorem map_eq_ok {first : Except ε α} {change : α → β} {value : β} :
    first.map change = .ok value ↔ ∃ middle, first = .ok middle ∧ change middle = value := by
  cases first <;> simp [Except.map]

@[simp] theorem mapError_eq_ok {δ : Type} {first : Except ε α} {change : ε → δ} {value : α} :
    first.mapError change = .ok value ↔ first = .ok value := by
  cases first <;> simp [Except.mapError]

theorem toOption_eq_some {result : Except ε α} {value : α} :
    result.toOption = some value ↔ result = .ok value := by
  cases result <;> simp [Except.toOption]

/-- A run is told by its result and what it left. -/
theorem run_eq_ok {ran : Except ε α × β} {value : α} (done : ran.1.toOption = some value) :
    ran = (.ok value, ran.2) := by
  rw [← toOption_eq_some.mp done]

theorem mapM_eq_ok {work : α → Except ε β} {items : List α} {values : List β} :
    items.mapM work = .ok values ↔ List.Forall₂ (fun item value => work item = .ok value) items values := by
  induction items generalizing values with
  | nil => cases values <;> simp [pure, Except.pure]
  | cons item rest ih =>
    rw [List.mapM_cons, bind_eq_ok]
    cases values with
    | nil => simp [pure, Except.pure]
    | cons value values =>
      simp only [bind_eq_ok, pure, Except.pure, Except.ok.injEq, List.cons.injEq, List.forall₂_cons, ih]
      constructor
      · rintro ⟨_, done, _, all, rfl, rfl⟩
        exact ⟨done, all⟩
      · rintro ⟨done, all⟩
        exact ⟨value, done, values, all, rfl, rfl⟩

/-- Work on a list fails as it does on the first item on which it fails. -/
theorem mapM_eq_error {work : α → Except ε β} {items : List α} {error : ε} :
    items.mapM work = .error error ↔
      ∃ front bad back values, items = front ++ bad :: back ∧
        List.Forall₂ (fun item value => work item = .ok value) front values ∧ work bad = .error error := by
  induction items with
  | nil => simp [pure, Except.pure]
  | cons item rest ih =>
    rw [List.mapM_cons]
    constructor
    · intro failed
      cases here : work item with
      | error error' =>
        rw [here] at failed
        cases failed
        exact ⟨[], item, rest, [], rfl, .nil, here⟩
      | ok value =>
        cases later : rest.mapM work with
        | ok values =>
          rw [here, later] at failed
          cases failed
        | error error' =>
          rw [here, later] at failed
          cases failed
          obtain ⟨front, bad, back, values, rfl, done, failed⟩ := ih.mp later
          exact ⟨item :: front, bad, back, value :: values, rfl, .cons here done, failed⟩
    · rintro ⟨front, bad, back, values, same, done, failed⟩
      cases done with
      | nil =>
        cases same
        rw [failed]
        rfl
      | cons here done =>
        cases same
        rw [here, ih.mpr ⟨_, bad, back, _, rfl, done, failed⟩]
        rfl

/-- What the results are changed to does not matter to the work. -/
theorem mapM_map_result {γ : Type} (work : α → Except ε β) (change : β → γ) (items : List α) :
    (items.mapM fun item => (work item).map change) = (items.mapM work).map (List.map change) := by
  induction items with
  | nil => rfl
  | cons item rest ih =>
    rw [List.mapM_cons, List.mapM_cons, ih]
    cases work item with
    | error => rfl
    | ok value => cases rest.mapM work <;> rfl

theorem exists_mapM_eq_ok {work : α → Except ε β} {items : List α} :
    (∃ values, items.mapM work = .ok values) ↔ ∀ item ∈ items, ∃ value, work item = .ok value := by
  induction items with
  | nil => simp [pure, Except.pure]
  | cons item rest ih =>
    rw [List.forall_mem_cons, ← ih]
    simp only [mapM_eq_ok, List.forall₂_cons_left_iff]
    constructor
    · rintro ⟨_, value, values, done, all, rfl⟩
      exact ⟨⟨value, done⟩, values, all⟩
    · rintro ⟨⟨value, done⟩, values, all⟩
      exact ⟨value :: values, value, values, done, all, rfl⟩

theorem forM_eq_ok {work : α → Except ε Unit} {items : List α} :
    items.forM work = .ok () ↔ ∀ item ∈ items, work item = .ok () := by
  induction items with
  | nil => simp [pure, Except.pure]
  | cons item rest ih =>
    rw [List.forall_mem_cons, ← ih]
    exact bind_eq_ok.trans ⟨fun ⟨_, done, all⟩ => ⟨done, all⟩, fun ⟨done, all⟩ => ⟨(), done, all⟩⟩

theorem forM_eq_error {work : α → Except ε Unit} {items : List α} {error : ε} :
    items.forM work = .error error ↔ ∃ front bad back, items = front ++ bad :: back ∧
      (∀ item ∈ front, work item = .ok ()) ∧ work bad = .error error := by
  induction items with
  | nil => simp [pure, Except.pure]
  | cons item rest ih =>
    change (work item >>= fun _ => rest.forM work) = .error error ↔ _
    rw [bind_eq_error, ih]
    constructor
    · rintro (failed | ⟨_, done, front, bad, back, rfl, before, failed⟩)
      · exact ⟨[], item, rest, rfl, nofun, failed⟩
      · exact ⟨item :: front, bad, back, rfl, List.forall_mem_cons.mpr ⟨done, before⟩, failed⟩
    · rintro ⟨front, bad, back, split, before, failed⟩
      cases front with
      | nil =>
        cases split
        exact .inl failed
      | cons first front =>
        cases split
        obtain ⟨done, others⟩ := List.forall_mem_cons.mp before
        exact .inr ⟨(), done, front, bad, back, rfl, others, failed⟩

theorem mem_of_mapM {work : α → Except ε β} {items : List α} {values : List β}
    (done : items.mapM work = .ok values) {value : β} :
    value ∈ values ↔ ∃ item ∈ items, work item = .ok value := by
  have all := mapM_eq_ok.mp done
  clear done
  induction all with
  | nil => simp
  | cons here _ ih =>
    rw [List.mem_cons, List.exists_mem_cons_iff, here, Except.ok.injEq]
    exact or_congr eq_comm ih

end IntentRollout
