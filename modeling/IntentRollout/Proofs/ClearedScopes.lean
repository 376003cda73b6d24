import IntentRollout.Proofs.TreeChanges

/-! Cleaning several scopes one after the other. What is ignored in a scope rests on the way to it and on what
is in it; so cleaning the scopes beside it neither hides its strays nor brings new ones, and a scope that
was cleaned stays as it is. -/

namespace IntentRollout

namespace Volume

variable {volume after : Volume} {place top : List String}

theorem entry?_congr (same : after.entries.get? place = volume.entries.get? place) :
    after.entry? place = volume.entry? place := by
  cases place with
  | nil => rfl
  | cons first rest => exact same

/-- What rules say about a place rests on what is there and on the rules on the way. -/
theorem verdict?_congr {depth start : Nat} (here : after.entry? place = volume.entry? place)
    (rules : ∀ above, above <+: place →
      after.file? (above ++ [".gitignore"]) = volume.file? (above ++ [".gitignore"])) :
    after.verdict? place start depth = volume.verdict? place start depth := by
  induction depth with
  | zero => rfl
  | succ depth ih =>
    rw [verdict?, verdict?, ih, ignoreRules, ignoreRules, rules _ (List.take_prefix _ _), here]

private theorem isIgnored_congr (way : ∀ above, above <+: place → after.entry? above = volume.entry? above)
    (rules : ∀ above, above <+: place →
      after.file? (above ++ [".gitignore"]) = volume.file? (above ++ [".gitignore"])) :
    after.isIgnored top place = volume.isIgnored top place := by
  rw [isIgnored, isIgnored]
  refine congrArg _ (funext fun depth => ?_)
  have inner := List.take_prefix (top.length + depth + 1) place
  dsimp only
  rw [verdict?_congr (way _ inner) fun above outer => rules above (outer.trans inner)]

end Volume

namespace Repository

open Volume

def Beside (scope other : List String) : Prop := scope.length = other.length ∧ scope.dropLast ≠ other.dropLast

def Clear (repository : Repository) (scope : List String) (volume : Volume) : Prop :=
  ∀ place bytes, scope <+: place → volume.file? place = some bytes → volume.isIgnored repository.top place = false

/-- The files in a scope are those under version control, and no directory there is empty. -/
structure Settled (repository : Repository) (scope : List String) (volume : Volume) : Prop where
  files : ∀ place, scope <+: place → volume.file? place = repository.index.get? place
  tidy : Tidy scope volume

/-- All files under version control are there as they were staged. -/
structure Intact (repository : Repository) (volume : Volume) : Prop where
  grounded : volume.Grounded
  staged : ∀ place bytes, repository.index.get? place = some bytes → volume.file? place = some bytes

variable {repository : Repository} {volume : Volume} {scope other place : List String}
  {scopes : List (List String)}

private theorem clear_iff : Clear repository scope volume ↔ ∀ place ∈ volume.entries.keys,
    scope <+: place ∧ (volume.file? place).isSome = true → volume.isIgnored repository.top place = false := by
  constructor
  · rintro clear place _ ⟨inside, held⟩
    obtain ⟨bytes, held⟩ := Option.isSome_iff_exists.mp held
    exact clear place bytes inside held
  · intro clear place bytes inside held
    refine clear place ?_ ⟨inside, Option.isSome_iff_exists.mpr ⟨bytes, held⟩⟩
    exact Volume.mem_keys_of_found (Volume.file?_eq_some.mp held) (by rintro rfl; cases held)

instance : Decidable (Clear repository scope volume) := decidable_of_iff _ clear_iff.symm

private theorem Beside.not_prefix (beside : Beside scope other) (inside : other <+: place) : ¬ scope <+: place := by
  intro way
  have same := List.prefix_of_prefix_length_le way inside (Nat.le_of_eq beside.1)
  exact beside.2 (congrArg _ (same.eq_of_length beside.1))

private theorem Beside.not_prefix_rules (beside : Beside scope other) (inside : other <+: place) {above : List String}
    (outer : above <+: place) : ¬ scope <+: above ++ [".gitignore"] := by
  intro way
  by_cases short : scope.length ≤ above.length
  · exact beside.not_prefix inside
      ((List.prefix_of_prefix_length_le way (List.prefix_append _ _) short).trans outer)
  · have length := way.length_le
    rw [List.length_append, List.length_singleton] at length
    have same := way.eq_of_length (by rw [List.length_append, List.length_singleton]; omega)
    have shorter := congrArg List.length same
    rw [List.length_append, List.length_singleton, beside.1] at shorter
    obtain ⟨last, rest⟩ := List.prefix_of_prefix_length_le outer inside (by omega)
    apply beside.2
    rw [same, List.dropLast_concat, ← rest]
    have single : last.length = 1 := by
      have total := congrArg List.length rest
      rw [List.length_append] at total
      omega
    obtain ⟨name, rfl⟩ := List.length_eq_one_iff.mp single
    rw [List.dropLast_concat]

namespace Intact

theorem clean (intact : Intact repository volume) (scope : List String) :
    Intact repository (repository.clean volume scope) := by
  have cleaned : Holds volume.working _ (repository.clean volume scope) :=
    holds_clean ⟨intact.grounded, rfl, fun _ => rfl⟩
  refine ⟨cleaned.grounded, fun place bytes wanted => ?_⟩
  have listed : place ∈ repository.index.keys := Table.mem_keys.mpr ⟨bytes, wanted⟩
  rw [cleaned.files, if_neg fun stray => ((mem_strays intact.grounded).mp stray).2.2.2.1 listed]
  exact intact.staged place bytes wanted

private theorem settled_clean (intact : Intact repository volume) (inTop : repository.top <+: scope)
    (clear : Clear repository scope volume) : Settled repository scope (repository.clean volume scope) := by
  refine ⟨fun place inside => ?_, tidy_clean repository volume scope⟩
  cases wanted : repository.index.get? place with
  | some bytes => exact (intact.clean scope).staged place bytes wanted
  | none =>
    rw [(holds_clean ⟨intact.grounded, rfl, fun _ => rfl⟩).files, ite_eq_left_iff, mem_strays intact.grounded]
    intro kept
    cases held : volume.file? place with
    | none => rfl
    | some bytes =>
      exact absurd ⟨inside, inTop.trans inside, ⟨bytes, held⟩, Table.get?_eq_none.mp wanted,
        clear place bytes inside held⟩ kept

private theorem strays_of_settled (intact : Intact repository volume) (settled : Settled repository scope volume) :
    repository.strays volume scope = [] := by
  rw [List.eq_nil_iff_forall_not_mem]
  intro place stray
  obtain ⟨inside, _, ⟨bytes, held⟩, unlisted, _⟩ := (mem_strays intact.grounded).mp stray
  rw [settled.files place inside] at held
  exact unlisted (Table.mem_keys.mpr ⟨bytes, held⟩)

private theorem clean_of_settled (intact : Intact repository volume) (settled : Settled repository scope volume) :
    repository.clean volume scope = volume :=
  clean_eq_self (intact.strays_of_settled settled) settled.tidy

private theorem settled_beside (intact : Intact repository volume) (settled : Settled repository other volume)
    (beside : Beside scope other) : Settled repository other (repository.clean volume scope) := by
  have same (place : List String) (inside : other <+: place) :
      (repository.clean volume scope).entries.get? place = volume.entries.get? place :=
    get?_clean intact.grounded (beside.not_prefix inside)
  refine ⟨fun place inside => ?_, fun place inside there => ?_⟩
  · rw [file?_congr (entry?_congr (same place inside))]
    exact settled.files place inside
  · rw [same place inside] at there
    have filled := settled.tidy place inside there
    rw [Bool.eq_false_iff] at filled ⊢
    intro empty
    apply filled
    rw [below_isEmpty_iff] at empty ⊢
    intro inner way differs
    rw [← same inner (inside.trans way)]
    exact empty inner way differs

private theorem clear_beside (intact : Intact repository volume) (clear : Clear repository other volume)
    (beside : Beside scope other) : Clear repository other (repository.clean volume scope) := by
  have same (place : List String) (outside : ¬ scope <+: place) :
      Volume.entry? (repository.clean volume scope) place = volume.entry? place :=
    entry?_congr (get?_clean intact.grounded outside)
  intro place bytes inside held
  rw [file?_congr (same place (beside.not_prefix inside))] at held
  refine (isIgnored_congr ?_ ?_).trans (clear place bytes inside held)
  · intro above outer
    exact same above fun way => beside.not_prefix inside (way.trans outer)
  · exact fun above outer => file?_congr (same _ (beside.not_prefix_rules inside outer))

/-- What is settled stays so while scopes beside it, and itself, are cleaned. -/
theorem settled_all (intact : Intact repository volume) (settled : Settled repository other volume)
    (beside : ∀ scope ∈ scopes, scope = other ∨ Beside scope other) :
    Settled repository other (scopes.foldl (repository.clean ·) volume) := by
  induction scopes generalizing volume with
  | nil => exact settled
  | cons scope rest ih =>
    rw [List.forall_mem_cons] at beside
    rw [List.foldl_cons]
    refine ih (intact.clean scope) ?_ beside.2
    obtain rfl | apart := beside.1
    · rwa [intact.clean_of_settled settled]
    · exact intact.settled_beside settled apart

/-- A scope in which nothing is ignored is settled once its turn has come. -/
theorem settled_of_mem (intact : Intact repository volume) (inTop : repository.top <+: other)
    (clear : Clear repository other volume) (member : other ∈ scopes)
    (beside : ∀ scope ∈ scopes, scope = other ∨ Beside scope other) :
    Settled repository other (scopes.foldl (repository.clean ·) volume) := by
  induction scopes generalizing volume with
  | nil => cases member
  | cons scope rest ih =>
    rw [List.forall_mem_cons] at beside
    rw [List.foldl_cons]
    obtain rfl | apart := beside.1
    · exact (intact.clean _).settled_all (intact.settled_clean inTop clear) beside.2
    · refine ih (intact.clean scope) (intact.clear_beside clear apart) ?_ beside.2
      rcases List.mem_cons.mp member with same | later
      · exact absurd rfl (same ▸ apart).2
      · exact later

theorem clean_all_of_settled (intact : Intact repository volume)
    (settled : ∀ scope ∈ scopes, Settled repository scope volume) :
    scopes.foldl (repository.clean ·) volume = volume :=
  foldl_eq_self fun scope member => intact.clean_of_settled (settled scope member)

end Intact

end Repository

end IntentRollout
