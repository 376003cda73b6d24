import Mathlib.Data.List.Nodup
import IntentRollout.Proofs.GroundedVolumes
import IntentRollout.Proofs.PlainInstants
import IntentRollout.Rollout.Report

/-! The names of reports. A report is named for the start of its attempt, and numbers are tried in turn while that name
is taken. The names of all numbers differ, so a free one is found before there are more tries than entries. -/

namespace IntentRollout

/-- A low line keeps a name from being one of the dots. -/
theorem Path.plain_of_low_line {name : String} (slashless : '/' ∉ name.toList) (marked : '_' ∈ name.toList) :
    Path.Plain name where
  nonempty := by
    rintro rfl
    cases marked
  slashless := slashless
  not_dot := by
    rintro rfl
    revert marked
    decide
  not_dots := by
    rintro rfl
    revert marked
    decide

namespace Instant

/-- What stands in a stamp: a date and a time without a slash, and the low line between them. -/
theorem stamp_alphabet (instant : Instant) : '/' ∉ instant.stamp.toList ∧ '_' ∈ instant.stamp.toList := by
  have digit : '/' ∉ digits := by decide
  have number (value : Nat) : '/' ∉ (padded 2 value).toList := fun member =>
    digit (mem_digits (isDigit_of_mem_padded member))
  have year : '/' ∉ (yearText instant.civil.year).toList := by
    obtain ⟨sign, first, more, shape, known, all⟩ := yearText_opens instant.civil.year
    have signless : ∀ sign ∈ signs, '/' ∉ sign := by decide
    rw [shape, List.mem_append, not_or]
    exact ⟨signless sign known, fun member => digit (mem_digits (all _ member))⟩
  simp [stamp, year, number]

end Instant

namespace Report

variable {volume : Volume} {root stamp : String} {number : Nat}

/-- The names that are tried: the stamp, and the stamp with numbers from one on. -/
def numbered (stamp : String) : Nat → String
  | 0 => stamp
  | number + 1 => stamp ++ "-" ++ toString (number + 1)

private theorem numbered_injective (stamp : String) : Function.Injective (numbered stamp) := by
  have longer (number : Nat) : stamp ≠ numbered stamp (number + 1) := by
    intro same
    have lengths := congrArg (fun name => name.toList.length) same
    simp only [numbered, String.toList_append, List.length_append] at lengths
    have hyphen : "-".toList.length = 1 := rfl
    omega
  intro first second same
  cases first with
  | zero =>
    cases second with
    | zero => rfl
    | succ second => exact absurd same (longer second)
  | succ first =>
    cases second with
    | zero => exact absurd same.symm (longer first)
    | succ second =>
      have digits : Nat.toDigits 10 (first + 1) = Nat.toDigits 10 (second + 1) := by
        have texts := congrArg String.toList same
        simpa [numbered] using texts
      have values := congrArg (fun digits => Nat.ofDigitChars 10 digits 0) digits
      simpa using values

theorem plain_numbered (slashless : '/' ∉ stamp.toList) (marked : '_' ∈ stamp.toList) (number : Nat) :
    Path.Plain (numbered stamp number) := by
  have digit : '/' ∉ Instant.digits := by decide
  have figures : '/' ∉ Nat.toDigits 10 number := fun member =>
    digit (Instant.mem_digits (Nat.isDigit_of_mem_toDigits (by decide) (by decide) member))
  cases number with
  | zero => exact Path.plain_of_low_line slashless marked
  | succ number =>
    refine Path.plain_of_low_line ?_ ?_
    · simpa [numbered, slashless] using figures
    · simp [numbered, marked]

private theorem place_of_isThere {name : String} (plain : Path.Plain name)
    (taken : volume.isThere (Path.join root name) = true) :
    ∃ above, volume.follow (volume.start root) (Path.parts root) = .ok above ∧
      above ++ [name] ∈ volume.entries.keys := by
  rw [Volume.isThere] at taken
  cases found : volume.find (Path.join root name) with
  | error =>
    rw [found] at taken
    cases taken
  | ok entry =>
    obtain ⟨place, located, there⟩ := Volume.find_eq_ok.mp found
    obtain ⟨above, led, _, rfl⟩ := Volume.locate_join plain located
    exact ⟨above, led, Volume.mem_keys_of_found there (by simp)⟩

/-- Names that are taken are those of different entries. -/
theorem le_size_of_taken (plain : ∀ number, Path.Plain (numbered stamp number))
    (taken : ∀ smaller < number, volume.isThere (Path.join root (numbered stamp smaller)) = true) :
    number ≤ volume.entries.size := by
  cases number with
  | zero => exact Nat.zero_le _
  | succ number =>
    obtain ⟨above, led, _⟩ := place_of_isThere (plain 0) (taken 0 (Nat.zero_lt_succ _))
    let places := (List.range (number + 1)).map fun smaller => above ++ [numbered stamp smaller]
    have distinct : places.Nodup := by
      refine List.nodup_range.map fun first second same => numbered_injective stamp ?_
      simpa using same
    have known : places ⊆ volume.entries.keys := by
      intro place member
      obtain ⟨smaller, low, rfl⟩ := List.mem_map.mp member
      obtain ⟨other, led', there⟩ := place_of_isThere (plain smaller) (taken smaller (List.mem_range.mp low))
      obtain rfl := Except.ok.inj (led.symm.trans led')
      exact there
    have few := (List.subperm_of_subset distinct known).length_le
    simpa [places, Table.keys, Table.size] using few

/-- The search passes over names that are taken, and ends with a free one or after all its tries. -/
theorem freeDirectory_eq (volume : Volume) (root stamp : String) (tries start : Nat) : ∃ number, start < number ∧
    freeDirectory volume root stamp tries (start + 1) = Path.join root (numbered stamp number) ∧
    (∀ smaller, start < smaller → smaller < number →
      volume.isThere (Path.join root (numbered stamp smaller)) = true) ∧
    (volume.isThere (Path.join root (numbered stamp number)) = false ∨ number = start + 1 + tries) := by
  induction tries generalizing start with
  | zero => exact ⟨start + 1, Nat.lt_succ_self _, rfl, fun _ _ _ => by omega, .inr rfl⟩
  | succ tries ih =>
    rw [freeDirectory]
    cases free : volume.isThere (Path.join root (stamp ++ "-" ++ toString (start + 1))) with
    | false => exact ⟨start + 1, Nat.lt_succ_self _, by simp [numbered], fun _ _ _ => by omega, .inl free⟩
    | true =>
      obtain ⟨number, above, found, passed, ended⟩ := ih (start + 1)
      refine ⟨number, by omega, by simpa using found, fun smaller low high => ?_, ended.imp_right fun last => by omega⟩
      rcases Nat.lt_or_eq_of_le low with later | rfl
      · exact passed smaller later high
      · exact free

structure FirstFree (volume : Volume) (root stamp : String) (number : Nat) : Prop where
  free : volume.isThere (Path.join root (numbered stamp number)) = false
  taken : ∀ smaller < number, volume.isThere (Path.join root (numbered stamp smaller)) = true

/-- The search for a name ends with the first that is free. Its number is at most that of the entries, so it does not
leave any range of numbers that they can be counted in. -/
theorem uniqueDirectory_eq (plain : ∀ number, Path.Plain (numbered stamp number)) (volume : Volume) (root : String) :
    ∃ number, uniqueDirectory volume root stamp = Path.join root (numbered stamp number) ∧
      FirstFree volume root stamp number ∧ number ≤ volume.entries.size := by
  rw [uniqueDirectory]
  cases first : volume.isThere (Path.join root stamp) with
  | false => exact ⟨0, by simp [numbered], ⟨first, nofun⟩, Nat.zero_le _⟩
  | true =>
    obtain ⟨number, _, found, passed, ended⟩ := freeDirectory_eq volume root stamp (volume.entries.size + 1) 0
    have taken : ∀ smaller < number, volume.isThere (Path.join root (numbered stamp smaller)) = true := by
      intro smaller low
      cases smaller with
      | zero => exact first
      | succ smaller => exact passed _ (Nat.zero_lt_succ _) low
    have few := le_size_of_taken plain taken
    exact ⟨number, by simpa using found, ⟨ended.resolve_right (by omega), taken⟩, few⟩

end Report

end IntentRollout
