import IntentRollout.Proofs.FilledVolumes
import IntentRollout.Proofs.SettledVolumes

/-! Where paths lead when directories on their way are made. A path whose missing part has no step up leads to one
place, whether its directories are there or not, so a name that is free in it is free at that place. -/

namespace IntentRollout

namespace Path

variable {home name : String} {names : List String}

def below (home : String) (names : List String) : String := names.foldl join home

theorem below_concat (home : String) (names : List String) (name : String) :
    below home (names ++ [name]) = join (below home names) name := by
  rw [below, List.foldl_concat, ← below]

theorem parts_below (plain : ∀ name ∈ names, Plain name) : parts (below home names) = parts home ++ names := by
  induction names using List.reverseRecOn with
  | nil => rw [List.append_nil]; rfl
  | append_singleton names name ih =>
    rw [List.forall_mem_append, List.forall_mem_singleton] at plain
    rw [below_concat, plain.2.parts_join, ih plain.1, List.append_assoc]

private theorem isAbsolute_below (plain : ∀ name ∈ names, Plain name) :
    isAbsolute (below home names) = isAbsolute home := by
  induction names using List.reverseRecOn with
  | nil => rfl
  | append_singleton names name ih =>
    rw [List.forall_mem_append, List.forall_mem_singleton] at plain
    rw [below_concat, isAbsolute_join plain.2.relative, ih plain.1]

theorem endsWithDot_below (dotless : endsWithDot home = false) (plain : ∀ name ∈ names, Plain name) :
    endsWithDot (below home names) = false := by
  rcases List.eq_nil_or_concat' names with rfl | ⟨above, last, rfl⟩
  · exact dotless
  · rw [List.forall_mem_append, List.forall_mem_singleton] at plain
    rw [below_concat, endsWithDot_join plain.2]

theorem not_mem_dots (plain : ∀ name ∈ names, Plain name) : ".." ∉ names :=
  fun member => (plain _ member).not_dots rfl

end Path

namespace Volume

variable {volume before after : Volume} {place target other base : List String} {names : List String}
  {path root name home : String} {entry : Entry} {written : List String → Prop}

/-- Names without dots lead down, one step for each. -/
theorem follow_down (down : ".." ∉ names) (led : volume.follow place names = .ok target) : target = place ++ names := by
  induction names generalizing place with
  | nil =>
    cases led
    exact (List.append_nil _).symm
  | cons name rest ih =>
    rw [List.mem_cons, not_or] at down
    rw [follow] at led
    split at led
    · cases led
    · cases led
    · rw [if_neg (Ne.symm down.1)] at led
      split at led
      · cases led
      · rw [ih down.2 led, List.append_assoc]
        rfl

/-- Where names lead later they led before, if something was there already. -/
theorem Grounded.follow_back (grounded : volume.Grounded) (down : ".." ∉ names)
    (led : after.follow place names = .ok target) (there : volume.entry? target = some entry) :
    volume.follow place names = .ok target := by
  induction names generalizing place with
  | nil => exact led
  | cons name rest ih =>
    have way := follow_down down led
    rw [List.mem_cons, not_or] at down
    have above : volume.entry? place = some .directory := by
      rw [way] at there
      exact grounded.above (List.cons_ne_nil _ _) there
    rw [follow] at led ⊢
    rw [above]
    dsimp only
    split at led
    · cases led
    · cases led
    · rw [if_neg (Ne.symm down.1)] at led ⊢
      split at led
      · cases led
      next short =>
        rw [if_neg short]
        exact ih down.2 led

/-- Directories that were made can be gone along. -/
theorem Grounded.follow_of_extend (grounded : volume.Grounded) (there : volume.entry? place = some .directory)
    (made : volume.extend place names = (.ok (), after)) :
    ∃ target, after.follow place names = .ok target ∧ after.entry? target = some .directory := by
  have start : after.entry? place = some .directory :=
    (grows_of_extend made : volume.Grows (fun _ => True) after).directories place there
  induction names generalizing volume place with
  | nil => exact ⟨place, rfl, start⟩
  | cons name rest ih =>
    rw [Volume.extend] at made
    rw [follow, start]
    dsimp only
    split at made
    next up =>
      rw [if_pos up]
      have above := grounded.dropLast there
      exact ih grounded above made ((grows_of_extend made : volume.Grows (fun _ => True) after).directories _ above)
    next down =>
      rw [if_neg down]
      split at made
      · cases made
      next short =>
        rw [if_neg short]
        split at made
        next next =>
          exact ih grounded next made ((grows_of_extend made : volume.Grows (fun _ => True) after).directories _ next)
        next => cases made
        next free =>
          have next : Volume.entry? (volume.put (place ++ [name]) .directory) (place ++ [name]) = some .directory := by
            rw [entry?_put _ (by simp), if_pos rfl]
          exact ih (grounded.put there (.inl rfl)) next made
            ((grows_of_extend made : Volume.Grows (fun _ => True) _ after).directories _ next)

/-- Only what is on the way is made. -/
theorem entry?_extend (volume : Volume) (place : List String) (down : ".." ∉ names) (other : List String) :
    Volume.entry? (volume.extend place names).2 other = volume.entry? other ∨ other <+: place ++ names := by
  induction names generalizing volume place with
  | nil => exact .inl rfl
  | cons name rest ih =>
    rw [List.mem_cons, not_or] at down
    have onward : place ++ [name] ++ rest = place ++ name :: rest := by rw [List.append_assoc]; rfl
    rw [extend, if_neg (Ne.symm down.1)]
    split
    · exact .inl rfl
    · split
      · rw [← onward]
        exact ih _ _ down.2
      · exact .inl rfl
      · rcases ih (volume.put (place ++ [name]) .directory) (place ++ [name]) down.2 with same | way
        · rw [same, entry?_put _ (by simp)]
          split
          next here =>
            rw [← here, ← onward]
            exact .inr (List.prefix_append _ _)
          next => exact .inl rfl
        · exact .inr (onward ▸ way)

theorem makeDirectories_cases (dotless : Path.endsWithDot path = false) (volume : Volume) :
    ((volume.makeDirectories path).2 = volume ∧ (volume.makeDirectories path).1 ≠ .ok ()) ∨
      '\x00' ∉ path.toList ∧ volume.makeDirectories path = volume.extend (volume.start path) (Path.parts path) := by
  rw [makeDirectories, dotless]
  split
  · exact .inl ⟨rfl, by simp⟩
  next clean => exact .inr ⟨by simpa using clean, rfl⟩

theorem makeDirectories_eq_ok (dotless : Path.endsWithDot path = false)
    (made : volume.makeDirectories path = (.ok (), after)) :
    '\x00' ∉ path.toList ∧ volume.extend (volume.start path) (Path.parts path) = (.ok (), after) := by
  obtain ⟨_, failed⟩ | ⟨clean, same⟩ := makeDirectories_cases dotless volume
  · rw [made] at failed
    exact absurd rfl failed
  · exact ⟨clean, same ▸ made⟩

theorem grows_of_makeDirectories (made : volume.makeDirectories path = (.ok (), after)) : volume.Grows written after := by
  have grows : volume.Grows written (volume.makeDirectories path).2 := .makeDirectories _ _
  rwa [made] at grows

theorem Grounded.of_makeDirectories (grounded : volume.Grounded)
    (there : volume.entry? (volume.start path) = some .directory)
    (made : volume.makeDirectories path = (.ok (), after)) : after.Grounded := by
  have kept := grounded.makeDirectories there
  rwa [made] at kept

/-- What is written at and below a place at which nothing was touches no file that was there. -/
theorem Grounded.file?_of_grows (grounded : before.Grounded) (absent : before.entry? place = none)
    (grows : before.Grows (place <+: ·) after) {bytes : ByteArray} (held : before.file? target = some bytes) :
    after.file? target = some bytes := by
  have stands := file?_eq_some.mp held
  rw [grows.files target, held]
  intro inside
  by_cases same : place = target
  · rw [same, stands] at absent
    cases absent
  · rw [grounded.of_prefix inside same stands] at absent
    cases absent

/-- A directory that was made can be opened. -/
theorem Grounded.opens_of_makeDirectories (grounded : volume.Grounded)
    (there : volume.entry? (volume.start root) = some .directory) (plain : Path.Plain name)
    (made : volume.makeDirectories (Path.join root name) = (.ok (), after)) :
    ∃ place, after.Opens (Path.join root name) place := by
  obtain ⟨clean, extended⟩ := makeDirectories_eq_ok (Path.endsWithDot_join plain root) made
  rw [start_join plain] at extended
  obtain ⟨place, led, found⟩ := grounded.follow_of_extend there extended
  refine ⟨place, ?_, found⟩
  rw [locate_eq_ok, approach_eq_ok_iff, Path.isOpen_join plain, start_join plain,
    (grows_of_extend extended : volume.Grows (fun _ => True) after).start]
  exact ⟨⟨Path.join_ne_empty plain root, clean, led⟩, nofun⟩

/-- The place to which a path leads, or would lead if its directories were made: no step up comes after the first
name at which there may be nothing. -/
def Leads (volume : Volume) (path : String) (place : List String) : Prop :=
  ∃ front rest base, Path.parts path = front ++ rest ∧ volume.follow (volume.start path) front = .ok base ∧
    volume.entry? base = some .directory ∧ ".." ∉ rest ∧ place = base ++ rest

namespace Leads

theorem grows (leads : before.Leads path place) (grows : before.Grows written after) : after.Leads path place := by
  obtain ⟨front, rest, base, cut, led, there, down, rfl⟩ := leads
  exact ⟨front, rest, base, cut, grows.reach led, grows.directories base there, down, rfl⟩

theorem start_there (leads : volume.Leads path place) : volume.entry? (volume.start path) = some .directory := by
  obtain ⟨front, rest, base, _, led, there, _⟩ := leads
  cases front with
  | nil =>
    cases led
    exact there
  | cons => exact start_of_follow led (List.cons_ne_nil _ _)

/-- A name that is free leads to a place at which nothing is, also later when the path has come to lead there. -/
theorem vacant (leads : before.Leads root place) (grounded : before.Grounded) (plain : Path.Plain name)
    (free : before.isThere (Path.join root name) = false) (grows : before.Grows written after)
    (located : after.locate (Path.join root name) = .ok target) :
    target = place ++ [name] ∧ before.entry? target = none := by
  obtain ⟨front, rest, base, cut, led, there, down, rfl⟩ := leads
  obtain ⟨filled, clean, reached⟩ := approach_eq_ok_iff.mp (locate_eq_ok.mp located).1
  have onward : ".." ∉ rest ++ [name] := by simpa [down] using Ne.symm plain.not_dots
  have parts : Path.parts (Path.join root name) = front ++ (rest ++ [name]) := by
    rw [plain.parts_join, cut, List.append_assoc]
  rw [start_join plain, parts, follow_append, grows.reach led] at reached
  refine ⟨(follow_down onward reached).trans (List.append_assoc _ _ _).symm, ?_⟩
  cases stands : before.entry? target with
  | none => rfl
  | some entry =>
    have back : before.follow base (rest ++ [name]) = .ok target := grounded.follow_back onward reached stands
    have located : before.locate (Path.join root name) = .ok target := by
      rw [locate_eq_ok, approach_eq_ok_iff, Path.isOpen_join plain, start_join plain, parts, follow_append, led]
      exact ⟨⟨filled, clean, back⟩, nofun⟩
    have found : before.isThere (Path.join root name) = true := by
      rw [isThere, find_eq_ok.mpr ⟨target, located, stands⟩]
      rfl
    rw [free] at found
    cases found

/-- A directory that is made under a free name is new, and nothing is in it. -/
theorem made (leads : before.Leads root place) (grounded : before.Grounded) (plain : Path.Plain name)
    (free : before.isThere (Path.join root name) = false)
    (made : before.makeDirectories (Path.join root name) = (.ok (), after)) :
    after.Opens (Path.join root name) (place ++ [name]) ∧
      ∀ names, names ≠ [] → after.entry? (place ++ [name] ++ names) = none := by
  obtain ⟨target, opens⟩ := grounded.opens_of_makeDirectories leads.start_there plain made
  have grows : before.Grows (fun _ => True) after := grows_of_makeDirectories made
  obtain ⟨rfl, absent⟩ := leads.vacant grounded plain free grows opens.located
  refine ⟨opens, fun names some => ?_⟩
  obtain ⟨front, rest, base, cut, led, there, down, rfl⟩ := leads
  have extended := (makeDirectories_eq_ok (Path.endsWithDot_join plain root) made).2
  rw [start_join plain, plain.parts_join, cut, List.append_assoc, Opens.extend_append led there] at extended
  have onward : ".." ∉ rest ++ [name] := by simpa [down] using Ne.symm plain.not_dots
  have only := entry?_extend before base onward (base ++ rest ++ [name] ++ names)
  rw [extended] at only
  rcases only with same | way
  · rw [same]
    cases stands : before.entry? (base ++ rest ++ [name] ++ names) with
    | none => rfl
    | some entry =>
      rw [grounded.above some stands] at absent
      cases absent
  · have short := way.length_le
    have long := List.length_pos_iff.mpr some
    simp only [List.length_append] at short
    omega

end Leads

theorem start_below (plain : ∀ name ∈ names, Path.Plain name) :
    volume.start (Path.below home names) = volume.start home := by
  rw [start, start, Path.isAbsolute_below plain]

theorem Opens.place_below (opens : volume.Opens home place) (plain : ∀ name ∈ names, Path.Plain name)
    (located : volume.locate (Path.below home names) = .ok target) : target = place ++ names := by
  have led := approach_eq_ok (locate_eq_ok.mp located).1
  rw [start_below plain, Path.parts_below plain, follow_append, opens.approached.2.2] at led
  exact follow_down (Path.not_mem_dots plain) led

end Volume

end IntentRollout
