import IntentRollout.Proofs.LeadingPaths

/-! Changes below a directory that may break off. Work that makes directories and writes files in turn can stop at
each of these changes, also in the middle of one, when a disk is full or the process ends. However far it got, it
has written below its directory only; if it has come to its end, all its files are there and nothing else is. -/

namespace IntentRollout

/-- A directory that is made, or a file that is written. The names lead there from a home directory. -/
inductive Change where
  | directory (names : List String)
  | file (names : List String) (text : String)

namespace Change

def names : Change → List String
  | .directory names => names
  | .file names _ => names

def written? : Change → Option (List String)
  | .directory _ => none
  | .file names _ => some names

inductive Done (home : String) : Change → Volume → Volume → Prop where
  | directory {names before after} (made : before.makeDirectories (Path.below home names) = (.ok (), after)) :
      Done home (.directory names) before after
  | file {names text before after} (wrote : before.write (Path.below home names) text.toUTF8 = .ok after) :
      Done home (.file names text) before after

/-- The change broke off. Some of the directories may have been made, and anything may have got into the file. -/
inductive Broken (home : String) : Change → Volume → Volume → Prop where
  | untouched {change volume} : Broken home change volume volume
  | directory {names front before} (way : front <+: Path.parts (Path.below home names)) :
      Broken home (.directory names) before (before.extend (before.start (Path.below home names)) front).2
  | file {names text bytes before after} (wrote : before.write (Path.below home names) bytes = .ok after) :
      Broken home (.file names text) before after

end Change

/-- Changes made in turn: the whole of them, or up to one that broke off. -/
inductive Carried (home : String) : Bool → List Change → Volume → Volume → Prop where
  | done {volume} : Carried home true [] volume volume
  | next {whole change changes before middle after} (done : change.Done home before middle)
      (rest : Carried home whole changes middle after) : Carried home whole (change :: changes) before after
  | broken {change changes before after} (broken : change.Broken home before after) :
      Carried home false (change :: changes) before after

section Laws

variable {home : String} {place : List String} {whole : Bool} {change : Change} {changes others : List Change}
  {before middle after : Volume}

/-- Whether it came to its end or not, a change writes the file that it is about. -/
theorem Volume.Opens.grows_of_write {names : List String} {bytes : ByteArray} (opens : before.Opens home place)
    (plain : ∀ name ∈ names, Path.Plain name) (wrote : before.write (Path.below home names) bytes = .ok after) :
    before.Grows (· = place ++ names) after ∧ after.file? (place ++ names) = some bytes := by
  obtain ⟨target, located, _, held, grows⟩ := Volume.found_of_write wrote
  obtain rfl := opens.place_below plain located
  exact ⟨grows, held⟩

private theorem Volume.Opens.grounded_of_write {names : List String} {bytes : ByteArray}
    (opens : before.Opens home place)
    (plain : ∀ name ∈ names, Path.Plain name) (grounded : before.Grounded)
    (wrote : before.write (Path.below home names) bytes = .ok after) : after.Grounded := by
  rcases List.eq_nil_or_concat' names with rfl | ⟨above, last, rfl⟩
  · obtain ⟨target, located, free, _⟩ := Volume.write_eq_ok wrote
    obtain rfl := opens.place_below plain located
    rw [List.append_nil] at free
    exact absurd opens.there free
  · rw [List.forall_mem_append, List.forall_mem_singleton] at plain
    rw [Path.below_concat] at wrote
    exact grounded.write plain.2 wrote

namespace Change

variable (opens : before.Opens home place) (plain : ∀ name ∈ change.names, Path.Plain name)

include opens plain

theorem Done.grows (done : change.Done home before after) :
    before.Grows (fun other => ∃ names, change.written? = some names ∧ other = place ++ names) after := by
  cases done with
  | directory made => exact Volume.grows_of_makeDirectories made
  | file wrote => exact (opens.grows_of_write plain wrote).1.mono fun other same => ⟨_, rfl, same⟩

theorem Broken.grows (broken : change.Broken home before after) :
    before.Grows (fun other => ∃ names, change.written? = some names ∧ other = place ++ names) after := by
  cases broken with
  | untouched => exact .refl
  | directory => exact .extend _ _ _
  | file wrote => exact (opens.grows_of_write plain wrote).1.mono fun other same => ⟨_, rfl, same⟩

theorem Done.grounded (done : change.Done home before after) (grounded : before.Grounded)
    (there : before.entry? (before.start home) = some .directory) : after.Grounded := by
  cases done with
  | @directory names _ _ made =>
    have start : before.start (Path.below home names) = before.start home := Volume.start_below plain
    exact grounded.of_makeDirectories (start ▸ there) made
  | file wrote => exact opens.grounded_of_write plain grounded wrote

theorem Broken.grounded (broken : change.Broken home before after) (grounded : before.Grounded)
    (there : before.entry? (before.start home) = some .directory) : after.Grounded := by
  cases broken with
  | untouched => exact grounded
  | directory =>
    rw [← Volume.start_below plain] at there
    exact grounded.extend there _
  | file wrote => exact opens.grounded_of_write plain grounded wrote

/-- Only what is on the way is new. -/
theorem Done.entry?_eq (dotless : Path.endsWithDot home = false) (done : change.Done home before after)
    (other : List String) : after.entry? other = before.entry? other ∨ other <+: place ++ change.names := by
  cases done with
  | directory made =>
    have extended := (Volume.makeDirectories_eq_ok (Path.endsWithDot_below dotless plain) made).2
    rw [Volume.start_below plain, Path.parts_below plain,
      Volume.Opens.extend_append opens.approached.2.2 opens.there] at extended
    have only := Volume.entry?_extend before place (Path.not_mem_dots plain) other
    rwa [extended] at only
  | file wrote =>
    obtain ⟨target, located, free, rfl⟩ := Volume.write_eq_ok wrote
    have below : target ≠ [] := by
      rintro rfl
      exact free rfl
    rw [Volume.entry?_put _ below]
    split
    next here =>
      have same := here.symm.trans (opens.place_below plain located)
      exact .inr (same ▸ List.prefix_rfl)
    next => exact .inl rfl

end Change

namespace Carried

theorem append (first : Carried home true changes before middle) (rest : Carried home whole others middle after) :
    Carried home whole (changes ++ others) before after := by
  generalize ended : true = all at first
  induction first with
  | done => exact rest
  | next done _ ih => exact .next done (ih rest ended)
  | broken => cases ended

private theorem append_broken (first : Carried home false changes before after) :
    Carried home false (changes ++ others) before after := by
  generalize ended : false = all at first
  induction first with
  | done => cases ended
  | next done _ ih => exact .next done (ih ended)
  | broken broken => exact .broken broken

variable (plain : ∀ change ∈ changes, ∀ name ∈ change.names, Path.Plain name) (opens : before.Opens home place)

include plain opens

/-- However far it got, only files of these changes were written. -/
theorem grows (carried : Carried home whole changes before after) :
    before.Grows (fun other => ∃ names ∈ changes.filterMap Change.written?, other = place ++ names) after := by
  have inside {change : Change} {changes : List Change} (other : List String)
      (one : ∃ names, change.written? = some names ∧ other = place ++ names) :
      ∃ names ∈ (change :: changes).filterMap Change.written?, other = place ++ names := by
    obtain ⟨names, same, here⟩ := one
    exact ⟨names, List.mem_filterMap.mpr ⟨change, List.mem_cons_self, same⟩, here⟩
  induction carried with
  | done => exact .refl
  | next done _ ih =>
    rw [List.forall_mem_cons] at plain
    have first := done.grows opens plain.1
    refine (first.mono inside).trans ((ih plain.2 (opens.grows first)).mono ?_)
    rintro other ⟨names, member, same⟩
    exact ⟨names, ((List.sublist_cons_self _ _).filterMap _).subset member, same⟩
  | broken broken => exact (broken.grows opens (plain _ List.mem_cons_self)).mono inside

theorem grounded (carried : Carried home whole changes before after) (grounded : before.Grounded)
    (there : before.entry? (before.start home) = some .directory) : after.Grounded := by
  induction carried with
  | done => exact grounded
  | next done _ ih =>
    rw [List.forall_mem_cons] at plain
    have first := done.grows opens plain.1
    refine ih plain.2 (opens.grows first) (done.grounded opens plain.1 grounded there) ?_
    rw [first.start]
    exact first.directories _ there
  | broken broken => exact broken.grounded opens (plain _ List.mem_cons_self) grounded there

/-- If it has come to its end, all files are there. -/
theorem found (distinct : (changes.filterMap Change.written?).Nodup) (carried : Carried home true changes before after)
    {names : List String} {text : String} (member : .file names text ∈ changes) :
    after.file? (place ++ names) = some text.toUTF8 := by
  generalize ended : true = all at carried
  induction carried with
  | done => cases member
  | @next _ change changes _ _ _ done rest ih =>
    subst ended
    rw [List.forall_mem_cons] at plain
    have still := opens.grows (done.grows opens plain.1)
    rcases List.mem_cons.mp member with rfl | member
    · cases done with
      | file wrote =>
        have absent : names ∉ changes.filterMap Change.written? := (List.nodup_cons.mp distinct).1
        rw [(rest.grows plain.2 still).files]
        · exact (opens.grows_of_write plain.1 wrote).2
        · rintro ⟨others, listed, same⟩
          exact absent (List.append_cancel_left same ▸ listed)
    · exact ih plain.2 still (distinct.sublist ((List.sublist_cons_self _ _).filterMap _)) member rfl
  | broken => cases ended

/-- Whatever is new stands on the way to one of the changes. -/
theorem entry?_eq (dotless : Path.endsWithDot home = false) (carried : Carried home true changes before after)
    (other : List String) :
    after.entry? other = before.entry? other ∨ ∃ change ∈ changes, other <+: place ++ change.names := by
  generalize ended : true = all at carried
  induction carried with
  | done => exact .inl rfl
  | @next _ change changes before middle after done rest ih =>
    rw [List.forall_mem_cons] at plain
    rcases ih plain.2 (opens.grows (done.grows opens plain.1)) ended with same | ⟨change', member, way⟩
    · rcases done.entry?_eq opens plain.1 dotless other with same' | way
      · exact .inl (same.trans same')
      · exact .inr ⟨change, List.mem_cons_self, way⟩
    · exact .inr ⟨change', List.mem_cons_of_mem _ member, way⟩
  | broken => cases ended

end Carried

end Laws

namespace Filing

variable {ε δ α β : Type} {home : String} {changes others : List Change}

def Carries (home : String) (changes : List Change) (work : Filing ε α) : Prop :=
  ∀ before result after, work.on before = (result, after) → Carried home result.isOk changes before after

namespace Carries

theorem pure (value : α) : Carries home [] (Pure.pure value : Filing ε α) := by
  intro before result after done
  cases done
  exact .done

theorem bind {work : Filing ε α} {next : α → Filing ε β} (first : Carries home changes work)
    (rest : ∀ value, Carries home others (next value)) : Carries home (changes ++ others) (work >>= next) := by
  intro before result after done
  rw [on_bind] at done
  cases worked : work.on before with
  | mk ended middle =>
    rw [worked] at done
    cases ended with
    | error error =>
      cases done
      exact (first before _ _ worked).append_broken
    | ok value => exact (first before _ _ worked).append (rest value middle result after done)

theorem adapt {cause : ε → δ} {work : Filing ε α} (carries : Carries home changes work) :
    Carries home changes (ExceptT.adapt cause work : Filing δ α) := by
  intro before result after done
  have ended : ((work.on before).1.mapError cause, (work.on before).2) = (result, after) := done
  cases ended
  cases worked : work.on before with
  | mk ended middle =>
    have carried := carries before ended middle worked
    cases ended <;> exact carried

theorem mapM {items : List α} {work : α → Filing ε β} {changes : α → List Change}
    (each : ∀ item ∈ items, Carries home (changes item) (work item)) :
    Carries home (items.flatMap changes) (items.mapM work) := by
  induction items with
  | nil => exact pure []
  | cons item rest ih =>
    rw [List.forall_mem_cons] at each
    rw [List.mapM_cons, List.flatMap_cons]
    refine each.1.bind fun value => ?_
    rw [← List.append_nil (rest.flatMap changes)]
    exact (ih each.2).bind fun _ => pure _

theorem write {cause : FileFault → ε} (names : List String) (text : String) :
    Carries home [.file names text] (Filing.write cause (Path.below home names) text) := by
  intro before result after done
  cases wrote : before.write (Path.below home names) text.toUTF8 with
  | error =>
    rw [on_write_of_error cause wrote] at done
    cases done
    exact .broken .untouched
  | ok =>
    rw [on_write_of_ok cause wrote] at done
    cases done
    exact .next (.file wrote) .done

theorem makeDirectories {cause : FileFault → ε} {names : List String}
    (dotless : Path.endsWithDot (Path.below home names) = false) :
    Carries home [.directory names] (Filing.makeDirectories cause (Path.below home names)) := by
  intro before result after done
  have ended : ((before.makeDirectories (Path.below home names)).1.mapError cause,
      (before.makeDirectories (Path.below home names)).2) = (result, after) := done
  cases ended
  cases made : (before.makeDirectories (Path.below home names)).1 with
  | ok => exact .next (.directory (Prod.ext made rfl)) .done
  | error =>
    obtain ⟨same, _⟩ | ⟨_, same⟩ := Volume.makeDirectories_cases dotless before
    · rw [same]
      exact .broken .untouched
    · rw [same]
      exact .broken (.directory List.prefix_rfl)

end Carries

end Filing

end IntentRollout
