import IntentRollout.Volume.Path

/-! Names in written paths. The names in a path that was joined are those of its two halves, whatever
slashes and dots the halves were written with. -/

namespace IntentRollout

section Pieces

variable {separator : Char}

theorem pieces_cons_self (rest : List Char) : pieces separator (separator :: rest) = [] :: pieces separator rest := by
  rw [pieces, if_pos rfl]

theorem pieces_cons {character : Char} (other : character ≠ separator) (rest : List Char) :
    ∃ piece more, pieces separator rest = piece :: more ∧
      pieces separator (character :: rest) = (character :: piece) :: more := by
  rw [pieces, if_neg other]
  cases found : pieces separator rest with
  | cons piece more => exact ⟨piece, more, rfl, rfl⟩
  | nil =>
    cases rest with
    | nil => cases found
    | cons next rest =>
      rw [pieces] at found
      split at found
      · cases found
      · split at found <;> cases found

theorem pieces_append (first rest : List Char) :
    pieces separator (first ++ separator :: rest) = pieces separator first ++ pieces separator rest := by
  induction first with
  | nil => exact pieces_cons_self rest
  | cons character first ih =>
    by_cases same : character = separator
    · rw [same, List.cons_append, pieces_cons_self, pieces_cons_self, ih, List.cons_append]
    · obtain ⟨piece, more, cut, joined⟩ := pieces_cons same (first ++ separator :: rest)
      obtain ⟨piece', more', cut', joined'⟩ := pieces_cons same first
      rw [List.cons_append, joined, joined']
      rw [ih, cut', List.cons_append] at cut
      cases cut
      rfl

theorem pieces_of_not_mem {characters : List Char} (absent : separator ∉ characters) :
    pieces separator characters = [characters] := by
  induction characters with
  | nil => rfl
  | cons character rest ih =>
    rw [List.mem_cons, not_or] at absent
    rw [pieces, if_neg (Ne.symm absent.1), ih absent.2]

/-- The last piece ends with whatever stands at the end and holds no separator. -/
theorem getLast?_pieces {ending : List Char} (absent : separator ∉ ending) (front : List Char) :
    ∃ before, (pieces separator (front ++ ending)).getLast? = some (before ++ ending) := by
  induction front with
  | nil => exact ⟨[], by rw [List.nil_append, pieces_of_not_mem absent]; rfl⟩
  | cons character front ih =>
    obtain ⟨before, last⟩ := ih
    by_cases same : character = separator
    · refine ⟨before, ?_⟩
      rw [same, List.cons_append, pieces_cons_self, List.getLast?_cons, last]
      rfl
    · obtain ⟨piece, more, cut, joined⟩ := pieces_cons same (front ++ ending)
      rw [List.cons_append, joined]
      rw [cut] at last
      cases more with
      | nil =>
        cases last
        exact ⟨character :: before, rfl⟩
      | cons next more => exact ⟨before, by simpa using last⟩

end Pieces

namespace Path

/-- A name that leads one step down. -/
structure Plain (name : String) : Prop where
  nonempty : name ≠ ""
  slashless : '/' ∉ name.toList
  not_dot : name ≠ "."
  not_dots : name ≠ ".."

variable {name directory path : String}

instance : Decidable (Plain name) :=
  decidable_of_iff (name ≠ "" ∧ '/' ∉ name.toList ∧ name ≠ "." ∧ name ≠ "..")
    ⟨fun ⟨nonempty, slashless, dot, dots⟩ => ⟨nonempty, slashless, dot, dots⟩,
      fun plain => ⟨plain.nonempty, plain.slashless, plain.not_dot, plain.not_dots⟩⟩

theorem Plain.pieces (plain : Plain name) : IntentRollout.pieces '/' name.toList = [name.toList] :=
  pieces_of_not_mem plain.slashless

theorem Plain.parts (plain : Plain name) : parts name = [name] := by
  simp [Path.parts, plain.pieces, plain.nonempty, plain.not_dot]

theorem Plain.relative (plain : Plain name) : isAbsolute name = false := by
  simp only [isAbsolute, decide_eq_false_iff_not]
  intro head
  exact plain.slashless (List.mem_of_mem_head? head)

/-- A path below a directory is the path of the directory, a slash unless there is one, and the path. -/
theorem join_cases (directory : String) (relative : isAbsolute path = false) :
    (directory = "" ∧ join directory path = path) ∨
      (∃ front, directory.toList = front ++ ['/'] ∧ join directory path = directory ++ path) ∨
      join directory path = directory ++ "/" ++ path := by
  rw [join, if_neg (by simp [relative])]
  split
  next free =>
    rw [Bool.or_eq_true] at free
    rcases free with empty | ends
    · rw [String.isEmpty_iff] at empty
      exact .inl ⟨empty, by rw [empty]; simp⟩
    · simp only [endsWithSlash, decide_eq_true_eq] at ends
      obtain ⟨front, split⟩ := List.getLast?_eq_some_iff.mp ends
      exact .inr (.inl ⟨front, split, rfl⟩)
  · exact .inr (.inr rfl)

theorem join_ends (directory path : String) : ∃ front, join directory path = front ++ path := by
  rw [join]
  split
  · exact ⟨"", by simp⟩
  · split
    · exact ⟨directory, rfl⟩
    · exact ⟨directory ++ "/", rfl⟩

private theorem pieces_join (directory : String) (relative : isAbsolute path = false) :
    (directory = "" ∧ join directory path = path) ∨
      ∃ front, IntentRollout.pieces '/' (join directory path).toList =
        front ++ IntentRollout.pieces '/' path.toList ∧
        parts directory = (front.map String.ofList).filter fun part => part ≠ "" ∧ part ≠ "." := by
  obtain ⟨empty, same⟩ | ⟨front, ends, same⟩ | same := join_cases directory relative
  · exact .inl ⟨empty, same⟩
  · refine .inr ⟨IntentRollout.pieces '/' front, ?_, ?_⟩
    · rw [same, String.toList_append, ends, List.append_assoc, List.singleton_append, pieces_append]
    · rw [parts, ends, pieces_append]
      simp [IntentRollout.pieces]
  · refine .inr ⟨IntentRollout.pieces '/' directory.toList, ?_, rfl⟩
    rw [same, String.toList_append, String.toList_append, List.append_assoc]
    exact pieces_append _ _

/-- The names below a directory come after those of the directory. -/
theorem parts_join (relative : isAbsolute path = false) :
    parts (join directory path) = parts directory ++ parts path := by
  obtain ⟨rfl, same⟩ | ⟨front, cut, named⟩ := pieces_join directory relative
  · rw [same]
    rfl
  · rw [parts, cut, named, List.map_append, List.filter_append]
    rfl

theorem Plain.parts_join (plain : Plain name) : Path.parts (join directory name) = Path.parts directory ++ [name] := by
  rw [Path.parts_join plain.relative, plain.parts]

theorem isAbsolute_join (relative : isAbsolute path = false) :
    isAbsolute (join directory path) = isAbsolute directory := by
  have head (rest : String) (some : directory ≠ "") : isAbsolute (directory ++ rest) = isAbsolute directory := by
    cases characters : directory.toList with
    | nil => exact absurd (String.toList_eq_nil_iff.mp characters) some
    | cons first others => simp [isAbsolute, characters]
  obtain ⟨rfl, same⟩ | ⟨front, ends, same⟩ | same := join_cases directory relative
  · rw [same, relative]
    rfl
  · rw [same]
    apply head
    rintro rfl
    cases front <;> cases ends
  · by_cases some : directory = ""
    · rw [some, join, if_neg (by simp [relative])]
      simpa [isAbsolute] using relative
    · rw [same, String.append_assoc, head _ some]

end Path

end IntentRollout
