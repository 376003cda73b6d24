import IntentRollout.Toml.Printer
import IntentRollout.Toml.Reader

/-! Texts between marks. Every notation shows each character either as it is or by an escape, and a reader that
takes the characters back one by one stops at the closing marks and nowhere before. -/

namespace IntentRollout.Toml

/-- What follows a backslash, so that a character comes back and no line is folded. -/
structure Escapes (code : List Char) (character : Char) : Prop where
  read (rest : List Char) : readEscape? (code ++ rest) = some (character, rest)
  visible (rest : List Char) : readLineEnd? (skipBlank (code ++ rest)) = none

private theorem hexValue?_codeDigits : ∀ code < 128, hexValue? (codeDigits code) = some code := by decide

private theorem toNat_of_needsEscape {character : Char} (needed : needsEscape character = true) :
    character.toNat < 128 := by
  simp only [needsEscape, Bool.or_eq_true, Bool.and_eq_true, decide_eq_true_eq] at needed
  omega

private theorem escapes_codeDigits {character : Char} (needed : needsEscape character = true) :
    Escapes ('u' :: codeDigits character.toNat) character where
  read rest := by
    have code : hexValue? (codeDigits character.toNat) = some character.toNat :=
      hexValue?_codeDigits _ (toNat_of_needsEscape needed)
    change (hexValue? (codeDigits character.toNat)).bind (fun code =>
      if Nat.isValidChar code then some (Char.ofNat code, rest) else none) = some (character, rest)
    have valid : character.toNat.isValidChar := character.valid
    rw [code, Option.bind_some, if_pos valid, Char.ofNat_toNat]
  visible _ := rfl

private theorem escapes_mark : Escapes ['"'] '"' := ⟨fun _ => rfl, fun _ => rfl⟩

private theorem escape?_eq_some {severalLines : Bool} {character : Char} {written : List Char}
    (found : escape? severalLines character = some written) :
    ∃ code, written = '\\' :: code ∧ Escapes code character := by
  unfold escape? at found
  split at found
  · exact ⟨['b'], (Option.some.inj found).symm, fun _ => rfl, fun _ => rfl⟩
  · exact ⟨['t'], (Option.some.inj found).symm, fun _ => rfl, fun _ => rfl⟩
  · split at found
    · cases found
    · exact ⟨['n'], (Option.some.inj found).symm, fun _ => rfl, fun _ => rfl⟩
  · exact ⟨['f'], (Option.some.inj found).symm, fun _ => rfl, fun _ => rfl⟩
  · exact ⟨['r'], (Option.some.inj found).symm, fun _ => rfl, fun _ => rfl⟩
  · exact ⟨['\\'], (Option.some.inj found).symm, fun _ => rfl, fun _ => rfl⟩
  · split at found
    next needed => exact ⟨_, (Option.some.inj found).symm, escapes_codeDigits needed⟩
    · cases found

def Visible (severalLines : Bool) (character : Char) : Prop :=
  isControl character = false ∨ severalLines = true ∧ character = '\n'

private theorem visible_of_needsEscape {severalLines : Bool} {character : Char} (free : needsEscape character = false)
    (line : character = '\n' → severalLines = true) : Visible severalLines character := by
  by_cases newline : character = '\n'
  · exact .inr ⟨line newline, newline⟩
  · refine .inl ?_
    rw [needsEscape, decide_eq_true newline, Bool.and_true] at free
    exact free

private theorem escape?_eq_none {severalLines : Bool} {character : Char}
    (none : escape? severalLines character = none) :
    character ≠ '\\' ∧ Visible severalLines character := by
  unfold escape? at none
  split at none
  · cases none
  · cases none
  · split at none
    next several => exact ⟨by decide, .inr ⟨several, rfl⟩⟩
    · cases none
  · cases none
  · cases none
  · cases none
  next newline _ _ backslash =>
    split at none
    · cases none
    next free =>
      exact ⟨backslash, visible_of_needsEscape (Bool.not_eq_true _ ▸ free) fun same => absurd same newline⟩

/-- Characters that show a text between marks. Up to `marks` marks in a row stay as they are; `run` marks come
before. -/
inductive Shows (mark : Char) (marks : Nat) (severalLines : Bool) : Nat → List Char → List Char → Prop
  | nil {run : Nat} : Shows mark marks severalLines run [] []
  | mark {run : Nat} {source shown : List Char} (few : run < marks)
      (more : Shows mark marks severalLines (run + 1) source shown) :
      Shows mark marks severalLines run (mark :: source) (mark :: shown)
  | plain {run : Nat} {source shown : List Char} {character : Char} (other : character ≠ mark)
      (literal : mark = '"' → character ≠ '\\') (visible : Visible severalLines character)
      (more : Shows mark marks severalLines 0 source shown) :
      Shows mark marks severalLines run (character :: source) (character :: shown)
  | escape {run : Nat} {source shown : List Char} {character : Char} {code : List Char} (allowed : mark = '"')
      (escapes : Escapes code character) (more : Shows mark marks severalLines 0 source shown) :
      Shows mark marks severalLines run (character :: source) ('\\' :: (code ++ shown))

private theorem shows_escapedText (marks : Nat) (severalLines : Bool) (run : Nat) (characters : List Char) :
    Shows '"' marks severalLines run characters (escapedText marks severalLines run characters) := by
  induction characters generalizing run with
  | nil => exact .nil
  | cons character rest ih =>
    rw [escapedText]
    split
    next same =>
      subst same
      split
      next few => exact .mark few (ih _)
      · exact .escape rfl escapes_mark (ih 0)
    next other =>
      cases found : escape? severalLines character with
      | none =>
        obtain ⟨literal, visible⟩ := escape?_eq_none found
        exact .plain other (fun _ => literal) visible (ih 0)
      | some written =>
        obtain ⟨code, rfl, escapes⟩ := escape?_eq_some found
        exact .escape rfl escapes (ih 0)

def nextRun (mark : Char) (runs : Nat × Nat) (character : Char) : Nat × Nat :=
  let run := if character = mark then runs.1 + 1 else 0
  (run, max run runs.2)

private theorem longestRun_eq (mark : Char) (characters : List Char) :
    longestRun mark characters = (characters.foldl (nextRun mark) (0, 0)).2 := rfl

private theorem le_longestRun (mark : Char) (characters : List Char) (runs : Nat × Nat) :
    runs.2 ≤ (characters.foldl (nextRun mark) runs).2 := by
  induction characters generalizing runs with
  | nil => exact Nat.le_refl _
  | cons character rest ih => exact Nat.le_trans (Nat.le_max_right _ _) (ih (nextRun mark runs character))

private theorem longestRun_of_not_mem {mark : Char} {characters : List Char} (absent : mark ∉ characters) :
    longestRun mark characters = 0 := by
  rw [longestRun_eq]
  induction characters with
  | nil => rfl
  | cons character rest ih =>
    rw [List.mem_cons, not_or] at absent
    rw [List.foldl_cons, nextRun, if_neg (Ne.symm absent.1)]
    exact ih absent.2

/-- Between apostrophes a text without long runs of them shows itself. -/
theorem shows_plain {marks : Nat} {severalLines : Bool} {characters : List Char}
    (free : ∀ character ∈ characters, needsEscape character = false)
    (lines : '\n' ∈ characters → severalLines = true) {runs : Nat × Nat}
    (short : (characters.foldl (nextRun '\'') runs).2 ≤ marks) :
    Shows '\'' marks severalLines runs.1 characters characters := by
  induction characters generalizing runs with
  | nil => exact .nil
  | cons character rest ih =>
    have ⟨here, later⟩ := List.forall_mem_cons.mp free
    have shown := ih later (fun member => lines (List.mem_cons_of_mem _ member)) short
    rw [nextRun] at shown
    by_cases same : character = '\''
    · subst same
      have counted : runs.1 + 1 ≤ (nextRun '\'' runs '\'').2 := Nat.le_max_left _ _
      exact .mark (Nat.le_trans counted (Nat.le_trans (le_longestRun '\'' rest _) short)) shown
    · rw [if_neg same] at shown
      refine .plain same nofun (visible_of_needsEscape here fun newline => lines ?_) shown
      exact newline ▸ List.mem_cons_self

theorem length_lt_cons {α : Type} (first : α) (rest : List α) (steps : Nat) :
    rest.length < (first :: rest).length + steps := Nat.lt_add_right steps (Nat.lt_succ_self _)

namespace Shows

variable {mark : Char} {marks : Nat} {severalLines : Bool} {run : Nat} {source shown : List Char}

theorem length_le (shows : Shows mark marks severalLines run source shown) : source.length ≤ shown.length := by
  induction shows with
  | nil => exact Nat.le_refl 0
  | mark _ _ ih => exact Nat.succ_le_succ ih
  | plain _ _ _ _ ih => exact Nat.succ_le_succ ih
  | escape _ _ _ ih =>
    rw [List.length_cons, List.length_cons, List.length_append]
    omega

/-- A text on one line is read up to its closing mark. -/
theorem readLine?_eq (shows : Shows mark 0 false run source shown) {steps : Nat} (enough : source.length < steps)
    (taken rest : List Char) :
    readLine? mark steps taken (shown ++ mark :: rest) = some (String.ofList (taken.reverse ++ source), rest) := by
  induction shows generalizing steps taken with
  | nil =>
    obtain ⟨steps, rfl⟩ := Nat.exists_eq_add_of_lt enough
    rw [List.nil_append, readLine?, if_pos rfl, List.append_nil]
  | mark few => exact absurd few (Nat.not_lt_zero _)
  | @plain _ source shown character other literal visible _ ih =>
    obtain ⟨steps, rfl⟩ := Nat.exists_eq_add_of_lt enough
    have hidden : isControl character = false := visible.resolve_right fun newline => Bool.noConfusion newline.1
    rw [List.cons_append, readLine?, if_neg other, if_neg fun both => literal both.1 both.2,
      if_neg (Bool.eq_false_iff.mp hidden), ih (length_lt_cons _ _ steps), List.reverse_cons, List.append_assoc]
    rfl
  | @escape _ source shown character code allowed escapes _ ih =>
    obtain ⟨steps, rfl⟩ := Nat.exists_eq_add_of_lt enough
    subst allowed
    rw [List.cons_append, List.append_assoc, readLine?, if_neg (by decide), if_pos ⟨rfl, rfl⟩, escapes.read]
    refine (ih (length_lt_cons _ _ steps) (character :: taken)).trans ?_
    rw [List.reverse_cons, List.append_assoc]
    rfl

/-- Either only marks are left, or fewer than three stand next to each other here. -/
theorem leading (shows : Shows mark 2 severalLines run source shown) (few : run ≤ 2) (tail : List Char) :
    (∃ count, run + count ≤ 2 ∧ source = List.replicate count mark ∧ shown = source) ∨
      run + ((shown ++ tail).takeWhile (· = mark)).length ≤ 2 := by
  induction shows with
  | nil => exact .inl ⟨0, few, rfl, rfl⟩
  | mark less _ ih =>
    rcases ih less with ⟨count, bound, rfl, rfl⟩ | bound
    · exact .inl ⟨count + 1, by omega, rfl, rfl⟩
    · refine .inr ?_
      rw [List.cons_append, List.takeWhile_cons, if_pos (decide_eq_true rfl), List.length_cons]
      omega
  | plain other =>
    refine .inr ?_
    rwa [List.cons_append, List.takeWhile_cons_of_neg (by simpa using other)]
  | escape allowed =>
    subst allowed
    exact .inr few

end Shows

/-- A character that does not follow a text between these marks. -/
def Clear (mark : Char) (rest : List Char) : Prop := rest.head? ≠ some mark

private theorem takeWhile_marks {mark : Char} (count : Nat) {rest : List Char} (clear : Clear mark rest) :
    (List.replicate count mark ++ rest).takeWhile (· = mark) = List.replicate count mark := by
  rw [List.takeWhile_append_of_pos fun character member => decide_eq_true (List.eq_of_mem_replicate member)]
  cases rest with
  | nil => exact List.append_nil _
  | cons next rest =>
    have other : next ≠ mark := fun same => clear (congrArg some same)
    rw [List.takeWhile_cons_of_neg (by simpa using other), List.append_nil]

/-- Marks at the end of a text belong to it, but for the last three. -/
theorem readLines?_marks {mark : Char} {count : Nat} (few : count ≤ 2) {rest : List Char} (clear : Clear mark rest)
    (steps : Nat) (taken : List Char) :
    readLines? mark (steps + 1) taken (List.replicate count mark ++ [mark, mark, mark] ++ rest) =
      some (String.ofList (taken.reverse ++ List.replicate count mark), rest) := by
  have joined : List.replicate count mark ++ [mark, mark, mark] ++ rest =
      mark :: (List.replicate (count + 2) mark ++ rest) := by
    rw [← List.cons_append, ← List.replicate_succ, show [mark, mark, mark] = List.replicate 3 mark from rfl,
      List.replicate_append_replicate]
  have run := takeWhile_marks (count + 3) clear
  rw [List.replicate_succ, List.cons_append] at run
  rw [joined, readLines?, if_pos rfl, run]
  simp only [List.length_cons, List.length_replicate]
  rw [if_pos (by omega), show min (count + 2 + 1 - 3) 2 = count by omega, ← List.cons_append, ← List.replicate_succ,
    List.drop_left' List.length_replicate]

namespace Shows

variable {mark : Char} {marks : Nat} {run : Nat} {source shown : List Char}

/-- A text of several lines is read up to its closing marks. -/
theorem readLines?_eq (shows : Shows mark 2 true run source shown) (few : run ≤ 2) {steps : Nat}
    (enough : source.length < steps) {rest : List Char} (clear : Clear mark rest) (taken : List Char) :
    readLines? mark steps taken (shown ++ [mark, mark, mark] ++ rest) =
      some (String.ofList (taken.reverse ++ source), rest) := by
  induction shows generalizing steps taken with
  | nil =>
    obtain ⟨steps, rfl⟩ := Nat.exists_eq_add_of_lt enough
    exact readLines?_marks (Nat.zero_le 2) clear _ taken
  | mark less more ih =>
    obtain ⟨steps, rfl⟩ := Nat.exists_eq_add_of_lt enough
    rcases (Shows.mark less more).leading few ([mark, mark, mark] ++ rest) with ⟨count, bound, same, kept⟩ | bound
    · rw [kept, same]
      exact readLines?_marks (by omega) clear _ taken
    · rw [← List.append_assoc, List.cons_append, List.cons_append] at bound
      rw [List.cons_append, List.cons_append, readLines?, if_pos rfl, if_neg (by omega),
        ih less (length_lt_cons _ _ steps), List.reverse_cons, List.append_assoc]
      rfl
  | @plain _ source shown character other literal visible _ ih =>
    obtain ⟨steps, rfl⟩ := Nat.exists_eq_add_of_lt enough
    have later := ih (Nat.zero_le 2) (length_lt_cons character _ steps) (character :: taken)
    rw [List.reverse_cons, List.append_assoc _ [character]] at later
    rw [List.cons_append, List.cons_append, readLines?, if_neg other, if_neg fun both => literal both.1 both.2]
    rcases visible with hidden | ⟨-, rfl⟩
    · have newline : character ≠ '\n' := by
        rintro rfl
        cases hidden
      have carriage : character ≠ '\r' := by
        rintro rfl
        cases hidden
      rw [if_neg newline, if_neg carriage, if_neg (Bool.eq_false_iff.mp hidden)]
      exact later
    · rw [if_pos rfl]
      exact later
  | @escape _ source shown character code allowed escapes _ ih =>
    obtain ⟨steps, rfl⟩ := Nat.exists_eq_add_of_lt enough
    subst allowed
    have later := ih (Nat.zero_le 2) (length_lt_cons character _ steps) (character :: taken)
    rw [List.reverse_cons, List.append_assoc _ [character], List.append_assoc shown] at later
    rw [List.append_assoc, List.cons_append, List.append_assoc, readLines?, if_neg (by decide), if_pos ⟨rfl, rfl⟩,
      escapes.visible]
    change (readEscape? _).bind _ = _
    rw [escapes.read]
    exact later

end Shows

private theorem readLineEnd?_cons {first : Char} (newline : first ≠ '\n') (carriage : first ≠ '\r') (rest : List Char) :
    readLineEnd? (first :: rest) = none := by
  rw [readLineEnd?.eq_def]
  split
  next same => exact absurd (List.cons.inj same).1 newline
  next same => exact absurd (List.cons.inj same).1 carriage
  · rfl

private theorem readText?_eq_readLine? {mark : Char} {rest : List Char}
    (single : ∀ after, rest ≠ mark :: mark :: after) :
    readText? mark rest = readLine? mark (rest.length + 1) [] rest := by
  rw [readText?.eq_def]
  split
  · refine if_neg ?_
    rintro ⟨rfl, rfl⟩
    exact single _ rfl
  · rfl

def Marks (mark : Char) : Prop := mark = '"' ∨ mark = '\''

namespace Shows

variable {mark : Char} {source shown : List Char}

private theorem readText?_onLine (shows : Shows mark 0 false 0 source shown) {rest : List Char}
    (clear : Clear mark rest) :
    readText? mark (shown ++ mark :: rest) = some (String.ofList source, rest) := by
  have enough : source.length < (shown ++ mark :: rest).length + 1 := by
    have := shows.length_le
    rw [List.length_append]
    omega
  rw [readText?_eq_readLine?]
  · exact shows.readLine?_eq enough [] rest
  intro after same
  cases shows with
  | nil => exact clear (congrArg List.head? (List.cons.inj same).2)
  | mark few => exact absurd few (Nat.not_lt_zero _)
  | plain other => exact other (List.cons.inj same).1
  | escape allowed =>
    subst allowed
    cases (List.cons.inj same).1

/-- No line end comes first unless the text holds one. -/
theorem readLineEnd?_eq_none (shows : Shows mark 2 true 0 source shown) (marks : Marks mark) (single : '\n' ∉ source)
    (rest : List Char) : readLineEnd? (shown ++ [mark, mark, mark] ++ rest) = none := by
  have newline : mark ≠ '\n' := by rcases marks with rfl | rfl <;> decide
  have carriage : mark ≠ '\r' := by rcases marks with rfl | rfl <;> decide
  cases shows with
  | nil => exact readLineEnd?_cons newline carriage _
  | mark => exact readLineEnd?_cons newline carriage _
  | @plain _ source shown character other literal visible more =>
    rcases visible with hidden | ⟨-, rfl⟩
    · refine readLineEnd?_cons ?_ ?_ _ <;> rintro rfl <;> cases hidden
    · exact absurd List.mem_cons_self single
  | escape => exact readLineEnd?_cons (by decide) (by decide) _

private theorem readText?_onLines (shows : Shows mark 2 true 0 source shown) (marks : Marks mark) {rest : List Char}
    (clear : Clear mark rest) :
    readText? mark (mark :: mark :: (opening source ++ shown ++ [mark, mark, mark] ++ rest)) =
      some (String.ofList source, rest) := by
  have inner : (readLineEnd? (opening source ++ shown ++ [mark, mark, mark] ++ rest)).getD
      (opening source ++ shown ++ [mark, mark, mark] ++ rest) = shown ++ [mark, mark, mark] ++ rest := by
    rw [opening]
    split
    · rfl
    next single =>
      rw [List.nil_append, shows.readLineEnd?_eq_none marks (by simpa using single)]
      rfl
  have enough : source.length < (shown ++ [mark, mark, mark] ++ rest).length + 1 := by
    have := shows.length_le
    rw [List.length_append, List.length_append]
    omega
  rw [readText?, if_pos ⟨rfl, rfl⟩, inner]
  exact shows.readLines?_eq (Nat.zero_le 2) enough clear []

end Shows

/-- The notation of a text is one of four, between marks that it is read back from. -/
theorem writtenChars_read (characters : List Char) : ∃ mark body, Marks mark ∧ writtenChars characters = mark :: body ∧
    ∀ rest, Clear mark rest → readText? mark (body ++ rest) = some (String.ofList characters, rest) := by
  have onLine_read : ∃ mark body, Marks mark ∧ onLine characters = mark :: body ∧
      ∀ rest, Clear mark rest → readText? mark (body ++ rest) = some (String.ofList characters, rest) := by
    refine ⟨'"', escapedText 0 false 0 characters ++ ['"'], .inl rfl, rfl, fun rest clear => ?_⟩
    rw [List.append_assoc]
    exact (shows_escapedText 0 false 0 characters).readText?_onLine clear
  have onLines_read : ∃ mark body, Marks mark ∧ onLines characters = mark :: body ∧
      ∀ rest, Clear mark rest → readText? mark (body ++ rest) = some (String.ofList characters, rest) :=
    ⟨'"', _, .inl rfl, rfl, fun rest clear =>
      (shows_escapedText 2 true 0 characters).readText?_onLines (.inl rfl) clear⟩
  rw [writtenChars]
  split
  · exact onLine_read
  split
  next plain =>
    simp only [Bool.and_eq_true, Bool.not_eq_true', decide_eq_true_eq, List.any_eq_false, Bool.not_eq_true,
      List.contains_eq_mem, decide_eq_false_iff_not] at plain
    obtain ⟨⟨free, short⟩, single⟩ := plain
    have shows : Shows '\'' 0 false 0 characters characters :=
      shows_plain free (fun member => absurd member single) (Nat.le_of_eq short)
    refine ⟨'\'', characters ++ ['\''], .inr rfl, rfl, fun rest clear => ?_⟩
    rw [List.append_assoc]
    exact shows.readText?_onLine clear
  split
  · exact onLines_read
  split
  next plain =>
    simp only [Bool.and_eq_true, Bool.not_eq_true', decide_eq_true_eq, List.any_eq_false, Bool.not_eq_true] at plain
    have shows : Shows '\'' 2 true 0 characters characters := shows_plain plain.1 (fun _ => rfl) plain.2
    exact ⟨'\'', _, .inr rfl, rfl, fun rest clear => shows.readText?_onLines (.inr rfl) clear⟩
  split
  · exact onLines_read
  · exact onLine_read

def EndsKey (rest : List Char) : Prop := ∀ next, rest.head? = some next → isBare next = false

private theorem readKeyPart?_onLine (characters rest : List Char) :
    readKeyPart? (onLine characters ++ rest) = some (String.ofList characters, rest) := by
  have enough : characters.length < (escapedText 0 false 0 characters ++ '"' :: rest).length + 1 := by
    have := (shows_escapedText 0 false 0 characters).length_le
    rw [List.length_append]
    omega
  rw [onLine, List.cons_append, List.cons_append, List.append_assoc]
  exact (shows_escapedText 0 false 0 characters).readLine?_eq enough [] rest

private theorem readKeyPart?_plainOnLine {characters : List Char}
    (shows : Shows '\'' 0 false 0 characters characters) (rest : List Char) :
    readKeyPart? (plainOnLine characters ++ rest) = some (String.ofList characters, rest) := by
  have enough : characters.length < (characters ++ '\'' :: rest).length + 1 := by
    rw [List.length_append]
    omega
  rw [plainOnLine, List.cons_append, List.cons_append, List.append_assoc]
  exact shows.readLine?_eq enough [] rest

private theorem split_bare {characters : List Char} (bare : ∀ character ∈ characters, isBare character = true)
    {rest : List Char} (ends : EndsKey rest) :
    (characters ++ rest).takeWhile isBare = characters ∧ (characters ++ rest).dropWhile isBare = rest := by
  rw [List.takeWhile_append_of_pos bare, List.dropWhile_append_of_pos bare]
  cases rest with
  | nil => exact ⟨List.append_nil _, rfl⟩
  | cons next rest =>
    have ended : ¬ isBare next = true := Bool.eq_false_iff.mp (ends next rfl)
    rw [List.takeWhile_cons_of_neg ended, List.dropWhile_cons_of_neg ended]
    exact ⟨List.append_nil _, rfl⟩

private theorem readKeyPart?_bare {characters : List Char} (filled : characters ≠ [])
    (bare : ∀ character ∈ characters, isBare character = true) {rest : List Char} (ends : EndsKey rest) :
    readKeyPart? (characters ++ rest) = some (String.ofList characters, rest) := by
  obtain ⟨taken, left⟩ := split_bare bare ends
  obtain ⟨first, more, rfl⟩ := List.exists_cons_of_ne_nil filled
  have here := (List.forall_mem_cons.mp bare).1
  rw [readKeyPart?.eq_def]
  split
  next same =>
    rw [(List.cons.inj same).1] at here
    cases here
  next same =>
    rw [(List.cons.inj same).1] at here
    cases here
  · simp only [taken, left]
    rfl

/-- A key is read back from its place on a line. -/
theorem readKeyPart?_written (key : String) {rest : List Char} (ends : EndsKey rest) :
    readKeyPart? ((writtenKey key).toList ++ rest) = some (key, rest) := by
  have quoted : readKeyPart? ((String.ofList (onLine key.toList)).toList ++ rest) = some (key, rest) := by
    rw [String.toList_ofList, readKeyPart?_onLine, String.ofList_toList]
  rw [writtenKey]
  split
  next bare =>
    rw [isBareKey, Bool.and_eq_true, Bool.not_eq_true', List.isEmpty_eq_false_iff, List.all_eq_true] at bare
    rw [readKeyPart?_bare bare.1 bare.2 ends, String.ofList_toList]
  split
  · exact quoted
  next visible =>
    split
    · exact quoted
    split
    next plain =>
      simp only [Bool.or_eq_true, not_or, List.any_eq_true, not_exists, not_and, Bool.not_eq_true, Bool.not_eq_true',
        List.contains_eq_mem, decide_eq_false_iff_not] at visible plain
      have shows : Shows '\'' 0 false 0 key.toList key.toList :=
        shows_plain visible.1 (fun member => absurd member visible.2) (Nat.le_of_eq (longestRun_of_not_mem plain))
      rw [String.toList_ofList, readKeyPart?_plainOnLine shows, String.ofList_toList]
    · exact quoted

/-- A key starts with a character of its own or with a mark, so nothing before it is skipped. -/
theorem writtenKey_cons (key : String) :
    ∃ first more, (writtenKey key).toList = first :: more ∧ (isBare first = true ∨ Marks first) := by
  rw [writtenKey]
  split
  next bare =>
    rw [isBareKey, Bool.and_eq_true, Bool.not_eq_true', List.isEmpty_eq_false_iff, List.all_eq_true] at bare
    obtain ⟨first, more, same⟩ := List.exists_cons_of_ne_nil bare.1
    exact ⟨first, more, same, .inl (bare.2 first (same ▸ List.mem_cons_self))⟩
  split
  · exact ⟨'"', _, String.toList_ofList, .inr (.inl rfl)⟩
  split
  · exact ⟨'"', _, String.toList_ofList, .inr (.inl rfl)⟩
  split
  · exact ⟨'\'', _, String.toList_ofList, .inr (.inr rfl)⟩
  · exact ⟨'"', _, String.toList_ofList, .inr (.inl rfl)⟩

theorem skipBlank_cons {first : Char} (space : first ≠ ' ') (tab : first ≠ '\t') (rest : List Char) :
    skipBlank (first :: rest) = first :: rest := by
  rw [skipBlank.eq_def]
  split
  next same => exact absurd (List.cons.inj same).1 space
  next same => exact absurd (List.cons.inj same).1 tab
  · rfl

theorem skipBlank_writtenKey (key : String) (rest : List Char) :
    skipBlank ((writtenKey key).toList ++ rest) = (writtenKey key).toList ++ rest := by
  obtain ⟨first, more, same, opens⟩ := writtenKey_cons key
  rw [same, List.cons_append]
  refine skipBlank_cons ?_ ?_ _ <;> rintro rfl <;> rcases opens with bare | mark | mark <;> contradiction

/-- What follows a dotted key, so that no further part is expected. -/
structure EndsPath (rest : List Char) : Prop where
  key : EndsKey rest
  path : (skipBlank rest).head? ≠ some '.'

theorem writtenPath_cons (key next : String) (more : List String) :
    (writtenPath (key :: next :: more)).toList =
      (writtenKey key).toList ++ '.' :: (writtenPath (next :: more)).toList := by
  rw [writtenPath, joined, List.map_cons, List.map_cons, String.intercalate_cons_cons, String.toList_append,
    String.toList_append, List.append_assoc]
  rfl

private theorem readKeyFrom?_written {path : List String} (filled : path ≠ []) {steps : Nat}
    (short : path.length ≤ steps)
    (parts : List String) {rest : List Char} (ends : EndsPath rest) :
    readKeyFrom? steps parts ((writtenPath path).toList ++ rest) = some (path.reverse ++ parts, skipBlank rest) := by
  induction path generalizing steps parts with
  | nil => exact absurd rfl filled
  | cons key path ih =>
    obtain ⟨steps, rfl⟩ : ∃ less, steps = less + 1 := ⟨steps - 1, by rw [List.length_cons] at short; omega⟩
    cases path with
    | nil =>
      have alone : (writtenPath [key]).toList = (writtenKey key).toList := by
        rw [writtenPath, joined, List.map_singleton, String.intercalate_singleton]
      rw [alone, readKeyFrom?, skipBlank_writtenKey, readKeyPart?_written key ends.key]
      simp only [Option.bind_eq_bind, Option.bind_some]
      split
      next same => exact absurd (congrArg List.head? same) ends.path
      · rfl
    | cons next more =>
      have later := ih (List.cons_ne_nil _ _) (Nat.le_of_succ_le_succ short) (key :: parts)
      have ended : EndsKey ('.' :: ((writtenPath (next :: more)).toList ++ rest)) := by
        rintro _ ⟨⟩
        rfl
      rw [writtenPath_cons, List.append_assoc, List.cons_append, readKeyFrom?, skipBlank_writtenKey,
        readKeyPart?_written key ended]
      refine later.trans ?_
      rw [List.reverse_cons (a := key), List.append_assoc]
      rfl

/-- A dotted key is read back; it has at most as many parts as a reader takes. -/
theorem readKey?_written {path : List String} {key : String} (short : path.length < 79) {rest : List Char}
    (ends : EndsPath rest) :
    readKey? ((writtenPath (path ++ [key])).toList ++ rest) = some (path, key, skipBlank rest) := by
  have filled : path ++ [key] ≠ [] := List.append_ne_nil_of_right_ne_nil path (List.cons_ne_nil key [])
  have fits : (path ++ [key]).length ≤ 79 := by
    rw [List.length_append]
    exact short
  rw [readKey?, readKeyFrom?_written filled fits [] ends, List.append_nil, List.reverse_append]
  change some (path.reverse.reverse, key, skipBlank rest) = _
  rw [List.reverse_reverse]

end IntentRollout.Toml
