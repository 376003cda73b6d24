import IntentRollout.Proofs.ClauseGrammar
import IntentRollout.Proofs.ListResults
import IntentRollout.Proofs.PathNames
import Mathlib.Data.List.TakeWhile

/-! The grammar of a list of constraints. A text states the clauses between its commas, in its order and each
with the operator it is written with, or it is refused for the first clause that is none. -/

namespace IntentRollout

inductive Cut (separator : Char) : List Char → List (List Char) → Prop where
  | last {piece : List Char} (free : separator ∉ piece) : Cut separator piece [piece]
  | next {piece rest : List Char} {more : List (List Char)} (free : separator ∉ piece)
      (cut : Cut separator rest more) : Cut separator (piece ++ separator :: rest) (piece :: more)

theorem cut_pieces (separator : Char) (text : List Char) : Cut separator text (pieces separator text) := by
  induction text with
  | nil => exact .last List.not_mem_nil
  | cons character text ih =>
    by_cases same : character = separator
    · subst same
      rw [pieces_cons_self]
      exact .next List.not_mem_nil ih
    · obtain ⟨piece, more, cut, extended⟩ := pieces_cons same text
      rw [extended]
      rw [cut] at ih
      cases ih with
      | last free => exact .last (by simp [free, Ne.symm same])
      | next free rest =>
        rw [← List.cons_append]
        exact .next (by simp [free, Ne.symm same]) rest

private theorem pieces_eq {separator : Char} {text : List Char} {parts : List (List Char)} :
    pieces separator text = parts ↔ Cut separator text parts := by
  constructor
  · rintro rfl
    exact cut_pieces separator text
  · intro cut
    induction cut with
    | last free => exact pieces_of_not_mem free
    | next free _ ih => rw [pieces_append, pieces_of_not_mem free, ih, List.singleton_append]

namespace Slo

/-- What a text holds between the white space at its ends. -/
structure Trimmed (text core : List Char) : Prop where
  padded : ∃ before after, Blanks before ∧ Blanks after ∧ text = before ++ (core ++ after)
  starts : ∀ first ∈ core.head?, blank first = false
  ends : ∀ last ∈ core.getLast?, blank last = false

theorem trimmed_trimBlank (text : List Char) : Trimmed text (trimBlank text) := by
  let after := ((text.dropWhile blank).reverse.takeWhile blank).reverse
  have opened : text.dropWhile blank = trimBlank text ++ after := by
    rw [trimBlank, ← List.reverse_append, List.takeWhile_append_dropWhile, List.reverse_reverse]
  refine ⟨⟨text.takeWhile blank, after, blanks_takeWhile text, ?_, ?_⟩, ?_, ?_⟩
  · intro character member
    exact blanks_takeWhile _ character (List.mem_reverse.mp member)
  · rw [← opened, List.takeWhile_append_dropWhile]
  · intro first head
    apply stops_dropWhile text first
    rw [opened]
    exact List.mem_head?_append_of_mem_head? head
  · intro last ends
    rw [trimBlank, List.getLast?_reverse] at ends
    exact stops_dropWhile _ last ends

theorem Trimmed.trimBlank_eq {text core : List Char} (trimmed : Trimmed text core) : trimBlank text = core := by
  obtain ⟨⟨before, after, left, right, rfl⟩, starts, ends⟩ := trimmed
  rw [trimBlank]
  by_cases empty : core = []
  · subst empty
    have all : Blanks (before ++ after) := List.forall_mem_append.mpr ⟨left, right⟩
    rw [List.nil_append, List.dropWhile_eq_nil_iff.mpr all]
    rfl
  · have head : (core ++ after).head? = core.head? := List.head?_append_of_ne_nil core empty
    have opened : (before ++ (core ++ after)).dropWhile blank = core ++ after := by
      apply dropWhile_run left
      rwa [head]
    have closed : (after.reverse ++ core.reverse).dropWhile blank = core.reverse := by
      apply dropWhile_run
      · exact fun character member => right character (List.mem_reverse.mp member)
      · rwa [List.head?_reverse]
    rw [opened, List.reverse_append, closed, List.reverse_reverse]

theorem trimBlank_eq {text core : List Char} : trimBlank text = core ↔ Trimmed text core := by
  constructor
  · rintro rfl
    exact trimmed_trimBlank text
  · exact Trimmed.trimBlank_eq

theorem trimmed_nil {text : List Char} : Trimmed text [] ↔ Blanks text := by
  constructor
  · rintro ⟨⟨before, after, left, right, rfl⟩, _, _⟩
    exact List.forall_mem_append.mpr ⟨left, right⟩
  · exact fun white => ⟨⟨text, [], white, nofun, by simp⟩, nofun, nofun⟩

/-- The pieces of a text that hold more than white space, in its order. -/
inductive Clauses (text : List Char) : List (List Char) → Prop where
  | stated {parts cores : List (List Char)} (cut : Cut ',' text parts)
      (trimmed : List.Forall₂ Trimmed parts cores) : Clauses text (cores.filter (· ≠ []))

inductive Parses (text : List Char) : Except Fault (List Constraint) → Prop where
  | blank (white : Blanks text) : Parses text (.error .blank)
  | noClause (visible : ¬ Blanks text) (empty : Clauses text []) : Parses text (.error .noClause)
  | constraints {clauses : List (List Char)} {constraints : List Constraint} (stated : Clauses text clauses)
      (nonempty : clauses ≠ []) (accepted : List.Forall₂ Accepts clauses constraints) :
      Parses text (.ok constraints)
  | fault {front back : List (List Char)} {bad : List Char} {earlier : List Constraint} {fault : Fault}
      (stated : Clauses text (front ++ bad :: back)) (accepted : List.Forall₂ Accepts front earlier)
      (refused : Refuses bad fault) : Parses text (.error fault)

private theorem forall₂_trimBlank {parts cores : List (List Char)} :
    List.Forall₂ Trimmed parts cores ↔ parts.map trimBlank = cores := by
  have same : Trimmed = fun text core => trimBlank text = core := by
    funext text core
    exact propext trimBlank_eq.symm
  rw [same, ← List.forall₂_map_left_iff (R := Eq), List.forall₂_eq_eq_eq]

theorem clauses_eq {text : List Char} {stated : List (List Char)} :
    clauses text = stated ↔ Clauses text stated := by
  have kept (cores : List (List Char)) :
      (cores.filter fun core => !core.isEmpty) = cores.filter (· ≠ []) := by
    congr 1
    funext core
    cases core <;> rfl
  rw [clauses, kept]
  constructor
  · rintro rfl
    exact .stated (cut_pieces ',' text) (forall₂_trimBlank.mpr rfl)
  · rintro ⟨cut, trimmed⟩
    rw [pieces_eq.mpr cut, forall₂_trimBlank.mp trimmed]

private theorem clauses_of_blanks {text : List Char} (white : Blanks text) : clauses text = [] := by
  have free : ',' ∉ text := fun member => by cases white _ member
  rw [clauses, pieces_of_not_mem free, List.map_singleton, (trimmed_nil.mpr white).trimBlank_eq]
  rfl

theorem clauses_append (first second : List Char) :
    clauses (first ++ ',' :: second) = clauses first ++ clauses second := by
  simp only [clauses, pieces_append, List.map_append, List.filter_append]

private theorem readConstraints_of_blanks {text : String} (white : Blanks text.toList) :
    readConstraints text = .error .blank := by
  rw [readConstraints, (trimmed_nil.mpr white).trimBlank_eq]
  rfl

private theorem not_blank_of_clauses {text : List Char} (some : clauses text ≠ []) : ¬ Blanks text :=
  fun white => some (clauses_of_blanks white)

private theorem not_isEmpty_trimBlank {text : List Char} (visible : ¬ Blanks text) :
    ¬ (trimBlank text).isEmpty = true := by
  intro empty
  exact visible (trimmed_nil.mp (trimBlank_eq.mp (List.isEmpty_iff.mp empty)))

private theorem readConstraints_of_no_clause {text : String} (visible : ¬ Blanks text.toList)
    (none : clauses text.toList = []) : readConstraints text = .error .noClause := by
  rw [readConstraints, if_neg (not_isEmpty_trimBlank visible), none]

theorem readConstraints_of_clauses {text : String} (some : clauses text.toList ≠ []) :
    readConstraints text = (clauses text.toList).mapM readClause := by
  rw [readConstraints, if_neg (not_isEmpty_trimBlank (not_blank_of_clauses some))]
  split
  next none => exact absurd none some
  next => rfl

theorem mapM_readClause {stated : List (List Char)} {constraints : List Constraint} :
    stated.mapM readClause = .ok constraints ↔ List.Forall₂ Accepts stated constraints := by
  simp only [mapM_eq_ok, readClause_eq_ok]

private theorem mapM_readClause_eq_error {stated : List (List Char)} {fault : Fault} :
    stated.mapM readClause = .error fault ↔
      ∃ front bad back earlier, stated = front ++ bad :: back ∧ List.Forall₂ Accepts front earlier ∧
        Refuses bad fault := by
  simp only [mapM_eq_error, readClause_eq_ok, readClause_eq_error]

/-- What the grammar says of a text is what is read. -/
theorem readConstraints_of_parses {text : String} {outcome : Except Fault (List Constraint)}
    (parses : Parses text.toList outcome) : readConstraints text = outcome := by
  cases parses with
  | blank white => exact readConstraints_of_blanks white
  | noClause visible empty => exact readConstraints_of_no_clause visible (clauses_eq.mpr empty)
  | constraints stated nonempty accepted =>
    obtain rfl := clauses_eq.mpr stated
    rw [readConstraints_of_clauses nonempty]
    exact mapM_readClause.mpr accepted
  | fault stated accepted refused =>
    have same := clauses_eq.mpr stated
    rw [readConstraints_of_clauses (by simp [same])]
    exact mapM_readClause_eq_error.mpr ⟨_, _, _, _, same, accepted, refused⟩

private theorem exists_parses (text : List Char) : ∃ outcome, Parses text outcome := by
  by_cases white : Blanks text
  · exact ⟨_, .blank white⟩
  · have stated : Clauses text (clauses text) := clauses_eq.mp rfl
    by_cases none : clauses text = []
    · exact ⟨_, .noClause white (none ▸ stated)⟩
    · cases read : (clauses text).mapM readClause with
      | ok constraints => exact ⟨_, .constraints stated none (mapM_readClause.mp read)⟩
      | error fault =>
        obtain ⟨front, bad, back, earlier, same, accepted, refused⟩ := mapM_readClause_eq_error.mp read
        exact ⟨_, .fault (same ▸ stated) accepted refused⟩

theorem readConstraints_eq {text : String} {outcome : Except Fault (List Constraint)} :
    readConstraints text = outcome ↔ Parses text.toList outcome := by
  constructor
  · rintro rfl
    obtain ⟨outcome, parses⟩ := exists_parses text.toList
    rwa [readConstraints_of_parses parses]
  · exact readConstraints_of_parses

private theorem readConstraints_join {first second : String} {constraints more : List Constraint}
    (left : readConstraints first = .ok constraints) (right : readConstraints second = .ok more) :
    readConstraints (first ++ "," ++ second) = .ok (constraints ++ more) := by
  have cut : (first ++ "," ++ second).toList = first.toList ++ ',' :: second.toList := by simp
  cases readConstraints_eq.mp left with
  | constraints stated nonempty accepted =>
    cases readConstraints_eq.mp right with
    | constraints stated' nonempty' accepted' =>
      obtain rfl := clauses_eq.mpr stated
      obtain rfl := clauses_eq.mpr stated'
      apply readConstraints_of_parses
      rw [cut]
      refine .constraints (clauses_eq.mp (clauses_append _ _)) (by simp [nonempty]) ?_
      exact List.rel_append accepted accepted'

/-- The reader follows the grammar: of every text it says what the grammar says, and two texts that state
constraints state all of them, in order, when they are joined by a comma. -/
theorem grammar_exact :
    (∀ text outcome, readConstraints text = outcome ↔ Parses text.toList outcome) ∧
      ∀ first second constraints more, readConstraints first = .ok constraints →
        readConstraints second = .ok more → readConstraints (first ++ "," ++ second) = .ok (constraints ++ more) :=
  ⟨fun _ _ => readConstraints_eq, fun _ _ _ _ => readConstraints_join⟩

/-- A point needs a digit on one side only, and white space may stand around every token. -/
theorem objectives_joined :
    readConstraints "latency <= 15., ,loss<+.5" =
      .ok [⟨"latency", .le, .ofDecimal false 15 0⟩, ⟨"loss", .lt, .ofDecimal false 5 (-1)⟩] :=
  grammar_exact.2 "latency <= 15., " "loss<+.5" [⟨"latency", .le, .ofDecimal false 15 0⟩]
    [⟨"loss", .lt, .ofDecimal false 5 (-1)⟩] (by decide +kernel) (by decide +kernel)

end Slo

end IntentRollout
