import IntentRollout.Proofs.ConstraintGrammar
import IntentRollout.Proofs.WrittenFloats
import IntentRollout.Slo.Gate

/-! Printed constraints. A finite threshold is printed without an exponent and so within the grammar of numbers, and
the number that is read is the threshold again; a list of printed constraints is a text that states them. -/

namespace IntentRollout.Slo

theorem decimalValue_eq : decimalValue = Toml.decimalValue := rfl

/-- Positional text is digits with at most one point, and they denote the decimal. -/
theorem unsigned_positional {decimal : IntentRollout.Decimal} (positive : 0 < decimal.coefficient) :
    ∃ whole fraction, Unsigned decimal.positional.toList whole fraction ∧
      (decimalValue (whole ++ fraction) : ℚ) * 10 ^ (-fraction.length : Int) = decimal.value := by
  rcases lt_or_ge decimal.power 0 with small | large
  · obtain ⟨whole, places, denotes⟩ := Toml.denotes_positional positive
    rw [if_neg (Int.not_le.mpr small), String.toList_empty, List.append_nil] at denotes
    refine ⟨whole, places, ?_, denotes.value⟩
    rw [denotes.text]
    exact .pointed denotes.leading.filled denotes.leading.digits denotes.digits
  · obtain ⟨count, power⟩ := Int.eq_ofNat_of_zero_le large
    have digits := (Toml.digits_toDigits decimal.coefficient).append (Toml.digits_zeros count)
    refine ⟨Nat.toDigits 10 decimal.coefficient ++ List.replicate count '0', [], ?_, ?_⟩
    · rw [Decimal.positional, if_pos large, String.toList_ofList, power]
      exact .whole (List.append_ne_nil_of_left_ne_nil Nat.toDigits_ne_nil _) digits
    · rw [List.append_nil, decimalValue_eq, Toml.decimalValue_append, Toml.decimalValue_toDigits,
        Toml.decimalValue_zeros, List.length_replicate, Decimal.value, power]
      simp

private theorem decimal_sign (negative : Bool) {text whole fraction : List Char}
    (number : Unsigned text whole fraction) :
    Decimal (Toml.sign negative ++ text) ⟨negative, whole, fraction⟩ := by
  cases negative with
  | true => exact .minus number
  | false => exact .bare number

/-- A finite number is printed as a number of the grammar, which is read as the same number. -/
theorem decimal_plainText {value : Binary64} (finite : value.isFinite = true) :
    ∃ numeral, Decimal value.plainText.toList numeral ∧ numeral.value = value := by
  have number : value.isNaN = false := decide_eq_false (Nat.lt_asymm (of_decide_eq_true finite))
  by_cases zero : value.isZero = true
  · have text : value.plainText.toList = Toml.sign value.negative ++ ['0'] := by
      rw [Binary64.plainText, number, finite, zero, Toml.sign]
      cases value.negative <;> simp
    have same := Binary64.ofMagnitude_magnitude value
    rw [of_decide_eq_true zero] at same
    refine ⟨⟨value.negative, ['0'], []⟩, ?_, same⟩
    rw [text]
    exact decimal_sign _ (.whole (List.cons_ne_nil _ _) (List.forall_mem_singleton.mpr rfl))
  · have regular : Binary64.Regular value := ⟨finite, Bool.eq_false_iff.mpr zero⟩
    have rounds := Binary64.rounds_shortest .up regular
    obtain ⟨whole, fraction, unsigned, denoted⟩ := unsigned_positional (Binary64.leading_bounds regular rounds).1
    have text : value.plainText.toList = Toml.sign value.negative ++ (value.shortest .up).positional.toList := by
      rw [Binary64.plainText, number, finite, regular.nonzero, Toml.sign]
      cases value.negative <;> simp
    rw [← denoted] at rounds
    refine ⟨⟨value.negative, whole, fraction⟩, ?_, Binary64.ofDecimal_of_rounds regular rounds⟩
    rw [text]
    exact decimal_sign _ unsigned

/-- A printed constraint is a clause that states it. -/
theorem Accepts.written {clause : List Char} {constraint : Constraint} (accepts : Accepts clause constraint) :
    Accepts constraint.written.toList constraint := by
  obtain @⟨metric, _, operator, _, shape, finite⟩ := accepts
  obtain ⟨identifier, _, _, _⟩ := shape
  obtain ⟨printed, decimal, same⟩ := decimal_plainText finite
  have none : Blanks [] := nofun
  have shaped : Shaped _ metric operator _ printed := .spelled identifier none none decimal
  have stated := Accepts.stated shaped (by rwa [same])
  rw [same] at stated
  simpa [Constraint.written] using stated

def Visible (characters : List Char) : Prop := ∀ character ∈ characters, blank character = false ∧ character ≠ ','

theorem Visible.append {first rest : List Char} (one : Visible first) (other : Visible rest) :
    Visible (first ++ rest) :=
  List.forall_mem_append.mpr ⟨one, other⟩

private theorem visible_of_continues {character : Char} (continues : character.isAlphanum = true ∨ character = '_') :
    blank character = false ∧ character ≠ ',' := by
  refine ⟨not_blank_of_continues continues, ?_⟩
  rintro rfl
  rcases continues with letter | mark
  · cases letter
  · cases mark

theorem Digits.visible {digits : List Char} (all : Digits digits) : Visible digits :=
  fun digit member => visible_of_continues (.inl (by simp [Char.isAlphanum, all digit member]))

theorem Identifier.visible {metric : List Char} (identifier : Identifier metric) : Visible metric := by
  obtain ⟨starts, continues⟩ := identifier
  refine List.forall_mem_cons.mpr ⟨visible_of_continues ?_, fun character member =>
    visible_of_continues (continues character member)⟩
  exact starts.imp_left fun letter => by simp [Char.isAlphanum, letter]

private theorem visible_symbol (operator : Operator) : Visible operator.symbol.toList := by
  cases operator <;> simp [Visible, Operator.symbol, blank]

theorem Unsigned.visible {text whole fraction : List Char} (number : Unsigned text whole fraction) : Visible text := by
  have point : Visible ['.'] := List.forall_mem_singleton.mpr ⟨rfl, by decide⟩
  cases number with
  | whole _ digits => exact digits.visible
  | pointed _ digits more => exact digits.visible.append (point.append more.visible)
  | fraction _ digits => exact point.append digits.visible

theorem Decimal.visible {text : List Char} {numeral : Numeral} (decimal : Decimal text numeral) : Visible text := by
  cases decimal with
  | bare number => exact number.visible
  | plus number => exact List.forall_mem_cons.mpr ⟨⟨rfl, by decide⟩, number.visible⟩
  | minus number => exact List.forall_mem_cons.mpr ⟨⟨rfl, by decide⟩, number.visible⟩

theorem Accepts.visible {clause : List Char} {constraint : Constraint} (accepts : Accepts clause constraint) :
    Visible constraint.written.toList := by
  obtain ⟨⟨identifier, _, _, _⟩, finite⟩ := accepts
  obtain ⟨_, decimal, _⟩ := decimal_plainText finite
  simp only [Constraint.written, String.toList_append, String.toList_ofList]
  exact (identifier.visible.append (visible_symbol _)).append decimal.visible

private theorem Blanks.commaless {white : List Char} (blanks : Blanks white) : ',' ∉ white :=
  fun member => by cases blanks _ member

private theorem trimBlank_padded {before after : List Char} (left : Blanks before) (right : Blanks after)
    (text : List Char) :
    trimBlank (before ++ (text ++ after)) = trimBlank text := by
  obtain ⟨⟨front, back, opened, closed, same⟩, starts, ends⟩ := trimmed_trimBlank text
  refine trimBlank_eq.mpr ⟨⟨before ++ front, back ++ after, ?_, ?_, ?_⟩, starts, ends⟩
  · exact List.forall_mem_append.mpr ⟨left, opened⟩
  · exact List.forall_mem_append.mpr ⟨closed, right⟩
  · conv_lhs => rw [same]
    simp only [List.append_assoc]

private theorem clauses_of_commaless {text : List Char} (free : ',' ∉ text) :
    clauses text = [trimBlank text].filter fun clause => !clause.isEmpty := by
  rw [clauses, pieces_of_not_mem free, List.map_singleton]

/-- White space at the ends of a text belongs to its first and its last piece, where it is dropped. -/
theorem clauses_before {before : List Char} (left : Blanks before) (text : List Char) :
    clauses (before ++ text) = clauses text := by
  have piece {front : List Char} (free : ',' ∉ front) : clauses (before ++ front) = clauses front := by
    have trimmed := trimBlank_padded left (nofun : Blanks []) front
    rw [List.append_nil] at trimmed
    rw [clauses_of_commaless (by simp [left.commaless, free]), clauses_of_commaless free, trimmed]
  obtain ⟨parts, cut⟩ : ∃ parts, Cut ',' text parts := ⟨_, cut_pieces ',' text⟩
  cases cut with
  | last free => exact piece free
  | next free rest => rw [← List.append_assoc, clauses_append, clauses_append, piece free]

private theorem clauses_after {after : List Char} (right : Blanks after) (text : List Char) :
    clauses (text ++ after) = clauses text := by
  obtain ⟨parts, cut⟩ : ∃ parts, Cut ',' text parts := ⟨_, cut_pieces ',' text⟩
  induction cut with
  | last free =>
    have trimmed := trimBlank_padded (nofun : Blanks []) right
    rw [clauses_of_commaless (by simp [right.commaless, free]), clauses_of_commaless free]
    exact congrArg (fun core => [core].filter _) (trimmed _)
  | next free _ ih => rw [List.append_assoc, List.cons_append, clauses_append, clauses_append, ih]

private theorem readConstraints_trimmed (text : String) : readConstraints (trimmed text) = readConstraints text := by
  obtain ⟨⟨before, after, left, right, same⟩, _, _⟩ := trimmed_trimBlank text.toList
  have inner : clauses (trimBlank text.toList) = clauses text.toList := by
    conv_rhs => rw [same]
    rw [clauses_before left, clauses_after right]
  have again : trimBlank (trimBlank text.toList) = trimBlank text.toList := by
    have padded := trimBlank_padded left right (trimBlank text.toList)
    rw [← same] at padded
    exact padded.symm
  rw [readConstraints, readConstraints, trimmed, String.toList_ofList, inner, again]

/-- A constraint as it is printed, with white space around it. -/
inductive Printed (constraint : Constraint) : String → Prop where
  | padded {before after : String} (left : Blanks before.toList) (right : Blanks after.toList) :
      Printed constraint (before ++ constraint.written ++ after)

theorem Printed.clauses_eq {clause : List Char} {constraint : Constraint} {printed : String}
    (padded : Printed constraint printed) (accepts : Accepts clause constraint) :
    clauses printed.toList = [constraint.written.toList] := by
  obtain ⟨left, right⟩ := padded
  have visible := accepts.visible
  have whole : trimBlank constraint.written.toList = constraint.written.toList := by
    refine trimBlank_eq.mpr ⟨⟨[], [], nofun, nofun, by simp⟩, ?_, ?_⟩
    · exact fun first head => (visible first (List.mem_of_mem_head? head)).1
    · exact fun last ends => (visible last (List.mem_of_getLast? ends)).1
  have filled : constraint.written.toList ≠ [] := by
    intro empty
    obtain ⟨⟨⟨_, _⟩, _, _, _⟩, _⟩ := accepts
    simp [Constraint.written] at empty
  rw [String.toList_append, String.toList_append, clauses_after right, clauses_before left,
    clauses_of_commaless (fun member => (visible _ member).2 rfl), whole]
  simpa using filled

private theorem clauses_joined {stated : List (List Char)} {constraints : List Constraint} {printed : List String}
    (accepts : List.Forall₂ Accepts stated constraints) (padded : List.Forall₂ Printed constraints printed) :
    clauses (joined "," printed).toList = constraints.map (·.written.toList) := by
  induction accepts generalizing printed with
  | nil =>
    cases padded
    rfl
  | cons here accepts ih =>
    obtain _ | ⟨first, padded⟩ := padded
    have head := first.clauses_eq here
    have tail := ih padded
    cases padded with
    | nil =>
      cases accepts
      rw [joined, String.intercalate_singleton, head]
      rfl
    | cons second padded =>
      have cut (text more : String) (rest : List String) : (joined "," (text :: more :: rest)).toList =
          text.toList ++ ',' :: (joined "," (more :: rest)).toList := by
        simp [joined, String.intercalate_cons_cons]
      rw [cut, clauses_append, head, tail]
      rfl

/-- Accepted constraints that are printed and joined are read as the same constraints. -/
theorem readConstraints_printed {text : String} {constraints : List Constraint} {printed : List String}
    (read : readConstraints text = .ok constraints) (padded : List.Forall₂ Printed constraints printed) :
    readConstraints (joined "," printed) = .ok constraints := by
  cases readConstraints_eq.mp read with
  | constraints stated nonempty accepted =>
    have clauses := clauses_joined accepted padded
    have some : constraints ≠ [] := by
      rintro rfl
      cases accepted
      exact nonempty rfl
    rw [readConstraints_of_clauses (by simpa [clauses] using some), clauses]
    apply mapM_readClause.mpr
    rw [List.forall₂_map_left_iff]
    clear stated nonempty clauses some padded read
    induction accepted with
    | nil => exact .nil
    | cons here _ ih => exact .cons here.written ih

/-- What was read can be printed and read again, clause by clause or as the text that a gate keeps. -/
theorem printed_constraints_restated :
    (∀ text constraints printed, readConstraints text = .ok constraints → List.Forall₂ Printed constraints printed →
      readConstraints (joined "," printed) = .ok constraints) ∧
      ∀ text gate, Gate.read text = .ok gate → readConstraints gate.text = .ok gate.constraints := by
  refine ⟨fun _ _ _ => readConstraints_printed, ?_⟩
  intro text gate read
  obtain ⟨constraints, stated, same⟩ := bind_eq_ok.mp read
  cases same
  rw [readConstraints_trimmed, stated]

/-- Of a threshold that is small, negative and without a whole part, and of one far beyond the integers that are
exact, all places are printed. -/
theorem extremes_restated :
    readConstraints " loss<-0.000000125\t,depth==100000000000000000000000" =
        .ok [⟨"loss", .lt, .ofDecimal true 125 (-9)⟩, ⟨"depth", .eq, .ofDecimal false 1 23⟩] ∧
      readConstraints "loss < -.000000125, , depth == 100000000000000000000000." =
        .ok [⟨"loss", .lt, .ofDecimal true 125 (-9)⟩, ⟨"depth", .eq, .ofDecimal false 1 23⟩] := by
  have read : readConstraints "\tloss < -.000000125, , depth == 100000000000000000000000. " =
      .ok [⟨"loss", .lt, .ofDecimal true 125 (-9)⟩, ⟨"depth", .eq, .ofDecimal false 1 23⟩] := by decide +kernel
  have small : Printed ⟨"loss", .lt, .ofDecimal true 125 (-9)⟩ " loss<-0.000000125\t" := by
    have same : " " ++ Constraint.written ⟨"loss", .lt, .ofDecimal true 125 (-9)⟩ ++ "\t" =
      " loss<-0.000000125\t" := by decide +kernel
    rw [← same]
    exact .padded (by simp [Blanks, blank]) (by simp [Blanks, blank])
  have large : Printed ⟨"depth", .eq, .ofDecimal false 1 23⟩ "depth==100000000000000000000000" := by
    have same : "" ++ Constraint.written ⟨"depth", .eq, .ofDecimal false 1 23⟩ ++ "" =
      "depth==100000000000000000000000" := by decide +kernel
    rw [← same]
    exact .padded (by simp [Blanks]) (by simp [Blanks])
  have line : joined "," [" loss<-0.000000125\t", "depth==100000000000000000000000"] =
      " loss<-0.000000125\t,depth==100000000000000000000000" := by decide +kernel
  have kept : Gate.read "\tloss < -.000000125, , depth == 100000000000000000000000. " =
      .ok ⟨"loss < -.000000125, , depth == 100000000000000000000000.",
        [⟨"loss", .lt, .ofDecimal true 125 (-9)⟩, ⟨"depth", .eq, .ofDecimal false 1 23⟩]⟩ := by
    decide +kernel
  have printed := printed_constraints_restated.1 _ _ _ read (.cons small (.cons large .nil))
  rw [line] at printed
  have trimmed := printed_constraints_restated.2 _ _ kept
  dsimp only at trimmed
  exact ⟨printed, trimmed⟩

end IntentRollout.Slo
