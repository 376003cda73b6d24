import IntentRollout.Proofs.SpelledNumbers

/-! Documents that a text can come to, and their way back. Reading gives values of a bounded depth with sorted
members and ranged numbers, and such a value is read again from its indented form. -/

namespace IntentRollout.Json

mutual

def floats : Json → List Binary64
  | .number (.float value) => [value]
  | .array items => itemFloats items
  | .object members => memberFloats members
  | _ => []

def itemFloats : List Json → List Binary64
  | [] => []
  | item :: rest => item.floats ++ itemFloats rest

def memberFloats : List (String × Json) → List Binary64
  | [] => []
  | (_, value) :: rest => value.floats ++ memberFloats rest

end

theorem mem_itemFloats {items : List Json} {item : Json} (member : item ∈ items) {value : Binary64}
    (inside : value ∈ item.floats) : value ∈ itemFloats items := by
  induction items with
  | nil => cases member
  | cons first rest ih =>
    rw [itemFloats]
    rcases List.mem_cons.mp member with rfl | later
    · exact List.mem_append_left _ inside
    · exact List.mem_append_right _ (ih later)

theorem mem_memberFloats {members : List (String × Json)} {entry : String × Json} (member : entry ∈ members)
    {value : Binary64} (inside : value ∈ entry.2.floats) : value ∈ memberFloats members := by
  induction members with
  | nil => cases member
  | cons first rest ih =>
    rw [memberFloats.eq_def]
    rcases List.mem_cons.mp member with rfl | later
    · exact List.mem_append_left _ inside
    · exact List.mem_append_right _ (ih later)

/-- A document for which some levels suffice, with members in order and numbers that a text can come to. -/
inductive Canonical (kind : Binary64 → Prop) : Nat → Json → Prop where
  | null {levels : Nat} : Canonical kind levels .null
  | bool {levels : Nat} (value : Bool) : Canonical kind levels (.bool value)
  | integer {levels : Nat} {value : Int} (ranged : (Number.integer value).Ranged) :
    Canonical kind levels (.number (.integer value))
  | float {levels : Nat} {value : Binary64} (fits : kind value) : Canonical kind levels (.number (.float value))
  | text {levels : Nat} (value : String) : Canonical kind levels (.text value)
  | array {levels : Nat} {items : List Json} (each : ∀ item ∈ items, Canonical kind levels item) :
    Canonical kind (levels + 1) (.array items)
  | object {levels : Nat} {members : List (String × Json)} (sorted : Entries.Sorted members)
    (each : ∀ member ∈ members, Canonical kind levels member.2) : Canonical kind (levels + 1) (.object members)

private theorem canonical_number {levels : Nat} {value : Number} (ranged : value.Ranged) :
    Canonical (fun value => value.isFinite = true) levels (.number value) := by
  cases value with
  | integer value => exact .integer ranged
  | float value => exact .float ranged

theorem Canonical.mono {kind other : Binary64 → Prop} {levels : Nat} {document : Json}
    (canonical : Canonical kind levels document)
    (weaker : ∀ value ∈ document.floats, kind value → other value) : Canonical other levels document := by
  induction canonical with
  | null => exact .null
  | bool value => exact .bool value
  | integer ranged => exact .integer ranged
  | float fits => exact .float (weaker _ (List.mem_singleton_self _) fits)
  | text value => exact .text value
  | array _ ih =>
    exact .array fun item member => ih item member fun value inside =>
      weaker value (mem_itemFloats member inside)
  | object sorted _ ih =>
    exact .object sorted fun entry member => ih entry member fun value inside =>
      weaker value (mem_memberFloats member inside)

section Reading

variable {α : Type} {property : α → Prop} {read : List Char → Except Failure (α × List Char)}
  (each : ∀ {text value left}, read text = .ok (value, left) → property value)

include each

private theorem readItems_forall {steps : Nat} {items whole : List α} {text left : List Char}
    (so : ∀ item ∈ items, property item) (done : readItems read steps items text = .ok (whole, left)) :
    ∀ item ∈ whole, property item := by
  induction steps generalizing items text with
  | zero => cases done
  | succ steps ih =>
    rw [readItems] at done
    obtain ⟨⟨next, after⟩, _, done⟩ := bind_eq_ok.mp done
    cases next with
    | stop =>
      cases done
      exact fun item member => so item (List.mem_reverse.mp member)
    | part =>
      obtain ⟨⟨item, after⟩, read, done⟩ := bind_eq_ok.mp done
      exact ih (List.forall_mem_cons.mpr ⟨each read, so⟩) done

private theorem readMembers_forall {steps : Nat} {members whole : List (String × α)} {text left : List Char}
    (so : ∀ member ∈ members, property member.2)
    (done : readMembers read steps members text = .ok (whole, left)) : ∀ member ∈ whole, property member.2 := by
  induction steps generalizing members text with
  | zero => cases done
  | succ steps ih =>
    rw [readMembers] at done
    obtain ⟨⟨next, after⟩, _, done⟩ := bind_eq_ok.mp done
    cases next with
    | stop =>
      cases done
      exact fun member listed => so member (List.mem_reverse.mp listed)
    | part =>
      obtain ⟨⟨key, named⟩, _, done⟩ := bind_eq_ok.mp done
      obtain ⟨valued, _, done⟩ := bind_eq_ok.mp done
      obtain ⟨⟨value, after⟩, read, done⟩ := bind_eq_ok.mp done
      have so' : ∀ member ∈ (key, value) :: members, property member.2 :=
        List.forall_mem_cons.mpr ⟨each read, so⟩
      exact ih so' done

end Reading

/-- What is read is canonical. -/
theorem canonical_of_readValue {levels : Nat} {text left : List Char} {document : Json}
    (done : readValue levels text = .ok (document, left)) : Canonical (fun value => value.isFinite = true) levels document := by
  induction levels using Nat.strongRecOn generalizing text left document with
  | ind levels ih =>
    rw [readValue.eq_def] at done
    split at done
    · cases done
    · obtain ⟨_, _, same⟩ := bind_eq_ok.mp done
      cases same
      exact .null
    · obtain ⟨_, _, same⟩ := bind_eq_ok.mp done
      cases same
      exact .bool true
    · obtain ⟨_, _, same⟩ := bind_eq_ok.mp done
      cases same
      exact .bool false
    · obtain ⟨⟨value, after⟩, read, same⟩ := bind_eq_ok.mp done
      cases same
      exact canonical_number (ranged_readNumber read)
    · obtain ⟨⟨value, after⟩, _, same⟩ := bind_eq_ok.mp done
      cases same
      exact .text value
    next list =>
      cases levels with
      | zero => cases done
      | succ levels =>
        obtain ⟨⟨items, after⟩, read, same⟩ := bind_eq_ok.mp done
        cases same
        exact .array (readItems_forall (ih levels (Nat.lt_succ_self levels)) (List.forall_mem_nil _) read)
    next object =>
      cases levels with
      | zero => cases done
      | succ levels =>
        obtain ⟨⟨members, after⟩, read, same⟩ := bind_eq_ok.mp done
        cases same
        have each := readMembers_forall (ih levels (Nat.lt_succ_self levels)) (List.forall_mem_nil _) read
        exact .object (Entries.sorted_ofList members) fun member listed =>
          each member (Entries.mem_of_mem_ofList listed)
    · split at done
      · obtain ⟨⟨value, after⟩, read, same⟩ := bind_eq_ok.mp done
        cases same
        exact canonical_number (ranged_readNumber read)
      · cases done

private theorem canonical_of_read {text : String} {document : Json} (done : read text = .ok document) :
    Canonical (fun value => value.isFinite = true) maximalLevels document := by
  obtain ⟨left, read, -⟩ := readWhole_eq_ok done
  exact canonical_of_readValue read

def Legible (value : Binary64) : Prop := read value.exchangeText = .ok (.number (.float value))

theorem legible_of_float? {value : Binary64} (float : (read value.exchangeText).toOption.bind float? = some value)
    (whole : (read value.exchangeText).toOption.bind integer? = none) : Legible value := by
  obtain ⟨document, read, float⟩ := Option.bind_eq_some_iff.mp float
  rw [read, Option.bind_some] at whole
  rw [Legible, toOption_eq_some.mp read]
  cases document with
  | number number =>
    cases number with
    | integer => cases whole
    | float =>
      cases float
      rfl
  | _ => cases float

private theorem readBy_leaf {levels : Nat} {document : Json} {first : Char} {more : List Char} (opens : Opens first)
    (written : ∀ level, document.prettyChars level = first :: more)
    (read : ∀ blanks rest, Blanks blanks → readValue levels (blanks ++ first :: (more ++ rest)) = .ok (document, rest)) :
    ReadBy (readValue levels) document where
  opens level := ⟨first, more, written level, opens⟩
  reads level blanks rest skipped _ := by
    rw [written, List.cons_append]
    exact read blanks rest skipped

theorem Canonical.readBy {levels : Nat} {document : Json} (canonical : Canonical Legible levels document) :
    ReadBy (readValue levels) document := by
  induction canonical with
  | null =>
    refine readBy_leaf (by decide : Opens 'n') (fun _ => rfl) fun blanks rest skipped => ?_
    rw [readValue.eq_def, skipBlank_blanks skipped (by decide)]
    rfl
  | bool value =>
    cases value with
    | true =>
      refine readBy_leaf (by decide : Opens 't') (fun _ => rfl) fun blanks rest skipped => ?_
      rw [readValue.eq_def, skipBlank_blanks skipped (by decide)]
      rfl
    | false =>
      refine readBy_leaf (by decide : Opens 'f') (fun _ => rfl) fun blanks rest skipped => ?_
      rw [readValue.eq_def, skipBlank_blanks skipped (by decide)]
      rfl
  | integer ranged => exact (spelled_integer ranged).readBy _
  | float fits => exact (spelled_float fits).readBy _
  | text value =>
    have written (level : Nat) : prettyChars level (.text value) =
        '"' :: (value.toList.flatMap escaped ++ ['"']) := rfl
    refine readBy_leaf (by decide) written fun blanks rest skipped => ?_
    have taken := readText_written value rest
    rw [← List.singleton_append, ← List.append_assoc] at taken
    rw [readValue.eq_def, skipBlank_blanks skipped (by decide)]
    simp only [taken, bind, Except.bind]
  | @array levels items each ih =>
    refine ⟨fun level => ⟨'[', _, prettyChars_array level items, by decide⟩, fun level blanks rest skipped _ => ?_⟩
    have closes (some : items ≠ []) := closes_closing level some (']' :: rest)
    have enough := length_lt_itemsFrom true (level + 1) items (closing level items.isEmpty ++ ']' :: rest)
    have listed := readItems_written (level + 1) (blanks_closing level items.isEmpty)
      (List.forall₂_same.mpr ih) closes [] enough
    rw [List.isEmpty_nil] at listed
    rw [readValue.eq_def, skipBlank_array skipped]
    simp only [listed, bind, Except.bind]
    rfl
  | @object levels members sorted each ih =>
    refine ⟨fun level => ⟨'\x7b', _, prettyChars_object level members, by decide⟩,
      fun level blanks rest skipped _ => ?_⟩
    have closes (some : members ≠ []) := closes_closing level some ('\x7d' :: rest)
    have enough := length_lt_membersFrom true (level + 1) members (closing level members.isEmpty ++ '\x7d' :: rest)
    have listed := readMembers_written (level + 1) (blanks_closing level members.isEmpty)
      (List.forall₂_same.mpr fun member listed => ⟨rfl, ih member listed⟩) closes [] enough
    rw [List.isEmpty_nil] at listed
    rw [readValue.eq_def, skipBlank_object skipped]
    simp only [listed, bind, Except.bind, List.reverse_nil, List.nil_append, ofMembers,
      Table.entries_ofList_of_sorted sorted]

/-- What a text comes to is read again from its indented form, if that holds of the numbers in it that are no
integers. -/
theorem read_pretty_of_read {text : String} {document : Json} (done : read text = .ok document)
    (legible : ∀ value ∈ document.floats, value.isFinite = true → Legible value) :
    read document.pretty = .ok document := by
  have whole := ((canonical_of_read done).mono legible).readBy.reads 0 [] [] .nil nofun
  rw [List.nil_append, List.append_nil] at whole
  rw [read, readChars, pretty, String.toList_ofList, readWhole, whole]
  rfl

end IntentRollout.Json
