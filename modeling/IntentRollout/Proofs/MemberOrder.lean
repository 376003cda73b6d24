import IntentRollout.Bundle.Compilation
import IntentRollout.Proofs.Phrases

/-! The order of members. Two texts of one document, with the members of its objects in whatever order and with
whatever is skipped between tokens, are read alike, and so nothing that comes of an intent tells them apart. Only of
a document that cannot be read is the first fault told by its place in the text. -/

namespace IntentRollout

namespace Json

mutual

/-- Two phrases of one document: their objects may have their members in another order, if no two have one key, and
their texts may be escaped in another way. -/
inductive Reordered : Phrase → Phrase → Prop where
  | same (phrase : Phrase) : Reordered phrase phrase
  | text {parts parts' : List TextPart} (decoded : decoded? parts = decoded? parts') :
    Reordered (.text parts) (.text parts')
  | list {items items' : List Phrase} (each : ItemsReordered items items') : Reordered (.list items) (.list items')
  | object {members members' : List (List TextPart × Phrase)}
    (distinct : (members.filterMap fun member => decoded? member.1).Nodup)
    (moved : MembersReordered members members') : Reordered (.object members) (.object members')

inductive ItemsReordered : List Phrase → List Phrase → Prop where
  | nil : ItemsReordered [] []
  | cons {item item' : Phrase} {items items' : List Phrase} (here : Reordered item item')
    (others : ItemsReordered items items') : ItemsReordered (item :: items) (item' :: items')

inductive MembersReordered : List (List TextPart × Phrase) → List (List TextPart × Phrase) → Prop where
  | nil : MembersReordered [] []
  | cons {key key' : List TextPart} {value value' : Phrase} {members before after : List (List TextPart × Phrase)}
    (named : decoded? key = decoded? key') (here : Reordered value value')
    (others : MembersReordered members (before ++ after)) :
    MembersReordered ((key, value) :: members) (before ++ (key', value') :: after)

end

private theorem membersDenoted?_append (levels : Nat) (before after : List (List TextPart × Phrase)) :
    membersDenoted? levels (before ++ after) = (membersDenoted? levels before).bind fun first =>
      (membersDenoted? levels after).map (first ++ ·) := by
  induction before with
  | nil => simp [membersDenoted?]
  | cons member before ih =>
    obtain ⟨key, value⟩ := member
    rw [List.cons_append, membersDenoted?, membersDenoted?, ih]
    cases textOf? key with
    | none => rfl
    | some key =>
      cases value.denoted? levels with
      | none => rfl
      | some value =>
        cases membersDenoted? levels before with
        | none => rfl
        | some first => cases membersDenoted? levels after <;> rfl

/-- Members that were moved are denoted in another order, or neither list denotes anything. -/
abbrev Permuted (one other : Option (List (String × Json))) : Prop := Option.Rel List.Perm one other

theorem Permuted.cons {key : Option String} {value : Option Json} {one : Option (List (String × Json))}
    {before after : Option (List (String × Json))}
    (others : Permuted one (before.bind fun first => after.map (first ++ ·))) :
    Permuted (key.bind fun key => value.bind fun value => one.map ((key, value) :: ·))
      (before.bind fun first => (key.bind fun key => value.bind fun value => after.map ((key, value) :: ·)).map
        (first ++ ·)) := by
  cases key with
  | none => cases before <;> exact .none
  | some key =>
    cases value with
    | none => cases before <;> exact .none
    | some value =>
      cases before with
      | none =>
        cases others
        exact .none
      | some before =>
        cases after with
        | none =>
          cases others
          exact .none
        | some after =>
          cases others with
          | some perm => exact .some ((perm.cons (key, value)).trans List.perm_middle.symm)

private theorem ofList_of_perm {one other : List (String × Json)} (distinct : (one.map (·.1)).Nodup)
    (perm : one.Perm other) :
    Entries.ofList one = Entries.ofList other := by
  rw [← Entries.entries_ofList, ← Entries.entries_ofList]
  congr 1
  apply Table.ext_get?
  intro key
  ext value
  have still : (other.map (·.1)).Nodup := (perm.map _).nodup_iff.mp distinct
  rw [Table.get?_ofList_eq_some distinct, Table.get?_ofList_eq_some still, perm.mem_iff]

/-- The members that are denoted have the keys that were decoded. -/
theorem keys_membersDenoted? {levels : Nat} {members : List (List TextPart × Phrase)} {values : List (String × Json)}
    (denoted : membersDenoted? levels members = some values) :
    values.map (·.1) = (members.filterMap fun member => decoded? member.1).map String.ofList := by
  induction members generalizing values with
  | nil =>
    cases denoted
    rfl
  | cons member members ih =>
    obtain ⟨name, phrase⟩ := member
    rw [membersDenoted?] at denoted
    obtain ⟨key, named, denoted⟩ := Option.bind_eq_some_iff.mp denoted
    obtain ⟨value, _, denoted⟩ := Option.bind_eq_some_iff.mp denoted
    obtain ⟨others, later, rfl⟩ := Option.map_eq_some_iff.mp denoted
    obtain ⟨characters, decoded, rfl⟩ := Option.map_eq_some_iff.mp named
    rw [List.map_cons, ih later, List.filterMap_cons, decoded, List.map_cons]

mutual

private theorem Reordered.denoted?_eq {one other : Phrase} (reordered : Reordered one other) (levels : Nat) :
    one.denoted? levels = other.denoted? levels := by
  cases reordered with
  | same => rfl
  | text decoded => rw [Phrase.denoted?, Phrase.denoted?, textOf?, textOf?, decoded]
  | list each =>
    cases levels with
    | zero => rfl
    | succ levels => rw [Phrase.denoted?, Phrase.denoted?, ItemsReordered.denoted?_eq each levels]
  | @object members members' distinct moved =>
    cases levels with
    | zero => rfl
    | succ levels =>
      have permuted := MembersReordered.permuted moved levels
      rw [Phrase.denoted?, Phrase.denoted?]
      cases denoted : membersDenoted? levels members with
      | none =>
        rw [denoted] at permuted
        generalize membersDenoted? levels members' = values' at permuted
        cases permuted
        rfl
      | some values =>
        have keys := keys_membersDenoted? denoted
        rw [denoted] at permuted
        generalize membersDenoted? levels members' = values' at permuted
        cases permuted with
        | some perm =>
          have injective : Function.Injective String.ofList := fun _ _ same => String.ofList_injective same
          rw [Option.map_some, Option.map_some, ofMembers, ofMembers,
            ofList_of_perm (keys ▸ distinct.map injective) perm]

private theorem ItemsReordered.denoted?_eq {one other : List Phrase} (reordered : ItemsReordered one other)
    (levels : Nat) :
    itemsDenoted? levels one = itemsDenoted? levels other := by
  cases reordered with
  | nil => rfl
  | cons here others =>
    rw [itemsDenoted?, itemsDenoted?, Reordered.denoted?_eq here, ItemsReordered.denoted?_eq others]

theorem MembersReordered.permuted {one other : List (List TextPart × Phrase)} (reordered : MembersReordered one other)
    (levels : Nat) : Permuted (membersDenoted? levels one) (membersDenoted? levels other) := by
  cases reordered with
  | nil => exact .some .nil
  | @cons key key' value value' members before after named here others =>
    have later := MembersReordered.permuted others levels
    have same := Reordered.denoted?_eq here levels
    rw [membersDenoted?_append] at later ⊢
    rw [membersDenoted?, membersDenoted?, textOf?, textOf?, named, same]
    exact later.cons

end

end Json

/-- Compiles the text of an intent for the sites that some targets stand for, or without any for those that it names. -/
def Config.compileText (config : Config) (instant : Instant) (requested : List String) (text : String) :
    Except CompileError Compilation := do
  config.compileRequested instant (← (Intent.read text).mapError .malformed) requested

open Json (Phrase Reordered)

structure Alike (config : Config) (instant : Instant) (requested : List String) (phrase : Phrase)
    (text text' : String) : Prop where
  read : ∀ document, phrase.denoted? Json.maximalLevels = some document →
    Intent.read text = Intent.ofJson document ∧ Intent.read text' = Intent.ofJson document
  compiled : phrase.denoted? Json.maximalLevels ≠ none →
    config.compileText instant requested text = config.compileText instant requested text'
  /-- A document that cannot be read is refused as no document, whatever its first fault is. -/
  refused : phrase.denoted? Json.maximalLevels = none →
    ∃ fault fault', Intent.read text = .error (.notJson fault) ∧ Intent.read text' = .error (.notJson fault')

namespace Intent

private theorem read_of_toOption {text : String} {document : Json}
    (parsed : (Json.read text).toOption = some document) :
    read text = ofJson document := by
  rw [read, toOption_eq_some.mp parsed]
  rfl

private theorem read_of_refused {text : String} (refused : (Json.read text).toOption = none) :
    ∃ fault, read text = .error (.notJson fault) := by
  rw [read]
  cases parsed : Json.read text with
  | error fault => exact ⟨fault, rfl⟩
  | ok document =>
    rw [parsed] at refused
    cases refused

end Intent

/-- The order of members does not matter, and neither does what is skipped between tokens. -/
theorem Config.member_order (config : Config) (instant : Instant) (requested : List String) {one other : Phrase}
    (reordered : Reordered one other) {text text' : String} (spelled : one.SpelledBy text)
    (spelled' : other.SpelledBy text') : Alike config instant requested one text text' := by
  have parsed := spelled.toOption_read
  have parsed' := spelled'.toOption_read
  rw [← reordered.denoted?_eq] at parsed'
  refine ⟨fun document denoted => ?_, fun denotes => ?_, fun nothing => ?_⟩
  · rw [denoted] at parsed parsed'
    exact ⟨Intent.read_of_toOption parsed, Intent.read_of_toOption parsed'⟩
  · obtain ⟨document, denoted⟩ := Option.ne_none_iff_exists'.mp denotes
    rw [denoted] at parsed parsed'
    rw [Config.compileText, Config.compileText, Intent.read_of_toOption parsed, Intent.read_of_toOption parsed']
  · rw [nothing] at parsed parsed'
    obtain ⟨fault, refused⟩ := Intent.read_of_refused parsed
    obtain ⟨fault', refused'⟩ := Intent.read_of_refused parsed'
    exact ⟨fault, fault', refused, refused'⟩

namespace Json

def plainParts (characters : List Char) : List TextPart :=
  characters.filterMap fun character =>
    if visible : 32 ≤ character.toNat ∧ character ≠ '"' ∧ character ≠ '\\' then some (.plain character visible) else none

def idParts : List TextPart := plainParts ['i', 'n', 't', 'e', 'n', 't', 'I', 'd']

def aParts : List TextPart := plainParts ['a']

private theorem digits_of_all {first : Char} {more : List Char} (all : (first :: more).all isDigit = true) :
    Digits (first :: more) := ⟨List.cons_ne_nil _ _, List.all_eq_true.mp all⟩

def dozen : NumberToken :=
  ⟨['1', '2'], (.positive (.digits (by decide) (digits_of_all rfl)) .none .none : NumberText (['1', '2'] ++ ([] ++ [])))⟩

def hugeNumber : NumberToken :=
  ⟨['1', 'e', '9', '9', '9'],
    (.positive (.digits (by decide) (digits_of_all rfl)) .none (.some (by decide) (by decide) (digits_of_all rfl)) :
      NumberText (['1'] ++ ([] ++ ('e' :: ([] ++ ['9', '9', '9'])))))⟩

def halfPair : List TextPart := [.unit ⟨13, false⟩ ⟨8, false⟩ ⟨0, false⟩ ⟨0, false⟩]

/-- Two members in one order and in the other. -/
theorem reordered_pair {key key' : List TextPart} (value value' : Phrase)
    (distinct : ([(key, value), (key', value')].filterMap fun member => decoded? member.1).Nodup) :
    Reordered (.object [(key, value), (key', value')]) (.object [(key', value'), (key, value)]) := by
  refine .object distinct ?_
  have last : MembersReordered [(key', value')] ([] ++ (key', value') :: []) := .cons rfl (.same _) .nil
  exact (.cons rfl (.same _) last : MembersReordered [(key, value), (key', value')] ([(key', value')] ++ [(key, value)]))

end Json

def twoNotes : Phrase := .list [.number Json.dozen, .null]

def oneNote : Phrase := .object [(Json.idParts, .text (Json.plainParts ['i', '1'])), (Json.aParts, twoNotes)]

def otherNote : Phrase := .object [(Json.aParts, twoNotes), (Json.idParts, .text (Json.plainParts ['i', '1']))]

def oneText : String := "\x7b\"intentId\":\"i1\",\"a\":[12,null]\x7d"

def otherText : String := " \x7b\"a\" : [ 12,null]\n,\"intentId\":\"i1\"\x7d\n"

private theorem oneNote_spelled : oneNote.SpelledBy oneText := by
  have notes := Json.Spells.list (.part .nil .nil (.number Json.dozen) (.part .nil .nil .null (.stop .nil)))
  have whole : Json.Spells oneNote _ := .object (.part .nil .nil .nil .nil (.text _)
    (.part .nil .nil .nil .nil notes (.stop .nil)))
  exact ⟨[], _, [], .nil, whole, .nil, by decide +kernel⟩

private theorem otherNote_spelled : otherNote.SpelledBy otherText := by
  have blank := Json.blanks_space
  have line : Json.Blanks ['\n'] := Json.blanks_lineStart 0
  have notes := Json.Spells.list (.part .nil blank (.number Json.dozen) (.part .nil .nil .null (.stop .nil)))
  have whole : Json.Spells otherNote _ := .object (.part .nil .nil blank blank notes
    (.part line .nil .nil .nil (.text _) (.stop .nil)))
  exact ⟨[' '], _, ['\n'], blank, whole, line, by decide +kernel⟩

theorem member_order_of_notes : Reordered oneNote otherNote ∧ oneNote.SpelledBy oneText ∧
    otherNote.SpelledBy otherText ∧ Alike {} ⟨0, 0⟩ ["edge1"] oneNote oneText otherText ∧
    (Config.compileText {} ⟨0, 0⟩ ["edge1"] oneText).toOption.isSome = true := by
  have reordered : Reordered oneNote otherNote := Json.reordered_pair _ _ (by decide +kernel)
  exact ⟨reordered, oneNote_spelled, otherNote_spelled,
    Config.member_order {} ⟨0, 0⟩ ["edge1"] reordered oneNote_spelled otherNote_spelled, by decide +kernel⟩

def twoFaults : Phrase := .object [(Json.idParts, .text Json.halfPair), (Json.aParts, .number Json.hugeNumber)]

def faultsMoved : Phrase := .object [(Json.aParts, .number Json.hugeNumber), (Json.idParts, .text Json.halfPair)]

def faultsText : String := "\x7b\"intentId\":\"\\ud800\",\"a\":1e999\x7d"

def movedText : String := "\x7b\"a\":1e999,\"intentId\":\"\\ud800\"\x7d"

/-- Of two faults the one that comes first is told, so their order matters. -/
theorem member_order_of_faults : ∃ fault fault', Reordered twoFaults faultsMoved ∧ twoFaults.SpelledBy faultsText ∧
    faultsMoved.SpelledBy movedText ∧ Intent.read faultsText = .error (.notJson fault) ∧
    Intent.read movedText = .error (.notJson fault') ∧ fault.fault = .unfinishedSurrogate ∧
    fault'.fault = .numberOutOfRange ∧
    Config.compileText {} ⟨0, 0⟩ ["edge1"] faultsText = .error (.malformed (.notJson fault)) ∧
    Config.compileText {} ⟨0, 0⟩ ["edge1"] movedText = .error (.malformed (.notJson fault')) := by
  have spelled : twoFaults.SpelledBy faultsText := by
    have whole : Json.Spells twoFaults _ := .object (.part .nil .nil .nil .nil (.text _)
      (.part .nil .nil .nil .nil (.number _) (.stop .nil)))
    exact ⟨[], _, [], .nil, whole, .nil, by decide +kernel⟩
  have moved : faultsMoved.SpelledBy movedText := by
    have whole : Json.Spells faultsMoved _ := .object (.part .nil .nil .nil .nil (.number _)
      (.part .nil .nil .nil .nil (.text _) (.stop .nil)))
    exact ⟨[], _, [], .nil, whole, .nil, by decide +kernel⟩
  have refused {text : String} {fault : Json.Error}
      (found : (match Json.read text with | .ok _ => none | .error fault => some fault) = some fault) :
      Intent.read text = .error (.notJson fault) := by
    rw [Intent.read]
    cases parsed : Json.read text with
    | ok document =>
      rw [parsed] at found
      cases found
    | error other =>
      rw [parsed] at found
      cases found
      rfl
  have uncompiled {text : String} {fault : Json.Error} (refused : Intent.read text = .error (.notJson fault)) :
      Config.compileText {} ⟨0, 0⟩ ["edge1"] text = .error (.malformed (.notJson fault)) := by
    rw [Config.compileText, refused]
    rfl
  have one : Intent.read faultsText = .error (.notJson ⟨.unfinishedSurrogate, 1, 20⟩) := refused (by decide +kernel)
  have other : Intent.read movedText = .error (.notJson ⟨.numberOutOfRange, 1, 10⟩) := refused (by decide +kernel)
  exact ⟨_, _, Json.reordered_pair _ _ (by decide +kernel), spelled, moved, one, other, rfl, rfl, uncompiled one,
    uncompiled other⟩

end IntentRollout
