import Mathlib.Algebra.Group.Nat.Defs
import Mathlib.Data.List.Infix
import IntentRollout.Proofs.ArtifactNames
import IntentRollout.Proofs.ConstraintGrammar

/-! Which documents are intents. Every field is allowed on its own grounds; a document is accepted when all
of them are, and is otherwise refused for the first field, in a fixed order, that is not. -/

namespace IntentRollout

namespace Json

/-- What a document gives under a name: nothing when there is no such member or it is null, and otherwise
what the member means. -/
inductive Gives {α : Type} (document : Json) (name : String) (means : Json → α → Prop) : Option α → Prop where
  | absent (missing : document.member? name = none) : Gives document name means none
  | null (null : document.member? name = some .null) : Gives document name means none
  | member {value : Json} {meaning : α} (found : document.member? name = some value)
      (meant : means value meaning) : Gives document name means (some meaning)

def SaysText (value : Json) (text : String) : Prop := value = .text text

def SaysNumber (value : Json) (meaning : Binary64) : Prop :=
  ∃ number : Number, value = .number number ∧ number.toBinary64 = meaning

def SaysCount (value : Json) (count : Nat) : Prop :=
  value = .number (.integer count) ∧ count < 2 ^ 64

end Json

structure Sla.Agreed (value : Json) (sla : Sla) : Prop where
  object : ∃ members, value = .object members
  availability : value.Gives "availability" Json.SaysNumber sla.availability
  latency : value.Gives "latency" Json.SaysNumber sla.latency
  throughput : value.Gives "throughput" Json.SaysNumber sla.throughput
  connections : value.Gives "connections" Json.SaysCount sla.connections

namespace Intent

/-- A text that can be part of the name of a file: letters and digits, and marks after the first of them. -/
structure Identifies (id : String) : Prop where
  long : 1 ≤ id.length ∧ id.length ≤ 200
  starts : ∃ first rest, id.toList = first :: rest ∧ first.isAlphanum = true
  characters : ∀ character ∈ id.toList,
    character.isAlphanum = true ∨ character = '-' ∨ character = '_' ∨ character = '.'
  undoubled : ¬ ['.', '.'] <:+: id.toList

def Allows (document : Json) : IntentField → Prop
  | .intentId => ∃ id, document.member? "intentId" = some (.text id) ∧ Identifies id
  | .sla => ∃ sla?, document.Gives "sla" Sla.Agreed sla?
  | .serviceType => ∃ text?, document.Gives "serviceType" Json.SaysText text?
  | .targetSite => ∃ text?, document.Gives "targetSite" Json.SaysText text?
  | .resourceProfile => ∃ text?, document.Gives "resourceProfile" Json.SaysText text?

structure Acceptable (document : Json) : Prop where
  object : ∃ members, document = .object members
  allows : ∀ field, Allows document field

/-- The members of an object are those that have a meaning of their own and the others, which stay in order. -/
structure Remaining (document : Json) (attributes : List (String × Json)) : Prop where
  parted : ∃ members modelled, document = .object members ∧ (modelled ++ attributes).Perm members ∧
    attributes.Sublist members ∧ ∀ member ∈ modelled, ∃ field : IntentField, member.1 = field.name
  others : ∀ member ∈ attributes, ∀ field : IntentField, member.1 ≠ field.name

structure Describes (document : Json) (intent : Intent) : Prop where
  id : document.member? "intentId" = some (.text intent.id)
  serviceType : document.Gives "serviceType" Json.SaysText intent.serviceType
  targetSite : document.Gives "targetSite" Json.SaysText intent.targetSite
  resourceProfile : document.Gives "resourceProfile" Json.SaysText intent.resourceProfile
  sla : document.Gives "sla" Sla.Agreed intent.sla
  attributes : Remaining document intent.attributes
  document : intent.document = document

inductive Unnamed (document : Json) : Prop where
  | absent (missing : document.member? "intentId" = none)
  | null (null : document.member? "intentId" = some .null)
  | blank {id : String} (found : document.member? "intentId" = some (.text id))
      (white : ∀ character ∈ id.toList, blank character = true)

def judged : List IntentField := [.intentId, .sla, .serviceType, .targetSite, .resourceProfile]

/-- Why a document is not an intent. -/
inductive Refused (document : Json) : IntentError → Prop where
  | notObject (other : ¬ ∃ members, document = .object members) : Refused document .notObject
  | missing {members : List (String × Json)} (object : document = .object members)
      (unnamed : Unnamed document) : Refused document (.missing .intentId)
  | invalid {members : List (String × Json)} {front back : List IntentField} {field : IntentField}
      {fault : FieldFault} (object : document = .object members) (named : ¬ Unnamed document)
      (order : judged = front ++ field :: back) (earlier : ∀ passed ∈ front, Allows document passed)
      (offends : ¬ Allows document field) : Refused document (.invalid field fault)

end Intent

namespace Sla

private theorem float?_eq_ok {document : Json} {name : String} {value : Option Binary64} :
    float? document name = .ok value ↔ document.Gives name Json.SaysNumber value := by
  rw [float?]
  constructor
  · intro read
    split at read
    next absent => cases read; exact .absent absent
    next null => cases read; exact .null null
    next number found => cases read; exact .member found ⟨number, rfl, rfl⟩
    next => cases read
  · rintro (absent | null | ⟨found, number, rfl, rfl⟩)
    · rw [absent]
    · rw [null]
    · rw [found]

private theorem natural?_eq_ok {document : Json} {name : String} {value : Option Nat} :
    natural? document name = .ok value ↔ document.Gives name Json.SaysCount value := by
  rw [natural?]
  constructor
  · intro read
    split at read
    next absent => cases read; exact .absent absent
    next null => cases read; exact .null null
    next count found =>
      split at read
      next small =>
        cases read
        obtain ⟨natural, rfl⟩ := Int.eq_ofNat_of_zero_le small.1
        refine .member found ⟨rfl, ?_⟩
        simpa [UInt64.size] using Int.ofNat_lt.mp small.2
      next => cases read
    next => cases read
  · rintro (absent | null | @⟨_, count, found, rfl, small⟩)
    · rw [absent]
    · rw [null]
    · have fits : (0 : Int) ≤ count ∧ (count : Int) < UInt64.size := by
        rw [UInt64.size]
        omega
      simp only [found]
      rw [if_pos fits]
      rfl

private theorem ofJson_eq_ok {members : List (String × Json)} {sla : Sla} :
    ofJson (.object members) = .ok sla ↔ Agreed (.object members) sla := by
  simp only [ofJson, bind_eq_ok, float?_eq_ok, natural?_eq_ok]
  constructor
  · rintro ⟨availability, available, connections, connected, latency, late, throughput, through, same⟩
    cases same
    exact ⟨⟨members, rfl⟩, available, late, through, connected⟩
  · intro agreed
    exact ⟨sla.availability, agreed.availability, sla.connections, agreed.connections, sla.latency, agreed.latency,
      sla.throughput, agreed.throughput, rfl⟩

end Sla

namespace Intent

private theorem hasDoubleDot_iff {characters : List Char} :
    hasDoubleDot characters = true ↔ ['.', '.'] <:+: characters := by
  fun_induction hasDoubleDot characters with
  | case1 rest => exact iff_of_true rfl ⟨[], rest, rfl⟩
  | case2 first rest other ih =>
    rw [ih, List.infix_cons_iff]
    refine ⟨.inr, fun found => found.resolve_left ?_⟩
    rintro ⟨more, same⟩
    cases same
    exact other more rfl rfl
  | case3 => exact iff_of_false nofun (by simp)

private theorem isIdCharacter_iff {character : Char} : isIdCharacter character = true ↔
    character.isAlphanum = true ∨ character = '-' ∨ character = '_' ∨ character = '.' := by
  simp [isIdCharacter, or_assoc]

/-- No check finds a fault in an identifier exactly if it is one. -/
theorem idFault?_eq_none {id : String} : idFault? id = none ↔ Identifies id := by
  have size : id.length = id.toList.length := rfl
  constructor
  · intro sound
    have characters := isIdCharacter_of_idFault? sound
    rw [idFault?] at sound
    split at sound
    · cases sound
    next started =>
      obtain ⟨first, rest, spelled, letter⟩ :
          ∃ first rest, id.toList = first :: rest ∧ first.isAlphanum = true := by
        cases spelled : id.toList with
        | nil => simp [spelled] at started
        | cons first rest => exact ⟨first, rest, rfl, by simpa [spelled] using started⟩
      split at sound
      · cases sound
      · split at sound
        · cases sound
        next single =>
          split at sound
          · cases sound
          next short =>
            rw [longestId] at short
            refine ⟨⟨?_, by omega⟩, ⟨first, rest, spelled, letter⟩,
              fun character member => isIdCharacter_iff.mp (characters character member),
              fun doubled => single (hasDoubleDot_iff.mpr doubled)⟩
            rw [size, spelled, List.length_cons]
            omega
  · rintro ⟨⟨_, short⟩, ⟨first, rest, spelled, letter⟩, characters, undoubled⟩
    have started : ¬ (!(id.toList.head?.any Char.isAlphanum)) = true := by simp [spelled, letter]
    have allowed : id.toList.find? (fun character => !isIdCharacter character) = none := by
      apply List.find?_eq_none.mpr
      intro character member
      simpa using isIdCharacter_iff.mpr (characters character member)
    have single : ¬ hasDoubleDot id.toList = true := fun doubled => undoubled (hasDoubleDot_iff.mp doubled)
    rw [idFault?, if_neg started, allowed]
    simp only
    rw [if_neg single, if_neg (by rw [longestId]; omega)]

private theorem isEmpty_trimmed {text : String} :
    (trimmed text).isEmpty = true ↔ ∀ character ∈ text.toList, blank character = true := by
  rw [String.isEmpty_iff, trimmed]
  refine Iff.trans ⟨fun empty => ?_, fun empty => by rw [empty]⟩ (Slo.trimBlank_eq.trans Slo.trimmed_nil)
  simpa using congrArg String.toList empty

/-- An identifier does not start with white space. -/
theorem Identifies.visible {id : String} (sound : Identifies id) :
    ¬ ∀ character ∈ id.toList, blank character = true := by
  intro white
  obtain ⟨first, rest, spelled, letter⟩ := sound.starts
  have space := white first (by rw [spelled]; exact List.mem_cons_self)
  rw [Slo.not_blank_of_continues (.inl letter)] at space
  cases space

section Fields

variable {document : Json}

private theorem readId_eq_ok {id : String} :
    readId document = .ok id ↔ document.member? "intentId" = some (.text id) ∧ Identifies id := by
  rw [readId, IntentField.name]
  constructor
  · intro read
    split at read
    next id found =>
      split at read
      · cases read
      · split at read
        · cases read
        next sound =>
          cases read
          exact ⟨found, idFault?_eq_none.mp sound⟩
    all_goals cases read
  · rintro ⟨found, sound⟩
    simp only [found]
    rw [if_neg (mt isEmpty_trimmed.mp sound.visible), idFault?_eq_none.mpr sound]

/-- An identifier that is not read is missing or has a fault. -/
theorem readId_eq_error {error : IntentError} (refused : readId document = .error error) :
    Unnamed document ∧ error = .missing .intentId ∨
      ¬ Unnamed document ∧ ∃ fault, error = .invalid .intentId fault := by
  rw [readId, IntentField.name] at refused
  split at refused
  next id found =>
    split at refused
    next empty =>
      cases refused
      exact .inl ⟨.blank found (isEmpty_trimmed.mp empty), rfl⟩
    next visible =>
      split at refused
      next fault _ =>
        cases refused
        refine .inr ⟨?_, _, rfl⟩
        rintro (absent | null | ⟨found', white⟩)
        · cases found.symm.trans absent
        · cases found.symm.trans null
        · cases found.symm.trans found'
          exact visible (isEmpty_trimmed.mpr white)
      next => cases refused
  next absent =>
    cases refused
    exact .inl ⟨.absent absent, rfl⟩
  next null =>
    cases refused
    exact .inl ⟨.null null, rfl⟩
  next other noText noNull found =>
    cases refused
    refine .inr ⟨?_, _, rfl⟩
    rintro (absent | null | ⟨found', _⟩)
    · cases found.symm.trans absent
    · cases found.symm.trans null
      exact noNull rfl
    · cases found.symm.trans found'
      exact noText _ rfl

private theorem readSla_eq_ok {sla? : Option Sla} : readSla document = .ok sla? ↔
    document.Gives "sla" Sla.Agreed sla? := by
  rw [readSla, IntentField.name]
  constructor
  · intro read
    split at read
    next absent => cases read; exact .absent absent
    next null => cases read; exact .null null
    next members found =>
      split at read
      next sla agreed => cases read; exact .member found (Sla.ofJson_eq_ok.mp agreed)
      next => cases read
    next => cases read
  · rintro (absent | null | ⟨found, agreed⟩)
    · rw [absent]
    · rw [null]
    · obtain ⟨members, rfl⟩ := agreed.object
      simp only [found, Sla.ofJson_eq_ok.mpr agreed]

private theorem readSla_eq_error {error : IntentError} (refused : readSla document = .error error) :
    ∃ fault, error = .invalid .sla fault := by
  rw [readSla] at refused
  split at refused
  · cases refused
  · cases refused
  · split at refused
    · cases refused
    · cases refused; exact ⟨_, rfl⟩
  · cases refused; exact ⟨_, rfl⟩

private theorem readText_eq_ok {field : IntentField} {text? : Option String} :
    readText document field = .ok text? ↔ document.Gives field.name Json.SaysText text? := by
  rw [readText]
  constructor
  · intro read
    split at read
    next absent => cases read; exact .absent absent
    next null => cases read; exact .null null
    next text found => cases read; exact .member found rfl
    next => cases read
  · rintro (absent | null | ⟨found, rfl⟩)
    · rw [absent]
    · rw [null]
    · rw [found]

private theorem readText_eq_error {field : IntentField} {error : IntentError}
    (refused : readText document field = .error error) : ∃ fault, error = .invalid field fault := by
  rw [readText] at refused
  split at refused
  · cases refused
  · cases refused
  · cases refused
  · cases refused; exact ⟨_, rfl⟩

/-- A text that is not read is not allowed. -/
theorem not_gives_of_readText {field : IntentField} {error : IntentError}
    (refused : readText document field = .error error) : ¬ ∃ text?, document.Gives field.name Json.SaysText text? := by
  rintro ⟨text?, given⟩
  cases refused.symm.trans (readText_eq_ok.mpr given)

end Fields

private theorem mem_all (field : IntentField) : field ∈ IntentField.all := by
  cases field <;> decide

private theorem modelled_iff {name : String} :
    (IntentField.all.map IntentField.name).contains name = true ↔ ∃ field : IntentField, name = field.name := by
  rw [List.contains_iff_mem, List.mem_map]
  exact ⟨fun ⟨field, _, same⟩ => ⟨field, same.symm⟩, fun ⟨field, same⟩ => ⟨field, mem_all field, same.symm⟩⟩

private theorem remaining_filter (members : List (String × Json)) :
    Remaining (.object members)
      (members.filter fun member => !(IntentField.all.map IntentField.name).contains member.1) := by
  refine ⟨⟨members, members.filter fun member => (IntentField.all.map IntentField.name).contains member.1, rfl,
    List.filter_append_perm _ _, List.filter_sublist, ?_⟩, ?_⟩
  · intro member modelled
    exact modelled_iff.mp (List.mem_filter.mp modelled).2
  · intro member other field same
    have unknown := (List.mem_filter.mp other).2
    rw [modelled_iff.mpr ⟨field, same⟩] at unknown
    cases unknown

/-- An accepted document has all that its readers ask for, and the intent is what they gave. -/
theorem accepted_of_ofJson {document : Json} {intent : Intent} (read : ofJson document = .ok intent) :
    Acceptable document ∧ Describes document intent := by
  cases document with
  | object members =>
    simp only [ofJson, bind_eq_ok, readId_eq_ok, readSla_eq_ok, readText_eq_ok] at read
    obtain ⟨id, ⟨named, sound⟩, sla, agreed, serviceType, served, targetSite, targeted, profile, profiled, same⟩ := read
    cases same
    refine ⟨⟨⟨members, rfl⟩, ?_⟩, ⟨named, served, targeted, profiled, agreed, remaining_filter members, rfl⟩⟩
    intro field
    cases field with
    | intentId => exact ⟨id, named, sound⟩
    | sla => exact ⟨sla, agreed⟩
    | serviceType => exact ⟨serviceType, served⟩
    | targetSite => exact ⟨targetSite, targeted⟩
    | resourceProfile => exact ⟨profile, profiled⟩
  | _ => cases read

private theorem exists_of_acceptable {document : Json} (acceptable : Acceptable document) :
    ∃ intent, ofJson document = .ok intent := by
  obtain ⟨members, rfl⟩ := acceptable.object
  obtain ⟨id, named, sound⟩ := acceptable.allows .intentId
  obtain ⟨sla, agreed⟩ := acceptable.allows .sla
  obtain ⟨serviceType, served⟩ := acceptable.allows .serviceType
  obtain ⟨targetSite, targeted⟩ := acceptable.allows .targetSite
  obtain ⟨profile, profiled⟩ := acceptable.allows .resourceProfile
  simp only [ofJson, bind_eq_ok, readId_eq_ok, readSla_eq_ok, readText_eq_ok]
  exact ⟨_, id, ⟨named, sound⟩, sla, agreed, serviceType, served, targetSite, targeted, profile, profiled, rfl⟩

private theorem not_unnamed {document : Json} {id : String} (found : document.member? "intentId" = some (.text id))
    (sound : Identifies id) : ¬ Unnamed document := by
  rintro (absent | null | ⟨found', white⟩)
  · cases found.symm.trans absent
  · cases found.symm.trans null
  · cases found.symm.trans found'
    exact sound.visible white

/-- The readers run in the order in which fields are judged, so the first that fails names the field. -/
theorem refused_of_ofJson {document : Json} {error : IntentError} (refused : ofJson document = .error error) :
    Refused document error := by
  cases document with
  | object members =>
    simp only [ofJson, bind_eq_error, readId_eq_ok, readSla_eq_ok, readText_eq_ok, reduceCtorEq, and_false,
      exists_false, or_false] at refused
    obtain unread | ⟨id, ⟨found, sound⟩, refused⟩ := refused
    · obtain ⟨unnamed, rfl⟩ | ⟨named, _, rfl⟩ := readId_eq_error unread
      · exact .missing rfl unnamed
      · have order : judged = [] ++ .intentId :: [.sla, .serviceType, .targetSite, .resourceProfile] := rfl
        refine .invalid rfl named order (by simp) ?_
        rintro ⟨id, allowed⟩
        cases unread.symm.trans (readId_eq_ok.mpr allowed)
    · have named := not_unnamed found sound
      have identified : Allows (.object members) .intentId := ⟨id, found, sound⟩
      obtain unread | ⟨sla, agreed, refused⟩ := refused
      · obtain ⟨_, rfl⟩ := readSla_eq_error unread
        have order : judged = [.intentId] ++ .sla :: [.serviceType, .targetSite, .resourceProfile] := rfl
        refine .invalid rfl named order (by simp [identified]) ?_
        rintro ⟨sla, agreed⟩
        cases unread.symm.trans (readSla_eq_ok.mpr agreed)
      · have agrees : Allows (.object members) .sla := ⟨sla, agreed⟩
        obtain unread | ⟨serviceType, served, refused⟩ := refused
        · obtain ⟨_, rfl⟩ := readText_eq_error unread
          have order : judged = [.intentId, .sla] ++ .serviceType :: [.targetSite, .resourceProfile] := rfl
          exact .invalid rfl named order (by simp [identified, agrees]) (not_gives_of_readText unread)
        · have serves : Allows (.object members) .serviceType := ⟨serviceType, served⟩
          obtain unread | ⟨targetSite, targeted, unread⟩ := refused
          · obtain ⟨_, rfl⟩ := readText_eq_error unread
            have order : judged = [.intentId, .sla, .serviceType] ++ .targetSite :: [.resourceProfile] := rfl
            exact .invalid rfl named order (by simp [identified, agrees, serves]) (not_gives_of_readText unread)
          · have targets : Allows (.object members) .targetSite := ⟨targetSite, targeted⟩
            obtain ⟨_, rfl⟩ := readText_eq_error unread
            have order : judged = [.intentId, .sla, .serviceType, .targetSite] ++ .resourceProfile :: [] := rfl
            exact .invalid rfl named order (by simp [identified, agrees, serves, targets]) (not_gives_of_readText unread)
  | _ => cases refused; exact .notObject (by simp)

/-- A document is accepted exactly if every field is allowed. The intent then has what the document gives,
and otherwise the error names what is missing or the first field that is not allowed. -/
theorem ofJson_judges (document : Json) :
    ((∃ intent, ofJson document = .ok intent) ↔ Acceptable document) ∧
      match ofJson document with
      | .ok intent => Describes document intent
      | .error error => Refused document error := by
  refine ⟨⟨fun ⟨_, read⟩ => (accepted_of_ofJson read).1, exists_of_acceptable⟩, ?_⟩
  split
  next intent read => exact (accepted_of_ofJson read).2
  next error refused => exact refused_of_ofJson refused

end Intent

end IntentRollout
