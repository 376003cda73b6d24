import IntentRollout.Json.Reader

/-!
Reading a document that must have a given shape. The text is checked while it is read, so the first
fault in the text is reported, whether it concerns the notation or the shape. The document that comes
out has the members of the shape in its order and no others.

A member that the shape does not know is skipped; of such a member only the outline is checked.
-/

namespace IntentRollout.Json

inductive Schema where
  | text
  | bool
  | float
  /-- An integer that is not negative, with the name of its type in messages. -/
  | natural (name : String)
  /-- A value or null; as a member it may be absent. -/
  | optional (inner : Schema)
  | list (item : Schema)
  | table (value : Schema)
  /-- Named members, in the order in which a list may give them too. In a lenient record all may be
  absent. -/
  | record (name : String) (lenient : Bool) (fields : List (String × Schema))
  | choice (variants : List String)
  deriving Inhabited

/-! ### Skipping -/

def skipText : Nat → List Char → Except Failure (List Char)
  | 0, rest => fail .endInText rest 0
  | _ + 1, [] => fail .endInText [] 0
  | steps + 1, character :: rest =>
    if character = '"' then .ok rest
    else if character = '\\' then
      match rest with
      | 'u' :: after => do
        let (_, after) ← readHex after
        skipText steps after
      | _ => do
        let (_, after) ← readEscape rest
        skipText steps after
    else if character.toNat < 32 then fail .controlCharacter (character :: rest) 0
    else skipText steps rest

def skipPower (rest : List Char) : Except Failure (List Char) :=
  let digits := match rest with
    | '+' :: digits => digits
    | '-' :: digits => digits
    | digits => digits
  if startsWithDigit digits then .ok (digits.dropWhile isDigit) else fail .invalidNumber digits 1

def skipAfterDigits (rest : List Char) : Except Failure (List Char) :=
  match rest with
  | '.' :: after =>
    if startsWithDigit after then
      match after.dropWhile isDigit with
      | 'e' :: more => skipPower more
      | 'E' :: more => skipPower more
      | after => .ok after
    else fail .invalidNumber after 1
  | 'e' :: after => skipPower after
  | 'E' :: after => skipPower after
  | after => .ok after

def skipNumber (rest : List Char) : Except Failure (List Char) :=
  match rest with
  | '0' :: after => if startsWithDigit after then fail .invalidNumber after 1 else skipAfterDigits after
  | first :: _ =>
    if isDigit first then skipAfterDigits (rest.dropWhile isDigit) else fail .invalidNumber rest 1
  | [] => fail .invalidNumber [] 0

/-- Which kinds of parts are open, innermost first: true for objects. -/
abbrev OpenParts := List Bool

/-- Skips the key of a member and its colon. -/
def skipKey (rest : List Char) : Except Failure (List Char) :=
  match skipBlank rest with
  | [] => fail .endInObject [] 0
  | '"' :: after => do readColon (← skipText (after.length + 1) after)
  | after => fail .keyNotText after 1

/-- After a value, or after the opening of a part, goes on to the next value that has to be skipped;
without one the outermost part is closed. -/
def skipToValue (separated : Bool) :
    OpenParts → List Char → Except Failure (Option OpenParts × List Char)
  | [], rest => .ok (none, rest)
  | isObject :: outer, rest =>
    match skipBlank rest with
    | [] => fail (if isObject then .endInObject else .endInList) [] 0
    | character :: after =>
      if character = ',' ∧ separated then do
        let after ← if isObject then skipKey after else pure after
        .ok (some (isObject :: outer), after)
      else if character = (if isObject then '\x7d' else ']') then skipToValue true outer after
      else if separated then
        fail (if isObject then .expectedObjectSeparator else .expectedListSeparator)
          (character :: after) 1
      else do
        let after ← if isObject then skipKey (character :: after) else pure (character :: after)
        .ok (some (isObject :: outer), after)

/-- Skips a value inside open parts and everything up to the end of these. -/
def skipValueFrom : Nat → OpenParts → List Char → Except Failure (List Char)
  | 0, _, rest => fail .endInValue rest 0
  | steps + 1, parts, rest => do
    let continued (opened : Bool) (parts : OpenParts) (after : List Char) :
        Except Failure (List Char) := do
      match ← skipToValue (!opened) parts after with
      | (none, after) => .ok after
      | (some parts, after) => skipValueFrom steps parts after
    match skipBlank rest with
    | [] => fail .endInValue [] 0
    | 'n' :: after => continued false parts (← readWord ['u', 'l', 'l'] after)
    | 't' :: after => continued false parts (← readWord ['r', 'u', 'e'] after)
    | 'f' :: after => continued false parts (← readWord ['a', 'l', 's', 'e'] after)
    | '-' :: after => continued false parts (← skipNumber after)
    | '"' :: after => continued false parts (← skipText (after.length + 1) after)
    | '[' :: after => continued true (false :: parts) after
    | '\x7b' :: after => continued true (true :: parts) after
    | character :: after =>
      if isDigit character then continued false parts (← skipNumber (character :: after))
      else fail .expectedValue (character :: after) 1

def skipValue (rest : List Char) : Except Failure (List Char) :=
  skipValueFrom (rest.length + 1) [] rest

/-! ### Checking -/

def misfit {α : Type} (shape : Mismatch) (unread : List Char) : Except Failure α :=
  fail (.mismatch shape) unread 0

def Number.found : Number → Found
  | .integer value => .integer value
  | .float value => .float value

/-- The fault of a value of a type that was not expected. Texts and numbers are taken first, lists and
objects are not. -/
def unexpected {α : Type} (expected : String) (rest : List Char) : Except Failure α :=
  match skipBlank rest with
  | [] => fail .endInValue [] 0
  | 'n' :: after => do misfit (.type .null expected) (← readWord ['u', 'l', 'l'] after)
  | 't' :: after => do misfit (.type (.bool true) expected) (← readWord ['r', 'u', 'e'] after)
  | 'f' :: after => do misfit (.type (.bool false) expected) (← readWord ['a', 'l', 's', 'e'] after)
  | '-' :: after => do
    let (value, after) ← readNumber true after
    misfit (.type value.found expected) after
  | '"' :: after => do
    let (value, after) ← readText after
    misfit (.type (.text value) expected) after
  | '[' :: after => misfit (.type .list expected) ('[' :: after)
  | '\x7b' :: after => misfit (.type .object expected) ('\x7b' :: after)
  | character :: after =>
    if isDigit character then do
      let (value, after) ← readNumber false (character :: after)
      misfit (.type value.found expected) after
    else fail .expectedValue (character :: after) 1

def readNumberAs (expected : String) (judge : Number → Except Mismatch Json) (rest : List Char) :
    Except Failure (Json × List Char) := do
  let judged (value : Number) (after : List Char) : Except Failure (Json × List Char) :=
    match judge value with
    | .ok document => .ok (document, after)
    | .error shape => misfit shape after
  match skipBlank rest with
  | '-' :: after =>
    let (value, after) ← readNumber true after
    judged value after
  | character :: after =>
    if isDigit character then
      let (value, after) ← readNumber false (character :: after)
      judged value after
    else unexpected expected (character :: after)
  | [] => unexpected expected []

/-- A number in place of a natural number. -/
def judgeNatural (name : String) : Number → Except Mismatch Json
  | .integer (.ofNat value) => .ok (natural value)
  | .integer value => .error (.value (.integer value) name)
  | .float value => .error (.type (.float value) name)

def judgeFloat (value : Number) : Except Mismatch Json := .ok (float value.toBinary64)

/-- Takes what closes a list, if it comes next. -/
def closeList (rest : List Char) : List Char :=
  match skipBlank rest with
  | ']' :: after => after
  | ',' :: after => after
  | after => after

def closeObject (rest : List Char) : List Char :=
  match skipBlank rest with
  | '\x7d' :: after => after
  | after => after

/-- A list in place of a record must end after the last field. -/
def endList (rest : List Char) : Except Failure (List Char) :=
  match skipBlank rest with
  | [] => fail .endInList [] 0
  | ']' :: after => .ok after
  | ',' :: after =>
    match skipBlank after with
    | [] => fail .trailingCharacters [] 0
    | ']' :: more => fail .trailingComma (']' :: more) 1
    | after => fail .trailingCharacters after 1
  | after => fail .trailingCharacters after 1

/-- The value of a field that is absent. -/
def Schema.absent? (lenient : Bool) : Schema → Option (Option Json)
  | .optional _ => some (some .null)
  | _ => if lenient then some none else none

/-- The members of a record in the order of its fields, or the first field that is missing. -/
def arrange (lenient : Bool) (members : List (String × Json)) :
    List (String × Schema) → Except Mismatch (List (String × Json))
  | [] => .ok []
  | (field, schema) :: fields => do
    let own ← match Entries.get? members field with
      | some value => .ok [(field, value)]
      | none =>
        match schema.absent? lenient with
        | some (some value) => .ok [(field, value)]
        | some none => .ok []
        | none => .error (.missing field)
    .ok (own ++ (← arrange lenient members fields))

/-- The phrase by which messages name a record. -/
def recordPhrase (name : String) : String := "struct " ++ name

def recordLength (name : String) (count : Nat) : String :=
  recordPhrase name ++ " with " ++ toString count ++ (if count = 1 then " element" else " elements")

/-- Takes the members of a record up to its end; each known one at most once. -/
def readRecord (known : List String)
    (readKnown : String → List Char → Except Failure (Option (Json × List Char))) :
    Nat → List (String × Json) → List Char → Except Failure (List (String × Json) × List Char)
  | 0, _, rest => fail .endInObject rest 0
  | steps + 1, members, rest => do
    match ← nextKey members.isEmpty rest with
    | (.stop, after) => .ok (members.reverse, after)
    | (.part, after) =>
      let (key, after) ← readText after
      if known.contains key && (members.map (·.1)).contains key then
        misfit (.repeated key) (closeObject after)
      else
        let after ← readColon after
        match ← readKnown key after with
        | some (value, after) => readRecord known readKnown steps ((key, value) :: members) after
        | none => readRecord known readKnown steps ((key, .null) :: members) (← skipValue after)

/-- Takes one of the variants, alone or as the key of an object with a null. -/
def readChoice (variants : List String) (rest : List Char) : Except Failure (Json × List Char) := do
  let judged (value : String) (after : List Char) : Except Failure (Json × List Char) :=
    if value ∈ variants then .ok (.text value, after) else misfit (.variant value variants) after
  match skipBlank rest with
  | '"' :: after =>
    let (value, after) ← readText after
    judged value after
  | '\x7b' :: after =>
    match skipBlank after with
    | '"' :: after =>
      let (value, after) ← readText after
      let (document, after) ← judged value after
      match skipBlank (← readColon after) with
      | 'n' :: after =>
        match skipBlank (← readWord ['u', 'l', 'l'] after) with
        | '\x7d' :: after => .ok (document, after)
        | [] => fail .endInObject [] 0
        | after => fail .expectedValue after 0
      | after => unexpected "unit" after
    | after => unexpected "variant identifier" after
  | [] => fail .endInValue [] 0
  | after => fail .expectedValue after 1

mutual

def Schema.readShaped : Schema → List Char → Except Failure (Json × List Char)
  | .text, rest => do
    match skipBlank rest with
    | '"' :: after =>
      let (value, after) ← readText after
      .ok (.text value, after)
    | after => unexpected "a string" after
  | .bool, rest => do
    match skipBlank rest with
    | 't' :: after => .ok (.bool true, ← readWord ['r', 'u', 'e'] after)
    | 'f' :: after => .ok (.bool false, ← readWord ['a', 'l', 's', 'e'] after)
    | after => unexpected "a boolean" after
  | .float, rest => readNumberAs "f64" judgeFloat rest
  | .natural name, rest => readNumberAs name (judgeNatural name) rest
  | .optional inner, rest => do
    match skipBlank rest with
    | 'n' :: after => .ok (.null, ← readWord ['u', 'l', 'l'] after)
    | after => inner.readShaped after
  | .list item, rest => do
    match skipBlank rest with
    | '[' :: after =>
      let (items, after) ← readItems item.readShaped (after.length + 1) [] after
      .ok (.array items, after)
    | after => unexpected "a sequence" after
  | .table value, rest => do
    match skipBlank rest with
    | '\x7b' :: after =>
      let (members, after) ← readMembers value.readShaped (after.length + 1) [] after
      .ok (ofMembers members, after)
    | after => unexpected "a map" after
  | .choice variants, rest => readChoice variants rest
  | .record name lenient fields, rest => do
    match skipBlank rest with
    | '[' :: after =>
      let (members, after) ← Schema.readFields name lenient fields.length 0 fields after
      .ok (.object members, ← endList after)
    | '\x7b' :: after =>
      let (members, after) ←
        readRecord (fields.map (·.1)) (Schema.readField fields) (after.length + 1) [] after
      match arrange lenient members fields with
      | .ok members => .ok (.object members, after)
      | .error shape => misfit shape after
    | after => unexpected (recordPhrase name) after
termination_by structural schema => schema

/-- Takes the fields of a record from a list, in their order. -/
def Schema.readFields (name : String) (lenient : Bool) (count index : Nat) :
    List (String × Schema) → List Char → Except Failure (List (String × Json) × List Char)
  | [], rest => .ok ([], rest)
  | field :: fields, rest => do
    match ← nextItem (index == 0) rest with
    | (.stop, after) =>
      if lenient then .ok ([], ']' :: after)
      else misfit (.length index (recordLength name count)) after
    | (.part, after) =>
      let (value, after) ← Schema.readNamed field after
      let (members, after) ← Schema.readFields name lenient count (index + 1) fields after
      .ok ((field.1, value) :: members, after)
termination_by structural fields => fields

def Schema.readField :
    List (String × Schema) → String → List Char → Except Failure (Option (Json × List Char))
  | [], _, _ => .ok none
  | field :: fields, key, rest =>
    if field.1 = key then do .ok (some (← Schema.readNamed field rest))
    else Schema.readField fields key rest
termination_by structural fields => fields

def Schema.readNamed : String × Schema → List Char → Except Failure (Json × List Char)
  | (_, schema), rest => schema.readShaped rest
termination_by structural field => field

end

def Schema.read (schema : Schema) (text : String) : Except Error Json :=
  readWhole schema.readShaped text.toList

end IntentRollout.Json
