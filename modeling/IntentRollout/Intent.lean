import IntentRollout.Json.Printer
import IntentRollout.Json.Reader
import IntentRollout.Service
import IntentRollout.Sla
import IntentRollout.Volume.Basic

/-!
Intents: requests for a service at one or several sites. An intent keeps the document that it was read
from. Only the identifier is mandatory; it becomes part of names of resources and files, and is
therefore a single name of letters, digits and a few marks.
-/

namespace IntentRollout

/-- The fields of an intent that have a meaning of their own. -/
inductive IntentField where
  | intentId
  | sla
  | serviceType
  | targetSite
  | resourceProfile
  deriving DecidableEq

def IntentField.name : IntentField → String
  | .intentId => "intentId"
  | .sla => "sla"
  | .serviceType => "serviceType"
  | .targetSite => "targetSite"
  | .resourceProfile => "resourceProfile"

def IntentField.all : List IntentField := [.intentId, .serviceType, .targetSite, .resourceProfile, .sla]

/-- The longest identifier. Names of resources are longer by the name of a site. -/
def longestId : Nat := 200

inductive IdFault where
  | start
  | character (found : Char)
  | doubleDot
  | tooLong
  deriving DecidableEq

def IdFault.message : IdFault → String
  | .start => "must start with a letter or digit"
  | .character found => "contains " ++ quotedCharacter found
  | .doubleDot => "contains `..`"
  | .tooLong => "is longer than " ++ toString longestId ++ " characters"

/-- What is wrong with the value of a field. -/
inductive FieldFault where
  | identifier (id : String) (fault : IdFault)
  | notText (found : Json)
  | notObject (found : Json)
  | mismatch (shape : Json.Mismatch)

def FieldFault.message : FieldFault → String
  | .identifier id fault => quoted id ++ " " ++ fault.message
  | .notText found => "expected a string, got " ++ found.compact
  | .notObject found => "expected an object, got " ++ found.compact
  | .mismatch shape => shape.message

inductive IntentError where
  | unreadable (path : String) (fault : FileFault)
  | notJson (error : Json.Error)
  | notObject
  | missing (field : IntentField)
  | invalid (field : IntentField) (fault : FieldFault)

def IntentError.message : IntentError → String
  | .unreadable path fault => "failed to read intent " ++ path ++ ": " ++ fault.message
  | .notJson error => "intent is not valid JSON: " ++ error.message
  | .notObject => "intent must be a JSON object"
  | .missing field => "intent is missing mandatory field `" ++ field.name ++ "`"
  | .invalid field fault => "intent field `" ++ field.name ++ "` is invalid: " ++ fault.message

/-- A short word for the kind of error. -/
def IntentError.kind : IntentError → String
  | .unreadable _ _ => "Read"
  | .notJson _ => "Json"
  | .notObject => "NotAnObject"
  | .missing _ => "MissingField"
  | .invalid _ _ => "InvalidField"

structure Intent where
  id : String
  serviceType : Option String
  targetSite : Option String
  resourceProfile : Option String
  sla : Option Sla
  /-- The members that have no meaning here. -/
  attributes : List (String × Json)
  document : Json

namespace Intent

def isIdCharacter (character : Char) : Bool :=
  character.isAlphanum || character = '-' || character = '_' || character = '.'

def hasDoubleDot : List Char → Bool
  | '.' :: '.' :: _ => true
  | _ :: rest => hasDoubleDot rest
  | [] => false

/-- The first fault of an identifier that is not blank. -/
def idFault? (id : String) : Option IdFault :=
  let characters := id.toList
  if !(characters.head?.any Char.isAlphanum) then some .start
  else
    match characters.find? fun character => !isIdCharacter character with
    | some character => some (.character character)
    | none =>
      if hasDoubleDot characters then some .doubleDot
      else if longestId < characters.length then some .tooLong
      else none

def readId (document : Json) : Except IntentError String :=
  match document.member? IntentField.intentId.name with
  | some (.text id) =>
    if (trimmed id).isEmpty then .error (.missing .intentId)
    else
      match idFault? id with
      | some fault => .error (.invalid .intentId (.identifier id fault))
      | none => .ok id
  | none => .error (.missing .intentId)
  | some .null => .error (.missing .intentId)
  | some other => .error (.invalid .intentId (.notText other))

def readSla (document : Json) : Except IntentError (Option Sla) :=
  match document.member? IntentField.sla.name with
  | none => .ok none
  | some .null => .ok none
  | some (.object members) =>
    match Sla.ofJson (.object members) with
    | .ok sla => .ok (some sla)
    | .error shape => .error (.invalid .sla (.mismatch shape))
  | some other => .error (.invalid .sla (.notObject other))

/-- A text that may be absent or null. -/
def readText (document : Json) (field : IntentField) : Except IntentError (Option String) :=
  match document.member? field.name with
  | none => .ok none
  | some .null => .ok none
  | some (.text value) => .ok (some value)
  | some other => .error (.invalid field (.notText other))

def ofJson (document : Json) : Except IntentError Intent := do
  match document with
  | .object members =>
    let id ← readId document
    let sla ← readSla document
    let serviceType ← readText document .serviceType
    let targetSite ← readText document .targetSite
    let resourceProfile ← readText document .resourceProfile
    let known := IntentField.all.map IntentField.name
    .ok { id, serviceType, targetSite, resourceProfile, sla, document
          attributes := members.filter fun member => !known.contains member.1 }
  | _ => .error .notObject

def read (text : String) : Except IntentError Intent := do
  ofJson (← (Json.read text).mapError .notJson)

/-- The document in a file, whatever it describes. -/
def loadDocument (volume : Volume) (path : String) : Except IntentError Json := do
  let text ← (volume.readText path).mapError (.unreadable path)
  (Json.read text).mapError .notJson

def load (volume : Volume) (path : String) : Except IntentError Intent := do
  ofJson (← loadDocument volume path)

/-- The required fields that the document does not have. -/
def missingFields (intent : Intent) (required : List String) : List String :=
  required.filter fun field => (intent.document.member? field).isNone

/-- The service that the intent asks for: mobile broadband if it names none that is known. -/
def service (intent : Intent) : Service := (intent.serviceType.bind Service.resolve?).getD .embb

end Intent

end IntentRollout
