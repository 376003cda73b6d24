import IntentRollout.Text.Pieces

/-!
Addresses of endpoints. An address has an optional scheme, an authority with the host in it, and a path
with a query. The authority ends at the first slash, question mark or number sign, and a fragment after
a number sign is dropped. The length of the whole is counted in bytes.
-/

namespace IntentRollout.Http

inductive AddressFault where
  | empty
  | tooLong
  | schemeTooLong
  | character
  | authority
  | format
  deriving DecidableEq

def AddressFault.message : AddressFault → String
  | .empty => "empty string"
  | .tooLong => "uri too long"
  | .schemeTooLong => "scheme too long"
  | .character => "invalid uri character"
  | .authority => "invalid authority"
  | .format => "invalid format"

structure Address where
  scheme : Option String
  /-- Host and port, and perhaps a user; absent if there is only a path. -/
  authority : Option String
  /-- Path and query. -/
  path : String
  deriving DecidableEq

/-- A character that may stand in a scheme before the colon. -/
def isSchemeCharacter (character : Char) : Bool :=
  character.isAlphanum || character = '+' || character = '-' || character = '.'

/-- A character that may stand in an authority. -/
def isAuthorityCharacter (character : Char) : Bool :=
  character.isAlphanum || "!$&'()*+,-.:;=@[]_~".toList.contains character

def endsAuthority (character : Char) : Bool :=
  character = '/' || character = '?' || character = '#'

/-- What has been seen of an authority; a mark `@` or a closing bracket makes what came before it not
count for the host. -/
structure AuthorityScan where
  colons : Nat := 0
  opened : Bool := false
  closed : Bool := false
  percent : Bool := false
  /-- Whether the last character was the mark after the user. -/
  endsWithUser : Bool := false

def AuthorityScan.step (scan : AuthorityScan) (character : Char) : Except AddressFault AuthorityScan :=
  let scan := { scan with endsWithUser := false }
  if character = ':' then
    if 8 ≤ scan.colons then .error .authority else .ok { scan with colons := scan.colons + 1 }
  else if character = '[' then
    if scan.percent || scan.opened then .error .authority else .ok { scan with opened := true }
  else if character = ']' then
    if !scan.opened || scan.closed then .error .authority
    else .ok { scan with closed := true, colons := 0, percent := false }
  else if character = '@' then .ok { scan with colons := 0, percent := false, endsWithUser := true }
  else if character = '%' then .ok { scan with percent := true }
  else if isAuthorityCharacter character then .ok scan
  else .error .character

def AuthorityScan.finish (scan : AuthorityScan) : Except AddressFault Unit :=
  if scan.opened ≠ scan.closed || 1 < scan.colons || scan.endsWithUser || scan.percent then
    .error .authority
  else .ok ()

/-- Splits characters into an authority and the rest. -/
def splitAuthority (characters : List Char) : Except AddressFault (List Char × List Char) := do
  if characters.isEmpty then throw .empty
  let authority := characters.takeWhile fun character => !endsAuthority character
  (← authority.foldlM AuthorityScan.step {}).finish
  .ok (authority, characters.dropWhile fun character => !endsAuthority character)

/-- A character that may stand in a path, beyond the ASCII range any. -/
def isPathCharacter (character : Char) : Bool :=
  127 ≤ character.toNat ||
    (33 ≤ character.toNat && !"#<>?`".toList.contains character)

/-- A character that may stand in a query. -/
def isQueryCharacter (character : Char) : Bool :=
  127 ≤ character.toNat || (33 ≤ character.toNat && !"\"#<>".toList.contains character)

def readPath (characters : List Char) : Except AddressFault String := do
  let kept := characters.takeWhile fun character => character ≠ '#'
  let path := kept.takeWhile fun character => character ≠ '?'
  let query := (kept.dropWhile fun character => character ≠ '?').drop 1
  if path.all isPathCharacter && query.all isQueryCharacter then .ok (String.ofList kept)
  else .error .character

def longestScheme : Nat := 64

def longestAddress : Nat := 65534

/-- The scheme before a colon and two slashes, and what comes after these. -/
def splitScheme (text : String) : Except AddressFault (Option String × List Char) :=
  let characters := text.toList
  let scheme := characters.takeWhile isSchemeCharacter
  match characters.dropWhile isSchemeCharacter with
  | ':' :: '/' :: '/' :: rest =>
    if text.utf8ByteSize ≤ 3 then .ok (none, characters)
    else if longestScheme < scheme.length then .error .schemeTooLong
    else .ok (some (String.ofList scheme), rest)
  | _ => .ok (none, characters)

def Address.read (text : String) : Except AddressFault Address := do
  if longestAddress < text.utf8ByteSize then throw .tooLong
  match text.toList with
  | [] => .error .empty
  | ['*'] => .ok ⟨none, none, "*"⟩
  | ['?'] => .error .character
  | ['#'] => .error .character
  | '/' :: rest => .ok ⟨none, none, ← readPath ('/' :: rest)⟩
  | _ =>
    let (scheme, rest) ← splitScheme text
    let (authority, rest) ← splitAuthority rest
    if scheme.isNone then
      if rest.isEmpty then .ok ⟨none, some (String.ofList authority), ""⟩ else .error .format
    else if authority.isEmpty then .error .format
    else .ok ⟨scheme, some (String.ofList authority), ← readPath rest⟩

def afterLast (separator : Char) (characters : List Char) : List Char :=
  (pieces separator characters).getLastD characters

def hostAndPort (authority : String) : List Char := afterLast '@' authority.toList

/-- The host in an authority; a numeric one of the newer kind keeps its brackets. -/
def hostOf (authority : String) : String :=
  let characters := hostAndPort authority
  match characters with
  | '[' :: _ => String.ofList (characters.takeWhile (· ≠ ']') ++ [']'])
  | _ => String.ofList (characters.takeWhile (· ≠ ':'))

/-- The port after the last colon, if it is a number of sixteen bits. -/
def portOf? (authority : String) : Option Nat :=
  let digits := afterLast ':' (hostAndPort authority)
  if !(hostAndPort authority).contains ':' || digits.isEmpty || !digits.all Char.isDigit then none
  else
    let port := digits.foldl (fun total digit => total * 10 + (digit.toNat - '0'.toNat)) 0
    if port < UInt16.size then some port else none

end IntentRollout.Http
