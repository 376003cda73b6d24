import IntentRollout.Http.Address
import IntentRollout.Http.Status
import IntentRollout.Json.Printer
import IntentRollout.Json.Reader
import IntentRollout.Text.Quoted

/-!
Fetching documents from endpoints. Whatever keeps a document from being fetched is one kind of error
with the address that was asked; what is wrong with the address comes before any attempt to connect.
-/

namespace IntentRollout.Http

inductive FetchFault where
  | address (fault : AddressFault)
  | scheme
  | noHost
  | unreachable (reason : String)
  | broken (reason : String)
  | status (code : Nat)
  | notJson (error : Json.Error)
  | notObject (found : Json)
  /-- No answer within so many milliseconds. -/
  | timedOut (limit : Nat)
  | noEndpoint (target : String)
  | noSnapshot
  /-- A reason that the source of the document gave. -/
  | reported (reason : String)

def FetchFault.message : FetchFault → String
  | .address fault => "invalid URL: " ++ fault.message
  | .scheme => "only http:// endpoints are supported"
  | .noHost => "URL has no host"
  | .unreachable reason => "connection failed: " ++ reason
  | .broken reason => "request failed: " ++ reason
  | .status code => "HTTP " ++ statusText code
  | .notJson error => "invalid JSON: " ++ error.message
  | .notObject found => "expected a JSON object, got " ++ found.compact
  | .timedOut limit => "timed out after " ++ (Binary64.ofRatio false limit 1000).plainText ++ "s"
  | .noEndpoint target => "no metrics endpoint configured for target " ++ quoted target
  | .noSnapshot => "no snapshot recorded"
  | .reported reason => reason

structure FetchError where
  url : String
  fault : FetchFault

def FetchError.message (error : FetchError) : String :=
  "failed to fetch metrics from " ++ error.url ++ ": " ++ error.fault.message

inductive Reply where
  | unreachable (reason : String)
  | broken (reason : String)
  | silent
  | answered (status : Nat) (body : String)

/-- What a network does with a request for a path, given the address of the host. -/
abbrev Network := String → String → Reply

/-- A network in which no host can be reached. -/
def Network.unreachable : Network := fun _ _ => .unreachable "Network is unreachable (os error 101)"

def Reply.document (limit : Nat) : Reply → Except FetchFault Json
  | .unreachable reason => .error (.unreachable reason)
  | .broken reason => .error (.broken reason)
  | .silent => .error (.timedOut limit)
  | .answered status body =>
    if isSuccess status then (Json.read body).mapError .notJson else .error (.status status)

/-- The host with its port, eighty if none is given, and the path to ask it for. -/
def destination (url : String) : Except FetchFault (String × String) := do
  let address ← (Address.read url).mapError .address
  if address.scheme.any fun scheme => scheme.map Char.toLower ≠ "http" then throw .scheme
  match address.authority with
  | none => .error .noHost
  | some authority =>
    let path := if address.path.isEmpty then "/" else address.path
    .ok (hostOf authority ++ ":" ++ toString ((portOf? authority).getD 80), path)

def fetch (network : Network) (limit : Nat) (url : String) : Except FetchError Json :=
  ((destination url).bind fun (host, path) => (network host path).document limit).mapError (⟨url, ·⟩)

end IntentRollout.Http
