import IntentRollout.Text.Blank

/-!
Categories of service and their spellings. Each has a short key, which names its profile, and a long
name, which labels what is made for it; either may be written in an intent.
-/

namespace IntentRollout

inductive Service where
  | embb
  | urllc
  | mmtc
  | generic
  deriving DecidableEq, Inhabited

namespace Service

def all : List Service := [.embb, .urllc, .mmtc, .generic]

def key : Service → String
  | .embb => "embb"
  | .urllc => "urllc"
  | .mmtc => "mmtc"
  | .generic => "generic"

def canonicalName : Service → String
  | .embb => "enhanced-mobile-broadband"
  | .urllc => "ultra-reliable-low-latency"
  | .mmtc => "massive-machine-type"
  | .generic => "generic"

/-- The service of a spelling in small letters without white space around it. -/
def ofSpelling? (spelling : String) : Option Service :=
  all.find? fun service => spelling = service.key || spelling = service.canonicalName

/-- The service that a text names, whatever its case and the white space around it. -/
def resolve? (text : String) : Option Service := ofSpelling? (lowered (trimmed text))

end Service

end IntentRollout
