import IntentRollout.Text.CharSet

/-!
Texts and characters quoted for a reader of messages: what cannot be seen is written as an escape.
-/

namespace IntentRollout

/-- Lower-case hexadecimal digits without leading zeros. -/
def hexadecimal (value : Nat) : List Char := Nat.toDigits 16 value

/-- One character of a quoted text, where `quote` is the quotation mark around it. -/
def escapedCharacter (quote character : Char) : List Char :=
  if character = quote then ['\\', character]
  else match character with
    | '\x00' => ['\\', '0']
    | '\t' => ['\\', 't']
    | '\r' => ['\\', 'r']
    | '\n' => ['\\', 'n']
    | '\\' => ['\\', '\\']
    | _ =>
      if character.toNat < 32 || (127 ≤ character.toNat &&
          (CharSet.extending character || CharSet.unprintable character)) then
        ['\\', 'u', '\x7b'] ++ hexadecimal character.toNat ++ ['\x7d']
      else [character]

def quoted (text : String) : String :=
  String.ofList ('"' :: text.toList.flatMap (escapedCharacter '"') ++ ['"'])

def quotedCharacter (character : Char) : String :=
  String.ofList ('\'' :: escapedCharacter '\'' character ++ ['\''])

end IntentRollout
