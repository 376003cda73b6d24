/-!
White space in the wide sense of the character standard, and texts without it at their ends.
-/

namespace IntentRollout

/-- White space of every script: blanks, line ends, and the wide and narrow spaces of typesetting. -/
def blank (character : Char) : Bool :=
  let code := character.toNat
  (9 ≤ code && code ≤ 13) || code = 0x20 || code = 0x85 || code = 0xA0 || code = 0x1680 ||
    (0x2000 ≤ code && code ≤ 0x200A) || code = 0x2028 || code = 0x2029 || code = 0x202F ||
    code = 0x205F || code = 0x3000

/-- The characters between the white space at both ends. -/
def trimBlank (characters : List Char) : List Char :=
  ((characters.dropWhile blank).reverse.dropWhile blank).reverse

/-- The text between the white space at both ends. -/
def trimmed (text : String) : String := String.ofList (trimBlank text.toList)

/-- Text without capital ASCII letters; other letters stay. -/
def lowered (text : String) : String := text.map Char.toLower

/-- Text without small ASCII letters; other letters stay. -/
def raised (text : String) : String := text.map Char.toUpper

def joined (separator : String) (texts : List String) : String := separator.intercalate texts

end IntentRollout
