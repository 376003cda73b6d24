/-!
Cutting characters at a separator. There is one piece more than there are separators, and the pieces
hold none of them.
-/

namespace IntentRollout

/-- The stretches between the separators, empty ones included. -/
def pieces (separator : Char) : List Char → List (List Char)
  | [] => [[]]
  | character :: rest =>
    if character = separator then [] :: pieces separator rest
    else
      match pieces separator rest with
      | [] => [[character]]
      | piece :: more => (character :: piece) :: more

end IntentRollout
