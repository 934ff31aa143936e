/-!
# Splitting at separators

Texts that list pieces with a separator between them. There is one piece more than there are
separators, so the empty text has one piece, which is empty.
-/

namespace Intercept.Text

/-- The pieces of a text between its separators. -/
def splitAt (separator : Char) : List Char → List (List Char)
  | [] => [[]]
  | c :: cs =>
    if c = separator then [] :: splitAt separator cs
    else
      match splitAt separator cs with
      | [] => [[c]]
      | piece :: pieces => (c :: piece) :: pieces

end Intercept.Text
