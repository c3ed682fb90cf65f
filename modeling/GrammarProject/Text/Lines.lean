/-!
# Lines

A line ends at a line feed, a carriage return, or a carriage return followed by a line feed, and
nowhere else. The line end is no part of the line.
-/

namespace GrammarProject.Text

/-- The lines of a text. A line end at the very end starts no further line. -/
def lines : List Char → List (List Char)
  | [] => []
  | '\r' :: '\n' :: cs => [] :: lines cs
  | c :: cs =>
    if c = '\n' ∨ c = '\r' then [] :: lines cs
    else match lines cs with
      | [] => [[c]]
      | l :: ls => (c :: l) :: ls

end GrammarProject.Text
