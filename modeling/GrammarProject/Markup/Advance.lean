/-!
# Reading character by character

The readers of the parts of a document are states that take one character at a time.
-/

namespace GrammarProject.Markup

/-- What one more character does to something that is being read. -/
inductive Advance (State Result : Type) where
  | more (state : State)
  | done (result : Result)
  | invalid
deriving DecidableEq, Repr

end GrammarProject.Markup
