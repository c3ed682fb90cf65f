/-!
# Positions

A position in a document: lines count from one, columns from zero, both in characters. A carriage
return, a line feed, and the two in this order end a line.
-/

namespace GrammarProject.Markup

/-- A place between two characters of a document. -/
structure Position where
  line : Nat
  column : Nat
deriving DecidableEq, Repr

def Position.first : Position := ⟨1, 0⟩

/-- A position, and whether the character before it was a carriage return. -/
structure Cursor where
  position : Position
  afterReturn : Bool
deriving DecidableEq, Repr

namespace Cursor

def first : Cursor := ⟨.first, false⟩

/-- The place behind one more character, `none` for one that cannot be read. -/
def advance (k : Cursor) : Option Char → Cursor
  | some '\n' => if k.afterReturn then ⟨k.position, false⟩ else ⟨⟨k.position.line + 1, 0⟩, false⟩
  | some '\r' => ⟨⟨k.position.line + 1, 0⟩, true⟩
  | _ => ⟨⟨k.position.line, k.position.column + 1⟩, false⟩

end Cursor

/-- A character and where it stands. -/
structure Located where
  char : Char
  place : Position
deriving DecidableEq, Repr

end GrammarProject.Markup
