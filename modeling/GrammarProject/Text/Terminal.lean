/-!
# Text for output

What is written to the standard streams loses the escape sequences that terminals take as
commands: U+001B, `[`, digits, `;` and `?`, and a letter. A line ends in a line feed alone.
-/

namespace GrammarProject.Text

def escape : Char := '\x1b'

def isEscapeParameter (c : Char) : Bool := c.isDigit || c = ';' || c = '?'

/-- The length of the rest of an escape sequence, if what stands behind its first character makes
it one. -/
def escapeRest? : List Char → Option Nat
  | '[' :: cs =>
    match cs.dropWhile isEscapeParameter with
    | c :: _ => if c.isAlpha then some ((cs.takeWhile isEscapeParameter).length + 2) else none
    | [] => none
  | _ => none

/-- The text without escape sequences, where the first `skip` characters belong to one. -/
def withoutEscapesAfter (skip : Nat) : List Char → List Char
  | [] => []
  | c :: cs =>
    match skip with
    | skip + 1 => withoutEscapesAfter skip cs
    | 0 =>
      if c = escape then
        match escapeRest? cs with
        | some n => withoutEscapesAfter n cs
        | none => c :: withoutEscapesAfter 0 cs
      else c :: withoutEscapesAfter 0 cs

def withoutEscapes (cs : List Char) : List Char := withoutEscapesAfter 0 cs

/-- The text with a line feed for each carriage return and line feed. -/
def plainBreaks : List Char → List Char
  | [] => []
  | '\r' :: '\n' :: cs => '\n' :: plainBreaks cs
  | c :: cs => c :: plainBreaks cs

end GrammarProject.Text
