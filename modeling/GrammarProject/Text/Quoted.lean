import GrammarProject.Text.Printable

/-!
# Quoted text

How messages show a text that may hold anything: between single quotes, or between double quotes
when it holds a single quote and no double quote. The backslash and the quote in use are written
after a backslash, line feed, carriage return and tab as `\n`, `\r` and `\t`, and each other
character that is not printable by its code point, in two, four or eight hexadecimal digits.
-/

namespace GrammarProject.Text

/-- The last `width` hexadecimal digits of a number, in lower case. -/
def hexDigits : (width : Nat) → Nat → List Char
  | 0, _ => []
  | width + 1, n => hexDigits width (n / 16) ++ [Nat.digitChar (n % 16)]

def quoteMark (cs : List Char) : Char :=
  if cs.contains '\'' && !cs.contains '"' then '"' else '\''

/-- A character as it stands between quotes `q`. -/
def quotedChar (q c : Char) : List Char :=
  if c = q ∨ c = '\\' then ['\\', c]
  else if c = '\n' then ['\\', 'n']
  else if c = '\r' then ['\\', 'r']
  else if c = '\t' then ['\\', 't']
  else if isPrintable c then [c]
  else if c.toNat < 0x100 then '\\' :: 'x' :: hexDigits 2 c.toNat
  else if c.toNat < 0x10000 then '\\' :: 'u' :: hexDigits 4 c.toNat
  else '\\' :: 'U' :: hexDigits 8 c.toNat

def quoteList (cs : List Char) : List Char :=
  let q := quoteMark cs
  q :: cs.flatMap (quotedChar q) ++ [q]

def quoted (s : String) : String := String.ofList (quoteList s.toList)

end GrammarProject.Text
