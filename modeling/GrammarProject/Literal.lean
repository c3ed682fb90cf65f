import GrammarProject.Literal.Decimal
import GrammarProject.Text.Quoted

/-!
# Literals

Values of a data format, with two texts: `Literal.display` as messages show a value, and
`Literal.json` as a JSON document, indented by two blanks and in ASCII only.
-/

namespace GrammarProject

/-- A value of a data format. -/
inductive Literal where
  | null
  | bool (b : Bool)
  | int (n : Int)
  | decimal (d : Decimal)
  | text (s : String)
  | list (items : List Literal)
  | record (fields : List (String × Literal))
deriving Repr

namespace Literal

def joined (separator : List Char) : List (List Char) → List Char
  | [] => []
  | [t] => t
  | t :: ts => t ++ separator ++ joined separator ts

/-! ## In messages -/

mutual

def shown : Literal → List Char
  | null => "None".toList
  | bool true => "True".toList
  | bool false => "False".toList
  | int n => (toString n).toList
  | decimal d => d.text
  | text s => Text.quoteList s.toList
  | list items => '[' :: joined [',', ' '] (shownItems items) ++ [']']
  | record fields => '\x7b' :: joined [',', ' '] (shownFields fields) ++ ['\x7d']

def shownItems : List Literal → List (List Char)
  | [] => []
  | v :: vs => shown v :: shownItems vs

def shownFields : List (String × Literal) → List (List Char)
  | [] => []
  | (k, v) :: fs => (Text.quoteList k.toList ++ ':' :: ' ' :: shown v) :: shownFields fs

end

/-- A value as messages show it: a text between quotes, any other value by its own notation. -/
def display (v : Literal) : String := String.ofList v.shown

/-- A value as part of a sentence: a text stands for itself. -/
def plain : Literal → String
  | text s => s
  | v => v.display

/-! ## As JSON -/

/-- One unit of a JSON escape. -/
def unitEscape (n : Nat) : List Char := '\\' :: 'u' :: Text.hexDigits 4 n

/-- A character inside a JSON string. Characters beyond U+FFFF are two escapes. -/
def jsonChar (c : Char) : List Char :=
  if c = '"' ∨ c = '\\' then ['\\', c]
  else if c = '\n' then ['\\', 'n']
  else if c = '\r' then ['\\', 'r']
  else if c = '\t' then ['\\', 't']
  else if c = '\x08' then ['\\', 'b']
  else if c = '\x0c' then ['\\', 'f']
  else if 0x20 ≤ c.toNat ∧ c.toNat ≤ 0x7e then [c]
  else if c.toNat < 0x10000 then unitEscape c.toNat
  else
    let n := c.toNat - 0x10000
    unitEscape (0xd800 + n / 0x400) ++ unitEscape (0xdc00 + n % 0x400)

def jsonText (s : String) : List Char := '"' :: s.toList.flatMap jsonChar ++ ['"']

def jsonBreak (depth : Nat) : List Char := '\n' :: List.replicate (2 * depth) ' '

/-- Parts between two brackets, each on a line of its own; the brackets touch when there is
nothing between them. -/
def jsonBlock (depth : Nat) (first last : Char) : List (List Char) → List Char
  | [] => [first, last]
  | parts => first :: jsonBreak (depth + 1) ++ joined (',' :: jsonBreak (depth + 1)) parts
      ++ jsonBreak depth ++ [last]

mutual

def jsonAt (depth : Nat) : Literal → List Char
  | null => "null".toList
  | bool true => "true".toList
  | bool false => "false".toList
  | int n => (toString n).toList
  | decimal d => d.text
  | text s => jsonText s
  | list items => jsonBlock depth '[' ']' (jsonItems (depth + 1) items)
  | record fields => jsonBlock depth '\x7b' '\x7d' (jsonFields (depth + 1) fields)

def jsonItems (depth : Nat) : List Literal → List (List Char)
  | [] => []
  | v :: vs => jsonAt depth v :: jsonItems depth vs

def jsonFields (depth : Nat) : List (String × Literal) → List (List Char)
  | [] => []
  | (k, v) :: fs => (jsonText k ++ ':' :: ' ' :: jsonAt depth v) :: jsonFields depth fs

end

def json (v : Literal) : String := String.ofList (v.jsonAt 0)

end Literal

end GrammarProject
