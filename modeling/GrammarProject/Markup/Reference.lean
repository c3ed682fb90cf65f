import GrammarProject.Markup.Advance
import GrammarProject.Markup.NameChar
import GrammarProject.Markup.Fault

/-!
# References

A reference names an entity (`&name;`) or gives a character by its number (`&#65;`, `&#x41;`).
`ReferenceState` reads one character by character from behind the `&`.
-/

namespace GrammarProject.Markup

inductive Reference where
  | named (name : List Char)
  /-- A character by its number, `none` for a number that is no legal character. -/
  | numbered (c : Option Char)
deriving DecidableEq, Repr

inductive ReferenceState where
  | start -- Behind `&`
  | name (reversed : List Char) -- In a name, held last character first
  | number -- Behind `&#`
  | decimal (value : Nat) -- In a decimal number
  | hexStart -- Behind `&#x`
  | hex (value : Nat) -- In a hexadecimal number
deriving DecidableEq, Repr

/-- A number that is past all code points stays there. -/
def boundedNumber (n : Nat) : Nat := min n 0x110000

def hexValue? (c : Char) : Option Nat :=
  if c.isDigit then some (c.toNat - '0'.toNat)
  else if 'a' ≤ c ∧ c ≤ 'f' then some (c.toNat - 'a'.toNat + 10)
  else if 'A' ≤ c ∧ c ≤ 'F' then some (c.toNat - 'A'.toNat + 10)
  else none

def ReferenceState.step : ReferenceState → Char → Advance ReferenceState Reference
  | start, c =>
    if c = '#' then .more number else if isNameStart c then .more (name [c]) else .invalid
  | name r, c =>
    if c = ';' then .done (.named r.reverse)
    else if isNameChar c then .more (name (c :: r)) else .invalid
  | number, c =>
    if c = 'x' then .more hexStart
    else if c.isDigit then .more (decimal (c.toNat - '0'.toNat)) else .invalid
  | decimal n, c =>
    if c = ';' then .done (.numbered (legalChar? n))
    else if c.isDigit then .more (decimal (boundedNumber (10 * n + (c.toNat - '0'.toNat))))
    else .invalid
  | hexStart, c =>
    match hexValue? c with
    | some d => .more (hex d)
    | none => .invalid
  | hex n, c =>
    if c = ';' then .done (.numbered (legalChar? n))
    else match hexValue? c with
      | some d => .more (hex (boundedNumber (16 * n + d)))
      | none => .invalid

/-- The character that a name stands for in every document. -/
def predefined? (name : List Char) : Option Char :=
  if name = ['l', 't'] then some '<'
  else if name = ['g', 't'] then some '>'
  else if name = ['a', 'm', 'p'] then some '&'
  else if name = ['q', 'u', 'o', 't'] then some '"'
  else if name = ['a', 'p', 'o', 's'] then some '\''
  else none

/-! ## Texts with references -/

/-- A part of a value: a character, or a reference and where its `&` stands. -/
inductive Piece where
  | char (c : Char)
  | reference (r : Reference) (place : Position)
deriving DecidableEq, Repr

inductive ValueState where
  | between
  | inReference (state : ReferenceState) (place : Position)
  /-- In a parameter entity reference: nothing of its name read yet, or some. -/
  | inParameter (named : Bool) (place : Position)
deriving DecidableEq, Repr

/-- Which values may hold what. -/
inductive ValueKind where
  | ofAttribute -- An attribute value, which may not hold `<`
  | ofEntity -- An entity value, in which `%` starts a parameter entity reference
deriving DecidableEq, Repr

/-- The pieces of a value from here on, and the fault that ends them, if one does. -/
def piecesFrom (kind : ValueKind) : ValueState → List Located → List Piece × Option Fault
  | .between, [] => ([], none)
  | .inReference _ place, [] => ([], some ⟨.invalidToken, place⟩)
  | .inParameter _ place, [] => ([], some ⟨.invalidToken, place⟩)
  | .between, l :: ls =>
    if l.char = '&' then piecesFrom kind (.inReference .start l.place) ls
    else if l.char = '<' ∧ kind = .ofAttribute then ([], some ⟨.invalidToken, l.place⟩)
    else if l.char = '%' ∧ kind = .ofEntity then piecesFrom kind (.inParameter false l.place) ls
    else
      let (ps, fault) := piecesFrom kind .between ls
      (.char l.char :: ps, fault)
  | .inReference s place, l :: ls =>
    match s.step l.char with
    | .more s => piecesFrom kind (.inReference s place) ls
    | .invalid => ([], some ⟨.invalidToken, l.place⟩)
    | .done r =>
      let (ps, fault) := piecesFrom kind .between ls
      (.reference r place :: ps, fault)
  | .inParameter named place, l :: ls =>
    if named then
      if l.char = ';' then ([], some ⟨.parameterReference, place⟩)
      else if isNameChar l.char then piecesFrom kind (.inParameter true place) ls
      else ([], some ⟨.invalidToken, l.place⟩)
    else if isNameStart l.char then piecesFrom kind (.inParameter true place) ls
    else ([], some ⟨.invalidToken, l.place⟩)

/-- The pieces of a value, and the fault that ends them, if one does. -/
def pieces (kind : ValueKind) (value : List Located) : List Piece × Option Fault :=
  piecesFrom kind .between value

end GrammarProject.Markup
