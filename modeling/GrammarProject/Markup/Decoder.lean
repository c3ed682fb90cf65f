import GrammarProject.Markup.NameChar
import GrammarProject.Text.Encoding

/-!
# Characters of a document

A document is read byte by byte. Its first two or three bytes tell UTF-8 from UTF-16; the XML
declaration may then name a single-byte character set. `Decoder.step` yields the characters that a
byte completes; a character that is ill-formed or that no document may hold is `illegal`.
-/

namespace GrammarProject.Markup

open GrammarProject.Text (ByteOrder)

/-- How the bytes of a document stand for characters. -/
inductive Charset where
  | utf8
  | utf16 (order : ByteOrder)
  /-- A character for each byte, U+FFFD for none. -/
  | singleByte (table : List Char)
deriving DecidableEq, Repr

inductive Symbol where
  /-- A byte order mark, which is no part of the text. -/
  | mark
  | char (c : Char)
  | illegal
deriving DecidableEq, Repr

def Symbol.ofChar (c : Char) : Symbol := if isLegal c then .char c else .illegal

def Symbol.ofNat (n : Nat) : Symbol :=
  match legalChar? n with
  | some c => .char c
  | none => .illegal

/-! ## Complete characters -/

/-- How many bytes a UTF-8 character takes that begins with this byte, 0 if none does. -/
def utf8Length (b : UInt8) : Nat :=
  if b < 0x80 then 1
  else if b < 0xc0 then 0
  else if b < 0xe0 then 2
  else if b < 0xf0 then 3
  else if b < 0xf5 then 4
  else 0

def utf8Symbol (bs : List UInt8) : Symbol :=
  match (Text.Encoding.utf8 false).decode bs with
  | [c] => if c = Text.replacement ∧ bs ≠ [0xef, 0xbf, 0xbd] then .illegal else .ofChar c
  | _ => .illegal

/-- The symbol of a two-byte unit that is no leading surrogate. -/
def unitSymbol (u : Nat) : Symbol := if Text.isTrailing u then .illegal else .ofNat u

/-- The symbol of a leading surrogate and the unit behind it, of which the low ten bits count. -/
def pairSymbol (u v : Nat) : Symbol := .ofNat (0x10000 + (u - 0xd800) * 0x400 + v % 0x400)

def byteSymbol (table : List Char) (b : UInt8) : Symbol :=
  let c := table.getD b.toNat Text.replacement
  if c = Text.replacement then .illegal else .ofChar c

/-- The symbol that some bytes make up, once they are complete. -/
def Charset.complete? : Charset → List UInt8 → Option Symbol
  | .utf8, bs =>
    match bs with
    | [] => none
    | b :: _ =>
      if utf8Length b = 0 then some .illegal
      else if utf8Length b ≤ bs.length then some (utf8Symbol bs)
      else none
  | .utf16 order, bs =>
    match bs with
    | [a, b] => if Text.isLeading (order.unit a b) then none else some (unitSymbol (order.unit a b))
    | [a, b, c, d] => some (pairSymbol (order.unit a b) (order.unit c d))
    | _ => none
  | .singleByte table, bs =>
    match bs with
    | [] => none
    | b :: _ => some (byteSymbol table b)

/-! ## Byte by byte -/

/-- A decoder: the charset once it is known, and the bytes that are not complete yet. -/
structure Decoder where
  charset : Option Charset
  pending : List UInt8
deriving DecidableEq, Repr

def Decoder.first : Decoder := ⟨none, []⟩

namespace Decoder

/-- The symbols that some bytes complete in a charset, and the bytes left over. -/
def complete (cs : Charset) (pending : List UInt8) : List UInt8 → List Symbol × List UInt8
  | [] => ([], pending)
  | b :: bs =>
    match cs.complete? (pending ++ [b]) with
    | none => complete cs (pending ++ [b]) bs
    | some s =>
      let (ss, rest) := complete cs [] bs
      (s :: ss, rest)

def decided (cs : Charset) (bs : List UInt8) : List Symbol × Decoder :=
  let (ss, rest) := complete cs [] bs
  (ss, ⟨some cs, rest⟩)

def decidedByMark (cs : Charset) : List Symbol × Decoder := ([.mark], ⟨some cs, []⟩)

/-- The charset that the first bytes of a document show, when there are enough of them. -/
def detect (bs : List UInt8) : Option (List Symbol × Decoder) :=
  if bs.length < 2 ∨ bs = [0xef, 0xbb] then none
  else if bs = [0xef, 0xbb, 0xbf] then some (decidedByMark .utf8)
  else if bs = [0xfe, 0xff] then some (decidedByMark (.utf16 .big))
  else if bs = [0xff, 0xfe] then some (decidedByMark (.utf16 .little))
  else match bs with
    | [a, b] =>
      if a = 0 then some (decided (.utf16 .big) bs)
      else if b = 0 then some (decided (.utf16 .little) bs)
      else some (decided .utf8 bs)
    | _ => some (decided .utf8 bs)

/-- One byte further: the symbols it completes, and the decoder behind it. -/
def step (d : Decoder) (b : UInt8) : List Symbol × Decoder :=
  match d.charset with
  | none => (detect (d.pending ++ [b])).getD ([], { d with pending := d.pending ++ [b] })
  | some cs =>
    let (ss, rest) := complete cs d.pending [b]
    (ss, { d with pending := rest })

/-- The bytes with which a byte order mark or a two-byte unit may begin. -/
def undecidedBytes : List UInt8 := [0, 0xef, 0xfe, 0xff]

/-- At the end of the document: the only byte of it is UTF-8 unless more were to come. -/
def settle (d : Decoder) : List Symbol × Decoder :=
  match d.charset, d.pending with
  | none, [b] => if undecidedBytes.contains b then ([], d) else decided .utf8 [b]
  | _, _ => ([], d)

/-- Whether the document ends within a character: `none` when it does not, and otherwise whether
the charset can tell, which it cannot from the first bytes or from half a two-byte unit. -/
def cutCharacter? (d : Decoder) : Option Bool :=
  match d.pending, d.charset with
  | [], _ => none
  | _, none => some false
  | [_], some (.utf16 _) => some false
  | _, some _ => some true

end Decoder

end GrammarProject.Markup
