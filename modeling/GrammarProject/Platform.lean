import GrammarProject.Markup.Position
import GrammarProject.Text.Codec
import GrammarProject.Text.Encoding

/-!
# The platform

What the program finds where it runs: the encodings that are known besides the common ones, how much
a parser of documents takes, how deep a search may lead, and what a standard stream makes of what is
written to it. Nothing is assumed about a platform, so what holds on every platform does not depend
on any of this.
-/

namespace GrammarProject

/-- What a command writes to a standard stream. -/
inductive Written where
  /-- A text that is handed over to be shown on a line of its own. -/
  | shown (text : String)
  /-- A line of the log, which is written as it is. -/
  | logged (line : String)
deriving DecidableEq, Repr

class Platform where
  /-- What the bytes of a file stand for in a further encoding, which may be unknown. -/
  decode : String → List UInt8 → Text.Decoded
  /-- What the bytes from 0 to 255 stand for together in a further encoding. -/
  byteTable : String → Except Text.CodecFault (List Char)
  /-- Whether the entities of a document make up more text than its parser takes: how many elements
  end before the parser gives up, and the place where it does. -/
  overflow : List UInt8 → Option (Nat × Markup.Position)
  /-- How many bytes at the end of a document its parser looks at only when it is told that there
  are no more. -/
  putOff : List UInt8 → Nat
  /-- How many names may stand behind the first wildcard of a path pattern. -/
  patternDepth : Nat
  /-- How many directories a search may go down from where it starts. -/
  searchDepth : Nat
  /-- What stands on a standard stream in the end. -/
  stream : List Written → String

namespace Text

variable [Platform]

/-- What the bytes of a file stand for in the encoding of a name. -/
def decode (encoding : String) (bytes : List UInt8) : Decoded :=
  match Encoding.named? encoding with
  | some e => ⟨e.decode bytes, none⟩
  | none => Platform.decode encoding bytes

theorem decode_of_named? {encoding : String} {e : Encoding} (h : Encoding.named? encoding = some e)
    (bytes : List UInt8) : decode encoding bytes = ⟨e.decode bytes, none⟩ := by
  rw [decode, h]

def allBytes : List UInt8 := (List.range 256).map UInt8.ofNat

/-- What all bytes stand for together in the encoding of a name. -/
def byteTable (encoding : String) : Except CodecFault (List Char) :=
  match Encoding.named? encoding with
  | some e => .ok (e.decode allBytes)
  | none => Platform.byteTable encoding

end Text

end GrammarProject
