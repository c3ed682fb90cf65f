import GrammarProject.Markup.Decoder
import GrammarProject.Markup.Scanner
import GrammarProject.Platform

/-!
# Documents

`Document.inFull` gives the elements of a document in the order of their end tags, and what ends
the reading early if anything does: the elements whose end tag stands before that are there. The
bytes are taken one by one (`DocumentReader.step`), so what is read from the start of a document
does not depend on what follows. `Document.ofBytes` is the document as the parser of the platform
hands it over, which may give up at an entity and may keep elements back.
-/

namespace GrammarProject.Markup

variable [Platform]

/-- What ends the reading of a document early. -/
inductive Stop where
  | fault (f : Fault)
  /-- The encoding that the XML declaration names cannot be used. -/
  | codec (fault : Text.CodecFault)
  /-- The XML declaration names an encoding in which a character may take several bytes and that
  documents are not read in. -/
  | wideEncoding
deriving DecidableEq, Repr

/-! ## Declared encodings -/

/-- How many bytes the smallest character takes. -/
def Charset.unitBytes : Charset → Nat
  | .utf16 _ => 2
  | _ => 1

/-- The charsets that every reader of documents knows, by name in small letters; none is UTF-16
in either byte order. -/
def Charset.standard? (name : String) : Option (Option Charset) :=
  if name = "utf-8" then some (some .utf8)
  else if name = "utf-16" then some none
  else if name = "utf-16be" then some (some (.utf16 .big))
  else if name = "utf-16le" then some (some (.utf16 .little))
  else if name = "iso-8859-1" then
    some (some (.singleByte (Text.Encoding.latin1.decode Text.allBytes)))
  else if name = "us-ascii" then
    some (some (.singleByte (Text.Encoding.ascii.decode Text.allBytes)))
  else none

/-- Whether only the byte of the same number may stand for the ASCII character of a number: all that
markup is made of. -/
def isFixedCode (n : Nat) : Bool :=
  n < 0x80 && (0x20 ≤ n || [0x9, 0xa, 0xd].contains n) &&
    ! (['$', '@', '\\', '^', '`', '{', '}', '~', '\x7f'].contains (Char.ofNat n))

/-- Whether a byte may stand for a character in a document; U+FFFD is none. -/
def mayStandFor (b : Nat) (c : Char) : Bool :=
  c.toNat = b ||
    !isFixedCode b && (c = Text.replacement || !isFixedCode c.toNat && c.toNat ≤ 0xffff)

/-- Any other charset by its name, which stands at `place`. -/
def Charset.further (name : String) (place : Position) : Except Stop Charset :=
  match Text.byteTable name with
  | .error fault => .error (.codec fault)
  | .ok table =>
    if table.length ≠ 256 then .error .wideEncoding
    else if (table.zipIdx.all fun entry => mayStandFor entry.2 entry.1) then .ok (.singleByte table)
    else .error (.fault ⟨.unknownByteEncoding, place⟩)

/-- The charset of a document that began in one charset and declares one by name: of the standard
ones only one that fits the bytes read so far. -/
def Charset.declared (current : Charset) (name : List Char) (place : Position) :
    Except Stop Charset :=
  match Charset.standard? (String.ofList (name.map Char.toLower)) with
  | none => Charset.further (String.ofList name) place
  | some none =>
    if current.unitBytes = 2 then .ok current else .error (.fault ⟨.incorrectEncoding, place⟩)
  | some (some cs) =>
    if cs = current ∨ (cs.unitBytes = 1 ∧ current.unitBytes = 1) then .ok cs
    else .error (.fault ⟨.incorrectEncoding, place⟩)

/-! ## Byte by byte -/

/-- What is known behind a byte of a document. -/
structure DocumentReader where
  decoder : Decoder
  cursor : Cursor
  /-- The place where each byte counts as a character. -/
  byteCursor : Cursor
  scanner : Scanner
  stop : Option Stop
deriving Repr

/-- A document: its elements in the order of their end tags, and what ended the reading early. -/
structure Document where
  elements : List Element
  stop : Option Stop
deriving Repr

namespace DocumentReader

def first : DocumentReader := ⟨.first, .first, .first, .first, none⟩

/-- The reader with the charset that the XML declaration names. Places are counted in the
characters of that charset, back to the start of the document. -/
def declare (r : DocumentReader) : DocumentReader :=
  match r.scanner.encoding, r.decoder.charset with
  | some (name, place), some current =>
    let r := { r with scanner := { r.scanner with encoding := none } }
    match Charset.declared current name place with
    | .error stop => { r with stop := some stop }
    | .ok cs =>
      let cursor := match cs with
        | .singleByte _ => r.byteCursor
        | _ => r.cursor
      { r with decoder := { r.decoder with charset := some cs }, cursor }
  | _, _ => r

/-- The fault of the scanner ends the reading. -/
def heed (r : DocumentReader) : DocumentReader :=
  match r.scanner.fault with
  | some f => { r with stop := some (.fault f) }
  | none => r

def symbol (r : DocumentReader) (s : Symbol) : DocumentReader :=
  if r.stop.isSome then r
  else match s with
    | .mark => { r with cursor := r.cursor.advance none }
    | .illegal => heed { r with scanner := r.scanner.illegal r.cursor.position }
    | .char c =>
      let scanner := r.scanner.step ⟨c, r.cursor.position⟩
      heed (declare { r with scanner, cursor := r.cursor.advance (some c) })

def step (r : DocumentReader) (b : UInt8) : DocumentReader :=
  let (symbols, decoder) := r.decoder.step b
  symbols.foldl symbol
    { r with decoder, byteCursor := r.byteCursor.advance (some (Char.ofNat b.toNat)) }

def ending (r : DocumentReader) : Option Stop :=
  let place := r.cursor.position
  match r.stop, r.decoder.cutCharacter? with
  | some stop, _ => some stop
  | none, none => (r.scanner.ending place).map .fault
  | none, some isCharacter => some (.fault (r.scanner.endingWithin isCharacter place))

def finish (r : DocumentReader) : Document :=
  let (symbols, decoder) := r.decoder.settle
  let r := symbols.foldl symbol { r with decoder }
  ⟨r.scanner.elements, r.ending⟩

end DocumentReader

/-! ## Documents as a whole -/

def Scanner.knowsEntity (s : Scanner) : Bool :=
  match s.region with
  | .prologue p _ => !p.definitions.entities.isEmpty
  | .content c => !c.definitions.entities.isEmpty
  | .epilogue _ => false

/-- Whether an entity is declared by now or somewhere in what follows. -/
def DocumentReader.meetsEntity (r : DocumentReader) : List UInt8 → Bool
  | [] => r.scanner.knowsEntity
  | b :: bs => r.scanner.knowsEntity || (r.step b).meetsEntity bs

namespace Document

/-- The document that some bytes stand for. -/
def inFull (bytes : List UInt8) : Document := (bytes.foldl DocumentReader.step .first).finish

/-- The bytes that the parser does not put off. -/
def readAtOnce (bytes : List UInt8) : List UInt8 :=
  bytes.take (bytes.length - Platform.putOff bytes)

/-- The document without the elements that the parser keeps back: if something is wrong in the bytes
that it puts off, or with the end, the elements that end in these bytes get lost. -/
def handedOver (bytes : List UInt8) : Document :=
  let d := inFull bytes
  if d.stop.isSome then
    { d with elements := ((readAtOnce bytes).foldl DocumentReader.step .first).scanner.elements }
  else d

/-- Where the parser gives up, and how many elements it hands over before. Without entities there is
nothing that could make up too much text. -/
def refusal? (bytes : List UInt8) : Option (Nat × Position) :=
  if DocumentReader.first.meetsEntity bytes then Platform.overflow bytes else none

/-- The document as the parser hands it over. -/
def ofBytes (bytes : List UInt8) : Document :=
  match refusal? bytes with
  | some (n, place) => ⟨(inFull bytes).elements.take n, some (.fault ⟨.overflow, place⟩)⟩
  | none => handedOver bytes

end Document

end GrammarProject.Markup
