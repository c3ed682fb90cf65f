import GrammarProject.Markup.Document
import GrammarProject.Text.Charset
import GrammarProject.Text.Terminal

/-!
# The standard platform

A platform with the character sets of `Text.singleByteSets` and the marked forms of UTF-16 and
UTF-32. Its parser of documents is given parts of 16384 bytes. It gives up where the entities in the
text of a document make up more than a hundred times what has been read, and more than eight
megabytes, and it puts off a token that did not end in the part before. Its streams lead to no
terminal.
-/

namespace GrammarProject.Platform.Standard

open Markup Text

/-! ## Encodings -/

def unknownEncoding (name : String) : CodecFault := .unknown ("unknown encoding: " ++ name)

/-- A text that has to begin with a byte order mark, unless it is shorter than one unit. -/
def unmarked (unit : Nat) (fault : String) (bytes : List UInt8) : Decoded :=
  if bytes = [] then ⟨[], none⟩
  else if bytes.length < unit then ⟨[replacement], none⟩
  else ⟨[], some (.undecodable fault)⟩

def decodeMarked16 (bytes : List UInt8) : Decoded :=
  match bytes with
  | 0xff :: 0xfe :: rest => ⟨Utf16State.idle.decode .little rest, none⟩
  | 0xfe :: 0xff :: rest => ⟨Utf16State.idle.decode .big rest, none⟩
  | _ => unmarked 2 "UTF-16 stream does not start with BOM" bytes

/-- The characters of four-byte units, of which the first byte is the lowest. -/
def decodeUnits32 : List UInt8 → List Char
  | [] => []
  | a :: b :: c :: d :: rest =>
    let n := a.toNat + 256 * (b.toNat + 256 * (c.toNat + 256 * d.toNat))
    (if n.isValidChar then Char.ofNat n else replacement) :: decodeUnits32 rest
  | _ => [replacement]

/-- Four-byte units with their bytes in the opposite order. -/
def swapUnits32 : List UInt8 → List UInt8
  | a :: b :: c :: d :: rest => d :: c :: b :: a :: swapUnits32 rest
  | rest => rest

def decodeMarked32 (bytes : List UInt8) : Decoded :=
  match bytes with
  | 0xff :: 0xfe :: 0 :: 0 :: rest => ⟨decodeUnits32 rest, none⟩
  | 0 :: 0 :: 0xfe :: 0xff :: rest => ⟨decodeUnits32 (swapUnits32 rest), none⟩
  | _ => unmarked 4 "UTF-32 stream does not start with BOM" bytes

def decode (name : String) (bytes : List UInt8) : Decoded :=
  if name.toList.contains '\x00' then ⟨[], some (unknownEncoding name)⟩
  else if ["utf_16", "u16", "utf16"].contains (normalName name) then decodeMarked16 bytes
  else if ["utf_32", "u32", "utf32"].contains (normalName name) then decodeMarked32 bytes
  else match singleByteSets.find? (·.1.contains (normalName name)) with
    | some (_, upper) => ⟨bytes.map (byteChar upper), none⟩
    | none => ⟨[], some (unknownEncoding name)⟩

/-- The characters of all bytes, none for a set in which they are not as many. -/
def byteTable (name : String) : Except CodecFault (List Char) :=
  if wideNames.contains (normalName name) then .ok []
  else match singleByteSets.find? (·.1.contains (normalName name)) with
    | some (_, upper) => .ok (allBytes.map (byteChar upper))
    | none => .error (unknownEncoding name)

/-! ## Streams -/

def captured : Written → List Char
  | .shown text => withoutEscapes (text.toList ++ ['\n'])
  | .logged line => line.toList ++ ['\n']

def stream (written : List Written) : String :=
  String.ofList (plainBreaks (written.flatMap captured))

/-- The standard platform, except that documents are taken whatever their entities make up, and that
nothing is put off. -/
@[reducible]
def unlimited : Platform where
  decode := decode
  byteTable := byteTable
  overflow _ := none
  putOff _ := 0
  patternDepth := 980
  searchDepth := 980
  stream := stream

/-! ## Entities -/

/-- The size in bytes of a text with the texts of the entities in it, whose sizes are given. -/
def textSize (sizes : List (List Char × Nat)) : List Char → Nat
  | [] => 0
  | c :: cs =>
    let referred := if c = '&' then (sizes.lookup (cs.takeWhile (· ≠ ';'))).getD 0 else 0
    c.utf8Size + referred + textSize sizes cs

/-- The sizes of the texts of entities. Each round counts entities one level deeper. -/
def entitySizes (entities : List (List Char × Entity)) : List (List Char × Nat) :=
  entities.foldl (fun sizes _ => entities.filterMap fun
    | (name, .internal text) => some (name, textSize sizes text)
    | _ => none) []

structure Tally where
  reader : DocumentReader
  direct : Nat -- The bytes of the document itself
  indirect : Nat -- The bytes of the texts of entities
  refused : Option (Nat × Position)

namespace Tally

def first : Tally := ⟨.first, 0, 0, none⟩

/-- The entity whose text is to come, if the byte ends a reference to one in the text of the
document: how much it makes up, and the place of the reference. -/
def referred? (y : Tally) (b : UInt8) : Option (Content × Nat) :=
  match y.reader.scanner.region with
  | .content c =>
    match c.state with
    | .reference (.name reversed) =>
      if b = 0x3b then
        ((entitySizes c.definitions.entities).lookup reversed.reverse).map (c, ·)
      else none
    | _ => none
  | _ => none

def step (y : Tally) (b : UInt8) : Tally :=
  if y.refused.isSome || y.reader.stop.isSome then y
  else
    let direct := y.direct + 1
    let (added, refused) :=
      match y.referred? b with
      | none => (0, none)
      | some (c, size) =>
        let total := direct + y.indirect + size
        (size, if 0x800000 ≤ total ∧ 100 * direct < total then some (c.finished.length, c.start)
          else none)
    if refused.isSome then { y with refused }
    else ⟨@DocumentReader.step unlimited y.reader b, direct, y.indirect + added, none⟩

end Tally

/-- An element that ends in the text of the entity where the parser gives up is not counted. -/
def overflow (bytes : List UInt8) : Option (Nat × Position) :=
  (bytes.foldl Tally.step .first).refused

/-! ## Parts -/

/-- What the parser holds of a document. -/
structure Buffer where
  size : Nat -- How many bytes there is room for
  kept : Nat -- How many bytes before those that are not read yet are kept
  consumed : Nat -- How many bytes are read, up to the token that has not ended
  held : Nat -- How many bytes are not read yet
  before : Nat -- How many there were when the token in them last turned out not to end
  tried : Nat -- How many bytes have been looked at

namespace Buffer

def first : Buffer := ⟨0, 0, 0, 0, 0, 0⟩

/-- The least power of two times a size that is enough, in as many doublings at most. -/
def doubled (size needed : Nat) : Nat → Nat
  | 0 => size
  | times + 1 => if size < needed then doubled (2 * size) needed times else size

/-- Room for more bytes: those that are read are dropped but for some, or else the buffer grows. -/
def reserve (y : Buffer) (more : Nat) : Buffer :=
  if y.kept + y.held + more ≤ y.size then y
  else
    let kept := min y.kept 1024
    let needed := kept + y.held + more
    { y with
      kept
      size := if needed ≤ y.size then y.size else doubled (2 * max y.size 1024) needed needed }

/-- More bytes, behind which the token that has not ended starts at `token`. They are not looked at
before there are twice as many as the last time, unless the buffer would grow by the next part. -/
def feed (y : Buffer) (more token : Nat) : Buffer :=
  let y := y.reserve more
  let held := y.held + more
  if 2 * y.before ≤ held ∨ y.size < min y.kept 1024 + held + more then
    let read := token - y.consumed
    { y with
      kept := y.kept + read
      consumed := y.consumed + read
      held := held - read
      before := if read = 0 then held else 0
      tried := y.consumed + held }
  else { y with held }

end Buffer

/-- Where the token that is being read starts, none in text. -/
def openToken? (s : Scanner) : Option Position :=
  let outside (reader : TokenReader) : Option Position :=
    if reader.state = .gap then none else some reader.start
  match s.region with
  | .prologue _ reader => outside reader
  | .epilogue reader => outside reader
  | .content c =>
    match c.state with
    | .text .. => none
    | .section .. => none
    | _ => some c.start

/-- A document that is given in parts. -/
structure Parts where
  reader : DocumentReader
  count : Nat -- How many bytes have been read
  token : Nat -- Behind how many the token starts that is being read
  buffer : Buffer

namespace Parts

def first : Parts := ⟨.first, 0, 0, .first⟩

/-- How many bytes are read as characters. -/
def decoded (y : Parts) : Nat := y.count - y.reader.decoder.pending.length

/-- Behind how many bytes the token starts that has not ended, all that are decoded in text. -/
def tokenStart (y : Parts) : Nat :=
  if (openToken? y.reader.scanner).isSome then y.token else y.decoded

/-- The bytes since the last part are given to the parser. -/
def give (y : Parts) (more : Nat) : Parts := { y with buffer := y.buffer.feed more y.tokenStart }

def step (y : Parts) (b : UInt8) : Parts :=
  let reader := @DocumentReader.step unlimited y.reader b
  let token :=
    if openToken? reader.scanner = openToken? y.reader.scanner then y.token else y.decoded
  let y : Parts := { y with reader, token, count := y.count + 1 }
  if y.count % 0x4000 = 0 then y.give 0x4000 else y

end Parts

/-- How many bytes the parser has not looked at when it is given the last part. -/
def putOff (bytes : List UInt8) : Nat :=
  if bytes.length ≤ 0x4000 then 0
  else
    let y := bytes.foldl Parts.step .first
    let last := y.count % 0x4000
    let y := if last = 0 then y else y.give last
    bytes.length - y.buffer.tried

end Standard

scoped instance standard : Platform :=
  { Standard.unlimited with overflow := Standard.overflow, putOff := Standard.putOff }

end GrammarProject.Platform
