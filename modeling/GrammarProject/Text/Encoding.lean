/-!
# Decoding bytes

`Encoding.decode` turns the bytes of a file into text. Bytes that do not decode become U+FFFD: in
UTF-8 one for each maximal part of an ill-formed sequence, in UTF-16 one for each unpaired
surrogate and one for what is left over at the end. `Encoding.named?` has the encodings that are
known everywhere by their names, which are compared as `normalName` writes them.
-/

namespace GrammarProject.Text

inductive ByteOrder where
  | little
  | big
deriving DecidableEq, Repr

/-- The two-byte unit of two consecutive bytes. -/
def ByteOrder.unit : ByteOrder → (first second : UInt8) → Nat
  | .little, a, b => a.toNat + 256 * b.toNat
  | .big, a, b => 256 * a.toNat + b.toNat

inductive Encoding where
  | utf8 (marked : Bool) -- UTF-8; `marked` drops a byte order mark at the start
  | utf16 (order : ByteOrder)
  | singleByte (upper : List Char) -- ASCII below 0x80, and these 128 characters above
deriving DecidableEq, Repr

/-- The character that stands for bytes that do not decode. -/
def replacement : Char := '\ufffd'

/-! ## UTF-8 -/

/-- Where a UTF-8 decoder stands between two bytes. -/
inductive Utf8State where
  | idle -- Between two characters
  /-- Inside a character: `left` more bytes are due, of which the next lies between `low` and
  `high`; `value` holds the bits so far. -/
  | inside (left : Nat) (value low high : Nat)
deriving DecidableEq, Repr

namespace Utf8State

def start (b : Nat) : List Char × Utf8State :=
  if b < 0x80 then ([Char.ofNat b], idle)
  else if 0xc2 ≤ b ∧ b ≤ 0xdf then ([], inside 1 (b - 0xc0) 0x80 0xbf)
  else if b = 0xe0 then ([], inside 2 0 0xa0 0xbf)
  else if b = 0xed then ([], inside 2 0xd 0x80 0x9f)
  else if 0xe1 ≤ b ∧ b ≤ 0xef then ([], inside 2 (b - 0xe0) 0x80 0xbf)
  else if b = 0xf0 then ([], inside 3 0 0x90 0xbf)
  else if 0xf1 ≤ b ∧ b ≤ 0xf3 then ([], inside 3 (b - 0xf0) 0x80 0xbf)
  else if b = 0xf4 then ([], inside 3 4 0x80 0x8f)
  else ([replacement], idle)

def step : Utf8State → Nat → List Char × Utf8State
  | idle, b => start b
  | inside left value low high, b =>
    if low ≤ b ∧ b ≤ high then
      let value := value * 64 + b % 64
      if left ≤ 1 then ([Char.ofNat value], idle) else ([], inside (left - 1) value 0x80 0xbf)
    else (replacement :: (start b).1, (start b).2)

/-- The text of the bytes from here on. -/
def decode : Utf8State → List UInt8 → List Char
  | idle, [] => []
  | inside .., [] => [replacement]
  | s, b :: bs => (step s b.toNat).1 ++ decode (step s b.toNat).2 bs

end Utf8State

/-! ## UTF-16 -/

/-- Where a UTF-16 decoder stands between two bytes. -/
inductive Utf16State where
  | idle -- Between two characters
  | half (first : UInt8) -- After the first byte of a unit
  | leading (unit : Nat) -- After a leading surrogate
  /-- After a leading surrogate and the first byte of another unit. -/
  | leadingHalf (unit : Nat) (first : UInt8)
deriving DecidableEq, Repr

def isLeading (u : Nat) : Bool := 0xd800 ≤ u && u ≤ 0xdbff

def isTrailing (u : Nat) : Bool := 0xdc00 ≤ u && u ≤ 0xdfff

namespace Utf16State

def start (u : Nat) : List Char × Utf16State :=
  if isLeading u then ([], leading u)
  else if isTrailing u then ([replacement], idle)
  else ([Char.ofNat u], idle)

def step (order : ByteOrder) : Utf16State → UInt8 → List Char × Utf16State
  | idle, b => ([], half b)
  | half a, b => start (order.unit a b)
  | leading u, b => ([], leadingHalf u b)
  | leadingHalf u a, b =>
    let v := order.unit a b
    if isTrailing v then ([Char.ofNat (0x10000 + (u - 0xd800) * 0x400 + (v - 0xdc00))], idle)
    else (replacement :: (start v).1, (start v).2)

def decode (order : ByteOrder) : Utf16State → List UInt8 → List Char
  | idle, [] => []
  | _, [] => [replacement]
  | s, b :: bs => (step order s b).1 ++ decode order (step order s b).2 bs

end Utf16State

/-! ## Encodings -/

def byteChar (upper : List Char) (b : UInt8) : Char :=
  if b.toNat < 0x80 then Char.ofNat b.toNat else upper.getD (b.toNat - 0x80) replacement

/-- The upper half of Latin-1: each byte is its own code point. -/
def latin1Upper : List Char := (List.range 128).map fun n => Char.ofNat (n + 128)

/-- The upper half of ASCII: nothing is assigned. -/
def asciiUpper : List Char := List.replicate 128 '\ufffd'

namespace Encoding

def withoutMark (bs : List UInt8) : List UInt8 :=
  if [0xef, 0xbb, 0xbf].isPrefixOf bs then bs.drop 3 else bs

def decode : Encoding → List UInt8 → List Char
  | utf8 false, bs => Utf8State.idle.decode bs
  | utf8 true, bs => Utf8State.idle.decode (withoutMark bs)
  | utf16 order, bs => Utf16State.idle.decode order bs
  | singleByte upper, bs => bs.map (byteChar upper)

def latin1 : Encoding := singleByte latin1Upper

def ascii : Encoding := singleByte asciiUpper

end Encoding

/-! ## Names -/

/-- Whether the character stands in a normal name as it is, but for its case. -/
def isNameCharacter (c : Char) : Bool := c.isAlphanum || c = '.'

/-- The normal form of the rest of a name; `pending` tells whether other characters stand right
before it. -/
def normalRest (pending : Bool) : List Char → List Char
  | [] => []
  | c :: cs =>
    if !isNameCharacter c then normalRest true cs
    else if pending then '_' :: c.toLower :: normalRest false cs
    else c.toLower :: normalRest false cs

/-- A name in lower case in which each run of other characters than letters, digits and full
stops is one underscore. -/
def normalName (name : String) : String :=
  String.ofList (normalRest false (name.toList.dropWhile (!isNameCharacter ·)))

def utf8Names : List String :=
  ["utf_8", "cp65001", "u8", "utf", "utf8", "utf8_ucs2", "utf8_ucs4"]

def latin1Names : List String :=
  ["latin_1", "8859", "cp819", "csisolatin1", "ibm819", "iso8859", "iso8859_1", "iso_8859_1",
   "iso_8859_1_1987", "iso_ir_100", "l1", "latin", "latin1"]

def asciiNames : List String :=
  ["ascii", "646", "ansi_x3.4_1968", "ansi_x3.4_1986", "ansi_x3_4_1968", "cp367", "csascii",
   "ibm367", "iso646_us", "iso_646.irv_1991", "iso_ir_6", "us", "us_ascii"]

/-- The encoding of a name, if it is one that is known everywhere. -/
def Encoding.named? (name : String) : Option Encoding :=
  let norm := normalName name
  if name.toList.contains '\x00' then none
  else if utf8Names.contains norm then some (utf8 false)
  else if norm = "utf_8_sig" then some (utf8 true)
  else if ["utf_16_le", "utf_16le", "unicodelittleunmarked"].contains norm then some (utf16 .little)
  else if ["utf_16_be", "utf_16be", "unicodebigunmarked"].contains norm then some (utf16 .big)
  else if latin1Names.contains norm then some latin1
  else if asciiNames.contains norm then some ascii
  else none

end GrammarProject.Text
