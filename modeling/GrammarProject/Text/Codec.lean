/-!
# What decoding yields

A decoder may give up, because nothing is known by the name of an encoding or because the bytes are
none that it reads, whatever may stand for bytes that do not decode.
-/

namespace GrammarProject.Text

/-- Why bytes are not decoded, in the words of the decoder. -/
inductive CodecFault where
  /-- No encoding of texts has the name. -/
  | unknown (message : String)
  | undecodable (message : String)
deriving DecidableEq, Repr

/-- What a decoder makes of the bytes of a file. -/
structure Decoded where
  /-- The text, as far as whole lines of it are there before the decoder gives up. -/
  text : List Char
  fault : Option CodecFault
deriving DecidableEq, Repr

end GrammarProject.Text
