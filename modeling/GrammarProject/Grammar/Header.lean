import GrammarProject.Failure
import GrammarProject.Platform
import GrammarProject.Text.Blank
import GrammarProject.Text.Lines

/-!
# Grammar headers

The header of a grammar file is its first line that starts with a header keyword, not counting
white space. `Grammar.read` classifies a file by its header; the rest of the file does not matter,
but for a decoder that gives up before the header is there.
-/

namespace GrammarProject.Grammar

/-- The keywords that start a header, and the kind that each of them declares. -/
def headerKeywords : List (List Char × Kind) :=
  [("grammar".toList, .combined), ("lexer".toList, .lexer), ("parser".toList, .parser)]

def kindOfLine? (line : List Char) : Option Kind :=
  (headerKeywords.find? fun k => k.1.isPrefixOf line).map (·.2)

/-- The part of a header that counts: what stands before the first semicolon. -/
def declaration (line : List Char) : List Char := line.takeWhile (· ≠ ';')

/-- The grammar that a header line declares: its name is the last word of the declaration, and
not the only one. -/
def ofHeader (line : List Char) (kind : Kind) (file : Path) : Except Failure Grammar :=
  match Text.words (declaration line) with
  | _ :: w :: ws => .ok ⟨String.ofList ((w :: ws).getLast (by simp)), file, kind⟩
  | _ => .error (.unnamedHeader file (String.ofList (declaration line)))

def ofText (file : Path) (text : List Char) : Except Failure Grammar :=
  match ((Text.lines text).map Text.trim).find? fun line => (kindOfLine? line).isSome with
  | none => .error (.missingHeader file)
  | some line =>
    match kindOfLine? line with
    | none => .error (.missingHeader file)
    | some kind => ofHeader line kind file

/-- The grammar of a file whose bytes have been decoded, as far as they can be. -/
def ofDecoded (file : Path) (d : Text.Decoded) : Except Failure Grammar :=
  match ofText file d.text, d.fault with
  | .error (.missingHeader _), some fault => .error (.codec fault)
  | result, _ => result

def read [Platform] (t : FileTree) (file : Path) (encoding : String) : Except Failure Grammar :=
  if encoding.toList.contains '\x00' then .error .unusableEncoding
  else match t.contentOf file.toString with
    | .error cause => .error (.access file cause)
    | .ok content => ofDecoded file (Text.decode encoding content)

end GrammarProject.Grammar
