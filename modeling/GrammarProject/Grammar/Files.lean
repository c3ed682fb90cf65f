import GrammarProject.Grammar
import GrammarProject.Text.LowerCase

/-!
# Generated files

The names of the files that are generated from a grammar. They are in lower case; the file of a
parser or lexer drops the suffix that the name of its grammar may have.
-/

namespace GrammarProject.Grammar

/-- The text without a suffix, if it ends in it. -/
def dropSuffix (suffix text : List Char) : List Char :=
  if suffix.isSuffixOf text then text.take (text.length - suffix.length) else text

def parserSuffix : List Char := "Parser".toList

def lexerSuffix : List Char := "Lexer".toList

def parserStem (name : String) : String := String.ofList (dropSuffix parserSuffix name.toList)

def lexerStem (name : String) : String := String.ofList (dropSuffix lexerSuffix name.toList)

def listenerFiles (name : String) : List String :=
  [Text.lowered name ++ "_base_listener", Text.lowered name ++ "_listener"]

def parserFile (stem : String) : String := Text.lowered stem ++ "_parser"

def lexerFile (stem : String) : String := Text.lowered stem ++ "_lexer"

/-- The files generated from a grammar, without extension. -/
def fileStems (g : Grammar) : List String :=
  match g.kind with
  | .parser => listenerFiles g.name ++ [parserFile (parserStem g.name)]
  | .lexer => [lexerFile (lexerStem g.name)]
  | .combined => listenerFiles g.name ++ [parserFile g.name, lexerFile g.name]

def files (g : Grammar) (extension : String) : List String := g.fileStems.map (· ++ extension)

end GrammarProject.Grammar
