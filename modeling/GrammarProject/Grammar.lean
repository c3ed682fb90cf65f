import GrammarProject.Literal
import GrammarProject.Path

/-!
# Grammars

A grammar file declares a grammar of one of three kinds: a parser, a lexer, or both in one.
-/

namespace GrammarProject

/-- What a grammar describes. -/
inductive Grammar.Kind where
  | parser
  | lexer
  | combined
deriving DecidableEq, Repr

/-- A grammar: its name, the file that declares it and its kind. -/
structure Grammar where
  name : String
  file : Path
  kind : Grammar.Kind
deriving DecidableEq, Repr

namespace Grammar.Kind

def name : Kind → String
  | parser => "PARSER"
  | lexer => "LEXER"
  | combined => "COMBINED"

/-- All kinds, in the order of their names. -/
def all : List Kind := [combined, lexer, parser]

theorem mem_all (k : Kind) : k ∈ all := by cases k <;> simp [all]

def ofName? (s : String) : Option Kind := all.find? (·.name = s)

def ofLiteral? : Literal → Option Kind
  | .text s => ofName? s
  | _ => none

end Grammar.Kind

end GrammarProject
