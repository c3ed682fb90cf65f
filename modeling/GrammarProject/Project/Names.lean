import GrammarProject.Grammar.Files
import GrammarProject.Project

/-!
# Derived names

The names of the parser, the lexer and the listener that are generated from a project, and the
files. A parser comes from the parser grammar or else from the combined one, a lexer likewise.
-/

namespace GrammarProject.Project

/-- The name of the parser grammar without its suffix, or that of the combined grammar. -/
def parserBaseName (p : Project) : Except Failure String :=
  match p.find? .parser, p.find? .combined with
  | some g, _ => .ok (Grammar.parserStem g.name)
  | none, some g => .ok g.name
  | none, none => .error (.missingParser p.fileName)

/-- The name of the lexer grammar without its suffix, or that of the combined grammar. -/
def lexerBaseName (p : Project) : Except Failure String :=
  match p.find? .lexer, p.find? .combined with
  | some g, _ => .ok (Grammar.lexerStem g.name)
  | none, some g => .ok g.name
  | none, none => .error (.missingLexer p.fileName)

def parserName (p : Project) : Except Failure String := p.parserBaseName.map (· ++ "Parser")

def lexerName (p : Project) : Except Failure String := p.lexerBaseName.map (· ++ "Lexer")

def listenerGrammar? (p : Project) : Option Grammar :=
  (p.find? .parser).or (p.find? .combined)

/-- The name of the generated listener, which keeps the suffix of the parser grammar. -/
def listenerName (p : Project) : Except Failure String :=
  match p.listenerGrammar? with
  | some g => .ok (g.name ++ "Listener")
  | none => .error (.missingParser p.fileName)

def generatedFiles (p : Project) (extension : String) : List String :=
  p.grammars.flatMap (·.files extension)

end GrammarProject.Project
