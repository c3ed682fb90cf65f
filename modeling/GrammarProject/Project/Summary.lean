import GrammarProject.Project.Names

/-!
# Summaries

A project as a record of literals, in a fixed order of fields. A name that cannot be derived is
null.
-/

namespace GrammarProject

def Path.literals (ps : List Path) : Literal := .list (ps.map fun p => .text p.toString)

def Grammar.summary (g : Grammar) : Literal :=
  .record [("name", .text g.name), ("filename", .text g.file.toString), ("type", .text g.kind.name)]

def Literal.ofResult : Except Failure String → Literal
  | .ok s => .text s
  | .error _ => .null

namespace Draft

def fields (d : Draft) : List (String × Literal) :=
  [("file_name", .text d.fileName),
   ("long_name", .text d.longName),
   ("includes", Path.literals d.includes),
   ("grammars", .list (d.grammars.map Grammar.summary)),
   ("entry_point", .text d.entryPoint),
   ("example_root", .text d.exampleRoot),
   ("examples", Path.literals d.examples),
   ("case_insensitive_type", .text d.caseInsensitiveType),
   ("found_antlr4_maven_plugin", .bool d.usesPlugin)]

def summary (d : Draft) : Literal := .record d.fields

end Draft

namespace Project

/-- The fields of a project: those of its draft and what is derived from it. -/
def fields (p : Project) (extension : String) : List (String × Literal) :=
  p.toDraft.fields ++
  [("parser_name", .ofResult p.parserName),
   ("lexer_name", .ofResult p.lexerName),
   ("listener_name", .ofResult p.listenerName),
   ("generated_filenames", .list ((p.generatedFiles extension).map .text))]

def summary (p : Project) (extension : String) : Literal := .record (p.fields extension)

end Project

end GrammarProject
