import GrammarProject.Literal

/-!
# Reports

A report is what the outside learns of a failure: its category and some arguments. Categories form
a tree; those below `general` are the library's own and have an exit code. `Report.message` puts a
report into words.
-/

namespace GrammarProject

inductive SystemFault where
  | notFound
  | notDirectory
  | isDirectory
  | refused
  | other
deriving DecidableEq, Repr

/-- What a report is about. -/
inductive Category where
  | general
  | decoding
  | expansion
  | header
  | unnamedHeader
  | missingHeader
  | missingGrammar
  | missingParser
  | missingLexer
  | unknownKind
  | repeatedKind
  | system (fault : SystemFault)
  | value
  | lookup
  | undecodable
  | depth
  | key
  | unsupported
deriving DecidableEq, Repr

namespace Category

def parent? : Category → Option Category
  | general => none
  | decoding => some general
  | expansion => some general
  | header => some general
  | unnamedHeader => some header
  | missingHeader => some header
  | missingGrammar => some general
  | missingParser => some missingGrammar
  | missingLexer => some missingGrammar
  | unknownKind => some general
  | repeatedKind => some general
  | system _ => none
  | value => none
  | lookup => none
  | undecodable => none
  | depth => none
  | key => none
  | unsupported => none

/-- The category and those above it, nearest first. -/
def lineage (c : Category) : List Category :=
  c :: (c.parent?.toList ++ (c.parent?.bind parent?).toList)

/-- The exit code of a command that ends with a report of the category; none for a category that
commands do not expect. -/
def exitCode? : Category → Option Nat
  | general => some 1
  | decoding => some 2
  | expansion => some 3
  | header | unnamedHeader | missingHeader => some 4
  | missingGrammar | missingParser | missingLexer => some 5
  | unknownKind | repeatedKind => some 6
  | system _ => some 1
  | value | lookup | undecodable | depth | key | unsupported => none

def lacking? : Category → Option String
  | missingGrammar => some "grammar"
  | missingParser => some "parser"
  | missingLexer => some "lexer"
  | _ => none

end Category

/-- What the outside learns of a failure. -/
structure Report where
  category : Category
  arguments : List Literal
deriving Repr

namespace Report

/-- Arguments without a wording of their own. -/
def listed : List Literal → String
  | [] => ""
  | [a] => a.plain
  | args => "(" ++ ", ".intercalate (args.map Literal.display) ++ ")"

/-- What the file system says: a number and a text, and perhaps a path. -/
def systemMessage : List Literal → String
  | [number, text] => "[Errno " ++ number.plain ++ "] " ++ text.plain
  | number :: text :: .null :: _ => "[Errno " ++ number.plain ++ "] " ++ text.plain
  | number :: text :: path :: _ =>
    "[Errno " ++ number.plain ++ "] " ++ text.plain ++ ": " ++ path.display
  | args => listed args

def message (r : Report) : String :=
  match r.category, r.arguments with
  | .header, [path, detail] => path.plain ++ ": " ++ detail.plain
  | .unnamedHeader, [path, detail] => path.plain ++ ": " ++ detail.plain
  | .missingHeader, [path, detail] => path.plain ++ ": " ++ detail.plain
  | .unknownKind, [value] => "unknown grammar type " ++ value.display
  | .system _, args => systemMessage args
  | .key, [key] => key.display
  | category, [project] =>
    match category.lacking? with
    | some noun => project.display ++ " does not contain a " ++ noun
    | none => project.plain
  | _, args => listed args

/-- What a report says part by part, where its category gives the parts names. -/
def details (r : Report) : List (String × Literal) :=
  match r.category, r.arguments with
  | .header, [path, detail] => [("path", path), ("detail", detail)]
  | .unnamedHeader, [path, detail] => [("path", path), ("detail", detail)]
  | .missingHeader, [path, detail] => [("path", path), ("detail", detail)]
  | .unknownKind, [value] => [("value", value)]
  | category, [project] =>
    match category.lacking? with
    | some noun => [("project_name", project), ("kind", .text noun)]
    | none => []
  | _, _ => []

/-- The exit code of a command that ends with the report. -/
def exitCode? (r : Report) : Option Nat := r.category.exitCode?

end Report

end GrammarProject
