import GrammarProject.Command.Transcript
import GrammarProject.Descriptor.Reader
import GrammarProject.Project.Summary

/-!
# Inspecting a descriptor

The project of one descriptor, as lines of text or as JSON.
-/

namespace GrammarProject.Command

def grammarEncoding : String := "utf-8"

/-- The notes of a reader as lines of the log, if they are asked for. -/
def noteLines (verbose : Bool) (notes : List Descriptor.Note) : List Line :=
  if verbose then notes.map fun n => .log .debug n.message else []

def findingLine (f : Descriptor.Finding) : Line :=
  match f.severity with
  | .info => .log .info f.message
  | .warning => .log .warning f.message

structure InspectRequest where
  descriptor : String
  target : Target
  asJson : Bool
  verbose : Bool
deriving Repr

def notAvailable : String := "n/a"

def nameOrNot (name : Except Failure String) : String :=
  match name with
  | .ok s => s
  | .error _ => notAvailable

/-- A text filled up with blanks to a width. -/
def padded (width : Nat) (s : String) : String := s.pushn ' ' (width - s.length)

def fieldLine (label value : String) : String := padded 16 (label ++ ":") ++ value

def grammarLine (g : Grammar) : String :=
  "  " ++ padded 9 g.kind.name ++ " " ++ padded 24 g.name ++ " " ++ g.file.toString

/-- How many example files there are and how they lead back to the top. -/
def examplesText (p : Project) : String :=
  toString p.examples.length ++ " (root " ++
    (if p.exampleRoot = "" then "." else p.exampleRoot) ++ ")"

def projectLines (p : Project) (extension : String) : List String :=
  [fieldLine "Project" p.fileName,
   fieldLine "Long name" p.longName,
   fieldLine "ANTLR plugin" (if p.usesPlugin then "yes" else "no"),
   fieldLine "Entry point" p.entryPoint,
   fieldLine "Parser" (nameOrNot p.parserName),
   fieldLine "Lexer" (nameOrNot p.lexerName),
   fieldLine "Listener" (nameOrNot p.listenerName),
   fieldLine "Examples" (examplesText p),
   "Grammars:"] ++
  p.grammars.map grammarLine ++
  ["Generated files:"] ++
  (p.generatedFiles extension).map ("  " ++ ·)

def readingRecord (r : Descriptor.Reading) (extension : String) : Literal :=
  .record (r.project.fields extension ++
    [("warnings", .list (r.findings.map fun f => .text f.message))])

def readingLines (request : InspectRequest) (r : Descriptor.Reading) : List Line :=
  let extension := request.target.generatedExtension
  if request.asJson then [.output (readingRecord r extension).json]
  else (projectLines r.project extension).map .output

def inspect [Platform] (t : FileTree) (request : InspectRequest) : Transcript :=
  let (reader, result) :=
    (Descriptor.Reader.ofPath request.descriptor request.target grammarEncoding).read t
  let notes := noteLines request.verbose reader.journal
  match result with
  | .error f => (Transcript.ofReport f.report).behind notes
  | .ok r => ⟨notes ++ r.findings.map findingLine ++ readingLines request r, .finished⟩

end GrammarProject.Command
