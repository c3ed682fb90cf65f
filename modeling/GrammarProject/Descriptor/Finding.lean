import GrammarProject.Diagnostic
import GrammarProject.Text.Quoted

/-!
# Findings

What a reader of descriptors finds about the grammar references of a descriptor, besides the
project: none of it ends the reading.
-/

namespace GrammarProject.Descriptor

/-- What is found about a reference to a grammar file. -/
inductive Finding where
  | emptyReference (descriptor : Path)
  | missingGrammar (file descriptor : Path)
  | unreadableGrammar (file : Path) (cause : Failure)
  /-- The grammar is of a kind that the project has already. -/
  | surplusGrammar (grammar holder : Grammar)
deriving Repr

namespace Finding

def quotedPath (p : Path) : String := Text.quoted p.toString

def message : Finding → String
  | emptyReference descriptor => "empty grammar reference in " ++ quotedPath descriptor
  | missingGrammar file descriptor =>
    "missing grammar " ++ quotedPath file ++ " referenced in " ++ quotedPath descriptor
  | unreadableGrammar file cause =>
    "failed to parse grammar " ++ quotedPath file ++ ": " ++ cause.message
  | surplusGrammar g holder =>
    "ignoring " ++ g.kind.name ++ " grammar " ++ Text.quoted g.name ++ " in " ++ quotedPath g.file
      ++ ": already have " ++ Text.quoted holder.name ++ " from " ++ quotedPath holder.file

def path : Finding → Path
  | emptyReference descriptor => descriptor
  | missingGrammar file _ => file
  | unreadableGrammar file _ => file
  | surplusGrammar g _ => g.file

/-- How much a finding matters: a surplus grammar is no mistake. -/
def severity : Finding → Severity
  | surplusGrammar .. => .info
  | _ => .warning

def diagnostic (f : Finding) : Diagnostic := ⟨f.message, some f.path, f.severity⟩

end Finding

end GrammarProject.Descriptor
