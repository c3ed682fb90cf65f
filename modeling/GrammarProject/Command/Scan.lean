import GrammarProject.Command.Inspect
import GrammarProject.Descriptor.Search

/-!
# Scanning for descriptors

One line for each descriptor below a directory that can be read. A descriptor that cannot be read
is told in the log and does not end the scan, unless the failure is one that commands do not expect.
-/

namespace GrammarProject.Command

structure ScanRequest where
  root : String
  target : Target
  name : String
  verbose : Bool
deriving Repr

/-- A project in one line: the descriptor, whether it uses the plugin, how many grammars there are,
and the parser or why there is none. -/
def projectRow (descriptor : Path) (p : Project) : String :=
  let parser :=
    match p.parserName with
    | .ok name => name
    | .error f => "(" ++ f.message ++ ")"
  "\t".intercalate
    [descriptor.toString, if p.usesPlugin then "plugin" else "-", toString p.grammars.length,
     parser]

/-- One descriptor of a scan: the lines it leads to, and how it failed if it did. -/
def scanOne [Platform] (t : FileTree) (request : ScanRequest) (descriptor : Path) :
    List Line × Option Failure :=
  let (reader, result) :=
    (Descriptor.Reader.ofPath descriptor.toString request.target grammarEncoding).read t
  let notes := noteLines request.verbose reader.journal
  match result with
  | .ok r =>
    (notes ++ r.findings.map findingLine ++ [.output (projectRow descriptor r.project)], none)
  | .error f =>
    if f.isExpected then
      (notes ++ [.log .error (descriptor.toString ++ ": " ++ f.message)], some f)
    else (notes, some f)

/-- Descriptors in order, each by itself; the result is how many could not be read, or the failure
that ended the scan. -/
def scanEach (one : Path → List Line × Option Failure) :
    List Path → List Line × Except Failure Nat
  | [] => ([], .ok 0)
  | p :: ps =>
    match one p with
    | (lines, none) =>
      let (more, result) := scanEach one ps
      (lines ++ more, result)
    | (lines, some f) =>
      if f.isExpected then
        let (more, result) := scanEach one ps
        (lines ++ more, result.map (· + 1))
      else (lines, .error f)

def foundLine (total : Nat) (root : String) : Line :=
  .log .info ("Found " ++ toString total ++ " descriptors under " ++ root)

/-- The last line of a scan in which some descriptors could not be read. -/
def unreadLines (unread total : Nat) : List Line :=
  if unread = 0 then []
  else
    [.log .info
      (toString unread ++ " of " ++ toString total ++ " descriptors could not be read")]

def scan [Platform] (t : FileTree) (request : ScanRequest) : Transcript :=
  match Descriptor.search t request.root request.name with
  | .error f => .ofReport f.report
  | .ok descriptors =>
    let total := descriptors.length
    let first := foundLine total request.root
    match scanEach (scanOne t request) descriptors with
    | (lines, .ok unread) => ⟨first :: lines ++ unreadLines unread total, .finished⟩
    | (lines, .error f) => (Transcript.ofReport f.report).behind (first :: lines)

end GrammarProject.Command
