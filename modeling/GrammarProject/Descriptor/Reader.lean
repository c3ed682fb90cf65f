import GrammarProject.Descriptor.Field
import GrammarProject.Descriptor.Finding
import GrammarProject.Glob.Expansion
import GrammarProject.Grammar.Header
import GrammarProject.Markup.Document
import GrammarProject.Project
import GrammarProject.Target
import GrammarProject.Text.Blank

/-!
# Reading descriptors

A `Reader` turns the elements of a build descriptor into a project. Elements are handled in the
order of their end tags (`Reader.handle`); a reference to a grammar file that leads nowhere is a
finding and ends nothing. What the file tree shows and what the reader makes of it are kept apart:
`Reader.resolve`, `isThere` and `Grammar.read` look, `Reader.recordReference` records.
-/

namespace GrammarProject.Descriptor

/-- What a reader does, step by step. -/
inductive Note where
  | classified (g : Grammar)
  | found (f : Finding)
  | counted (descriptor : Path) (includes grammars findings : Nat)
deriving Repr

def Note.message : Note → String
  | classified g => g.file.toString ++ ": " ++ g.kind.name ++ " grammar " ++ g.name
  | found f => f.message
  | counted descriptor includes grammars findings =>
    descriptor.toString ++ ": " ++ toString includes ++ " includes, " ++ toString grammars
      ++ " grammars, " ++ toString findings ++ " warnings"

structure Reader where
  path : Path
  /-- Where references start. -/
  directory : Path
  target : Target
  encoding : String
  draft : Draft
  findings : List Finding
  journal : List Note
deriving Repr

/-- A project, and what was found besides. -/
structure Reading where
  project : Project
  findings : List Finding

/-- The example root of a directory: one step up for each slash in its path. -/
def exampleRoot (directory : Path) : String :=
  String.ofList ((directory.text.filter (· = '/')).flatMap fun _ => ['.', '.', '/'])

/-- A pattern for example files is refused before it is expanded if it is malformed. -/
def checkPattern (pattern : List Char) : Except Failure Unit :=
  if Glob.isMalformed pattern then .error (.malformedPattern (String.ofList pattern)) else .ok ()

/-- Whether there is anything at a path. A name that is too long for the file tree and a directory
that cannot be entered are errors. -/
def isThere (t : FileTree) (p : Path) : Except Failure Bool :=
  match t.find p.toString with
  | .ok _ => .ok true
  | .error .nameTooLong => .error (.access p .nameTooLong)
  | .error .refused => .error (.access p .refused)
  | .error _ => .ok false

namespace Reader

def ofPath (path : String) (target : Target) (encoding : String) : Reader :=
  { path := .ofString path
    directory := .ofString (String.ofList (Path.directoryText path.toList))
    target
    encoding
    draft := .named path
    findings := []
    journal := [] }

def log (r : Reader) (n : Note) : Reader := { r with journal := r.journal ++ [n] }

def find (r : Reader) (f : Finding) : Reader :=
  { r.log (.found f) with findings := r.findings ++ [f] }

@[simp] theorem log_draft (r : Reader) (n : Note) : (r.log n).draft = r.draft := rfl

@[simp] theorem log_findings (r : Reader) (n : Note) : (r.log n).findings = r.findings := rfl

@[simp] theorem find_draft (r : Reader) (f : Finding) : (r.find f).draft = r.draft := rfl

@[simp] theorem find_findings (r : Reader) (f : Finding) :
    (r.find f).findings = r.findings ++ [f] := rfl

/-! ## References -/

section
variable [Platform]

/-- The path of a grammar file that a text refers to, whether it has a variant or not. -/
def reference (r : Reader) (text : List Char) : Path :=
  (Path.ofString (String.ofList (Path.joinText r.directory.text text))).normal

def variantOf? (r : Reader) (file : Path) : Option String :=
  (r.target.variantOf? file.text).map String.ofList

/-- The path of the grammar file that a text refers to: the variant, if there is one. -/
def resolve (t : FileTree) (r : Reader) (text : List Char) : Path :=
  match r.variantOf? (r.reference text) with
  | some variant => if t.reaches variant then .ofString variant else r.reference text
  | none => r.reference text

/-- What becomes of a grammar whose header has been read. -/
def recordGrammar (r : Reader) (g : Grammar) : Reader :=
  let r := r.log (.classified g)
  match r.draft.grammarOf? g.kind with
  | some holder => r.find (.surplusGrammar g holder)
  | none => { r with draft := r.draft.addGrammar g }

/-- What becomes of a reference, by whether there is a file and by what its header says. A file
is included once, also if its header cannot be read. -/
def recordReference (r : Reader) (file : Path) (present : Except Failure Bool)
    (header : Except Failure Grammar) : Reader × Option Failure :=
  match present with
  | .error f => (r, some f)
  | .ok false => (r.find (.missingGrammar file r.path), none)
  | .ok true =>
    if r.draft.hasInclude file then (r, none)
    else
      let r := { r with draft := r.draft.addInclude file }
      match header with
      | .ok g => (r.recordGrammar g, none)
      | .error f =>
        if f.concernsHeader then (r.find (.unreadableGrammar file f), none) else (r, some f)

def onGrammar (t : FileTree) (r : Reader) (text : List Char) : Reader × Option Failure :=
  match Text.trim text with
  | [] => (r.find (.emptyReference r.path), none)
  | c :: cs =>
    let file := r.resolve t (c :: cs)
    r.recordReference file (isThere t file) (Grammar.read t file r.encoding)

/-! ## Example files -/

def examplePattern (r : Reader) (text : List Char) : List Char :=
  Path.joinText (Path.joinText r.directory.text text) r.target.examplePattern.toList

/-- Why a pattern that is not malformed gives no example files. -/
def expansionFailure (pattern : List Char) : Glob.ExpansionError → Failure
  | .embeddedNull => .unusablePattern (String.ofList pattern)
  | .tooDeep => .tooDeep

def examplesIn (t : FileTree) (r : Reader) (text : List Char) : Except Failure (List Path) :=
  let pattern := r.examplePattern text
  match checkPattern pattern, Glob.expand t pattern with
  | .error f, _ => .error f
  | .ok (), .error e => .error (expansionFailure pattern e)
  | .ok (), .ok found => .ok (Path.sorted (found.map fun m => .ofString (String.ofList m)))

def onExampleFiles (t : FileTree) (r : Reader) (text : List Char) : Reader × Option Failure :=
  match r.examplesIn t text with
  | .error f => (r, some f)
  | .ok examples =>
    let root := exampleRoot r.directory
    ({ r with draft := { r.draft with examples, exampleRoot := root } }, none)

/-! ## Elements -/

def onArtifact (r : Reader) (text : List Char) : Reader :=
  if Text.trim text = r.target.plugin.toList then
    { r with draft := { r.draft with usesPlugin := true } }
  else r

/-- What a field says. If it cannot be handled, the reader is as far as it came. -/
def handleField (t : FileTree) (r : Reader) (field : Field) (text : List Char) :
    Reader × Option Failure :=
  let value := String.ofList text
  match field with
  | .artifact => (r.onArtifact text, none)
  | .grammar => r.onGrammar t text
  | .longName => ({ r with draft := { r.draft with longName := value } }, none)
  | .entryPoint => ({ r with draft := { r.draft with entryPoint := value } }, none)
  | .exampleFiles => r.onExampleFiles t text
  | .caseInsensitiveType =>
    ({ r with draft := { r.draft with caseInsensitiveType := value } }, none)

def handle (t : FileTree) (r : Reader) (e : Markup.Element) : Reader × Option Failure :=
  match Field.ofElement? e with
  | some field => r.handleField t field e.text
  | none => (r, none)

/-- Elements in order, up to the first that cannot be handled. -/
def handleAll (t : FileTree) : Reader → List Markup.Element → Reader × Option Failure
  | r, [] => (r, none)
  | r, e :: es =>
    match r.handle t e with
    | (r, some f) => (r, some f)
    | (r, none) => handleAll t r es

/-! ## Reading to the end -/

def stopped (r : Reader) : Markup.Stop → Failure
  | .fault f => .malformedDescriptor r.path f
  | .codec fault => .codec fault
  | .wideEncoding => .wideEncoding

def count (r : Reader) : Reader :=
  r.log (.counted r.path r.draft.includes.length r.draft.grammars.length r.findings.length)

/-- The project as far as it is known. -/
def reading (r : Reader) : Except Failure Reading :=
  r.draft.build.map fun project => ⟨project, r.findings⟩

/-- A document: its elements are handled before what is wrong behind them is told. -/
def readDocument (t : FileTree) (r : Reader) (d : Markup.Document) :
    Reader × Except Failure Reading :=
  match r.handleAll t d.elements with
  | (r, some f) => (r, .error f)
  | (r, none) =>
    match d.stop with
    | some stop => (r, .error (r.stopped stop))
    | none => (r.count, r.reading)

/-- The descriptor. Reading it again goes on from what was read before. -/
def read (t : FileTree) (r : Reader) : Reader × Except Failure Reading :=
  match t.contentOf r.path.toString with
  | .error cause => (r, .error (.access r.path cause))
  | .ok bytes => r.readDocument t (.ofBytes bytes)

end

end Reader

def parse [Platform] (t : FileTree) (path : String) (target : Target) (encoding : String) :
    Except Failure Reading :=
  ((Reader.ofPath path target encoding).read t).2

end GrammarProject.Descriptor
