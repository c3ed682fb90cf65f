import GrammarProject.FileTree
import GrammarProject.Grammar
import GrammarProject.Markup.Fault
import GrammarProject.Report
import GrammarProject.Text.Codec

/-!
# Failures

Why an operation of the library gives no result. `Failure.report` says what the outside learns of
it, and is the one place for the wording.
-/

namespace GrammarProject

/-- Why an operation gives no result. -/
inductive Failure where
  | malformedDescriptor (descriptor : Path) (fault : Markup.Fault)
  | malformedPattern (pattern : String)
  | unusablePattern (pattern : String)
  /-- A pattern or a directory that is nested deeper than the platform can go. -/
  | tooDeep
  /-- A header line, as far as it counts, that holds no name. -/
  | unnamedHeader (file : Path) (line : String)
  | missingHeader (file : Path)
  | missingParser (project : String)
  | missingLexer (project : String)
  | unknownKind (value : Literal)
  | repeatedKind (project : String) (kinds : List Grammar.Kind)
  | repeatedInclude (project : String)
  | access (path : Path) (cause : AccessError)
  | codec (fault : Text.CodecFault)
  | unusableEncoding
  /-- An encoding that a descriptor declares and descriptors are not read in. -/
  | wideEncoding
  | unknownTarget (name : String) (available : List String)
  | unknownSeverity (value : Literal)
  | absoluteSearch
  /-- A search for a name that holds `**` and something else. -/
  | mixedSearch
deriving Repr

def systemReport (path : Path) (fault : SystemFault) (number : Int) (text : String) : Report :=
  ⟨.system fault, [.int number, .text text, .text path.toString]⟩

/-- What the outside learns of a path that cannot be used. -/
def AccessError.report (path : Path) : AccessError → Report
  | .notFound => systemReport path .notFound 2 "No such file or directory"
  | .notDirectory => systemReport path .notDirectory 20 "Not a directory"
  | .isDirectory => systemReport path .isDirectory 21 "Is a directory"
  | .nameTooLong => systemReport path .other 36 "File name too long"
  | .refused => systemReport path .refused 13 "Permission denied"
  | .embeddedNull => ⟨.value, [.text "embedded null byte"]⟩

namespace Failure

def sentence (category : Category) (text : String) : Report := ⟨category, [.text text]⟩

def codecReport : Text.CodecFault → Report
  | .unknown message => sentence .lookup message
  | .undecodable message => sentence .undecodable message

/-- What the outside learns of a failure. -/
def report : Failure → Report
  | malformedDescriptor path fault =>
    sentence .decoding ("failed to decode " ++ path.toString ++ ": " ++ fault.message)
  | malformedPattern pattern =>
    sentence .expansion ("malformed example pattern: " ++ Text.quoted pattern)
  | unusablePattern pattern =>
    sentence .expansion ("failed to expand " ++ Text.quoted pattern ++ ": embedded null byte")
  | unnamedHeader file line =>
    ⟨.unnamedHeader,
      [.text file.toString, .text ("failed to parse grammar name: " ++ Text.quoted line)]⟩
  | missingHeader file =>
    ⟨.missingHeader,
      [.text file.toString, .text "failed to find fields of interest in grammar"]⟩
  | missingParser project => sentence .missingParser project
  | missingLexer project => sentence .missingLexer project
  | unknownKind value => ⟨.unknownKind, [value]⟩
  | repeatedKind project kinds =>
    sentence .repeatedKind (Text.quoted project ++ " has more than one grammar of type " ++
      ", ".intercalate (kinds.map Grammar.Kind.name))
  | repeatedInclude project =>
    sentence .value (Text.quoted project ++ " lists an include more than once")
  | access path cause => cause.report path
  | tooDeep => sentence .depth "maximum recursion depth exceeded"
  | codec fault => codecReport fault
  | unusableEncoding => sentence .value "embedded null character"
  | wideEncoding => sentence .value "multi-byte encodings are not supported"
  | unknownTarget name available =>
    sentence .value ("Unknown target: " ++ name ++ ". Available: " ++ ", ".intercalate available)
  | unknownSeverity value => sentence .value (value.display ++ " is not a valid Severity")
  | absoluteSearch => sentence .unsupported "Non-relative patterns are unsupported"
  | mixedSearch =>
    sentence .value "Invalid pattern: '**' can only be an entire path component"

def message (f : Failure) : String := f.report.message

def isExpected (f : Failure) : Bool := f.report.exitCode?.isSome

/-- Whether the failure concerns the header of a grammar file or the access to it. -/
def concernsHeader : Failure → Bool
  | unnamedHeader .. => true
  | missingHeader _ => true
  | access _ cause => cause ≠ .embeddedNull
  | _ => false

end Failure

def Grammar.Kind.ofLiteral (v : Literal) : Except Failure Grammar.Kind :=
  match Grammar.Kind.ofLiteral? v with
  | some k => .ok k
  | none => .error (.unknownKind v)

end GrammarProject
