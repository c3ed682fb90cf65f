import GrammarProject.Command.Arguments
import GrammarProject.Command.Scan
import GrammarProject.Platform.Standard

/-!
# The command line

`Command.run` takes the arguments of the program and gives the transcript of the command they
name: `inspect` a descriptor, `scan` a directory, or tell the version.
-/

namespace GrammarProject.Command

/-- What the program is asked to do. -/
inductive Request where
  | version
  | inspect (request : InspectRequest)
  | scan (request : ScanRequest)
deriving Repr

/-- Why the arguments are no request. -/
inductive Refusal where
  | usage
  | unusablePath (path : String)
deriving DecidableEq, Repr

def version : String := "0.1.0"

def versionLine : String := "main, version " ++ version

/-! ## Options -/

def targetRule : OptionRule := ⟨"--target", some 't', true⟩

def jsonRule : OptionRule := ⟨"--json", none, false⟩

def nameRule : OptionRule := ⟨"--name", some 'n', true⟩

def verboseRule : OptionRule := ⟨"--verbose", some 'v', false⟩

def versionRule : OptionRule := ⟨"--version", none, false⟩

def targetOf (a : Arguments) : Except Refusal Target :=
  match a.value? targetRule.long with
  | none => .ok Target.standard
  | some name => (Target.find name).mapError fun _ => .usage

def isFile : Node → Bool
  | .file _ => true
  | _ => false

def existing (t : FileTree) (test : Node → Bool) (path : String) : Except Refusal Unit :=
  match t.find path with
  | .ok n => if test n then .ok () else .error .usage
  | .error .embeddedNull => .error (.unusablePath path)
  | .error _ => .error .usage

/-- The only operand. It is looked at before any further one is refused. -/
def operandOf (t : FileTree) (test : Node → Bool) (a : Arguments) : Except Refusal String :=
  match a.operands with
  | [] => .error .usage
  | path :: rest => do
    existing t test path
    if rest.isEmpty then pure path else throw .usage

def argumentsOf (rules : List OptionRule) (args : List String) : Except Refusal Arguments :=
  match Arguments.read rules true args with
  | some a => .ok a
  | none => .error .usage

/-! ## Requests -/

def inspectRequest (t : FileTree) (args : List String) : Except Refusal InspectRequest := do
  let a ← argumentsOf [targetRule, jsonRule, verboseRule] args
  let target ← targetOf a
  let descriptor ← operandOf t isFile a
  pure ⟨descriptor, target, a.has jsonRule.long, a.has verboseRule.long⟩

def scanRequest (t : FileTree) (args : List String) : Except Refusal ScanRequest := do
  let a ← argumentsOf [targetRule, nameRule, verboseRule] args
  let target ← targetOf a
  let root ← operandOf t (· == .directory) a
  let name := (a.value? nameRule.long).getD Descriptor.standardName
  pure ⟨root, target, name, a.has verboseRule.long⟩

/-- The request that some arguments spell. -/
def Request.read (t : FileTree) (args : List String) : Except Refusal Request :=
  match Arguments.read [versionRule] false args with
  | none => .error .usage
  | some a =>
    if a.has versionRule.long then .ok .version
    else match a.operands with
      | "inspect" :: rest => (inspectRequest t rest).map .inspect
      | "scan" :: rest => (scanRequest t rest).map .scan
      | _ => .error .usage

/-! ## Running -/

def Request.run [Platform] (t : FileTree) : Request → Transcript
  | version => ⟨[.output versionLine], .finished⟩
  | inspect request => Command.inspect t request
  | scan request => Command.scan t request

def run [Platform] (t : FileTree) (args : List String) : Transcript :=
  match Request.read t args with
  | .ok request => request.run t
  | .error .usage => .silent .refused
  | .error (.unusablePath path) =>
    .silent (.escaped (AccessError.report (.ofString path) .embeddedNull))

end GrammarProject.Command
