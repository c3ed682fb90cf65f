import GrammarProject.Failure
import GrammarProject.Platform

/-!
# Transcripts

What a command writes, in order, and how it ends. An expected failure is told in one line and has
an exit code; any other failure escapes. What a line looks like on a standard stream is up to the
platform.
-/

namespace GrammarProject.Command

inductive Level where
  | debug
  | info
  | warning
  | error
deriving DecidableEq, Repr

def Level.name : Level → String
  | debug => "DEBUG"
  | info => "INFO"
  | warning => "WARNING"
  | error => "ERROR"

inductive Line where
  | output (text : String)
  | log (level : Level) (text : String)
  /-- What the command says before it gives up. -/
  | complaint (text : String)
deriving DecidableEq, Repr

/-- How a command ends. -/
inductive Ending where
  | finished
  | stopped (exitCode : Nat)
  | refused
  /-- A failure that commands do not expect. -/
  | escaped (report : Report)
deriving Repr

/-- What a command writes, and how it ends. -/
structure Transcript where
  lines : List Line
  ending : Ending
deriving Repr

def refusedCode : Nat := 2

def Ending.exitCode : Ending → Nat
  | finished => 0
  | stopped code => code
  | refused => refusedCode
  | escaped _ => 1

def Line.output? : Line → Option String
  | output text => some text
  | _ => none

def Line.error? : Line → Option Written
  | output _ => none
  | log level text => some (.logged ("[" ++ level.name ++ "] " ++ text))
  | complaint text => some (.shown text)

/-- The texts that are handed over for the standard output. -/
def outputs (lines : List Line) : List String := lines.filterMap Line.output?

namespace Transcript

def silent (ending : Ending) : Transcript := ⟨[], ending⟩

def behind (lines : List Line) (t : Transcript) : Transcript := { t with lines := lines ++ t.lines }

def ofReport (r : Report) : Transcript :=
  match r.exitCode? with
  | some code => ⟨[.complaint ("Error: " ++ r.message)], .stopped code⟩
  | none => silent (.escaped r)

def standardOutput [Platform] (t : Transcript) : String :=
  Platform.stream ((outputs t.lines).map .shown)

def standardError [Platform] (t : Transcript) : String :=
  Platform.stream (t.lines.filterMap Line.error?)

/-- The report that escapes. -/
def escaped? (t : Transcript) : Option Report :=
  match t.ending with
  | .escaped r => some r
  | _ => none

end Transcript

end GrammarProject.Command
