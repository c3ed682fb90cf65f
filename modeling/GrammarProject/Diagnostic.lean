import GrammarProject.Failure

/-!
# Diagnostics

What a reader of descriptors tells besides its result.
-/

namespace GrammarProject

/-- How much a diagnostic matters. -/
inductive Severity where
  | info
  | warning
deriving DecidableEq, Repr

def Severity.name : Severity → String
  | info => "info"
  | warning => "warning"

def Severity.ofLiteral : Literal → Except Failure Severity
  | .text "info" => .ok info
  | .text "warning" => .ok warning
  | v => .error (.unknownSeverity v)

/-- A message, and the path that it is about. -/
structure Diagnostic where
  message : String
  path : Option Path
  severity : Severity
deriving DecidableEq, Repr

end GrammarProject
