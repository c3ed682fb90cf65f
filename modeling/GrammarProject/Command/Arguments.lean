/-!
# Arguments

How the arguments of a command spell options and operands. An option has a long form (`--target
go`, `--target=go`) and may have a short one, a letter; short forms may stand together behind one
dash, the last of them with its value (`-vtgo`). Behind `--` there are only operands.
-/

namespace GrammarProject.Command

structure OptionRule where
  long : String
  short : Option Char
  takesValue : Bool
deriving DecidableEq, Repr

/-- An option that is given, with its value if it takes one. -/
structure Setting where
  option : String
  value : Option String
deriving DecidableEq, Repr

/-- The arguments of a command: the options and the operands, each in their order. -/
structure Arguments where
  settings : List Setting
  operands : List String
deriving DecidableEq, Repr

structure Spelling where
  settings : List Setting
  /-- The option at the end whose value is the next argument. -/
  pending : Option String
deriving DecidableEq, Repr

def Spelling.cons (s : Setting) (rest : Spelling) : Spelling :=
  { rest with settings := s :: rest.settings }

/-- What the letters behind a dash spell; none if one of them is unknown. -/
def spellLetters (rules : List OptionRule) : List Char → Option Spelling
  | [] => some ⟨[], none⟩
  | c :: cs =>
    match rules.find? (·.short = some c) with
    | none => none
    | some rule =>
      if !rule.takesValue then (spellLetters rules cs).map (.cons ⟨rule.long, none⟩)
      else if cs.isEmpty then some ⟨[], some rule.long⟩
      else some ⟨[⟨rule.long, some (String.ofList cs)⟩], none⟩

def spellLong (rule : OptionRule) (value : Option String) : Option Spelling :=
  match rule.takesValue, value with
  | true, none => some ⟨[], some rule.long⟩
  | true, some v => some ⟨[⟨rule.long, some v⟩], none⟩
  | false, none => some ⟨[⟨rule.long, none⟩], none⟩
  | false, some _ => none

/-- What an argument that starts with a dash spells; none if it is unknown. -/
def spell (rules : List OptionRule) (argument : List Char) : Option Spelling :=
  let name := String.ofList (argument.takeWhile (· ≠ '='))
  let value :=
    match argument.dropWhile (· ≠ '=') with
    | [] => none
    | _ :: v => some (String.ofList v)
  match rules.find? (·.long = name) with
  | some rule => spellLong rule value
  | none =>
    match argument with
    | '-' :: '-' :: _ => none
    | _ => spellLetters rules (argument.drop 1)

/-- Whether an argument spells options: a dash by itself does not. -/
def isOption (argument : String) : Bool :=
  match argument.toList with
  | '-' :: _ :: _ => true
  | _ => false

namespace Arguments

def withSettings (settings : List Setting) (a : Arguments) : Arguments :=
  { a with settings := settings ++ a.settings }

def withOperand (operand : String) (a : Arguments) : Arguments :=
  { a with operands := operand :: a.operands }

/-- The rest of some arguments, where `pending` is an option whose value comes next. -/
def readBehind (rules : List OptionRule) (interspersed : Bool) :
    (pending : Option String) → List String → Option Arguments
  | some _, [] => none
  | some option, v :: rest =>
    (readBehind rules interspersed none rest).map (withSettings [⟨option, some v⟩])
  | none, [] => some ⟨[], []⟩
  | none, a :: rest =>
    if a = "--" then some ⟨[], rest⟩
    else if isOption a then
      match spell rules a.toList with
      | none => none
      | some s => (readBehind rules interspersed s.pending rest).map (withSettings s.settings)
    else if interspersed then (readBehind rules interspersed none rest).map (withOperand a)
    else some ⟨[], a :: rest⟩

/-- Arguments by the rules of a command; none if an option is unknown or lacks its value. If
`interspersed` is false, all behind the first operand are operands. -/
def read (rules : List OptionRule) (interspersed : Bool) (args : List String) : Option Arguments :=
  readBehind rules interspersed none args

def has (a : Arguments) (option : String) : Bool := a.settings.any (·.option = option)

def value? (a : Arguments) (option : String) : Option String :=
  (a.settings.reverse.find? (·.option = option)).bind (·.value)

end Arguments

end GrammarProject.Command
