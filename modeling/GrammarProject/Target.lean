import GrammarProject.Failure

/-!
# Targets

A target is a language that code is generated for. It decides which variant of a grammar file is
preferred, which extension generated files have and which example files count.
-/

namespace GrammarProject

/-- The conventions of one target. -/
structure Target where
  name : String
  /-- What stands before the extension in the name of a variant; none if there are no variants. -/
  variantInfix : Option String
  grammarExtension : String
  generatedExtension : String
  /-- The artifact by which a descriptor shows that it uses the build plugin. -/
  plugin : String
  /-- Which files of the example directory count. -/
  examplePattern : String
deriving DecidableEq, Repr

namespace Target

def named (name : String) : Target := ⟨name, none, ".g4", "", "antlr4-maven-plugin", "*"⟩

/-- Go code. Grammar files may have a variant for it. -/
def go : Target :=
  { named "go" with variantInfix := some ".GoTarget", generatedExtension := ".go" }

def plain : Target := named "plain"

def registered : List Target := [go, plain]

def standard : Target := go

def available : List String := registered.map (·.name)

def find (name : String) : Except Failure Target :=
  match registered.find? (·.name = name) with
  | some t => .ok t
  | none => .error (.unknownTarget name available)

/-- The variant of a grammar file: the infix stands before the extension. With an empty extension
nothing but the infix is left. -/
def variantOf? (t : Target) (path : List Char) : Option (List Char) :=
  match t.variantInfix.map String.toList with
  | none => none
  | some [] => none
  | some inside =>
    let extension := t.grammarExtension.toList
    if !extension.isSuffixOf path then none
    else
      let stem := if extension.isEmpty then [] else path.take (path.length - extension.length)
      some (stem ++ inside ++ extension)

end Target

end GrammarProject
