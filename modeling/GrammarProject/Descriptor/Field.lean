import GrammarProject.Markup.Content

/-!
# Fields of a descriptor

The elements of a descriptor that matter, told apart by their local names alone.
-/

namespace GrammarProject.Descriptor

/-- What an element of a descriptor says. -/
inductive Field where
  | artifact
  | grammar
  | longName
  | entryPoint
  | exampleFiles
  | caseInsensitiveType
deriving DecidableEq, Repr

def Field.ofLocalName? (name : List Char) : Option Field :=
  [("artifactId", artifact), ("grammars", grammar), ("include", grammar),
    ("grammarName", longName), ("entryPoint", entryPoint), ("exampleFiles", exampleFiles),
    ("caseInsensitiveType", caseInsensitiveType)].lookup (String.ofList name)

/-- What an element says, if it matters. -/
def Field.ofElement? (e : Markup.Element) : Option Field := ofLocalName? e.name.localPart

/-- The texts of the elements that say something of one kind, in the order of their end tags. -/
def Field.texts (field : Field) (es : List Markup.Element) : List (List Char) :=
  (es.filter (ofElement? · = some field)).map (·.text)

/-- What the elements that matter say, in the order of their end tags. -/
def Field.said (es : List Markup.Element) : List (Field × List Char) :=
  es.filterMap fun e => (ofElement? e).map fun field => (field, e.text)

/-- The local name in a tag that may begin with a namespace name in braces. -/
def localName (tag : List Char) : List Char :=
  (tag.reverse.takeWhile (· ≠ Markup.namespaceMark)).reverse

end GrammarProject.Descriptor
