import GrammarProject.Markup.Fault

/-!
# Namespaces

Prefixes are bound to namespace names by attributes (`Bindings.bind`), which binds them for an
element and all within it. Two prefixes are reserved, and so are their two namespace names.
-/

namespace GrammarProject.Markup

/-- A name of an element or attribute, cut at its colon. -/
structure QualifiedName where
  /-- The text before the colon, empty if there is none. -/
  label : List Char
  localPart : List Char
deriving DecidableEq, Repr

def QualifiedName.ofName (name : List Char) : QualifiedName :=
  match name.dropWhile (· ≠ ':') with
  | [] => ⟨[], name⟩
  | _ :: rest => ⟨name.takeWhile (· ≠ ':'), rest⟩

/-- The prefix that an attribute of this name binds, empty for the default namespace. -/
def boundPrefix? (name : List Char) : Option (List Char) :=
  if name = "xmlns".toList then some []
  else
    let q := QualifiedName.ofName name
    if q.label = "xmlns".toList then some q.localPart else none

/-- A namespace name of the standard itself, by the names behind its host. -/
def standardNamespace (names : List String) : List Char :=
  ("/".intercalate (["http:", "", "www.w3.org"] ++ names)).toList

/-- The namespace name of the prefix `xml`. -/
def xmlNamespace : List Char := standardNamespace ["XML", "1998", "namespace"]

/-- The namespace name of the attributes that bind prefixes. -/
def xmlnsNamespace : List Char := standardNamespace ["2000", "xmlns", ""]

/-- The character that separates a namespace name from a local name and may not stand in one. -/
def namespaceMark : Char := '\x7d'

/-- The namespace names of prefixes, innermost first; none for a prefix that is bound to nothing
again. -/
abbrev Bindings := List (List Char × Option (List Char))

namespace Bindings

/-- What is bound before a document starts. -/
def initial : Bindings := [("xml".toList, some xmlNamespace)]

def namespaceOf? (b : Bindings) (label : List Char) : Option (List Char) :=
  (b.lookup label).join

/-- The bindings with one more. An empty namespace name takes the default namespace back; a prefix
cannot be taken back. -/
def bind (b : Bindings) (label uri : List Char) : Except Reason Bindings :=
  if uri.isEmpty && !label.isEmpty then .error .undeclaredPrefix
  else if label = "xmlns".toList then .error .reservedXmlnsPrefix
  else if uri.contains namespaceMark then .error .syntaxError
  else if label = "xml".toList then
    if uri = xmlNamespace then .ok ((label, some uri) :: b) else .error .reservedXmlPrefix
  else if uri = xmlNamespace ∨ uri = xmlnsNamespace then .error .reservedNamespace
  else .ok ((label, if uri.isEmpty then none else some uri) :: b)

end Bindings

end GrammarProject.Markup
