import GrammarProject.Markup.Entity
import GrammarProject.Markup.Namespace

/-!
# Start tags

What a start tag says once it is complete: the name of the element after namespace expansion, and
the bindings that hold within the element (`StartTag.resolve`). The values of attributes matter
only where they bind a prefix, but every value has to be in order.
-/

namespace GrammarProject.Markup

structure Attribute where
  name : List Char
  place : Position
  value : List Piece
deriving DecidableEq, Repr

structure StartTag where
  place : Position
  name : List Char
  attributes : List Attribute
deriving DecidableEq, Repr

/-- An element name after namespace expansion. -/
structure ExpandedName where
  uri : Option (List Char)
  localPart : List Char
deriving DecidableEq, Repr

/-- What is known of a start tag after some of its attributes. -/
structure TagReading where
  names : List (List Char) -- The names met so far
  prefixed : List QualifiedName -- The names among them with a prefix that is no binding, last first
  bindings : Bindings
deriving DecidableEq, Repr

namespace StartTag

/-- An attribute name and its value: it binds a prefix, has a prefix itself, or neither. -/
def readName (place : Position) (r : TagReading) (name value : List Char) :
    Except Fault TagReading := do
  let r := { r with names := name :: r.names }
  match boundPrefix? name with
  | some label =>
    match r.bindings.bind label value with
    | .ok bindings => pure { r with bindings }
    | .error reason => throw ⟨reason, place⟩
  | none =>
    let q := QualifiedName.ofName name
    pure (if q.label.isEmpty then r else { r with prefixed := q :: r.prefixed })

def readAttribute (d : Definitions) (tag : StartTag) (r : TagReading) (a : Attribute) :
    Except Fault TagReading := do
  if r.names.contains a.name then throw ⟨.duplicateAttribute, a.place⟩
  let tokenised := ((d.rule? tag.name a.name).map (·.tokenised)).getD false
  match d.attributeValue d.complete tokenised a.value with
  | .error f => throw ⟨f.reason, f.place.getD tag.place⟩
  | .ok value => readName tag.place r a.name value

/-- An attribute that the tag does not give and a rule supplies. -/
def readRule (tag : StartTag) (r : TagReading) (rule : AttributeRule) : Except Fault TagReading :=
  match rule.fallback with
  | some value =>
    if rule.element = tag.name ∧ !r.names.contains rule.name then
      readName tag.place r rule.name value
    else .ok r
  | none => .ok r

/-- Every prefix of an attribute is bound, and no two attributes have the same expanded name.
`seen` holds the expanded names met so far. -/
def checkPrefixed (place : Position) (b : Bindings) :
    List (List Char × List Char) → List QualifiedName → Except Fault Unit
  | _, [] => .ok ()
  | seen, q :: qs =>
    match b.namespaceOf? q.label with
    | none => .error ⟨.unboundPrefix, place⟩
    | some uri =>
      if seen.contains (uri, q.localPart) then .error ⟨.duplicateAttribute, place⟩
      else checkPrefixed place b ((uri, q.localPart) :: seen) qs

def expandName (place : Position) (b : Bindings) (name : List Char) : Except Fault ExpandedName :=
  let q := QualifiedName.ofName name
  match b.namespaceOf? q.label, q.label with
  | some uri, _ => .ok ⟨some uri, q.localPart⟩
  | none, [] => .ok ⟨none, q.localPart⟩
  | none, _ => .error ⟨.unboundPrefix, place⟩

/-- The expanded name of the element that a tag starts, and the bindings within it. -/
def resolve (d : Definitions) (b : Bindings) (tag : StartTag) :
    Except Fault (ExpandedName × Bindings) := do
  let r ← tag.attributes.foldlM (readAttribute d tag) ⟨[], [], b⟩
  let r ← d.rules.foldlM (readRule tag) r
  checkPrefixed tag.place r.bindings [] r.prefixed.reverse
  let name ← expandName tag.place r.bindings tag.name
  pure (name, r.bindings)

end StartTag

end GrammarProject.Markup
