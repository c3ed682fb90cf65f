import GrammarProject.Markup.Reference

/-!
# Entities and attribute rules

What the document type declaration says that matters to the elements of a document: entities with
their replacement texts, and default values of attributes, which may declare namespaces. The
module expands the values in which references stand: entity values (`entityValue`) and attribute
values (`Definitions.attributeValue`).
-/

namespace GrammarProject.Markup

/-- What an entity is declared to be. -/
inductive Entity where
  | internal (text : List Char)
  | external
  | unparsed
deriving DecidableEq, Repr

/-- What is declared of an attribute of an element. -/
structure AttributeRule where
  element : List Char
  name : List Char
  tokenised : Bool -- Whether blanks in the value only separate words
  fallback : Option (List Char) -- The value where none is given
deriving DecidableEq, Repr

/-- What is declared so far. The first declaration of a name counts. -/
structure Definitions where
  entities : List (List Char × Entity)
  rules : List AttributeRule
  unread : Bool -- Whether a part of the declarations stands elsewhere and is not read
  /-- Whether the document says that it depends on no declaration that stands elsewhere. -/
  standalone : Bool
  /-- Whether declarations still count. -/
  counting : Bool
deriving DecidableEq, Repr

def Definitions.empty : Definitions := ⟨[], [], false, false, true⟩

namespace Definitions

/-- Whether an entity has to be declared among what is read. -/
def complete (d : Definitions) : Bool := !d.unread || d.standalone

def declare (d : Definitions) (name : List Char) (e : Entity) : Definitions :=
  if !d.counting || (predefined? name).isSome || (d.entities.lookup name).isSome then d
  else { d with entities := d.entities ++ [(name, e)] }

def rule? (d : Definitions) (element name : List Char) : Option AttributeRule :=
  d.rules.find? fun r => r.element = element && r.name = name

def addRule (d : Definitions) (r : AttributeRule) : Definitions :=
  if !d.counting || (d.rule? r.element r.name).isSome then d
  else { d with rules := d.rules ++ [r] }

/-- The declarations behind a reference to a parameter entity, which is not read. -/
def skipParameter (d : Definitions) : Definitions :=
  { d with unread := true, counting := d.standalone }

end Definitions

/-! ## Entity values -/

def normalBreaks : List Piece → List Piece
  | [] => []
  | .char '\r' :: .char '\n' :: ps => .char '\n' :: normalBreaks ps
  | .char '\r' :: ps => .char '\n' :: normalBreaks ps
  | p :: ps => p :: normalBreaks ps

/-- A piece of an entity value: a reference to an entity stays as it is. -/
def entityPiece : Piece → Except Fault (List Char)
  | .char c => .ok [c]
  | .reference (.named name) _ => .ok ('&' :: name ++ [';'])
  | .reference (.numbered (some c)) _ => .ok [c]
  | .reference (.numbered none) place => .error ⟨.badCharacterNumber, place⟩

/-- The replacement text that an entity value gives. -/
def entityValue (value : List Located) : Except Fault (List Char) := do
  let (ps, fault) := pieces .ofEntity value
  let texts ← (normalBreaks ps).mapM entityPiece
  match fault with
  | some f => throw f
  | none => pure texts.flatten

/-! ## Attribute values -/

/-- What is wrong with an attribute value, and where, if the place is in the document itself and
not the whole value's. -/
structure ValueFault where
  reason : Reason
  place : Option Position
deriving DecidableEq, Repr

/-- White space as blanks, one for a line end. -/
def blanked : List Piece → List Piece
  | [] => []
  | .char '\r' :: .char '\n' :: ps => .char ' ' :: blanked ps
  | .char c :: ps => .char (if isSpace c then ' ' else c) :: blanked ps
  | p :: ps => p :: blanked ps

/-- The rest of a value with one blank between two words; `due` tells whether a blank stands
right before it, `started` whether a word came before. -/
def collapsedRest (due started : Bool) : List Char → List Char
  | [] => []
  | c :: cs =>
    if c = ' ' then collapsedRest started started cs
    else if due then ' ' :: c :: collapsedRest false true cs
    else c :: collapsedRest false true cs

/-- One blank between two words, and none around them. -/
def collapsed (cs : List Char) : List Char := collapsedRest false false cs

namespace Definitions

/-- A piece of an attribute value. `expand` gives the text of an entity; `complete` says whether
an entity has to be declared. -/
def attributePiece (d : Definitions) (complete : Bool) (opened : List (List Char))
    (expand : List Char → List Char → Except ValueFault (List Char)) :
    Piece → Except ValueFault (List Char)
  | .char c => .ok [c]
  | .reference (.numbered (some c)) _ => .ok [c]
  | .reference (.numbered none) place => .error ⟨.badCharacterNumber, some place⟩
  | .reference (.named name) place =>
    match predefined? name with
    | some c => .ok [c]
    | none =>
      match d.entities.lookup name with
      | none => if complete then .error ⟨.undefinedEntity, none⟩ else .ok []
      | some e =>
        if opened.contains name then .error ⟨.recursiveEntity, some place⟩
        else match e with
          | .unparsed => .error ⟨.unparsedEntity, some place⟩
          | .external => .error ⟨.externalEntityInAttribute, some place⟩
          | .internal text => expand name text

/-- A fault within an entity has no place of its own. -/
def withoutPlace (r : Except ValueFault α) : Except ValueFault α :=
  r.mapError fun f => { f with place := none }

/-- The text of the pieces of an attribute value, where entities are expanded in each other at
most `depth` deep. -/
def attributeText (d : Definitions) (complete : Bool) (depth : Nat) (opened : List (List Char))
    (ps : List Piece) : Except ValueFault (List Char) := do
  let expand (name text : List Char) : Except ValueFault (List Char) :=
    match depth with
    | 0 => .error ⟨.recursiveEntity, none⟩
    | depth + 1 => do
      let (ps, fault) := pieces .ofAttribute (text.map (⟨·, .first⟩))
      let value ← withoutPlace (attributeText d complete depth (name :: opened) ps)
      match fault with
      | some f => throw ⟨f.reason, none⟩
      | none => pure value
  let texts ← (blanked ps).mapM (d.attributePiece complete opened expand)
  pure texts.flatten

/-- The value of an attribute. No entity is expanded within itself, so the number of entities
bounds the depth. -/
def attributeValue (d : Definitions) (complete tokenised : Bool) (ps : List Piece) :
    Except ValueFault (List Char) := do
  let value ← d.attributeText complete d.entities.length [] ps
  pure (if tokenised then collapsed value else value)

end Definitions

end GrammarProject.Markup
