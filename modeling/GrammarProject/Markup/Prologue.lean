import GrammarProject.Markup.Declaration
import GrammarProject.Markup.Entity

/-!
# Before and after the root element

Outside the root element a document consists of tokens (`Token`): comments, processing
instructions and the parts of the document type declaration. `Prologue` says which token may come
next, and what it declares. The declarations in another file, and those of parameter entities, are
not read.
-/

namespace GrammarProject.Markup

inductive Occurrence where
  | once
  | optional
  | repeated
  | atLeastOnce
deriving DecidableEq, Repr

/-- A token outside the root element. -/
inductive Token where
  | space
  | comment
  | instruction
  /-- An XML declaration: the characters between `<?xml` and `?>`, and the place of the latter. -/
  | declaration (text : List Located) (finish : Position)
  | root -- The `<` of the root element
  | opening (keyword : List Char) -- `<!` and a keyword
  | closing -- `>`
  | conditional -- `<![` or `]]>`
  | name (text : List Char)
  | prefixedName (text : List Char)
  | word (text : List Char) -- A word that may be a value but no name
  | counted -- A name with a sign behind it
  | literal (text : List Located)
  | hash (name : List Char)
  | percent
  | parameter -- A reference to a parameter entity
  | openBracket
  | closeBracket
  | openParen
  | closeParen (count : Occurrence)
  | bar
  | comma
deriving DecidableEq, Repr

inductive EntityName where
  | general (name : List Char)
  | parameter -- A parameter entity, whose references are not followed
deriving DecidableEq, Repr

/-- What separates the parts of a group in a content model. -/
inductive Separator where
  | bar
  | comma
deriving DecidableEq, Repr

/-- An attribute that is being declared. -/
structure AttributeHead where
  element : List Char
  name : List Char
  tokenised : Bool
deriving DecidableEq, Repr

/-- What came before, as far as it decides what may come next. -/
inductive Prologue where
  | beginning -- Nothing
  | opened -- Something, but neither a document type declaration nor the root element
  | typed -- A document type declaration
  -- In the document type declaration; `away` tells whether it names another file.
  | doctype
  | doctypeNamed
  | doctypePublic
  | doctypeSystem
  | doctypeLocated
  | subset (away : Bool)
  | subsetClosed (away : Bool)
  -- In an entity declaration.
  | entity (away : Bool)
  | parameterEntity (away : Bool)
  | entityNamed (away : Bool) (name : EntityName)
  | entityPublic (away : Bool) (name : EntityName)
  | entitySystem (away : Bool) (name : EntityName)
  | entityLocated (away : Bool) (name : EntityName)
  | entityData (away : Bool) (name : List Char)
  -- In a notation declaration.
  | notationDeclaration (away : Bool)
  | notationNamed (away : Bool)
  | notationPublic (away : Bool)
  | notationSystem (away : Bool)
  | notationPublicRead (away : Bool)
  -- In an attribute list declaration.
  | attributes (away : Bool)
  | attributesOf (away : Bool) (element : List Char)
  | attributeNamed (away : Bool) (element name : List Char)
  | attributeChoice (away : Bool) (head : AttributeHead)
  | attributeChosen (away : Bool) (head : AttributeHead)
  | attributeNotation (away : Bool) (head : AttributeHead)
  | attributeNotationChoice (away : Bool) (head : AttributeHead)
  | attributeNotationChosen (away : Bool) (head : AttributeHead)
  | attributeTyped (away : Bool) (head : AttributeHead)
  | attributeFixed (away : Bool) (head : AttributeHead)
  -- In an element type declaration; `groups` holds the separator of each open group, innermost
  -- first.
  | element (away : Bool)
  | elementNamed (away : Bool)
  | contentStart (away : Bool)
  | mixed (away : Bool)
  | mixedBar (away : Bool)
  | mixedName (away : Bool)
  | contentPart (away : Bool) (groups : List (Option Separator))
  | contentNext (away : Bool) (groups : List (Option Separator))
  | declarationEnd (away : Bool) -- At the end of a declaration
deriving DecidableEq, Repr

structure PlacedToken where
  place : Position
  token : Token
deriving DecidableEq, Repr

structure PrologueState where
  prologue : Prologue
  definitions : Definitions
deriving DecidableEq, Repr

inductive PrologueStep where
  | next (state : PrologueState)
  | declared (state : PrologueState) (encoding : Option (List Char × Position))
  | content (definitions : Definitions)
  | fault (f : Fault)
deriving DecidableEq, Repr

/-- A public identifier holds letters, digits, white space and some punctuation; the place of the
first character that does not belong. -/
def publicIdFault? (text : List Located) : Option Position :=
  let allowed (c : Char) : Bool :=
    isAsciiLetter c || c.isDigit || c = ' ' || c = '\n' || c = '\r' ||
      "-'()+,./:=?;!*#@$_%".toList.contains c
  (text.find? fun l => !allowed l.char).map (·.place)

/-- The types of attributes that are words or lists of words. -/
def wordTypes : List String :=
  ["ID", "IDREF", "IDREFS", "ENTITY", "ENTITIES", "NMTOKEN", "NMTOKENS"]

namespace PrologueState

def refuse (t : PlacedToken) : PrologueStep :=
  match t.token with
  | .parameter => .fault ⟨.parameterReference, t.place⟩
  | .declaration .. => .fault ⟨.misplacedDeclaration, t.place⟩
  | _ => .fault ⟨.syntaxError, t.place⟩

def goto (s : PrologueState) (p : Prologue) : PrologueStep := .next { s with prologue := p }

def publicId (s : PrologueState) (text : List Located) (p : Prologue) : PrologueStep :=
  match publicIdFault? text with
  | some place => .fault ⟨.publicIdCharacter, place⟩
  | none => s.goto p

/-- The end of the document type declaration; `away` tells whether it names another file. -/
def closeDoctype (s : PrologueState) (away : Bool) : PrologueStep :=
  let definitions := if away then { s.definitions with unread := true } else s.definitions
  .next ⟨.typed, definitions⟩

/-- An entity is declared, if the declaration is about a general one. -/
def declare (s : PrologueState) (name : EntityName) (e : Entity) : Definitions :=
  match name with
  | .general name => s.definitions.declare name e
  | .parameter => s.definitions

def entityValue (s : PrologueState) (away : Bool) (name : EntityName) (value : List Located) :
    PrologueStep :=
  if !s.definitions.counting then s.goto (.declarationEnd away)
  else match Markup.entityValue value with
    | .error f => .fault f
    | .ok text => .next ⟨.declarationEnd away, s.declare name (.internal text)⟩

def attributeWithout (s : PrologueState) (away : Bool) (h : AttributeHead) : PrologueStep :=
  .next ⟨.attributesOf away h.element,
    s.definitions.addRule ⟨h.element, h.name, h.tokenised, none⟩⟩

def attributeWith (s : PrologueState) (place : Position) (away : Bool) (h : AttributeHead)
    (value : List Located) : PrologueStep :=
  let d := s.definitions
  if !d.counting then s.goto (.attributesOf away h.element)
  else
    let (ps, fault) := pieces .ofAttribute value
    match d.attributeValue d.complete h.tokenised ps, fault with
    | .error f, _ => .fault ⟨f.reason, f.place.getD place⟩
    | .ok _, some f => .fault f
    | .ok value, none =>
      .next ⟨.attributesOf away h.element,
        d.addRule ⟨h.element, h.name, h.tokenised, some value⟩⟩

def attributeType (s : PrologueState) (t : PlacedToken) (away : Bool) (element name : List Char)
    (keyword : String) : PrologueStep :=
  if keyword = "CDATA" then s.goto (.attributeTyped away ⟨element, name, false⟩)
  else if wordTypes.contains keyword then s.goto (.attributeTyped away ⟨element, name, true⟩)
  else if keyword = "NOTATION" then s.goto (.attributeNotation away ⟨element, name, true⟩)
  else refuse t

/-- A declaration in the internal subset, by its keyword. -/
def declaration (s : PrologueState) (t : PlacedToken) (away : Bool) (keyword : String) :
    PrologueStep :=
  if keyword = "ENTITY" then s.goto (.entity away)
  else if keyword = "ATTLIST" then s.goto (.attributes away)
  else if keyword = "ELEMENT" then s.goto (.element away)
  else if keyword = "NOTATION" then s.goto (.notationDeclaration away)
  else refuse t

/-- A part of a content model is complete, and perhaps a group with it. -/
def closeGroup (s : PrologueState) (away : Bool) : List (Option Separator) → PrologueStep
  | [] | [_] => s.goto (.declarationEnd away)
  | _ :: g :: groups => s.goto (.contentNext away (g :: groups))

/-- A separator in a content model: a group has only one kind. -/
def separate (s : PrologueState) (t : PlacedToken) (away : Bool) (mark : Separator) :
    List (Option Separator) → PrologueStep
  | [] => refuse t
  | g :: groups =>
    if g = none ∨ g = some mark then s.goto (.contentPart away (some mark :: groups)) else refuse t

def stepOpened (s : PrologueState) (t : PlacedToken) : PrologueStep :=
  match t.token with
  | .space | .comment | .instruction => s.goto .opened
  | .opening keyword => if keyword = "DOCTYPE".toList then s.goto .doctype else refuse t
  | .root => .content s.definitions
  | _ => refuse t

def stepDoctype (s : PrologueState) (t : PlacedToken) : PrologueStep :=
  match s.prologue, t.token with
  | .doctype, .name _ => s.goto .doctypeNamed
  | .doctype, .prefixedName _ => s.goto .doctypeNamed
  | .doctypeNamed, .openBracket => s.goto (.subset false)
  | .doctypeNamed, .closing => s.closeDoctype false
  | .doctypeNamed, .name k =>
    if k = "SYSTEM".toList then s.goto .doctypeSystem
    else if k = "PUBLIC".toList then s.goto .doctypePublic
    else refuse t
  | .doctypePublic, .literal text => s.publicId text .doctypeSystem
  | .doctypeSystem, .literal _ => s.goto .doctypeLocated
  | .doctypeLocated, .openBracket => s.goto (.subset true)
  | .doctypeLocated, .closing => s.closeDoctype true
  | .subset away, .opening keyword => s.declaration t away (String.ofList keyword)
  | .subset _, .comment => .next s
  | .subset _, .instruction => .next s
  | .subset _, .parameter => .next { s with definitions := s.definitions.skipParameter }
  | .subset away, .closeBracket => s.goto (.subsetClosed away)
  | .subsetClosed away, .closing => s.closeDoctype away
  | .declarationEnd away, .closing => s.goto (.subset away)
  | _, _ => refuse t

def stepEntity (s : PrologueState) (t : PlacedToken) : PrologueStep :=
  match s.prologue, t.token with
  | .entity away, .percent => s.goto (.parameterEntity away)
  | .entity away, .name n => s.goto (.entityNamed away (.general n))
  | .parameterEntity away, .name _ => s.goto (.entityNamed away .parameter)
  | .entityNamed away n, .literal text => s.entityValue away n text
  | .entityNamed away n, .name k =>
    if k = "SYSTEM".toList then s.goto (.entitySystem away n)
    else if k = "PUBLIC".toList then s.goto (.entityPublic away n)
    else refuse t
  | .entityPublic away n, .literal text => s.publicId text (.entitySystem away n)
  | .entitySystem away n, .literal _ => s.goto (.entityLocated away n)
  | .entityLocated away n, .closing => .next ⟨.subset away, s.declare n .external⟩
  | .entityLocated away (.general n), .name k =>
    if k = "NDATA".toList then s.goto (.entityData away n) else refuse t
  | .entityData away n, .name _ =>
    .next ⟨.declarationEnd away, s.declare (.general n) .unparsed⟩
  | .notationDeclaration away, .name _ => s.goto (.notationNamed away)
  | .notationNamed away, .name k =>
    if k = "SYSTEM".toList then s.goto (.notationSystem away)
    else if k = "PUBLIC".toList then s.goto (.notationPublic away)
    else refuse t
  | .notationPublic away, .literal text => s.publicId text (.notationPublicRead away)
  | .notationSystem away, .literal _ => s.goto (.declarationEnd away)
  | .notationPublicRead away, .literal _ => s.goto (.declarationEnd away)
  | .notationPublicRead away, .closing => s.goto (.subset away)
  | _, _ => refuse t

def stepAttributes (s : PrologueState) (t : PlacedToken) : PrologueStep :=
  match s.prologue, t.token with
  | .attributes away, .name n => s.goto (.attributesOf away n)
  | .attributes away, .prefixedName n => s.goto (.attributesOf away n)
  | .attributesOf away _, .closing => s.goto (.subset away)
  | .attributesOf away e, .name n => s.goto (.attributeNamed away e n)
  | .attributesOf away e, .prefixedName n => s.goto (.attributeNamed away e n)
  | .attributeNamed away e n, .name k => s.attributeType t away e n (String.ofList k)
  | .attributeNamed away e n, .openParen => s.goto (.attributeChoice away ⟨e, n, true⟩)
  | .attributeChoice away h, .word _ => s.goto (.attributeChosen away h)
  | .attributeChoice away h, .name _ => s.goto (.attributeChosen away h)
  | .attributeChoice away h, .prefixedName _ => s.goto (.attributeChosen away h)
  | .attributeChosen away h, .closeParen .once => s.goto (.attributeTyped away h)
  | .attributeChosen away h, .bar => s.goto (.attributeChoice away h)
  | .attributeNotation away h, .openParen => s.goto (.attributeNotationChoice away h)
  | .attributeNotationChoice away h, .name _ => s.goto (.attributeNotationChosen away h)
  | .attributeNotationChosen away h, .closeParen .once => s.goto (.attributeTyped away h)
  | .attributeNotationChosen away h, .bar => s.goto (.attributeNotationChoice away h)
  | .attributeTyped away h, .hash k =>
    if k = "IMPLIED".toList ∨ k = "REQUIRED".toList then s.attributeWithout away h
    else if k = "FIXED".toList then s.goto (.attributeFixed away h)
    else refuse t
  | .attributeTyped away h, .literal text => s.attributeWith t.place away h text
  | .attributeFixed away h, .literal text => s.attributeWith t.place away h text
  | _, _ => refuse t

def stepElement (s : PrologueState) (t : PlacedToken) : PrologueStep :=
  match s.prologue, t.token with
  | .element away, .name _ => s.goto (.elementNamed away)
  | .element away, .prefixedName _ => s.goto (.elementNamed away)
  | .elementNamed away, .name k =>
    if k = "EMPTY".toList ∨ k = "ANY".toList then s.goto (.declarationEnd away) else refuse t
  | .elementNamed away, .openParen => s.goto (.contentStart away)
  | .contentStart away, .hash k =>
    if k = "PCDATA".toList then s.goto (.mixed away) else refuse t
  | .contentStart away, .openParen => s.goto (.contentPart away [none, none])
  | .contentStart away, .name _ => s.goto (.contentNext away [none])
  | .contentStart away, .prefixedName _ => s.goto (.contentNext away [none])
  | .contentStart away, .counted => s.goto (.contentNext away [none])
  | .mixed away, .closeParen .once => s.goto (.declarationEnd away)
  | .mixed away, .closeParen .repeated => s.goto (.declarationEnd away)
  | .mixed away, .bar => s.goto (.mixedBar away)
  | .mixedBar away, .name _ => s.goto (.mixedName away)
  | .mixedBar away, .prefixedName _ => s.goto (.mixedName away)
  | .mixedName away, .closeParen .repeated => s.goto (.declarationEnd away)
  | .mixedName away, .bar => s.goto (.mixedBar away)
  | .contentPart away gs, .openParen => s.goto (.contentPart away (none :: gs))
  | .contentPart away gs, .name _ => s.goto (.contentNext away gs)
  | .contentPart away gs, .prefixedName _ => s.goto (.contentNext away gs)
  | .contentPart away gs, .counted => s.goto (.contentNext away gs)
  | .contentNext away gs, .closeParen _ => s.closeGroup away gs
  | .contentNext away gs, .comma => s.separate t away .comma gs
  | .contentNext away gs, .bar => s.separate t away .bar gs
  | _, _ => refuse t

/-- One token further. White space says nothing but that the beginning is over. -/
def step (s : PrologueState) (t : PlacedToken) : PrologueStep :=
  match s.prologue with
  | .beginning =>
    match t.token with
    | .declaration text finish =>
      match Declaration.read finish text with
      | .error place => .fault ⟨.malformedDeclaration, place⟩
      | .ok d =>
        .declared ⟨.opened, { s.definitions with standalone := d.standalone }⟩ d.encoding
    | _ => s.stepOpened t
  | .opened => s.stepOpened t
  | .typed =>
    match t.token with
    | .space | .comment | .instruction => .next s
    | .root => .content s.definitions
    | _ => refuse t
  | .doctype | .doctypeNamed | .doctypePublic | .doctypeSystem | .doctypeLocated | .subset _
  | .subsetClosed _ | .declarationEnd _ => if t.token = .space then .next s else s.stepDoctype t
  | .entity _ | .parameterEntity _ | .entityNamed .. | .entityPublic .. | .entitySystem ..
  | .entityLocated .. | .entityData .. | .notationDeclaration _ | .notationNamed _
  | .notationPublic _ | .notationSystem _ | .notationPublicRead _ =>
    if t.token = .space then .next s else s.stepEntity t
  | .attributes _ | .attributesOf .. | .attributeNamed .. | .attributeChoice ..
  | .attributeChosen .. | .attributeNotation .. | .attributeNotationChoice ..
  | .attributeNotationChosen .. | .attributeTyped .. | .attributeFixed .. =>
    if t.token = .space then .next s else s.stepAttributes t
  | .element _ | .elementNamed _ | .contentStart _ | .mixed _ | .mixedBar _ | .mixedName _
  | .contentPart .. | .contentNext .. => if t.token = .space then .next s else s.stepElement t

end PrologueState

end GrammarProject.Markup
