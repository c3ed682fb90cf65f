import GrammarProject.Markup.Reference
import GrammarProject.Markup.Tag

/-!
# Reading tags

`StartTagReader` reads a start tag from its name on, `EndTagState` an end tag from behind `</`.
-/

namespace GrammarProject.Markup

/-! ## Names -/

/-- Where the reader of a name stands that may hold one colon. -/
inductive NameStage where
  | plain
  | behindColon
  | prefixed
deriving DecidableEq, Repr

/-- A name that is being read, last character first. -/
structure PartialName where
  reversed : List Char
  stage : NameStage
deriving DecidableEq, Repr

namespace PartialName

def ofChar (c : Char) : PartialName := ⟨[c], .plain⟩

def text (n : PartialName) : List Char := n.reversed.reverse

/-- One character further; `done` for one that does not belong to the name. -/
def step (n : PartialName) (c : Char) : Advance PartialName Unit :=
  if n.stage = .behindColon then
    if isNameStart c then .more ⟨c :: n.reversed, .prefixed⟩ else .invalid
  else if c = ':' then
    if n.stage = .plain then .more ⟨c :: n.reversed, .behindColon⟩ else .invalid
  else if isNameChar c then .more { n with reversed := c :: n.reversed }
  else .done ()

end PartialName

/-! ## Start tags -/

structure PartialAttribute where
  name : List Char
  place : Position
  quote : Char
  reversed : List Piece -- The pieces of the value, last first
deriving DecidableEq, Repr

def PartialAttribute.complete (a : PartialAttribute) : Attribute :=
  ⟨a.name, a.place, a.reversed.reverse⟩

def PartialAttribute.push (a : PartialAttribute) (p : Piece) : PartialAttribute :=
  { a with reversed := p :: a.reversed }

inductive TagPart where
  | name (n : PartialName)
  | gap -- Behind white space, where an attribute may begin
  | attributeName (n : PartialName) (place : Position)
  /-- Behind the name of an attribute and white space. -/
  | attributeGap (name : List Char) (place : Position)
  | equals (name : List Char) (place : Position) -- Behind `=`
  | value (a : PartialAttribute)
  | reference (a : PartialAttribute) (s : ReferenceState) (place : Position)
  | valueClosed -- Behind the closing quote of a value
  | slash -- Behind `/`
deriving DecidableEq, Repr

/-- A start tag that is being read: its place, its name once that is known, the attributes read so
far, last first, and the part that is being read. -/
structure StartTagReader where
  place : Position
  name : List Char
  reversed : List Attribute
  part : TagPart
deriving DecidableEq, Repr

/-- A start tag, and whether it ends its element at once. -/
structure ReadTag where
  tag : StartTag
  isEmpty : Bool
deriving DecidableEq, Repr

namespace StartTagReader

def ofChar (place : Position) (c : Char) : StartTagReader := ⟨place, [], [], .name (.ofChar c)⟩

def more (r : StartTagReader) (part : TagPart) : Advance StartTagReader ReadTag :=
  .more { r with part }

def complete (r : StartTagReader) (isEmpty : Bool) : Advance StartTagReader ReadTag :=
  .done ⟨⟨r.place, r.name, r.reversed.reverse⟩, isEmpty⟩

def stepBoundary (r : StartTagReader) (c : Char) : Advance StartTagReader ReadTag :=
  if isSpace c then r.more .gap
  else if c = '>' then r.complete false
  else if c = '/' then r.more .slash
  else .invalid

def stepAttributeGap (r : StartTagReader) (name : List Char) (place : Position) (c : Char) :
    Advance StartTagReader ReadTag :=
  if c = '=' then r.more (.equals name place)
  else if isSpace c then r.more (.attributeGap name place)
  else .invalid

def stepValue (r : StartTagReader) (a : PartialAttribute) (l : Located) :
    Advance StartTagReader ReadTag :=
  if l.char = a.quote then
    .more { r with reversed := a.complete :: r.reversed, part := .valueClosed }
  else if l.char = '&' then r.more (.reference a .start l.place)
  else if l.char = '<' then .invalid
  else r.more (.value (a.push (.char l.char)))

def step (r : StartTagReader) (l : Located) : Advance StartTagReader ReadTag :=
  let c := l.char
  match r.part with
  | .name n =>
    match n.step c with
    | .more n => r.more (.name n)
    | .invalid => .invalid
    | .done () => stepBoundary { r with name := n.text } c
  | .gap =>
    if isNameStart c then r.more (.attributeName (.ofChar c) l.place) else r.stepBoundary c
  | .attributeName n place =>
    match n.step c with
    | .more n => r.more (.attributeName n place)
    | .invalid => .invalid
    | .done () => r.stepAttributeGap n.text place c
  | .attributeGap name place => r.stepAttributeGap name place c
  | .equals name place =>
    if c = '"' || c = '\'' then r.more (.value ⟨name, place, c, []⟩)
    else if isSpace c then r.more (.equals name place)
    else .invalid
  | .value a => r.stepValue a l
  | .reference a s place =>
    match s.step c with
    | .more s => r.more (.reference a s place)
    | .invalid => .invalid
    | .done ref => r.more (.value (a.push (.reference ref place)))
  | .valueClosed => r.stepBoundary c
  | .slash => if c = '>' then r.complete true else .invalid

end StartTagReader

/-! ## End tags -/

inductive EndTagState where
  | start -- Behind `</`
  | name (reversed : List Char) (place : Position) -- In the name, held last character first
  | gap (name : List Char) (place : Position) -- Behind the name and white space
deriving DecidableEq, Repr

structure EndTag where
  name : List Char
  place : Position
deriving DecidableEq, Repr

def EndTagState.step : EndTagState → Located → Advance EndTagState EndTag
  | start, l => if isNameStart l.char then .more (name [l.char] l.place) else .invalid
  | name r place, l =>
    if isNameChar l.char || l.char = ':' then .more (name (l.char :: r) place)
    else if isSpace l.char then .more (gap r.reverse place)
    else if l.char = '>' then .done ⟨r.reverse, place⟩
    else .invalid
  | gap text place, l =>
    if isSpace l.char then .more (gap text place)
    else if l.char = '>' then .done ⟨text, place⟩
    else .invalid

end GrammarProject.Markup
