import GrammarProject.Markup.Aside
import GrammarProject.Markup.TagReader

/-!
# Inside the root element

`Content` is what is known behind a character inside the root element: the open elements, those
that have ended, in the order of their end tags, and what is being read. `Content.step` takes one
character. The text of an entity is read as if it stood in place of its reference, but every
element and every token in it has to begin and end in it.
-/

namespace GrammarProject.Markup

/-- An element that has ended. Its text is what stands before its first child. -/
structure Element where
  name : ExpandedName
  text : List Char
deriving DecidableEq, Repr

structure OpenElement where
  /-- The name as its start tag has it. -/
  tagName : List Char
  name : ExpandedName
  outer : Bindings -- The bindings around the element
  reversed : List Char -- The text before the first child, last character first
  hasChild : Bool
deriving DecidableEq, Repr

def OpenElement.push (e : OpenElement) (c : Char) : OpenElement :=
  if e.hasChild then e else { e with reversed := c :: e.reversed }

inductive ContentState where
  /-- Text; how many `]` are right before, two for more than two, and whether a carriage return
  is. -/
  | text (brackets : Nat) (afterReturn : Bool)
  | reference (state : ReferenceState)
  | markup -- Behind `<`
  | bang -- Behind `<!`
  /-- Behind `<![`; the characters since, last first. -/
  | sectionOpen (reversed : List Located)
  /-- In a CDATA section; how many `]` are right before that may belong to its end, the places of
  them and of a carriage return before being kept for the end of the document. -/
  | section (brackets : List Position) (afterReturn : Option Position)
  | startTag (reader : StartTagReader)
  | endTag (state : EndTagState)
  | aside (state : AsideState)
deriving DecidableEq, Repr

def ContentState.plain : ContentState := .text 0 false

/-- What is known inside the root element. -/
structure Content where
  definitions : Definitions
  bindings : Bindings
  opened : List OpenElement -- The elements that have begun, innermost first
  finished : List Element -- The elements that have ended, last first
  expanding : List (List Char) -- The names of the entities that are being read, innermost first
  /-- How many elements had begun where the innermost of them was referred to. -/
  floor : Nat
  start : Position -- Where the part that is being read starts
  state : ContentState
  fault : Option Fault
deriving Repr

/-- What a character leads to. -/
inductive ContentStep where
  | next (c : Content)
  /-- A reference to an entity that stands for a text. -/
  | expand (c : Content) (name text : List Char)

namespace Content

def first (d : Definitions) (place : Position) : Content :=
  ⟨d, .initial, [], [], [], 0, place, .markup, none⟩

def fail (c : Content) (reason : Reason) (place : Position) : Content :=
  { c with fault := some ⟨reason, place⟩ }

def refuse (c : Content) (l : Located) : Content := c.fail .invalidToken l.place

def goto (c : Content) (state : ContentState) : Content := { c with state }

def starting (c : Content) (l : Located) (state : ContentState) : Content :=
  { c with state, start := l.place }

def push (c : Content) (x : Char) : Content :=
  match c.opened with
  | [] => c
  | e :: es => { c with opened := e.push x :: es }

/-! ## Elements -/

def beginElement (c : Content) (tag : StartTag) (name : ExpandedName) (inner : Bindings) :
    Content :=
  let around :=
    match c.opened with
    | [] => []
    | e :: es => { e with hasChild := true } :: es
  { c with
    opened := ⟨tag.name, name, c.bindings, [], false⟩ :: around
    bindings := inner }

def endElement (c : Content) : Content :=
  match c.opened with
  | [] => c
  | e :: es =>
    { c with
      opened := es
      finished := ⟨e.name, e.reversed.reverse⟩ :: c.finished
      bindings := e.outer }

def startTag (c : Content) (r : ReadTag) : Content :=
  match r.tag.resolve c.definitions c.bindings with
  | .error f => c.fail f.reason f.place
  | .ok (name, inner) =>
    let c := (c.goto .plain).beginElement r.tag name inner
    if r.isEmpty then c.endElement else c

def endTag (c : Content) (t : EndTag) : Content :=
  match c.opened with
  | [] => c.fail .mismatchedTag t.place
  | e :: _ =>
    if c.opened.length = c.floor then c.fail .asynchronousEntity c.start
    else if e.tagName ≠ t.name then c.fail .mismatchedTag t.place
    else (c.goto .plain).endElement

/-! ## References -/

def entityReference (c : Content) (name : List Char) : ContentStep :=
  match c.definitions.entities.lookup name with
  | none =>
    .next (c.fail (if c.definitions.complete then .undefinedEntity else .unreadEntity name) c.start)
  | some e =>
    if c.expanding.contains name then .next (c.fail .recursiveEntity c.start)
    else match e with
      | .unparsed => .next (c.fail .unparsedEntity c.start)
      | .external => .next (c.fail (.unreadEntity name) c.start)
      | .internal text => .expand (c.goto .plain) name text

def reference (c : Content) : Reference → ContentStep
  | .numbered (some x) => .next ((c.goto .plain).push x)
  | .numbered none => .next (c.fail .badCharacterNumber c.start)
  | .named name =>
    match predefined? name with
    | some x => .next ((c.goto .plain).push x)
    | none => c.entityReference name

/-! ## Text -/

/-- Whether a carriage return stands for a line feed: not in the text of an entity, where only a
character number puts one. -/
def breaksLine (c : Content) (x : Char) : Bool := x = '\r' && c.expanding.isEmpty

/-- A character of text. A carriage return, with a line feed behind it or not, is a line feed. -/
def stepText (c : Content) (brackets : Nat) (afterReturn : Bool) (l : Located) : Content :=
  if l.char = '<' then c.starting l .markup
  else if l.char = '&' then c.starting l (.reference .start)
  else if l.char = ']' then (c.goto (.text (min 2 (brackets + 1)) false)).push ']'
  else if l.char = '>' && brackets = 2 then c.refuse l
  else if c.breaksLine l.char then (c.starting l (.text 0 true)).push '\n'
  else if l.char = '\n' && afterReturn then c.goto .plain
  else (c.goto .plain).push l.char

def sectionKeyword : List Char := ['C', 'D', 'A', 'T', 'A', '[']

/-- The first character that is not as in the keyword. -/
def firstWrong? (read : List Located) : Option Located :=
  ((read.zip sectionKeyword).find? fun p => p.1.char ≠ p.2).map (·.1)

/-- A character behind `<![`: as many bytes as the keyword has have to be there before the first
wrong one shows. -/
def stepSectionOpen (c : Content) (reversed : List Located) (l : Located) : Content :=
  let read := (l :: reversed).reverse
  if read.foldl (fun n r => n + r.char.utf8Size) 0 < sectionKeyword.length then
    c.goto (.sectionOpen (l :: reversed))
  else match firstWrong? read with
    | some wrong => c.refuse wrong
    | none => c.goto (.section [] none)

def stepSection (c : Content) (brackets : List Position) (afterReturn : Option Position)
    (l : Located) : Content :=
  if l.char = ']' then
    match brackets with
    | [_, second] => (c.goto (.section [second, l.place] none)).push ']'
    | _ => c.goto (.section (brackets ++ [l.place]) none)
  else if l.char = '>' && brackets.length = 2 then c.goto .plain
  else
    let c := brackets.foldl (fun c _ => c.push ']') c
    if c.breaksLine l.char then (c.goto (.section [] (some l.place))).push '\n'
    else if l.char = '\n' && afterReturn.isSome then c.goto (.section [] none)
    else (c.goto (.section [] none)).push l.char

/-! ## Characters -/

def stepMarkup (c : Content) (l : Located) : Content :=
  if isNameStart l.char then c.goto (.startTag (.ofChar c.start l.char))
  else if l.char = '/' then c.goto (.endTag .start)
  else if l.char = '!' then c.goto .bang
  else if l.char = '?' then c.goto (.aside .instructionOpen)
  else c.refuse l

def stepBang (c : Content) (l : Located) : Content :=
  if l.char = '-' then c.goto (.aside .commentOpen)
  else if l.char = '[' then c.goto (.sectionOpen [])
  else c.refuse l

def behindAside (c : Content) : Aside → Content
  | .comment => c.goto .plain
  | .instruction => c.goto .plain
  | .declaration .. => c.fail .misplacedDeclaration c.start

/-- A character, up to the text of an entity that it refers to. -/
def stepBefore (c : Content) (l : Located) : ContentStep :=
  match c.state with
  | .text brackets afterReturn => .next (c.stepText brackets afterReturn l)
  | .reference s =>
    match s.step l.char with
    | .more s => .next (c.goto (.reference s))
    | .invalid => .next (c.refuse l)
    | .done r => c.reference r
  | .markup => .next (c.stepMarkup l)
  | .bang => .next (c.stepBang l)
  | .sectionOpen reversed => .next (c.stepSectionOpen reversed l)
  | .section brackets afterReturn => .next (c.stepSection brackets afterReturn l)
  | .startTag r =>
    match r.step l with
    | .more r => .next (c.goto (.startTag r))
    | .invalid => .next (c.refuse l)
    | .done tag => .next (c.startTag tag)
  | .endTag s =>
    match s.step l with
    | .more s => .next (c.goto (.endTag s))
    | .invalid => .next (c.refuse l)
    | .done t => .next (c.endTag t)
  | .aside s =>
    match s.step l with
    | .more s => .next (c.goto (.aside s))
    | .invalid => .next (c.refuse l)
    | .done a => .next (c.behindAside a)

def enter (c : Content) (name : List Char) : Content :=
  { c with expanding := name :: c.expanding, floor := c.opened.length }

def leave (outer c : Content) : Content :=
  if c.fault.isSome then c
  else match c.state with
    | .text .. =>
      if c.opened.length = c.floor then
        { c with
          expanding := outer.expanding
          floor := outer.floor
          start := outer.start
          state := .plain }
      else c.fail .asynchronousEntity outer.start
    | .section .. => c.fail .unclosedSection outer.start
    | _ => c.fail .unclosedToken outer.start

/-- One character further, where entities are read in each other at most `depth` deep. Every
place in the text of an entity is that of the reference. -/
def step (depth : Nat) (c : Content) (l : Located) : Content :=
  if c.fault.isSome then c
  else match c.stepBefore l with
    | .next c => c
    | .expand c name text =>
      match depth with
      | 0 => c.fail .recursiveEntity c.start
      | depth + 1 =>
        leave c (text.foldl (fun inner x => step depth inner ⟨x, c.start⟩) (c.enter name))

/-- The number of entities bounds the depth, since none is read within itself. -/
def depth (c : Content) : Nat := c.definitions.entities.length

/-- Where something is wrong if the next character, at `place`, cannot be read. -/
def illegalPlace (c : Content) (place : Position) : Position :=
  match c.state with
  | .sectionOpen reversed => ((firstWrong? reversed.reverse).map (·.place)).getD place
  | _ => place

/-- What is wrong if the document ends here, inside the root element; `cursor` is its end. -/
def ending (c : Content) (cursor : Position) : Fault :=
  match c.state with
  | .text _ true => ⟨.noElement, c.start⟩
  | .text _ false => ⟨.noElement, cursor⟩
  | .section (first :: _) _ => ⟨.unclosedSection, first⟩
  | .section [] (some place) => ⟨.unclosedSection, place⟩
  | .section [] none => ⟨.unclosedSection, cursor⟩
  | _ => ⟨.unclosedToken, c.start⟩

/-- What is wrong if the document ends here within a character. Half a two-byte unit does not
show as a character. -/
def endingWithin (c : Content) (isCharacter : Bool) (cursor : Position) : Fault :=
  match c.state, isCharacter with
  | .text .., true => ⟨.partialCharacter, cursor⟩
  | .text .., false => ⟨.unclosedToken, cursor⟩
  | .section .., true => ⟨.partialCharacter, cursor⟩
  | .section .., false => ⟨.unclosedSection, cursor⟩
  | _, true => ⟨.partialCharacter, c.start⟩
  | _, false => ⟨.unclosedToken, c.start⟩

end Content

end GrammarProject.Markup
