import GrammarProject.Markup.Content
import GrammarProject.Markup.TokenReader

/-!
# Scanning a document

A document is a prologue, a root element and an epilogue of comments and processing instructions.
`Scanner.step` takes one character and `Scanner.ending` says what is wrong if there is no more. A
scanner that has found a fault stays as it is.
-/

namespace GrammarProject.Markup

/-- Which part of a document is being read. -/
inductive Region where
  | prologue (state : PrologueState) (reader : TokenReader)
  | content (c : Content)
  | epilogue (reader : TokenReader)
deriving Repr

/-- What is known behind a character of a document. -/
structure Scanner where
  region : Region
  /-- The elements that have ended, last first, while the root element is not open. -/
  finished : List Element
  /-- The encoding that the XML declaration names, and where. -/
  encoding : Option (List Char × Position)
  fault : Option Fault
deriving Repr

namespace Scanner

def first : Scanner :=
  ⟨.prologue ⟨.beginning, .empty⟩ (.between .first), [], none, none⟩

def fail (s : Scanner) (f : Fault) : Scanner := { s with fault := some f }

/-- The elements whose end tags have been read, in their order. -/
def elements (s : Scanner) : List Element :=
  match s.region with
  | .content c => c.finished.reverse
  | _ => s.finished.reverse

/-- One token outside the root element further. -/
def token (s : Scanner) (t : PlacedToken) : Scanner :=
  if s.fault.isSome then s
  else match s.region with
    | .prologue p reader =>
      match p.step t with
      | .next p => { s with region := .prologue p reader }
      | .declared p encoding => { s with region := .prologue p reader, encoding }
      | .content d => { s with region := .content (.first d t.place) }
      | .fault f => s.fail f
    | .content _ => s
    | .epilogue _ =>
      if t.token = .space ∨ t.token = .comment ∨ t.token = .instruction then s
      else s.fail ⟨.junkAfterRoot, t.place⟩

/-- The scanner behind a character in the root element. -/
def ofContent (s : Scanner) (c : Content) (l : Located) : Scanner :=
  if c.fault.isSome then { s with region := .content c, fault := c.fault }
  else if c.opened.isEmpty && c.state = .plain then
    { s with region := .epilogue (.between l.place), finished := c.finished }
  else { s with region := .content c }

def stepContent (s : Scanner) (c : Content) (l : Located) : Scanner :=
  s.ofContent (c.step c.depth l) l

/-- A character outside the root element. The `<` of the root element shows only with the
character behind it, which belongs to the root element. -/
def stepOutside (s : Scanner) (reader : TokenReader) (l : Located) : Scanner :=
  let (tokens, next) := reader.step l
  let s := tokens.foldl token s
  if s.fault.isSome then s
  else match s.region, next with
    | .content c, _ => s.stepContent c l
    | _, .error place => s.fail ⟨.invalidToken, place⟩
    | .prologue p _, .ok reader => { s with region := .prologue p reader }
    | .epilogue _, .ok reader => { s with region := .epilogue reader }

def step (s : Scanner) (l : Located) : Scanner :=
  if s.fault.isSome then s
  else match s.region with
    | .prologue _ reader => s.stepOutside reader l
    | .content c => s.stepContent c l
    | .epilogue reader => s.stepOutside reader l

def illegal (s : Scanner) (place : Position) : Scanner :=
  let outside (reader : TokenReader) : Scanner :=
    let s := reader.completed.foldl token s
    if s.fault.isSome then s else s.fail ⟨.invalidToken, place⟩
  if s.fault.isSome then s
  else match s.region with
    | .prologue _ reader => outside reader
    | .content c => s.fail ⟨.invalidToken, c.illegalPlace place⟩
    | .epilogue reader => outside reader

/-! ## The end -/

def endingOutside (s : Scanner) (reader : TokenReader) (cursor : Position) : Option Fault :=
  match reader.finish with
  | none => some ⟨.unclosedToken, reader.start⟩
  | some tokens =>
    let s := tokens.foldl token s
    match s.fault, s.region with
    | some f, _ => some f
    | none, .epilogue _ => none
    | none, _ => some ⟨.noElement, cursor⟩

/-- What is wrong if the document ends here; `cursor` is its end. -/
def ending (s : Scanner) (cursor : Position) : Option Fault :=
  if s.fault.isSome then s.fault
  else match s.region with
    | .prologue _ reader => s.endingOutside reader cursor
    | .content c => some (c.ending cursor)
    | .epilogue reader => s.endingOutside reader cursor

/-- Where a token starts that is cut by the end of the document. -/
def cutPlace (reader : TokenReader) (cursor : Position) : Position :=
  if reader.state = .gap then cursor else reader.start

/-- What is wrong if the document ends here within a character. Half a two-byte unit does not show
as a character. -/
def endingWithin (s : Scanner) (isCharacter : Bool) (cursor : Position) : Fault :=
  let reason : Reason := if isCharacter then .partialCharacter else .unclosedToken
  match s.fault, s.region with
  | some f, _ => f
  | none, .prologue _ reader => ⟨reason, cutPlace reader cursor⟩
  | none, .content c => c.endingWithin isCharacter cursor
  | none, .epilogue reader => ⟨reason, cutPlace reader cursor⟩

end Scanner

end GrammarProject.Markup
