import GrammarProject.Markup.Advance
import GrammarProject.Markup.NameChar
import GrammarProject.Markup.Position

/-!
# Comments and processing instructions

The parts of a document that may stand inside and outside the root element alike. An instruction
whose target is `xml` is an XML declaration.
-/

namespace GrammarProject.Markup

/-- A comment or a processing instruction. -/
inductive Aside where
  | comment
  | instruction
  /-- An XML declaration: the characters between `<?xml` and `?>`, and the place of the latter. -/
  | declaration (text : List Located) (finish : Position)
deriving DecidableEq, Repr

/-- Where the reader of an aside stands. Texts are held last character first. -/
inductive AsideState where
  | commentOpen -- Behind `<!-`
  | comment
  | commentDash -- Behind a `-` in a comment
  | commentEnd -- Behind `--` in a comment
  | instructionOpen -- Behind `<?`
  | target (reversed : List Char)
  /-- Behind a target and `?`; the place of the latter. -/
  | targetEnd (isDeclaration : Bool) (finish : Position)
  | instruction
  | instructionEnd -- Behind a `?` in an instruction
  | declaration (reversed : List Located)
  /-- Behind a `?` in an XML declaration; its place. -/
  | declarationEnd (reversed : List Located) (finish : Position)
deriving DecidableEq, Repr

namespace AsideState

/-- What is behind a target: only one in small letters may be `xml`. -/
def behindTarget (target : List Char) (l : Located) : Advance AsideState Aside :=
  let isDeclaration : Bool := target = ['x', 'm', 'l']
  if !isDeclaration && target.map Char.toLower = ['x', 'm', 'l'] then .invalid
  else if l.char = '?' then .more (targetEnd isDeclaration l.place)
  else if isDeclaration then .more (declaration [l])
  else .more instruction

def step : AsideState → Located → Advance AsideState Aside
  | commentOpen, l => if l.char = '-' then .more comment else .invalid
  | comment, l => if l.char = '-' then .more commentDash else .more comment
  | commentDash, l => if l.char = '-' then .more commentEnd else .more comment
  | commentEnd, l => if l.char = '>' then .done .comment else .invalid
  | instructionOpen, l => if isNameStart l.char then .more (target [l.char]) else .invalid
  | target r, l =>
    if isNameChar l.char then .more (target (l.char :: r))
    else if isSpace l.char || l.char = '?' then behindTarget r.reverse l
    else .invalid
  | targetEnd isDeclaration finish, l =>
    if l.char ≠ '>' then .invalid
    else if isDeclaration then .done (.declaration [] finish)
    else .done .instruction
  | instruction, l => if l.char = '?' then .more instructionEnd else .more instruction
  | instructionEnd, l =>
    if l.char = '>' then .done .instruction
    else if l.char = '?' then .more instructionEnd
    else .more instruction
  | declaration r, l =>
    if l.char = '?' then .more (declarationEnd r l.place) else .more (declaration (l :: r))
  | declarationEnd r finish, l =>
    if l.char = '>' then .done (.declaration r.reverse finish)
    else if l.char = '?' then .more (declarationEnd (⟨'?', finish⟩ :: r) l.place)
    else .more (declaration (l :: ⟨'?', finish⟩ :: r))

end AsideState

end GrammarProject.Markup
