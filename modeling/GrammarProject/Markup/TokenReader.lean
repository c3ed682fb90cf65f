import GrammarProject.Markup.Aside
import GrammarProject.Markup.Prologue

/-!
# Reading tokens outside the root element

`TokenReader` cuts what stands before and after the root element into tokens. Many tokens end only
with the character behind them, which then begins the next token.
-/

namespace GrammarProject.Markup

inductive WordKind where
  | name
  | behindColon -- A name and a colon
  | prefixedName
  | value -- No name, but it may be a value
deriving DecidableEq, Repr

/-- What token is being read. Texts are held last character first. -/
inductive TokenState where
  | gap
  | word (kind : WordKind) (reversed : List Char)
  | literal (quote : Char) (reversed : List Located)
  | literalClosed (text : List Located) -- Behind the closing quote of a literal
  | bracket -- Behind `]`
  | brackets (second : Position) -- Behind `]]`; the place of the second
  | paren -- Behind `)`
  | hash -- Behind `#`
  | hashName (reversed : List Char)
  | percent -- Behind `%`
  | parameter -- In the name of a parameter entity
  | markup -- Behind `<`
  | bang -- Behind `<!`
  | keyword (reversed : List Char)
  /-- Behind a keyword and `%`; the place of the latter. -/
  | keywordPercent (reversed : List Char) (percent : Position)
  | aside (state : AsideState)
deriving DecidableEq, Repr

/-- A token that is being read and where it starts. -/
structure TokenReader where
  start : Position
  state : TokenState
deriving DecidableEq, Repr

/-- The tokens that a character completes, and the reader behind it or the place of a character
that may not stand where it stands. -/
abbrev TokenStep := List PlacedToken × Except Position TokenReader

def WordKind.token (kind : WordKind) (text : List Char) : Token :=
  match kind with
  | .name => .name text
  | .prefixedName => .prefixedName text
  | .behindColon => .word text
  | .value => .word text

def Token.ofAside : Aside → Token
  | .comment => .comment
  | .instruction => .instruction
  | .declaration text finish => .declaration text finish

def endsWord (c : Char) : Bool := isSpace c || ['>', ')', ',', '|', '[', '%'].contains c

def followsLiteral (c : Char) : Bool := isSpace c || ['>', '%', '['].contains c

def followsParen (c : Char) : Bool := isSpace c || ['>', ',', '|', ')'].contains c

def endsHash (c : Char) : Bool := isSpace c || [')', '>', '%', '|'].contains c

/-- How often a group may occur, by the sign behind it. -/
def occurrence? (c : Char) : Option Occurrence :=
  if c = '*' then some .repeated
  else if c = '+' then some .atLeastOnce
  else if c = '?' then some .optional
  else none

namespace TokenReader

def between (place : Position) : TokenReader := ⟨place, .gap⟩

def more (r : TokenReader) (state : TokenState) : TokenStep := ([], .ok { r with state })

def starting (l : Located) (state : TokenState) : TokenStep := ([], .ok ⟨l.place, state⟩)

def complete (start : Position) (token : Token) : TokenStep :=
  ([⟨start, token⟩], .ok (between start))

def invalid (l : Located) : TokenStep := ([], .error l.place)

/-- A token that ended before the character, which begins the next. -/
def before (start : Position) (token : Token) (s : TokenStep) : TokenStep :=
  (⟨start, token⟩ :: s.1, s.2)

def stepGap (l : Located) : TokenStep :=
  let c := l.char
  if c = '"' || c = '\'' then starting l (.literal c [])
  else if c = '<' then starting l .markup
  else if isSpace c then complete l.place .space
  else if c = '%' then starting l .percent
  else if c = ',' then complete l.place .comma
  else if c = '[' then complete l.place .openBracket
  else if c = ']' then starting l .bracket
  else if c = '(' then complete l.place .openParen
  else if c = ')' then starting l .paren
  else if c = '|' then complete l.place .bar
  else if c = '>' then complete l.place .closing
  else if c = '#' then starting l .hash
  else if isNameStart c then starting l (.word .name [c])
  else if isNameChar c || c = ':' then starting l (.word .value [c])
  else invalid l

def stepWord (r : TokenReader) (kind : WordKind) (reversed : List Char) (l : Located) : TokenStep :=
  let c := l.char
  if isNameChar c then
    r.more (.word (if kind = .behindColon then .prefixedName else kind) (c :: reversed))
  else if endsWord c then before r.start (kind.token reversed.reverse) (stepGap l)
  else if c = ':' then
    r.more (.word (if kind = .name then .behindColon else .value) (c :: reversed))
  else if (occurrence? c).isSome && (kind = .name || kind = .prefixedName) then
    complete r.start .counted
  else invalid l

def stepPercent (r : TokenReader) (l : Located) : TokenStep :=
  if isNameStart l.char then r.more .parameter
  else if isSpace l.char || l.char = '%' then before r.start .percent (stepGap l)
  else invalid l

def stepParen (r : TokenReader) (l : Located) : TokenStep :=
  match occurrence? l.char with
  | some o => complete r.start (.closeParen o)
  | none =>
    if followsParen l.char then before r.start (.closeParen .once) (stepGap l) else invalid l

def stepBang (r : TokenReader) (l : Located) : TokenStep :=
  if l.char = '-' then r.more (.aside .commentOpen)
  else if l.char = '[' then complete r.start .conditional
  else if isAsciiLetter l.char || l.char = '_' then r.more (.keyword [l.char])
  else invalid l

def stepKeyword (r : TokenReader) (reversed : List Char) (l : Located) : TokenStep :=
  if isAsciiLetter l.char || l.char = '_' then r.more (.keyword (l.char :: reversed))
  else if isSpace l.char then before r.start (.opening reversed.reverse) (stepGap l)
  else if l.char = '%' then r.more (.keywordPercent reversed l.place)
  else invalid l

/-- A character behind `<`: what may begin the name of the root element ends the prologue, also
if it cannot begin a name. -/
def stepMarkup (r : TokenReader) (l : Located) : TokenStep :=
  if l.char = '!' then r.more .bang
  else if l.char = '?' then r.more (.aside .instructionOpen)
  else if isAsciiLetter l.char || l.char = '_' || 0x80 ≤ l.char.toNat then complete r.start .root
  else invalid l

def step (r : TokenReader) (l : Located) : TokenStep :=
  match r.state with
  | .gap => stepGap l
  | .word kind reversed => r.stepWord kind reversed l
  | .literal quote reversed =>
    if l.char = quote then r.more (.literalClosed reversed.reverse)
    else r.more (.literal quote (l :: reversed))
  | .literalClosed text =>
    if followsLiteral l.char then before r.start (.literal text) (stepGap l) else invalid l
  | .bracket =>
    if l.char = ']' then r.more (.brackets l.place) else before r.start .closeBracket (stepGap l)
  | .brackets second =>
    if l.char = '>' then complete r.start .conditional
    else if l.char = ']' then before r.start .closeBracket (more ⟨second, .gap⟩ (.brackets l.place))
    else before r.start .closeBracket (before second .closeBracket (stepGap l))
  | .paren => r.stepParen l
  | .hash => if isNameStart l.char then r.more (.hashName [l.char]) else invalid l
  | .hashName reversed =>
    if isNameChar l.char then r.more (.hashName (l.char :: reversed))
    else if endsHash l.char then before r.start (.hash reversed.reverse) (stepGap l)
    else invalid l
  | .percent => r.stepPercent l
  | .parameter =>
    if l.char = ';' then complete r.start .parameter
    else if isNameChar l.char then r.more .parameter
    else invalid l
  | .markup => r.stepMarkup l
  | .bang => r.stepBang l
  | .keyword reversed => r.stepKeyword reversed l
  | .keywordPercent reversed percent =>
    if isSpace l.char || l.char = '%' then ([], .error percent)
    else before r.start (.opening reversed.reverse) (stepPercent ⟨percent, .percent⟩ l)
  | .aside s =>
    match s.step l with
    | .more s => r.more (.aside s)
    | .done a => complete r.start (.ofAside a)
    | .invalid => invalid l

/-- The tokens that any character completes, also one that cannot be read. -/
def completed (r : TokenReader) : List PlacedToken :=
  match r.state with
  | .bracket => [⟨r.start, .closeBracket⟩]
  | .brackets second => [⟨r.start, .closeBracket⟩, ⟨second, .closeBracket⟩]
  | _ => []

/-- The tokens that the end of the document completes; none if it ends within a token. -/
def finish (r : TokenReader) : Option (List PlacedToken) :=
  match r.state with
  | .gap => some []
  | .word .behindColon _ => none
  | .word kind reversed => some [⟨r.start, kind.token reversed.reverse⟩]
  | .literalClosed text => some [⟨r.start, .literal text⟩]
  | .bracket => some [⟨r.start, .closeBracket⟩]
  | .paren => some [⟨r.start, .closeParen .once⟩]
  | .hashName reversed => some [⟨r.start, .hash reversed.reverse⟩]
  | _ => none

end TokenReader

end GrammarProject.Markup
