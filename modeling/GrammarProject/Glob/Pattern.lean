/-!
# Wildcard patterns

A pattern for one name: `*` stands for any characters, `?` for one, `[...]` for one of a set and
`[!...]` for one outside a set; every other character stands for itself. In a set the first
character is a member whatever it is, `]` too, and `a-z` is a range. A `[` without a closing
bracket stands for itself. `Pattern.matches` decides whether a name fits.
-/

namespace GrammarProject.Glob

inductive Member where
  | one (c : Char)
  /-- The characters from `low` to `high`, none when they are in the wrong order. -/
  | range (low high : Char)
deriving DecidableEq, Repr

def Member.holds : Member → Char → Bool
  | one d, c => c = d
  | range low high, c => low ≤ c && c ≤ high

/-- One part of a pattern. -/
inductive Token where
  | any
  | single
  | literal (c : Char)
  /-- One character that is among the members, or that is not. -/
  | set (negated : Bool) (members : List Member)
deriving DecidableEq, Repr

abbrev Pattern := List Token

/-! ## Reading a pattern -/

def isMagicChar (c : Char) : Bool := c = '*' || c = '?' || c = '['

def isMagic (cs : List Char) : Bool := cs.any isMagicChar

def members : List Char → List Member
  | [] => []
  | a :: '-' :: b :: rest => .range a b :: members rest
  | a :: rest => .one a :: members rest

/-- The text of a set that starts behind `[`, and what follows the closing bracket. -/
def setText? (cs : List Char) : Option (List Char × List Char) :=
  let (mark, cs) := match cs with
    | '!' :: r => (['!'], r)
    | r => ([], r)
  let (first, cs) := match cs with
    | ']' :: r => ([']'], r)
    | r => ([], r)
  match cs.dropWhile (· ≠ ']') with
  | [] => none
  | _ :: rest => some (mark ++ first ++ cs.takeWhile (· ≠ ']'), rest)

def setOf : List Char → Token
  | '!' :: cs => .set true (members cs)
  | cs => .set false (members cs)

/-- The parts of a pattern, where `skip` characters belong to a set already read. -/
def tokensAfter (skip : Nat) : List Char → Pattern
  | [] => []
  | c :: cs =>
    match skip with
    | skip + 1 => tokensAfter skip cs
    | 0 =>
      if c = '*' then .any :: tokensAfter 0 cs
      else if c = '?' then .single :: tokensAfter 0 cs
      else if c = '[' then
        match setText? cs with
        | none => .literal '[' :: tokensAfter 0 cs
        | some (text, _) => setOf text :: tokensAfter (text.length + 1) cs
      else .literal c :: tokensAfter 0 cs

def Pattern.ofText (cs : List Char) : Pattern := tokensAfter 0 cs

/-! ## Matching -/

/-- Whether one character fits a part that stands for one character. -/
def Token.fits : Token → Char → Bool
  | any, _ => false
  | single, _ => true
  | literal d, c => c = d
  | set negated ms, c => ms.any (·.holds c) != negated

/-- The ends of a pattern from which a name may go on: each `*` at the front may be left out. -/
def Pattern.openings : Pattern → List Pattern
  | .any :: ts => (.any :: ts) :: Pattern.openings ts
  | p => [p]

/-- What is left of a pattern after its first part has taken a character. -/
def Pattern.after (c : Char) : Pattern → List Pattern
  | [] => []
  | .any :: ts => [.any :: ts]
  | t :: ts => if t.fits c then [ts] else []

/-- Whether a name fits one of several patterns. All of them are followed at the same time, so
the work grows with the product of the lengths. -/
def Pattern.anyMatches (ps : List Pattern) : List Char → Bool
  | [] => ps.any fun p => p.openings.contains []
  | c :: cs => Pattern.anyMatches (ps.flatMap fun p => p.openings.flatMap (·.after c)).eraseDups cs

def Pattern.matches (p : Pattern) (cs : List Char) : Bool := Pattern.anyMatches [p] cs

end GrammarProject.Glob
