import GrammarProject.Text.CaseTable

/-!
# Lower-casing

Each character becomes its lower-case counterpart, with two exceptions of the Unicode standard:
U+0130 becomes `i` followed by U+0307, and a capital sigma at the end of a word becomes U+03C2.
A sigma ends a word when a character with case stands before it and none after it, not counting
the characters that casing passes over.
-/

namespace GrammarProject.Text

def inLowerRun (n : Nat) (r : Nat × Nat × Nat × Int) : Bool :=
  r.1 ≤ n && n ≤ r.2.1 && (n - r.1) % r.2.2.1 == 0

/-- The lower-case counterpart of a character taken by itself. -/
def lowerChar (c : Char) : Char :=
  match lowerRuns.find? (inLowerRun c.toNat) with
  | none => c
  | some r => Char.ofNat (c.toNat + r.2.2.2).toNat

/-- Whether the character has case and counts as a neighbour. -/
def isCased (c : Char) : Bool := CharRange.covers casedRanges c

def isPassedOver (c : Char) : Bool := CharRange.covers passedOverRanges c

/-- Whether the nearest character that counts has case. -/
def meetsCased (cs : List Char) : Bool :=
  match cs.dropWhile isPassedOver with
  | [] => false
  | c :: _ => isCased c

/-- The lower case of one character between the characters before it, nearest first, and the
characters after it. -/
def lowerBetween (before : List Char) (c : Char) (after : List Char) : List Char :=
  if c = '\u0130' then ['i', '\u0307']
  else if c = '\u03a3' then
    if meetsCased before && !meetsCased after then ['\u03c2'] else ['\u03c3']
  else [lowerChar c]

/-- The lower case of a text that continues `before`, which is given nearest first. -/
def lowerAfter (before : List Char) : List Char → List Char
  | [] => []
  | c :: cs => lowerBetween before c cs ++ lowerAfter (c :: before) cs

def lower (cs : List Char) : List Char := lowerAfter [] cs

def lowered (s : String) : String := String.ofList (lower s.toList)

end GrammarProject.Text
