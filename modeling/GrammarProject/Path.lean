/-!
# Paths

A path is where it starts and the components from there on. Reading a path drops what says
nothing, empty components and `.`; it keeps `..`, which only a file system can resolve.
`Path.normal` resolves `..` by the components alone. Paths are ordered by their components, so
`a/z` stands before `a-b/a`.

The module also holds the two operations on path texts that the rest of the library needs: joining
a text to a directory (`joinText`) and taking the directory part (`directoryText`).
-/

namespace GrammarProject

/-- Where a path starts. Exactly two slashes are a start of their own. -/
inductive Anchor where
  | relative
  | root
  | doubleRoot
deriving DecidableEq, Repr

def Anchor.slashes : Anchor → List Char
  | .relative => []
  | .root => ['/']
  | .doubleRoot => ['/', '/']

/-- A path: a start, and components none of which is empty, `.` or holds a slash. -/
structure Path where
  anchor : Anchor
  parts : List String
deriving DecidableEq, Repr

namespace Path

/-- The working directory. -/
def here : Path := ⟨.relative, []⟩

/-! ## Reading and printing -/

/-- The pieces of a text between slashes. -/
def pieces : List Char → List (List Char)
  | [] => [[]]
  | c :: cs =>
    if c = '/' then [] :: pieces cs
    else match pieces cs with
      | [] => [[c]]
      | p :: ps => (c :: p) :: ps

def anchorOf : List Char → Anchor
  | '/' :: '/' :: '/' :: _ => .root
  | '/' :: '/' :: _ => .doubleRoot
  | '/' :: _ => .root
  | _ => .relative

def isPart (piece : List Char) : Bool := piece ≠ [] && piece ≠ ['.']

/-- The path that a text spells. -/
def ofString (s : String) : Path :=
  ⟨anchorOf s.toList, ((pieces s.toList).filter isPart).map String.ofList⟩

def joined : List String → List Char
  | [] => []
  | [p] => p.toList
  | p :: ps => p.toList ++ '/' :: joined ps

/-- The text of a path, `.` for the working directory. -/
def text (p : Path) : List Char :=
  match p.anchor.slashes ++ joined p.parts with
  | [] => ['.']
  | cs => cs

protected def toString (p : Path) : String := String.ofList p.text

instance : ToString Path := ⟨Path.toString⟩

def child (p : Path) (name : String) : Path := { p with parts := p.parts ++ [name] }

/-! ## Order -/

/-- What paths are compared by: the slashes they start with, if any, and their components. -/
def key (p : Path) : List String :=
  match p.anchor with
  | .relative => p.parts
  | a => String.ofList a.slashes :: p.parts

/-- Whether `p` stands at or before `q`. -/
def le (p q : Path) : Bool := !decide (q.key < p.key)

def sorted (ps : List Path) : List Path := ps.mergeSort le

/-! ## Lexical normal form -/

/-- One component further on a way, which is held innermost first: `..` undoes the component
before it, stays where there is none to undo, and leads nowhere from the root. -/
def resolvePart (a : Anchor) (way : List String) (part : String) : List String :=
  if part ≠ ".." then part :: way
  else match way with
    | [] => if a = .relative then [".."] else []
    | p :: ps => if p = ".." then part :: p :: ps else ps

/-- The path with `..` resolved by the components alone. -/
def normal (p : Path) : Path :=
  { p with parts := (p.parts.foldl (resolvePart p.anchor) []).reverse }

/-! ## Path texts -/

/-- A path text seen from a directory: a text that starts with a slash stands for itself. -/
def joinText (directory text : List Char) : List Char :=
  match text with
  | '/' :: _ => text
  | _ => match directory.getLast? with
    | none => text
    | some '/' => directory ++ text
    | some _ => directory ++ '/' :: text

/-- The text up to and including its last slash. -/
def throughLastSlash (text : List Char) : List Char := (text.reverse.dropWhile (· ≠ '/')).reverse

def behindLastSlash (text : List Char) : List Char := (text.reverse.takeWhile (· ≠ '/')).reverse

/-- The text without the slashes at its end, unless there is nothing else. -/
def withoutEndSlashes (text : List Char) : List Char :=
  if text.all (· = '/') then text else (text.reverse.dropWhile (· = '/')).reverse

/-- The text before its last slash. -/
def directoryText (text : List Char) : List Char := withoutEndSlashes (throughLastSlash text)

end Path

end GrammarProject
