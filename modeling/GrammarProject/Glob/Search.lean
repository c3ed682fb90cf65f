import GrammarProject.FileTree
import GrammarProject.Glob.Pattern
import GrammarProject.Platform

/-!
# Searching a tree

`search` finds the entries below a directory that fit a pattern of slash-separated names, tried in
the directory itself and in every directory below it, in the order of paths. A name `**` stands for
any directories, a name without wildcards is looked up as it is, and a slash at the end asks for
directories.
-/

namespace GrammarProject

/-- Why a search is refused. -/
inductive SearchError where
  | absolutePattern
  /-- A name holds `**` and something else. -/
  | mixedDoubleStar
  /-- The pattern has more names, or directories stand deeper, than the platform can go through. -/
  | tooDeep
  | access (cause : AccessError) (path : Path)
deriving DecidableEq, Repr

namespace Glob

variable [Platform]

/-- One name of a search pattern. -/
inductive SearchPart where
  /-- This directory and all below it. -/
  | anyDirectory
  | wildcard (pattern : Pattern)
  | name (name : String)
  /-- The empty name behind a last slash. -/
  | final
deriving DecidableEq, Repr

def holdsDoubleStar : List Char → Bool
  | '*' :: '*' :: _ => true
  | _ :: cs => holdsDoubleStar cs
  | [] => false

def SearchPart.ofText (cs : List Char) : Except SearchError SearchPart :=
  if cs = ['*', '*'] then .ok .anyDirectory
  else if holdsDoubleStar cs then .error .mixedDoubleStar
  else if isMagic cs then .ok (.wildcard (Pattern.ofText cs))
  else .ok (.name (String.ofList cs))

def searchParts (pattern : String) : Except SearchError (List SearchPart) := do
  let path := Path.ofString pattern
  if path.anchor ≠ .relative then throw .absolutePattern
  let parts ← path.parts.mapM fun p => SearchPart.ofText p.toList
  if Platform.patternDepth + 1 < parts.length then throw .tooDeep
  pure (if pattern.toList.getLast? = some '/' then parts ++ [.final] else parts)

/-- The directories at and below a place, each by the names that lead to it from there. What is
below one that cannot be entered does not show. -/
def directoriesBelow (t : FileTree) (place : Location) : List (List String) :=
  let places := t.workingDirectory :: t.entries.map (·.1)
  let ways := places.flatMap fun p =>
    if place.isPrefixOf p then
      let rest := p.drop place.length
      (List.range (rest.length + 1)).map rest.take
    else []
  ways.eraseDups.filter fun way => (t.node? (place ++ way)).any Node.isDirectory

/-- Whether a test on a path holds; a name that is too long and a directory that cannot be entered
are errors, all else that cannot be looked up is not there. -/
def tested (t : FileTree) (test : Node → Bool) (p : Path) : Except SearchError Bool :=
  match t.find p.toString with
  | .ok n => .ok (test n)
  | .error .nameTooLong => .error (.access .nameTooLong p)
  | .error .refused => .error (.access .refused p)
  | .error _ => .ok false

/-- A directory that cannot be entered is passed over. -/
def passingOver : Except SearchError Bool → Except SearchError Bool
  | .error (.access .refused _) => .ok false
  | result => result

/-- The paths that fit a search pattern from a directory on. A name that others follow has to be
a directory. -/
def select (t : FileTree) : List SearchPart → Path → Except SearchError (List Path)
  | [], p => .ok [p]
  | .final :: _, p => .ok [p]
  | .anyDirectory :: parts, p => do
    match t.locate p.toString with
    | .error _ => pure []
    | .ok place =>
      let ways := directoriesBelow t place
      if ways.any (Platform.searchDepth < ·.length) then throw .tooDeep
      let found ← ways.mapM fun way => select t parts { p with parts := p.parts ++ way }
      pure found.flatten.eraseDups
  | .wildcard pattern :: parts, p => do
    match t.namesIn p.toString with
    | .error _ => pure []
    | .ok names =>
      let fitting := names.filter fun n =>
        pattern.matches n.toList &&
          (parts.isEmpty || t.reachesDirectory (p.child n).toString)
      let found ← fitting.mapM fun n => select t parts (p.child n)
      pure found.flatten
  | .name n :: parts, p => do
    let test : Node → Bool := if parts.isEmpty then fun _ => true else Node.isDirectory
    if ← passingOver (tested t test (p.child n)) then select t parts (p.child n) else pure []

/-- The paths below `root` that fit a pattern, in order. Nothing is below a path that is no
directory. -/
def search (t : FileTree) (root : Path) (pattern : String) : Except SearchError (List Path) := do
  let parts ← searchParts pattern
  if ← tested t Node.isDirectory root then
    pure (Path.sorted (← select t (.anyDirectory :: parts) root))
  else pure []

end Glob

end GrammarProject
