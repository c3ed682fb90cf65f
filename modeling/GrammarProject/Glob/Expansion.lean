import GrammarProject.FileTree
import GrammarProject.Glob.Pattern
import GrammarProject.Platform

/-!
# Expanding a path pattern

A path pattern is a path text some of whose names are wildcard patterns. `expand` lists the path
texts of a tree that fit it. Hidden entries fit like all others, `**` is no different from `*`, and
a pattern that ends in a slash fits directories only.
-/

namespace GrammarProject.Glob

inductive ExpansionError where
  | embeddedNull
  /-- More names stand behind the first wildcard than the platform can go through. -/
  | tooDeep
deriving DecidableEq, Repr

/-- The path text of a name in a directory; the empty text is the working directory. -/
def under (directory name : List Char) : List Char :=
  match directory.getLast? with
  | none => name
  | some '/' => directory ++ name
  | some _ => directory ++ '/' :: name

def listed (directory : List Char) : String :=
  if directory.isEmpty then "." else String.ofList directory

/-- One name of a pattern further, from the directory `directory`: a pattern is compared with the
entries, an ordinary name is looked up, and the empty name behind a last slash asks for a
directory. -/
def expandName (t : FileTree) (directory name : List Char) : List (List Char) :=
  if name.isEmpty then
    if t.reachesDirectory (listed directory) then [directory] else []
  else if isMagic name then
    match t.namesIn (listed directory) with
    | .error _ => []
    | .ok names =>
      (names.filter fun n => (Pattern.ofText name).matches n.toList).map (under directory ·.toList)
  else if t.reaches (String.ofList (under directory name)) then [under directory name] else []

/-- The names of a pattern that count: empty ones between two slashes say nothing. -/
def countingNames : List (List Char) → List (List Char)
  | [] => []
  | [last] => [last]
  | n :: ns => if n.isEmpty then countingNames ns else n :: countingNames ns

def slashed (pieces : List (List Char)) : List Char := pieces.flatMap (· ++ ['/'])

/-- The path texts that fit a path pattern. The names before the first wildcard are not compared
with anything, so U+0000 among them is an error. -/
def expand [Platform] (t : FileTree) (pattern : List Char) :
    Except ExpansionError (List (List Char)) :=
  let pieces := Path.pieces pattern
  let fixed := pieces.takeWhile (!isMagic ·)
  match pieces.dropWhile (!isMagic ·) with
  | [] =>
    let text := String.ofList pattern
    let found := if pattern.getLast? = some '/' then t.reachesDirectory text else t.reaches text
    .ok (if found then [pattern] else [])
  | wild =>
    if Platform.patternDepth + 1 < (countingNames wild).length then .error .tooDeep
    else if (slashed fixed).contains '\x00' then .error .embeddedNull
    else
      .ok ((countingNames wild).foldl (fun ds n => ds.flatMap (expandName t · n))
        [Path.withoutEndSlashes (slashed fixed)])

/-- Whether a path pattern is refused before it is expanded: a `[` has no `]` anywhere behind it,
or the text ends in a backslash. -/
def isMalformed (pattern : List Char) : Bool :=
  (pattern.reverse.takeWhile (· ≠ ']')).contains '[' || pattern.getLast? = some '\\'

end GrammarProject.Glob
