import GrammarProject.Path

/-!
# File trees

A tree of directories and files, and a working directory in it. A place in the tree is the list
of names that lead to it from the top. `FileTree.locate` follows a path text name by name: `..`
leads to the parent, every name before the last has to be a directory, names are at most 255 bytes
long, path texts at most 4095. What stands in a locked directory cannot be seen, and no locked entry
can be opened.
-/

namespace GrammarProject

/-- The names that lead to a place from the top of a tree. -/
abbrev Location := List String

/-- What stands at a place. -/
inductive Node where
  | directory
  | file (content : List UInt8)
  | locked (isDirectory : Bool)
deriving DecidableEq, Repr

def Node.isDirectory : Node → Bool
  | directory => true
  | file _ => false
  | locked isDirectory => isDirectory

/-- A tree of directories and files. A place above a recorded one, or above the working directory,
is a directory, so whatever stands in the tree stands in a directory. -/
structure FileTree where
  entries : List (Location × Node)
  workingDirectory : Location
deriving Repr

/-- Why a path leads to nothing that can be used. -/
inductive AccessError where
  | notFound
  | notDirectory
  | isDirectory
  | nameTooLong
  | refused
  | embeddedNull
deriving DecidableEq, Repr

namespace FileTree

/-! ## Places -/

/-- Whether the place is a directory because something is recorded below it. -/
def isAbove (t : FileTree) (place : Location) : Bool :=
  place.isPrefixOf t.workingDirectory ||
    t.entries.any fun e => place.isPrefixOf e.1 && e.1 ≠ place

def node? (t : FileTree) (place : Location) : Option Node :=
  if t.isAbove place then some .directory else t.entries.lookup place

/-- Whether the place is a directory that can be entered. -/
def isDirectoryAt (t : FileTree) (place : Location) : Bool := t.node? place == some .directory

/-- Whether the place is a directory that cannot be entered. -/
def isLockedAt (t : FileTree) (place : Location) : Bool := t.node? place == some (.locked true)

/-- The names of the entries of a directory, each once. -/
def children (t : FileTree) (place : Location) : List String :=
  let places := t.workingDirectory :: t.entries.map (·.1)
  (places.filterMap fun p =>
    if place.isPrefixOf p then (p.drop place.length).head? else none).eraseDups

/-! ## Following a path -/

/-- The longest name, in bytes. -/
def nameLimit : Nat := 255

/-- The longest path text, in bytes. -/
def pathLimit : Nat := 4095

/-- One name further. The empty name behind a slash at the end asks for a directory only. -/
def follow (t : FileTree) (place : Location) (name : String) : Except AccessError Location :=
  if t.isLockedAt place then if name = "" then .ok place else .error .refused
  else if !t.isDirectoryAt place then .error .notDirectory
  else if name = "" ∨ name = "." then .ok place
  else if name = ".." then .ok place.dropLast
  else if nameLimit < name.utf8ByteSize then .error .nameTooLong
  else if (t.node? (place ++ [name])).isSome then .ok (place ++ [name])
  else .error .notFound

def steps (text : String) : List String :=
  match (Path.pieces text.toList).map String.ofList with
  | "" :: names => names
  | names => names

def locate (t : FileTree) (text : String) : Except AccessError Location :=
  if text.toList.contains '\x00' then .error .embeddedNull
  else if text = "" then .error .notFound
  else if pathLimit < text.utf8ByteSize then .error .nameTooLong
  else
    let start := if text.startsWith "/" then [] else t.workingDirectory
    (steps text).foldlM t.follow start

def find (t : FileTree) (text : String) : Except AccessError Node := do
  let place ← t.locate text
  match t.node? place with
  | some n => pure n
  | none => throw .notFound

def reaches (t : FileTree) (text : String) : Bool :=
  match t.find text with
  | .ok _ => true
  | .error _ => false

def reachesDirectory (t : FileTree) (text : String) : Bool :=
  match t.find text with
  | .ok n => n.isDirectory
  | .error _ => false

def contentOf (t : FileTree) (text : String) : Except AccessError (List UInt8) := do
  match ← t.find text with
  | .file content => pure content
  | .directory => throw .isDirectory
  | .locked _ => throw .refused

def namesIn (t : FileTree) (text : String) : Except AccessError (List String) := do
  let place ← t.locate text
  if t.isDirectoryAt place then pure (t.children place)
  else throw (if t.isLockedAt place then .refused else .notDirectory)

/-! ## Changing the tree -/

/-- The place that a path leads to when all of it exists or will be made. -/
def placeOf (t : FileTree) (p : Path) : Location :=
  let start := if p.anchor = .relative then t.workingDirectory else []
  p.parts.foldl (fun place name => if name = ".." then place.dropLast else place ++ [name]) start

def write (t : FileTree) (p : Path) (content : List UInt8) : FileTree :=
  let place := t.placeOf p
  { t with entries := (place, .file content) :: t.entries.filter (·.1 ≠ place) }

def makeDirectory (t : FileTree) (p : Path) : FileTree :=
  let place := t.placeOf p
  if (t.node? place).isSome then t else { t with entries := (place, .directory) :: t.entries }

def remove (t : FileTree) (p : Path) : FileTree :=
  let place := t.placeOf p
  match t.node? place with
  | some (.file _) =>
    { t with entries := (place.dropLast, .directory) ::
        t.entries.filter fun e => e.1 ≠ place ∧ e.1 ≠ place.dropLast }
  | _ => t

end FileTree

end GrammarProject
