import GrammarProject.Descriptor.Reader

/-!
# Reading while the file tree changes

Other programs may change the file tree while descriptors are read. `Looks` is what a reader sees
at each look that it takes at the tree while it handles one element, and `Reader.run` is what
becomes of a reader that handles elements and reads descriptors in any order while the tree changes
in any way. In a tree that stays as it is they are `Reader.handle` and `Reader.read`
(`handleAmid_still`, `readAmid_still`).
-/

namespace GrammarProject.Descriptor

variable [Platform]

/-- The file tree at each look that is taken at it while one element is handled. -/
structure Looks where
  /-- When the variant of a grammar file is looked for. -/
  variants : FileTree
  /-- When the grammar file is looked for. -/
  files : FileTree
  /-- When the grammar file is read. -/
  headers : FileTree
  examples : FileTree

/-- A tree that stays as it is. -/
def Looks.still (t : FileTree) : Looks := ⟨t, t, t, t⟩

namespace Reader

/-! ## Elements -/

def onGrammarAmid (l : Looks) (r : Reader) (text : List Char) : Reader × Option Failure :=
  match Text.trim text with
  | [] => (r.find (.emptyReference r.path), none)
  | c :: cs =>
    let file := r.resolve l.variants (c :: cs)
    r.recordReference file (isThere l.files file) (Grammar.read l.headers file r.encoding)

def handleFieldAmid (l : Looks) (r : Reader) (field : Field) (text : List Char) :
    Reader × Option Failure :=
  match field with
  | .grammar => r.onGrammarAmid l text
  | field => r.handleField l.examples field text

def handleAmid (l : Looks) (r : Reader) (e : Markup.Element) : Reader × Option Failure :=
  match Field.ofElement? e with
  | some field => r.handleFieldAmid l field e.text
  | none => (r, none)

/-- Elements in order, up to the first that cannot be handled; `looks` has those of each. -/
def handleAllAmid : (looks : Nat → Looks) → Reader → List Markup.Element → Reader × Option Failure
  | _, r, [] => (r, none)
  | looks, r, e :: es =>
    match r.handleAmid (looks 0) e with
    | (r, some f) => (r, some f)
    | (r, none) => handleAllAmid (fun n => looks (n + 1)) r es

/-! ## Documents -/

def readDocumentAmid (looks : Nat → Looks) (r : Reader) (d : Markup.Document) :
    Reader × Except Failure Reading :=
  match r.handleAllAmid looks d.elements with
  | (r, some f) => (r, .error f)
  | (r, none) =>
    match d.stop with
    | some stop => (r, .error (r.stopped stop))
    | none => (r.count, r.reading)

/-- The descriptor; `opened` is what comes of opening it and taking its bytes, which may be
written while they are read. -/
def readAmid (opened : Except AccessError (List UInt8)) (looks : Nat → Looks) (r : Reader) :
    Reader × Except Failure Reading :=
  match opened with
  | .error cause => (r, .error (.access r.path cause))
  | .ok bytes => r.readDocumentAmid looks (.ofBytes bytes)

/-! ## Runs -/

/-- Something that a reader is told to do, and what it sees of the file tree meanwhile. -/
inductive Action where
  | handle (looks : Looks) (e : Markup.Element)
  | read (opened : Except AccessError (List UInt8)) (looks : Nat → Looks)

/-- The reader behind an action, whether it ended in a failure or not. -/
def act (r : Reader) : Action → Reader
  | .handle looks e => (r.handleAmid looks e).1
  | .read opened looks => (r.readAmid opened looks).1

def run (r : Reader) (actions : List Action) : Reader := actions.foldl act r

/-! ## Trees that stay as they are -/

theorem handleFieldAmid_still (t : FileTree) (r : Reader) (field : Field) (text : List Char) :
    r.handleFieldAmid (.still t) field text = r.handleField t field text := by
  cases field <;> rfl

theorem handleAmid_still (t : FileTree) (r : Reader) (e : Markup.Element) :
    r.handleAmid (.still t) e = r.handle t e := by
  unfold handleAmid handle
  cases Field.ofElement? e with
  | none => rfl
  | some field => exact handleFieldAmid_still t r field e.text

theorem handleAllAmid_still (t : FileTree) (r : Reader) (es : List Markup.Element) :
    r.handleAllAmid (fun _ => .still t) es = r.handleAll t es := by
  induction es generalizing r with
  | nil => rfl
  | cons e es ih =>
    rw [handleAllAmid, handleAll, handleAmid_still]
    rcases r.handle t e with ⟨r', _ | f⟩
    · exact ih r'
    · rfl

theorem readDocumentAmid_still (t : FileTree) (r : Reader) (d : Markup.Document) :
    r.readDocumentAmid (fun _ => .still t) d = r.readDocument t d := by
  rcases hr : r.handleAll t d.elements with ⟨r', _ | f⟩ <;> rcases hs : d.stop with _ | stop <;>
    simp only [readDocumentAmid, readDocument, handleAllAmid_still, hr, hs]

/-- Reading in a tree that stays as it is. -/
theorem readAmid_still (t : FileTree) (r : Reader) :
    r.readAmid (t.contentOf r.path.toString) (fun _ => .still t) = r.read t := by
  unfold readAmid read
  cases t.contentOf r.path.toString with
  | error cause => rfl
  | ok bytes => exact readDocumentAmid_still t r _

end Reader

end GrammarProject.Descriptor
