import GrammarProject.Failure

/-!
# Projects

A grammar project is what is known after its build descriptor has been read: names, the grammar
files it includes, the grammars among them, and what a test harness needs. A `Draft` is a project
in the making; `Draft.build` makes it one if no include is listed twice and no two grammars are of
one kind.
-/

namespace GrammarProject

/-- A project in the making. -/
structure Draft where
  fileName : String
  longName : String
  includes : List Path
  grammars : List Grammar
  entryPoint : String
  exampleRoot : String
  examples : List Path
  caseInsensitiveType : String
  usesPlugin : Bool
deriving DecidableEq, Repr

namespace Draft

def named (fileName : String) : Draft := ⟨fileName, "", [], [], "", "", [], "", false⟩

def grammarOf? (d : Draft) (k : Grammar.Kind) : Option Grammar := d.grammars.find? (·.kind = k)

def hasInclude (d : Draft) (p : Path) : Bool := d.includes.contains p

theorem hasInclude_iff {d : Draft} {p : Path} : d.hasInclude p = true ↔ p ∈ d.includes := by
  simp [hasInclude]

def addInclude (d : Draft) (p : Path) : Draft := { d with includes := d.includes ++ [p] }

def addGrammar (d : Draft) (g : Grammar) : Draft := { d with grammars := d.grammars ++ [g] }

def addExample (d : Draft) (p : Path) : Draft := { d with examples := d.examples ++ [p] }

def kinds (d : Draft) : List Grammar.Kind := d.grammars.map (·.kind)

/-- The kinds of which there is more than one grammar, in the order of their names. -/
def repeatedKinds (d : Draft) : List Grammar.Kind :=
  Grammar.Kind.all.filter fun k => 1 < d.kinds.count k

/-- No kind is repeated only if the kinds differ. -/
theorem kinds_nodup {d : Draft} (h : d.repeatedKinds = []) : d.kinds.Nodup := by
  rw [List.nodup_iff_count]
  intro k
  have hk := List.filter_eq_nil_iff.1 h k (Grammar.Kind.mem_all k)
  simpa using hk

end Draft

structure Project extends Draft where
  includes_nodup : includes.Nodup
  kinds_nodup : toDraft.kinds.Nodup

namespace Draft

/-- The project that a draft describes. A repeated include is told before a repeated kind. -/
def build (d : Draft) : Except Failure Project :=
  if hi : d.includes.Nodup then
    if hk : d.repeatedKinds = [] then .ok ⟨d, hi, kinds_nodup hk⟩
    else .error (.repeatedKind d.fileName d.repeatedKinds)
  else .error (.repeatedInclude d.fileName)

end Draft

namespace Project

def find? (p : Project) (k : Grammar.Kind) : Option Grammar := p.toDraft.grammarOf? k

def has (p : Project) (k : Grammar.Kind) : Bool := (p.find? k).isSome

end Project

end GrammarProject
