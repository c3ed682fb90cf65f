import GrammarProject.Failure
import GrammarProject.Glob.Search

/-!
# Finding descriptors

The descriptors below a directory, in the order of their paths.
-/

namespace GrammarProject.Descriptor

/-- The name that descriptors have unless another is asked for. -/
def standardName : String := "pom.xml"

def searchFailure : SearchError → Failure
  | .absolutePattern => .absoluteSearch
  | .mixedDoubleStar => .mixedSearch
  | .tooDeep => .tooDeep
  | .access cause path => .access path cause

/-- The paths below a root that fit a name, which may be a pattern. -/
def search [Platform] (t : FileTree) (root name : String) : Except Failure (List Path) :=
  (Glob.search t (.ofString root) name).mapError searchFailure

end GrammarProject.Descriptor
