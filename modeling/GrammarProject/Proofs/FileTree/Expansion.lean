import GrammarProject.Glob.Expansion
import GrammarProject.Proofs.FileTree.Agreement

/-!
# Expansion in trees that differ in one file

A path pattern fits the same path texts in two trees that differ at most in the content of one file
(`expand_perm`): the content of a file is never asked for.
-/

namespace GrammarProject.Glob

open FileTree (AgreeOutside)

variable {place : Location} {t t' : FileTree}

theorem expandName_perm (h : AgreeOutside place t t') (directory name : List Char) :
    (expandName t directory name).Perm (expandName t' directory name) := by
  unfold expandName
  rw [h.reachesDirectory_eq, h.reaches_eq]
  split
  · exact .refl _
  · split
    · rcases h.namesIn_perm (listed directory) with ⟨e, h1, h2⟩ | ⟨names, names', h1, h2, hp⟩
      · rw [h1, h2]
      · rw [h1, h2]
        exact (hp.filter _).map _
    · exact .refl _

theorem foldl_expandName_perm (h : AgreeOutside place t t') (names : List (List Char))
    {found found' : List (List Char)} (hp : found.Perm found') :
    (names.foldl (fun ds n => ds.flatMap (expandName t · n)) found).Perm
      (names.foldl (fun ds n => ds.flatMap (expandName t' · n)) found') := by
  induction names generalizing found found' with
  | nil => exact hp
  | cons n names ih => exact ih (hp.flatMap fun d _ => expandName_perm h d n)

/-- A path pattern fits the same path texts in both trees. -/
theorem expand_perm [Platform] (h : AgreeOutside place t t') (pattern : List Char) :
    (∃ e, expand t pattern = .error e ∧ expand t' pattern = .error e) ∨
      ∃ found found', expand t pattern = .ok found ∧ expand t' pattern = .ok found' ∧
        found.Perm found' := by
  unfold expand
  dsimp only
  rw [h.reachesDirectory_eq, h.reaches_eq]
  split
  · exact .inr ⟨_, _, rfl, rfl, .refl _⟩
  · split
    · exact .inl ⟨_, rfl, rfl⟩
    · split
      · exact .inl ⟨_, rfl, rfl⟩
      · exact .inr ⟨_, _, rfl, rfl, foldl_expandName_perm h _ (.refl _)⟩

end GrammarProject.Glob
