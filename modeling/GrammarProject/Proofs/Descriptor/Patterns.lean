import GrammarProject.Descriptor.Reader
import GrammarProject.Platform.Standard
import GrammarProject.Proofs.Glob.Brackets

/-!
# Patterns that are refused

A pattern for example files is refused if it leaves a bracket open or ends in a backslash
(`checkPattern_eq_error_iff`). For a target with the pattern `*` this is a question of the directory
alone, the one that the text of the element leads to: the star at the end closes no bracket, and
behind a directory there is no backslash at the end (`onExampleFiles_refuses_iff`).
-/

namespace GrammarProject.Descriptor

open Glob (LeavesOpen)

theorem checkPattern_eq_ok_iff {pattern : List Char} :
    checkPattern pattern = .ok () ↔ Glob.isMalformed pattern = false := by
  unfold checkPattern
  cases Glob.isMalformed pattern <;> simp

/-- When a pattern is refused. -/
theorem checkPattern_eq_error_iff {pattern : List Char} {f : Failure} :
    checkPattern pattern = .error f ↔
      (pattern.getLast? = some '\\' ∨ LeavesOpen pattern) ∧
        f = .malformedPattern (String.ofList pattern) := by
  rw [← Glob.isMalformed_iff]
  unfold checkPattern
  cases Glob.isMalformed pattern <;> simp [eq_comm]

namespace Reader

variable {t : FileTree} {r : Reader} {text : List Char}

theorem onExampleFiles_of_refused [Platform] {f : Failure}
    (h : checkPattern (r.examplePattern text) = .error f) :
    r.onExampleFiles t text = (r, some f) := by
  simp only [onExampleFiles, examplesIn, h]

theorem onExampleFiles_of_accepted [Platform] (h : checkPattern (r.examplePattern text) = .ok ())
    (pattern : String) : (r.onExampleFiles t text).2 ≠ some (.malformedPattern pattern) := by
  unfold onExampleFiles examplesIn
  dsimp only
  rw [h]
  match Glob.expand t (r.examplePattern text) with
  | .ok found => simp
  | .error .embeddedNull => simp [expansionFailure]
  | .error .tooDeep => simp [expansionFailure]

theorem checkPattern_examplePattern_iff (hstar : r.target.examplePattern = "*") {f : Failure} :
    checkPattern (r.examplePattern text) = .error f ↔
      LeavesOpen (Path.joinText r.directory.text text) ∧
        f = .malformedPattern (String.ofList (r.examplePattern text)) := by
  have hpattern : r.examplePattern text =
      Path.joinText (Path.joinText r.directory.text text) ['*'] := by
    rw [examplePattern, hstar]
    rfl
  have hlast : (r.examplePattern text).getLast? ≠ some '\\' := by
    rw [hpattern, Path.joinText_of_relative (by decide)]
    split <;> simp
  rw [checkPattern_eq_error_iff, or_iff_right hlast]
  conv_lhs => rw [hpattern]
  rw [Glob.leavesOpen_joinText_star, ← hpattern]

/-- Example files are refused for an open bracket, and the reader stays as it is. -/
theorem onExampleFiles_refuses_iff [Platform] (hstar : r.target.examplePattern = "*") :
    ((∃ pattern, (r.onExampleFiles t text).2 = some (.malformedPattern pattern)) ↔
      LeavesOpen (Path.joinText r.directory.text text)) ∧
    (LeavesOpen (Path.joinText r.directory.text text) → r.onExampleFiles t text =
      (r, some (.malformedPattern (String.ofList (r.examplePattern text))))) := by
  have hrefused (h : LeavesOpen (Path.joinText r.directory.text text)) :
      r.onExampleFiles t text =
        (r, some (.malformedPattern (String.ofList (r.examplePattern text)))) :=
    onExampleFiles_of_refused ((checkPattern_examplePattern_iff hstar).2 ⟨h, rfl⟩)
  refine ⟨⟨?_, fun h => ⟨_, congrArg Prod.snd (hrefused h)⟩⟩, hrefused⟩
  rintro ⟨pattern, h⟩
  cases hcheck : checkPattern (r.examplePattern text) with
  | error f => exact ((checkPattern_examplePattern_iff hstar).1 hcheck).1
  | ok _ => exact absurd h (onExampleFiles_of_accepted hcheck pattern)

end Reader

/-- **Which patterns are refused.** A pattern is refused exactly if it ends in a backslash or leaves
a bracket open, which is what a search for an open bracket finds. Patterns that are not refused may
be joined. Where all files of a directory count, an element is refused exactly if the path text that
it leads to, from the directory of the descriptor or by itself, leaves a bracket open. -/
theorem patterns_refused [Platform] :
    (∀ pattern, (∃ f, checkPattern pattern = .error f) ↔
      pattern.getLast? = some '\\' ∨ LeavesOpen pattern) ∧
    (∀ pattern f, checkPattern pattern = .error f →
      f = .malformedPattern (String.ofList pattern)) ∧
    (∀ pattern, Glob.openBracket.isFoundIn pattern = true ↔ LeavesOpen pattern) ∧
    (∀ p q, checkPattern p = .ok () → checkPattern q = .ok () →
      checkPattern (p ++ '/' :: q) = .ok () ∧ checkPattern (Path.joinText p q) = .ok ()) ∧
    (∀ (t : FileTree) (r : Reader) (text : List Char), r.target.examplePattern = "*" →
      ((∃ pattern, (r.onExampleFiles t text).2 = some (.malformedPattern pattern)) ↔
        LeavesOpen (Path.joinText r.directory.text text)) ∧
      (LeavesOpen (Path.joinText r.directory.text text) → r.onExampleFiles t text =
        (r, some (.malformedPattern (String.ofList (r.examplePattern text)))))) := by
  refine ⟨fun pattern => ?_, fun pattern f h => (checkPattern_eq_error_iff.1 h).2,
    fun pattern => Glob.isFoundIn_openBracket_iff, fun p q hp hq => ?_,
    fun t r text hstar => Reader.onExampleFiles_refuses_iff hstar⟩
  · constructor
    · rintro ⟨f, h⟩
      exact (checkPattern_eq_error_iff.1 h).1
    · exact fun h => ⟨_, checkPattern_eq_error_iff.2 ⟨h, rfl⟩⟩
  · rw [checkPattern_eq_ok_iff] at *
    rw [checkPattern_eq_ok_iff]
    exact Glob.isMalformed_join_eq_false hp hq

section
open scoped Platform

/-- A bracket that the text of the element opens, and one of the directory that an absolute text
leaves behind. -/
theorem patterns_refused_absolute :
    let r := Reader.ofPath "a[b/pom.xml" .go "utf-8"
    let t : FileTree := ⟨[], []⟩
    r.target.examplePattern = "*" ∧
      (∃ pattern, (r.onExampleFiles t "ex\n".toList).2 = some (.malformedPattern pattern)) ∧
      ¬∃ pattern, (r.onExampleFiles t "/ex".toList).2 = some (.malformedPattern pattern) := by
  intro r t
  have hstar : r.target.examplePattern = "*" := rfl
  have hrefused := patterns_refused.2.2.2.2 t r
  refine ⟨hstar, (hrefused _ hstar).1.2 (by decide), fun h => ?_⟩
  exact absurd ((hrefused _ hstar).1.1 h) (by decide)

end

end GrammarProject.Descriptor
