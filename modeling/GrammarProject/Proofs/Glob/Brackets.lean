import GrammarProject.Glob.Expansion
import GrammarProject.Proofs.Path.Text
import GrammarProject.Proofs.Text.Expression

/-!
# Brackets that stay open

A pattern leaves a bracket open if some `[` has no `]` anywhere behind it (`LeavesOpen`). A pattern
is malformed if it leaves a bracket open or ends in a backslash (`isMalformed_iff`). What stands
behind a text closes its brackets or leaves them open (`leavesOpen_append`), so patterns that are
joined close all brackets if each of them does.

The same brackets are found by a search for a `[` and other characters than `]` up to the end of the
text (`isFoundIn_openBracket_iff`). It makes no difference that the end is also in front of a line
feed that the text ends in: the line feed closes nothing.
-/

namespace GrammarProject.Glob

/-- Some `[` of the text has no `]` anywhere behind it. -/
def LeavesOpen (cs : List Char) : Prop :=
  ∃ before behind, cs = before ++ '[' :: behind ∧ ']' ∉ behind

/-! ## Malformed patterns -/

theorem mem_takeWhile_reverse_iff {cs : List Char} :
    '[' ∈ cs.reverse.takeWhile (· ≠ ']') ↔ LeavesOpen cs := by
  constructor
  · intro h
    obtain ⟨behind, between, htake⟩ := List.append_of_mem h
    have hprefix : cs.reverse.takeWhile (· ≠ ']') <+: cs.reverse := List.takeWhile_prefix _
    obtain ⟨rest, hrest⟩ := htake ▸ hprefix
    refine ⟨(between ++ rest).reverse, behind.reverse, ?_, fun hm => ?_⟩
    · rw [← List.reverse_reverse cs, ← hrest]
      simp
    · have hmem : ']' ∈ cs.reverse.takeWhile (· ≠ ']') := by
        rw [htake]
        exact List.mem_append_left _ (List.mem_reverse.1 hm)
      simpa using List.mem_takeWhile_imp hmem
  · rintro ⟨before, behind, rfl, hclosed⟩
    have hpass : ∀ c ∈ behind.reverse, decide (c ≠ ']') = true := by
      intro c hc
      refine decide_eq_true fun he => hclosed ?_
      rwa [he, List.mem_reverse] at hc
    rw [List.reverse_append, List.reverse_cons, List.append_assoc,
      List.takeWhile_append_of_pos hpass, List.singleton_append,
      List.takeWhile_cons_of_pos (by decide)]
    exact List.mem_append_right _ (.head _)

instance (cs : List Char) : Decidable (LeavesOpen cs) :=
  decidable_of_iff _ mem_takeWhile_reverse_iff

/-- **What makes a pattern malformed.** -/
theorem isMalformed_iff {pattern : List Char} :
    isMalformed pattern = true ↔ pattern.getLast? = some '\\' ∨ LeavesOpen pattern := by
  rw [isMalformed, Bool.or_eq_true, List.contains_iff_mem, mem_takeWhile_reverse_iff,
    decide_eq_true_iff, or_comm]

/-! ## Joined patterns -/

theorem not_leavesOpen_nil : ¬LeavesOpen [] := by decide

theorem leavesOpen_cons {c : Char} {cs : List Char} :
    LeavesOpen (c :: cs) ↔ LeavesOpen cs ∨ c = '[' ∧ ']' ∉ cs := by
  constructor
  · rintro ⟨before, behind, h, hclosed⟩
    cases before with
    | nil =>
      obtain ⟨rfl, rfl⟩ := List.cons.inj h
      exact .inr ⟨rfl, hclosed⟩
    | cons d before =>
      obtain ⟨rfl, rfl⟩ := List.cons.inj h
      exact .inl ⟨before, behind, rfl, hclosed⟩
  · rintro (⟨before, behind, rfl, hclosed⟩ | ⟨rfl, hclosed⟩)
    · exact ⟨c :: before, behind, rfl, hclosed⟩
    · exact ⟨[], cs, rfl, hclosed⟩

/-- What stands behind a text leaves brackets open itself, or leaves open those of the text. -/
theorem leavesOpen_append {cs ds : List Char} :
    LeavesOpen (cs ++ ds) ↔ LeavesOpen ds ∨ LeavesOpen cs ∧ ']' ∉ ds := by
  induction cs with
  | nil => simp [not_leavesOpen_nil]
  | cons c cs ih =>
    rw [List.cons_append, leavesOpen_cons, leavesOpen_cons, ih, List.mem_append]
    tauto

theorem leavesOpen_append_of_free {cs ds : List Char} (hopen : '[' ∉ ds) (hclose : ']' ∉ ds) :
    LeavesOpen (cs ++ ds) ↔ LeavesOpen cs := by
  have hds : ¬LeavesOpen ds := by
    rintro ⟨before, behind, rfl, -⟩
    exact hopen (List.mem_append_right _ (.head _))
  rw [leavesOpen_append]
  simp [hds, hclose]

theorem leavesOpen_joinText_star (directory : List Char) :
    LeavesOpen (Path.joinText directory ['*']) ↔ LeavesOpen directory := by
  rw [Path.joinText_of_relative (by decide)]
  split
  · rename_i hnone
    obtain rfl := List.getLast?_eq_none_iff.1 hnone
    decide
  · exact leavesOpen_append_of_free (by decide) (by decide)
  · exact leavesOpen_append_of_free (by decide) (by decide)

theorem isMalformed_append_eq_false {p q : List Char} (hp : isMalformed p = false)
    (hq : isMalformed q = false) : isMalformed (p ++ q) = false := by
  rw [← Bool.not_eq_true, isMalformed_iff, not_or] at *
  refine ⟨fun hlast => ?_, fun hopen => ?_⟩
  · rw [List.getLast?_append] at hlast
    cases hq' : q.getLast? with
    | none =>
      rw [hq', Option.none_or] at hlast
      exact hp.1 hlast
    | some c =>
      rw [hq', Option.some_or] at hlast
      exact hq.1 (hq'.trans hlast)
  · rcases leavesOpen_append.1 hopen with hopen | ⟨hopen, -⟩
    · exact hq.2 hopen
    · exact hp.2 hopen

/-- Patterns that are not malformed may be joined, with a slash between them or as a path text
that is seen from a directory. -/
theorem isMalformed_join_eq_false {p q : List Char} (hp : isMalformed p = false)
    (hq : isMalformed q = false) :
    isMalformed (p ++ '/' :: q) = false ∧ isMalformed (Path.joinText p q) = false := by
  have hslash : isMalformed (p ++ '/' :: q) = false :=
    isMalformed_append_eq_false hp (isMalformed_append_eq_false (p := ['/']) (by decide) hq)
  refine ⟨hslash, ?_⟩
  unfold Path.joinText
  split
  · exact hq
  · split
    · exact hq
    · exact isMalformed_append_eq_false hp hq
    · exact hslash

/-! ## Searching for an open bracket -/

/-- A `[`, and no `]` from there to the end. -/
def openBracket : Text.Expression := [.one (· = '['), .many (· ≠ ']'), .atEnd]

theorem fits_openBracket_iff {cs : List Char} :
    openBracket.fits cs = true ↔ ∃ behind, cs = '[' :: behind ∧ ']' ∉ behind := by
  cases cs with
  | nil => simp [openBracket, Text.Expression.fits, Text.Item.fits]
  | cons c cs =>
    have hfits : openBracket.fits (c :: cs) = true ↔ c = '[' ∧ ∃ front back,
        cs = front ++ back ∧ (∀ d ∈ front, d ≠ ']') ∧ (back = [] ∨ back = ['\n']) := by
      simp [openBracket, Text.Expression.fits, Text.Item.fits, Text.manyThen_iff]
    rw [hfits]
    constructor
    · rintro ⟨rfl, front, back, rfl, hfront, hback⟩
      refine ⟨front ++ back, rfl, fun hm => ?_⟩
      rcases List.mem_append.1 hm with hm | hm
      · exact hfront _ hm rfl
      · -- The line feed at the end is no bracket.
        rcases hback with rfl | rfl <;> simp at hm
    · rintro ⟨behind, h, hclosed⟩
      obtain ⟨rfl, rfl⟩ := List.cons.inj h
      exact ⟨rfl, cs, [], by simp, fun d hd he => hclosed (he ▸ hd), .inl rfl⟩

/-- **The search finds the brackets that stay open.** -/
theorem isFoundIn_openBracket_iff {cs : List Char} :
    openBracket.isFoundIn cs = true ↔ LeavesOpen cs := by
  rw [Text.Expression.isFoundIn_iff]
  constructor
  · rintro ⟨_, ⟨before, rfl⟩, h⟩
    obtain ⟨behind, rfl, hclosed⟩ := fits_openBracket_iff.1 h
    exact ⟨before, behind, rfl, hclosed⟩
  · rintro ⟨before, behind, rfl, hclosed⟩
    exact ⟨_, List.suffix_append before _, fits_openBracket_iff.2 ⟨behind, rfl, hclosed⟩⟩

end GrammarProject.Glob
