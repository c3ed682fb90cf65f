import GrammarProject.Proofs.Descriptor.Atomicity
import GrammarProject.Proofs.Glob.Matches
import GrammarProject.Proofs.Path.Order

/-!
# Example files after a run

An element that names example files sets them anew or, if it cannot be handled, leaves them as they
are (`Handling.outcome_of_expands`, `Handling.samePart_of_not_expands`). What it sets are the paths
of the matches of its pattern, none twice, in the order of paths (`IsExpansion`). So whatever a
reader has been through, its example files are those of the last such element that could be handled
(`run_examples`).
-/

namespace GrammarProject.Descriptor

open Markup (Element)

section
variable [Platform]

/-- The example files of a pattern: the path of each match of it, none twice, in the order of
paths. -/
structure IsExpansion (t : FileTree) (pattern : List Char) (examples : List Path) : Prop where
  wellFormed : Glob.isMalformed pattern = false
  perm : ∃ found, Glob.expand t pattern = .ok found ∧ examples.Perm (found.map Glob.matchPath)
  ordered : examples.Pairwise fun p q => p.key < q.key

theorem IsExpansion.unique {t : FileTree} {pattern : List Char} {examples others : List Path}
    (h : IsExpansion t pattern examples) (h' : IsExpansion t pattern others) :
    examples = others := by
  obtain ⟨found, hfound, hperm⟩ := h.perm
  obtain ⟨found', hfound', hperm'⟩ := h'.perm
  obtain rfl : found = found' := Except.ok.inj (hfound.symm.trans hfound')
  exact (hperm.trans hperm'.symm).eq_of_pairwise
    (fun p q _ _ hpq hqp => absurd hqp (List.lt_asymm hpq)) h.ordered h'.ordered

theorem isExpansion_of_examplesIn {t : FileTree} (ht : t.IsProper) {r : Reader} {text : List Char}
    {examples : List Path} (h : r.examplesIn t text = .ok examples) :
    IsExpansion t (r.examplePattern text) examples := by
  unfold Reader.examplesIn checkPattern at h
  dsimp only at h
  split at h
  · cases h
  · cases h
  · rename_i found hcheck hfound
    cases h
    have hwellFormed : ∀ p ∈ found.map Glob.matchPath, p.WellFormed := by
      rintro _ hp
      obtain ⟨m, -, rfl⟩ := List.mem_map.1 hp
      exact Glob.wellFormed_matchPath m
    refine ⟨?_, ⟨found, hfound, List.mergeSort_perm _ _⟩,
      Path.pairwise_sorted_lt hwellFormed (Glob.nodup_expand ht hfound)⟩
    by_contra hmalformed
    rw [Bool.not_eq_false] at hmalformed
    rw [if_pos hmalformed] at hcheck
    cases hcheck

/-! ## One element -/

namespace Handling

def expands (h : Handling) : Bool :=
  Field.ofElement? h.element = some .exampleFiles && h.outcome.2.isNone

variable {h : Handling}

theorem outcome_exampleFiles (hfield : Field.ofElement? h.element = some .exampleFiles) :
    h.outcome = h.before.onExampleFiles h.looks.examples h.element.text := by
  simp only [outcome, Reader.handleAmid, hfield, Reader.handleFieldAmid, Reader.handleField]

/-- What an element sets: the example files of its pattern, and the example root of the
directory of the descriptor. -/
theorem outcome_of_expands (hx : h.expands = true) (ht : h.looks.examples.IsProper) :
    ∃ examples,
      IsExpansion h.looks.examples (h.before.examplePattern h.element.text) examples ∧
        h.outcome = ({ h.before with draft := { h.before.draft with
          examples, exampleRoot := exampleRoot h.before.directory } }, none) := by
  rw [expands, Bool.and_eq_true, decide_eq_true_iff] at hx
  obtain ⟨hfield, hnone⟩ := hx
  rw [outcome_exampleFiles hfield] at hnone ⊢
  unfold Reader.onExampleFiles at hnone ⊢
  cases hexamples : h.before.examplesIn h.looks.examples h.element.text with
  | error f =>
    rw [hexamples] at hnone
    cases hnone
  | ok examples => exact ⟨examples, isExpansion_of_examplesIn ht hexamples, rfl⟩

/-- All else leaves the example files as they are. -/
theorem samePart_of_not_expands (hx : h.expands = false) :
    Reader.SamePart .exampleFiles h.outcome.1 h.before := by
  by_cases hfield : Field.ofElement? h.element = some .exampleFiles
  · rw [expands, hfield, decide_eq_true rfl, Bool.true_and, Option.isNone_eq_false_iff,
      outcome_exampleFiles hfield] at hx
    rw [outcome_exampleFiles hfield]
    unfold Reader.onExampleFiles at hx ⊢
    cases hexamples : h.before.examplesIn h.looks.examples h.element.text with
    | error f => exact .refl _ _
    | ok examples =>
      rw [hexamples] at hx
      cases hx
  · exact Reader.handleAmid_samePart hfield

/-- The last among some handlings that has set the example files. -/
def lastExpansion? (hs : List Handling) : Option Handling := (hs.filter expands).getLast?

theorem lastExpansion?_concat (hs : List Handling) (h : Handling) :
    lastExpansion? (hs ++ [h]) = if h.expands then some h else lastExpansion? hs := by
  unfold lastExpansion?
  rw [List.filter_append]
  cases hx : h.expands <;> simp [hx]

theorem expands_of_lastExpansion? {hs : List Handling} (hl : lastExpansion? hs = some h) :
    h ∈ hs ∧ h.expands = true :=
  List.mem_filter.1 (List.mem_of_getLast? hl)

end Handling

/-! ## Runs -/

namespace Reader

theorem run_samePart (r : Reader) (actions : List Action) :
    match Handling.lastExpansion? (r.handlings actions) with
    | none => SamePart .exampleFiles (r.run actions) r
    | some h => SamePart .exampleFiles (r.run actions) h.outcome.1 := by
  refine run_induction (r := r)
    (P := fun hs r' => match Handling.lastExpansion? hs with
      | none => SamePart .exampleFiles r' r
      | some h => SamePart .exampleFiles r' h.outcome.1) ?_ ?_ (.refl _ r) actions
  · intro hs r' l e ih
    rw [Handling.lastExpansion?_concat]
    cases hx : Handling.expands ⟨r', l, e⟩ with
    | true => exact .refl _ _
    | false =>
      have hstep : SamePart .exampleFiles (r'.handleAmid l e).1 r' :=
        Handling.samePart_of_not_expands hx
      rw [if_neg Bool.false_ne_true]
      cases hlast : Handling.lastExpansion? hs with
      | none =>
        rw [hlast] at ih
        exact hstep.trans ih
      | some h =>
        rw [hlast] at ih
        exact hstep.trans ih
  · intro hs r' ih
    split at ih <;> exact ih

/-- **Example files.** An element that names example files and can be handled sets them to the paths
of the matches of its pattern, none twice, in the order of paths, and the example root to that of
the directory of the descriptor; it changes nothing else. After a run, whatever elements and
failures are in it, both are those that the last such element has set, and both are empty if there
was none. -/
theorem run_examples :
    (∀ h : Handling, h.expands = true → h.looks.examples.IsProper → ∃ examples,
      IsExpansion h.looks.examples (h.before.examplePattern h.element.text) examples ∧
        h.outcome = ({ h.before with draft := { h.before.draft with
          examples, exampleRoot := exampleRoot h.before.directory } }, none)) ∧
    ∀ (path encoding : String) (target : Target) (actions : List Action),
      let r := ofPath path target encoding
      let last := r.run actions
      (Handling.lastExpansion? (r.handlings actions) = none →
        last.draft.examples = [] ∧ last.draft.exampleRoot = "") ∧
      ∀ h, Handling.lastExpansion? (r.handlings actions) = some h →
        h.expands = true ∧ h.before.settings = r.settings ∧
          last.draft.examples = h.outcome.1.draft.examples ∧
          last.draft.exampleRoot = h.outcome.1.draft.exampleRoot := by
  refine ⟨fun h => Handling.outcome_of_expands, fun path encoding target actions => ?_⟩
  intro r last
  have hpart := run_samePart r actions
  refine ⟨fun hlast => ?_, fun h hlast => ?_⟩
  · rw [hlast] at hpart
    exact hpart
  · rw [hlast] at hpart
    obtain ⟨hmem, hexpands⟩ := Handling.expands_of_lastExpansion? hlast
    exact ⟨hexpands, (settings_handlings r actions).2 h hmem, hpart⟩

end Reader

end

section
open scoped Platform

namespace Reader

/-- A directory `d/e` whose entries are in another order as texts than as paths. -/
def branched : FileTree :=
  ⟨[(["d", "e", "a", "z"], .file []), (["d", "e", "a-b", ".a"], .file []),
    (["d", "e", "a-b", "c"], .directory), (["d", "e", "b"], .file [])], []⟩

/-- Two elements that set the example files, and a descriptor with one that is malformed. -/
def expanding : List Action :=
  let element (name text : String) : Element := ⟨⟨none, name.toList⟩, text.toList⟩
  [.handle (.still branched) (element "exampleFiles" "a"),
    .handle (.still branched) (element "exampleFiles" "./[a-b]*//"),
    .read (.ok (Text.utf8Bytes
      "<p><include>b</include><exampleFiles>[</exampleFiles><include>a</include></p>".toList))
      fun _ => .still branched]

theorem run_examples_branched :
    let r := ofPath "d/e/pom.xml" .go "utf-8"
    let h : Handling := ⟨r, .still branched, ⟨⟨none, "exampleFiles".toList⟩, "./[a-b]*//".toList⟩⟩
    let examples := ["d/e/a/z", "d/e/a-b/.a", "d/e/a-b/c"].map Path.ofString
    h.expands = true ∧ h.looks.examples.IsProper ∧ h.outcome.1.draft.examples = examples ∧
      (r.handlings expanding).map (·.expands) = [true, true, false, false] ∧
      (r.run expanding).draft.exampleRoot = "../" ∧
      ∀ latest, Handling.lastExpansion? (r.handlings expanding) = some latest →
        (r.run expanding).draft.examples = latest.outcome.1.draft.examples := by
  intro r h examples
  obtain ⟨hexpands, hproper⟩ : h.expands = true ∧ h.looks.examples.IsProper := by decide
  have hexamples : IsExpansion branched (r.examplePattern h.element.text) examples :=
    ⟨by decide, ⟨["d/e/./a/z", "d/e/./a-b/.a", "d/e/./a-b/c"].map String.toList,
      by decide +kernel, by decide⟩, by decide⟩
  have hset : h.outcome.1.draft.examples = examples := by
    obtain ⟨found, hfound, houtcome⟩ := run_examples.1 h hexpands hproper
    rw [houtcome]
    exact hfound.unique hexamples
  obtain ⟨-, hrun⟩ := run_examples.2 "d/e/pom.xml" "utf-8" .go expanding
  obtain ⟨hhandlings, hroot⟩ :
      (r.handlings expanding).map (·.expands) = [true, true, false, false] ∧
        (r.run expanding).draft.exampleRoot = "../" := by
    rw [expanding, String.toList_ofList]
    decide +kernel
  refine ⟨hexpands, hproper, hset, hhandlings, hroot, fun latest hlatest => ?_⟩
  simpa only [r] using (hrun latest hlatest).2.2.1

end Reader

end

end GrammarProject.Descriptor
