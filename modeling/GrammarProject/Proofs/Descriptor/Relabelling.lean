import GrammarProject.Proofs.Descriptor.Frame

/-!
# What handlers never look at

A reader writes down the name that its descriptor was given by, and keeps a journal. Neither is ever
read again: a reader with another name and another journal handles elements alike
(`handleAmid_relabel`, `handleAll_relabel`).
-/

namespace GrammarProject.Descriptor.Reader

open Markup (Element)

/-- The reader with another name for its descriptor, and with another journal. -/
def relabel (r : Reader) (name : String) (journal : List Note) : Reader :=
  { r with draft := { r.draft with fileName := name }, journal }

/-- Two outcomes that differ in the label alone: the same failure, if any, and the same reader but
for its journal and for the name, which is `name` in the second. -/
def SameBut (name : String) (outcome other : Reader × Option Failure) : Prop :=
  ∃ journal, other = (outcome.1.relabel name journal, outcome.2)

variable (r : Reader) (name : String) (journal : List Note)

theorem recordGrammar_relabel (g : Grammar) : ∃ journal',
    (r.relabel name journal).recordGrammar g = (r.recordGrammar g).relabel name journal' := by
  have hholder : (r.relabel name journal).draft.grammarOf? g.kind = r.draft.grammarOf? g.kind := rfl
  unfold recordGrammar
  dsimp only [log_draft]
  rw [hholder]
  split <;> exact ⟨_, rfl⟩

theorem recordReference_relabel (file : Path) (present : Except Failure Bool)
    (header : Except Failure Grammar) : SameBut name (r.recordReference file present header)
      ((r.relabel name journal).recordReference file present header) := by
  have hincluded : (r.relabel name journal).draft.hasInclude file = r.draft.hasInclude file := rfl
  unfold recordReference
  rw [hincluded]
  split
  · exact ⟨_, rfl⟩
  · exact ⟨_, rfl⟩
  · split
    · exact ⟨_, rfl⟩
    · dsimp only
      split
      · rename_i g
        obtain ⟨journal', hg⟩ :=
          recordGrammar_relabel { r with draft := r.draft.addInclude file } name journal g
        exact ⟨journal', congrArg (·, none) hg⟩
      · split <;> exact ⟨_, rfl⟩

theorem onGrammarAmid_relabel [Platform] (l : Looks) (text : List Char) :
    SameBut name (r.onGrammarAmid l text) ((r.relabel name journal).onGrammarAmid l text) := by
  unfold onGrammarAmid
  split
  · exact ⟨_, rfl⟩
  · exact recordReference_relabel r name journal _ _ _

theorem onArtifact_relabel (text : List Char) :
    (r.relabel name journal).onArtifact text = (r.onArtifact text).relabel name journal := by
  unfold onArtifact
  by_cases hp : Text.trim text = r.target.plugin.toList
  · rw [if_pos hp]
    exact if_pos hp
  · rw [if_neg hp]
    exact if_neg hp

theorem onExampleFiles_relabel [Platform] (t : FileTree) (text : List Char) :
    SameBut name (r.onExampleFiles t text) ((r.relabel name journal).onExampleFiles t text) := by
  have hexamples : (r.relabel name journal).examplesIn t text = r.examplesIn t text := rfl
  unfold onExampleFiles
  rw [hexamples]
  cases r.examplesIn t text <;> exact ⟨_, rfl⟩

/-- **A label makes no difference to an element**, while the file tree changes in any way. -/
theorem handleAmid_relabel [Platform] (l : Looks) (e : Element) :
    SameBut name (r.handleAmid l e) ((r.relabel name journal).handleAmid l e) := by
  unfold handleAmid
  cases Field.ofElement? e with
  | none => exact ⟨_, rfl⟩
  | some field =>
    cases field with
    | grammar => exact onGrammarAmid_relabel r name journal l e.text
    | artifact => exact ⟨_, congrArg (·, none) (onArtifact_relabel r name journal e.text)⟩
    | exampleFiles => exact onExampleFiles_relabel r name journal l.examples e.text
    | longName | entryPoint | caseInsensitiveType => exact ⟨_, rfl⟩

theorem handleAll_relabel [Platform] (t : FileTree) (es : List Element) :
    SameBut name (r.handleAll t es) ((r.relabel name journal).handleAll t es) := by
  induction es generalizing r journal with
  | nil => exact ⟨_, rfl⟩
  | cons e es ih =>
    obtain ⟨journal', he⟩ := handleAmid_relabel r name journal (.still t) e
    rw [handleAmid_still, handleAmid_still] at he
    unfold handleAll
    rw [he]
    rcases r.handle t e with ⟨next, _ | f⟩
    · exact ih next journal'
    · exact ⟨_, rfl⟩

end GrammarProject.Descriptor.Reader
