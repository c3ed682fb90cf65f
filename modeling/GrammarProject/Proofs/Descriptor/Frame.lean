import GrammarProject.Descriptor.Changing

/-!
# What handlers leave alone

No handler changes the settings of a reader (`Reader.settings`), and what a reader knows falls into
parts, one for each field (`Reader.SamePart`): an element leaves the parts of other fields as they
are (`handleAmid_samePart`).
-/

namespace GrammarProject.Descriptor.Reader

/-- What a reader is made with, which stays as it is. -/
def settings (r : Reader) : Path × Path × Target × String × String :=
  (r.path, r.directory, r.target, r.encoding, r.draft.fileName)

theorem settings_recordGrammar (r : Reader) (g : Grammar) :
    (r.recordGrammar g).settings = r.settings := by
  unfold recordGrammar
  dsimp only
  split <;> rfl

theorem settings_recordReference (r : Reader) (file : Path) (present : Except Failure Bool)
    (header : Except Failure Grammar) :
    (r.recordReference file present header).1.settings = r.settings := by
  unfold recordReference
  split
  · rfl
  · rfl
  · split
    · rfl
    · dsimp only
      split
      · exact settings_recordGrammar _ _
      · split <;> rfl

theorem settings_onGrammarAmid [Platform] (l : Looks) (r : Reader) (text : List Char) :
    (r.onGrammarAmid l text).1.settings = r.settings := by
  unfold onGrammarAmid
  split
  · rfl
  · exact settings_recordReference r _ _ _

theorem examplesIn_congr [Platform] {t : FileTree} {r s : Reader} (h : s.settings = r.settings)
    (text : List Char) : s.examplesIn t text = r.examplesIn t text := by
  simp only [settings, Prod.mk.injEq] at h
  obtain ⟨-, hd, ht, -, -⟩ := h
  unfold examplesIn examplePattern
  rw [hd, ht]

/-! ## Fields apart from each other -/

/-- Two readers agree in what one field has said to them. -/
def SamePart (field : Field) (r r' : Reader) : Prop :=
  match field with
  | .artifact => r.draft.usesPlugin = r'.draft.usesPlugin
  | .grammar => r.draft.includes = r'.draft.includes ∧ r.draft.grammars = r'.draft.grammars ∧
      r.findings = r'.findings
  | .longName => r.draft.longName = r'.draft.longName
  | .entryPoint => r.draft.entryPoint = r'.draft.entryPoint
  | .exampleFiles => r.draft.examples = r'.draft.examples ∧
      r.draft.exampleRoot = r'.draft.exampleRoot
  | .caseInsensitiveType => r.draft.caseInsensitiveType = r'.draft.caseInsensitiveType

theorem SamePart.refl (field : Field) (r : Reader) : SamePart field r r := by
  cases field <;> simp [SamePart]

theorem SamePart.symm {field : Field} {r r' : Reader} (h : SamePart field r r') :
    SamePart field r' r := by
  cases field <;> simp_all [SamePart]

theorem SamePart.trans {field : Field} {r₁ r₂ r₃ : Reader} (h : SamePart field r₁ r₂)
    (h' : SamePart field r₂ r₃) : SamePart field r₁ r₃ := by
  cases field <;> simp_all [SamePart]

theorem draft_eq_of_parts {r s : Reader} (hs : r.settings = s.settings)
    (hi : r.draft.includes = s.draft.includes) (hg : r.draft.grammars = s.draft.grammars)
    (h : ∀ field, field ≠ .grammar → SamePart field r s) : r.draft = s.draft := by
  have hname : r.draft.fileName = s.draft.fileName := congrArg (·.2.2.2.2) hs
  have hplugin := h .artifact (by decide)
  have hlong := h .longName (by decide)
  have hentry := h .entryPoint (by decide)
  obtain ⟨hexamples, hroot⟩ := h .exampleFiles (by decide)
  have htype := h .caseInsensitiveType (by decide)
  cases hrd : r.draft
  cases hsd : s.draft
  simp_all [SamePart]

/-- What a reference does to the draft: nothing, or it includes the file, and then perhaps adds
the grammar that the file declares. -/
theorem recordReference_draft (r : Reader) (file : Path) (present : Except Failure Bool)
    (header : Except Failure Grammar) :
    let draft := (r.recordReference file present header).1.draft
    draft = r.draft ∨ (file ∉ r.draft.includes ∧ draft = r.draft.addInclude file) ∨
      (file ∉ r.draft.includes ∧ ∃ g, header = .ok g ∧ r.draft.grammarOf? g.kind = none ∧
        draft = (r.draft.addInclude file).addGrammar g) := by
  unfold recordReference
  split
  · exact .inl rfl
  · exact .inl rfl
  · split
    · exact .inl rfl
    · rename_i hm
      have hm : file ∉ r.draft.includes := fun h => hm (Draft.hasInclude_iff.2 h)
      dsimp only
      split
      · rename_i g
        unfold recordGrammar
        dsimp only
        split
        · exact .inr (.inl ⟨hm, rfl⟩)
        · rename_i hk
          exact .inr (.inr ⟨hm, g, rfl, hk, rfl⟩)
      · split <;> exact .inr (.inl ⟨hm, rfl⟩)

section
variable [Platform]

theorem onGrammarAmid_draft (l : Looks) (r : Reader) (text : List Char) :
    ∃ includes grammars,
      (r.onGrammarAmid l text).1.draft = { r.draft with includes, grammars } := by
  unfold onGrammarAmid
  split
  · exact ⟨_, _, rfl⟩
  · rename_i c cs _
    let file := r.resolve l.variants (c :: cs)
    rcases recordReference_draft r file (isThere l.files file)
        (Grammar.read l.headers file r.encoding) with h | ⟨-, h⟩ | ⟨-, g, -, -, h⟩ <;>
      exact ⟨_, _, h⟩

/-- A field leaves alone what the others have said, while the file tree changes in any way. -/
theorem handleFieldAmid_samePart {l : Looks} {r : Reader} {field other : Field} (h : other ≠ field)
    (text : List Char) : SamePart other (r.handleFieldAmid l field text).1 r := by
  cases field with
  | grammar =>
    obtain ⟨includes, grammars, hd⟩ := onGrammarAmid_draft l r text
    cases other <;> simp_all [SamePart, handleFieldAmid]
  | artifact =>
    simp only [handleFieldAmid, handleField, onArtifact]
    split <;> cases other <;> simp_all [SamePart]
  | exampleFiles =>
    simp only [handleFieldAmid, handleField, onExampleFiles]
    split <;> cases other <;> simp_all [SamePart]
  | longName | entryPoint | caseInsensitiveType =>
    cases other <;> simp_all [SamePart, handleFieldAmid, handleField]

theorem handleField_samePart {t : FileTree} {r : Reader} {field other : Field} (h : other ≠ field)
    (text : List Char) : SamePart other (r.handleField t field text).1 r := by
  rw [← handleFieldAmid_still]
  exact handleFieldAmid_samePart h text

/-- **An element leaves alone** what only elements of another kind say. -/
theorem handleAmid_samePart {l : Looks} {r : Reader} {e : Markup.Element} {other : Field}
    (h : Field.ofElement? e ≠ some other) : SamePart other (r.handleAmid l e).1 r := by
  unfold handleAmid
  split
  · rename_i field hfield
    have hne : other ≠ field := fun ho => h (ho ▸ hfield)
    exact handleFieldAmid_samePart hne e.text
  · exact .refl other r

/-! ## Settings of elements -/

/-- Only a reference is read in a changing tree in another way. -/
theorem handleFieldAmid_of_ne {l : Looks} {r : Reader} {field : Field} (h : field ≠ .grammar)
    {text : List Char} : r.handleFieldAmid l field text = r.handleField l.examples field text := by
  cases field with
  | grammar => exact absurd rfl h
  | artifact | longName | entryPoint | exampleFiles | caseInsensitiveType => rfl

theorem settings_handleFieldAmid (l : Looks) (r : Reader) (field : Field) (text : List Char) :
    (r.handleFieldAmid l field text).1.settings = r.settings := by
  by_cases h : field = .grammar
  · subst h
    exact settings_onGrammarAmid l r text
  · rw [handleFieldAmid_of_ne h]
    cases field with
    | grammar => exact absurd rfl h
    | artifact =>
      simp only [handleField, onArtifact]
      split <;> rfl
    | exampleFiles =>
      simp only [handleField, onExampleFiles]
      split <;> rfl
    | longName | entryPoint | caseInsensitiveType => rfl

theorem settings_handleAmid (l : Looks) (r : Reader) (e : Markup.Element) :
    (r.handleAmid l e).1.settings = r.settings := by
  unfold handleAmid
  split
  · exact settings_handleFieldAmid l r _ _
  · rfl

theorem settings_handleField (t : FileTree) (r : Reader) (field : Field) (text : List Char) :
    (r.handleField t field text).1.settings = r.settings := by
  rw [← handleFieldAmid_still]
  exact settings_handleFieldAmid _ r field text

theorem settings_of_handleField {t : FileTree} {r next : Reader} {field : Field}
    {text : List Char} {failure : Option Failure}
    (h : r.handleField t field text = (next, failure)) : next.settings = r.settings := by
  rw [← settings_handleField t r field text, h]

end

end GrammarProject.Descriptor.Reader
