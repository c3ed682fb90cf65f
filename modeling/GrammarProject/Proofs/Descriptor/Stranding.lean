import GrammarProject.Proofs.Descriptor.Degradation
import GrammarProject.Proofs.Descriptor.Runs

/-!
# Files that are stranded

A file is included before its text is decoded. If it is not decoded, the reference to it fails and
the file stays included, with neither a grammar nor a finding (`Handling.Strands`,
`Handling.outcome_of_strands`). A reference that fails in any other way leaves the reader as it was
(`Handling.reference_fails`).
-/

namespace GrammarProject.Descriptor

variable [Platform]

/-- A reference comes to a new file that is there and is not decoded. -/
structure Handling.Strands (h : Handling) (file : Path) : Prop where
  field : Field.ofElement? h.element = some .grammar
  leads : h.before.leadsTo? h.looks.variants h.element.text = some file
  there : h.looks.files.reaches file.toString = true
  fresh : file ∉ h.before.draft.includes
  undecoded : ¬Grammar.Decodes h.looks.headers file h.before.encoding

namespace Handling

def isReference (h : Handling) : Bool := Field.ofElement? h.element = some .grammar

def stranded? (h : Handling) : Option Path :=
  if h.isReference then
    (h.before.leadsTo? h.looks.variants h.element.text).filter fun file =>
      h.looks.files.reaches file.toString && !h.before.draft.hasInclude file &&
        !decide (Grammar.Decodes h.looks.headers file h.before.encoding)
  else none

variable {h : Handling} {file : Path} {f : Failure}

theorem stranded?_eq_some_iff : h.stranded? = some file ↔ h.Strands file := by
  have hnew : h.before.draft.hasInclude file = false ↔ file ∉ h.before.draft.includes := by
    rw [← Bool.not_eq_true, Draft.hasInclude_iff]
  constructor
  · intro hs
    unfold stranded? at hs
    split at hs
    · rename_i href
      obtain ⟨hleads, hs⟩ := Option.filter_eq_some_iff.1 hs
      simp only [Bool.and_eq_true, Bool.not_eq_true', decide_eq_false_iff_not, hnew] at hs
      exact ⟨by simpa [isReference] using href, hleads, hs.1.1, hs.1.2, hs.2⟩
    · cases hs
  · rintro ⟨hfield, hleads, hthere, hfresh, hundecoded⟩
    simp [stranded?, isReference, hfield, hleads, hthere, hnew.2 hfresh, hundecoded,
      Option.filter]

theorem stranded?_eq_none_iff : h.stranded? = none ↔ ∀ file, ¬h.Strands file := by
  simp only [Option.eq_none_iff_forall_ne_some, ne_eq, stranded?_eq_some_iff]

omit [Platform] in
theorem not_isReference (hfield : Field.ofElement? h.element ≠ some .grammar) :
    h.isReference = false := by
  simpa [isReference] using hfield

theorem outcome_reference (hfield : Field.ofElement? h.element = some .grammar) :
    h.outcome = h.before.onGrammarAmid h.looks h.element.text := by
  simp only [outcome, Reader.handleAmid, hfield, Reader.handleFieldAmid]

/-- **What a reference that strands a file leaves**: the file is included, and that is all. -/
theorem outcome_of_strands (hs : h.Strands file) :
    ∃ f, Grammar.read h.looks.headers file h.before.encoding = .error f ∧
      (f = .unusableEncoding ∨ ∃ fault, f = .codec fault) ∧
      h.outcome = ({ h.before with draft := h.before.draft.addInclude file }, some f) := by
  obtain ⟨f, hread, hf, hrecord⟩ :=
    Reader.recordReference_of_not_decodes hs.fresh hs.undecoded
  refine ⟨f, hread, hf, ?_⟩
  rw [outcome_reference hs.field, Reader.onGrammarAmid_eq, hs.leads]
  dsimp only
  rw [Reader.isThere_of_reaches hs.there, hread, hrecord]

theorem stranded?_of_handled (hh : h.outcome.2 = none) : h.stranded? = none := by
  rw [stranded?_eq_none_iff]
  intro file hs
  obtain ⟨f, -, -, ho⟩ := outcome_of_strands hs
  rw [ho] at hh
  cases hh

theorem not_strands_of_decodesAll (hall : Grammar.DecodesAll h.before.encoding) :
    ¬h.Strands file := fun hs => hs.undecoded (hall.decodes _ _)

/-- **A reference that fails** leaves the reader as it was, since its file cannot be looked for, or
strands the file. -/
theorem reference_fails (hfield : Field.ofElement? h.element = some .grammar)
    (hf : h.outcome.2 = some f) :
    (h.outcome.1 = h.before ∧ ∃ file, h.before.leadsTo? h.looks.variants h.element.text = some file ∧
      h.looks.files.reaches file.toString = false) ∨ ∃ file, h.Strands file := by
  rcases ho : h.outcome with ⟨r', failure⟩
  rw [ho] at hf
  obtain rfl : failure = some f := hf
  rw [outcome_reference hfield] at ho
  obtain ⟨file, hto, ⟨cause, -, hfind, -, hr⟩ | ⟨hthere, hnew, hd, -⟩⟩ :=
    Reader.onGrammarAmid_fails ho
  · exact .inl ⟨hr, file, hto, by rw [FileTree.reaches, hfind]⟩
  · exact .inr ⟨file, hfield, hto, Reader.isThere_ok hthere, hnew, hd⟩

end Handling

theorem Reader.settings_handlings (r : Reader) (actions : List Reader.Action) :
    (r.run actions).settings = r.settings ∧
      ∀ h ∈ r.handlings actions, h.before.settings = r.settings := by
  refine Reader.run_induction (r := r)
    (P := fun hs r' => r'.settings = r.settings ∧ ∀ h ∈ hs, h.before.settings = r.settings)
    ?_ ?_ ⟨rfl, by simp⟩ actions
  · rintro hs r' l e ⟨hr', hhs⟩
    refine ⟨(Reader.settings_handleAmid l r' e).trans hr', fun h hm => ?_⟩
    rcases List.mem_append.1 hm with hm | hm
    · exact hhs h hm
    · obtain rfl := List.mem_singleton.1 hm
      exact hr'
  · exact fun hs r' h => h

end GrammarProject.Descriptor
