import GrammarProject.Proofs.Descriptor.Streaming

/-!
# Why a descriptor cannot be read

A descriptor cannot be read because it cannot be opened, because one of its elements cannot be
handled, or because of what is wrong in the document (`parse_fails`); the project at the end is
never refused. Commands expect all this, with three exceptions: an encoding that descriptors are not
read in, U+0000 in the path, and example files that are looked for too deep
(`parse_fails_unexpectedly_iff`).
-/

namespace GrammarProject

open Markup (Document Element Stop)

/-- What ends the reading of the document is the encoding that it declares. -/
def Markup.Stop.concernsEncoding : Stop → Bool
  | .fault _ => false
  | .codec _ => true
  | .wideEncoding => true

theorem Failure.isExpected_access (path : Path) (cause : AccessError) :
    (access path cause).isExpected = true ↔ cause ≠ .embeddedNull := by
  cases cause <;> simp [isExpected, report, AccessError.report, systemReport, Report.exitCode?,
    Category.exitCode?]

namespace Descriptor

section
variable [Platform]

namespace Reader

/-- The reader comes to the encoding that the document declares, and does not read in it. -/
def MeetsEncoding (t : FileTree) (r : Reader) : Prop :=
  ∃ bytes stop, t.contentOf r.path.toString = .ok bytes ∧
    (Document.ofBytes bytes).stop = some stop ∧ stop.concernsEncoding = true ∧
    (r.handleAll t (Document.ofBytes bytes).elements).2 = none

/-- The reader comes to an element whose example files it looks for deeper than the platform can
go. -/
def MeetsDepth (t : FileTree) (r : Reader) : Prop :=
  ∃ bytes done e rest mid last, t.contentOf r.path.toString = .ok bytes ∧
    (Document.ofBytes bytes).elements = done ++ e :: rest ∧ r.handleAll t done = (mid, none) ∧
    mid.handle t e = (last, some .tooDeep)

variable {t : FileTree} {r r' : Reader}

omit [Platform] in
theorem isExpected_stopped (r : Reader) (stop : Stop) :
    (r.stopped stop).isExpected = !stop.concernsEncoding := by
  cases stop with
  | fault f => rfl
  | codec fault => cases fault <;> rfl
  | wideEncoding => rfl

theorem onExampleFiles_fails {text : List Char} {f : Failure}
    (h : r.onExampleFiles t text = (r', some f)) : r' = r ∧ r.examplesIn t text = .error f := by
  unfold onExampleFiles at h
  split at h
  · rename_i hexamples
    cases h
    exact ⟨rfl, hexamples⟩
  · cases h

/-- Commands expect what keeps an element from being handled, but for a search that leads too
deep. -/
theorem handle_fails_expectedly (hall : Grammar.DecodesAll r.encoding) {e : Element} {f : Failure}
    (h : r.handle t e = (r', some f)) : f.isExpected = true ∨ f = .tooDeep := by
  unfold handle at h
  split at h
  · rename_i field _
    cases field with
    | grammar =>
      have h : r.onGrammarAmid (.still t) e.text = (r', some f) := h
      obtain ⟨file, -, ⟨cause, hstops, -, rfl, -⟩ | ⟨-, -, hd, -⟩⟩ := onGrammarAmid_fails h
      · refine .inl ((Failure.isExpected_access file cause).2 ?_)
        rintro rfl
        cases hstops
      · exact absurd (hall.decodes _ file) hd
    | exampleFiles =>
      rcases examplesIn_fails (onExampleFiles_fails h).2 with rfl | rfl | rfl
      · exact .inl rfl
      · exact .inl rfl
      · exact .inr rfl
    | artifact | longName | entryPoint | caseInsensitiveType => cases h
  · cases h

end Reader

variable {t : FileTree} {path encoding : String} {target : Target} {f : Failure}

/-- **The ways in which a descriptor cannot be read.** -/
theorem parse_fails (h : parse t path target encoding = .error f) :
    let r := Reader.ofPath path target encoding
    (∃ cause, t.contentOf r.path.toString = .error cause ∧ f = .access r.path cause) ∨
      ∃ bytes, t.contentOf r.path.toString = .ok bytes ∧
        ((∃ done e rest mid last, (Document.ofBytes bytes).elements = done ++ e :: rest ∧
            r.handleAll t done = (mid, none) ∧ mid.handle t e = (last, some f)) ∨
          ∃ stop, (Document.ofBytes bytes).stop = some stop ∧ f = r.stopped stop ∧
            (r.handleAll t (Document.ofBytes bytes).elements).2 = none) := by
  intro r
  have h : (r.read t).2 = .error f := h
  cases hb : t.contentOf r.path.toString with
  | error cause =>
    rw [Reader.read, hb] at h
    cases h
    exact .inl ⟨cause, rfl, rfl⟩
  | ok bytes =>
    refine .inr ⟨bytes, rfl, ?_⟩
    rw [Reader.read_eq_of_content hb, Reader.readDocument] at h
    rcases hr : r.handleAll t (Document.ofBytes bytes).elements with ⟨last, _ | g⟩
    · rw [hr] at h
      have hpath : last.path = r.path := by
        have hs := Reader.settings_handleAll (t := t) (r := r) (Document.ofBytes bytes).elements
        rw [hr] at hs
        exact congrArg Prod.fst hs
      cases hstop : (Document.ofBytes bytes).stop with
      | some stop =>
        rw [hstop] at h
        cases h
        refine .inr ⟨stop, rfl, ?_, rfl⟩
        cases stop <;> simp only [Reader.stopped, hpath]
      | none =>
        -- References never keep the project from being made.
        rw [hstop] at h
        rw [Reader.handleAll_eq_handleFields] at hr
        obtain ⟨project, hproject⟩ :=
          ((Reader.tracks_ofPath path encoding target).handleFields hr).build
        dsimp only at h
        rw [Reader.reading, hproject] at h
        cases h
    · rw [hr] at h
      cases h
      obtain ⟨done, e, rest, mid, helements, hdone, he⟩ := Reader.handleAll_fails hr
      exact .inl ⟨done, e, rest, mid, last, helements, hdone, he⟩

/-- A descriptor whose encoding is not known cannot be read, if nothing else is at fault before. -/
theorem parse_of_stop {bytes : List UInt8} {stop : Stop}
    (hb : t.contentOf (Path.ofString path).toString = .ok bytes)
    (hstop : (Document.ofBytes bytes).stop = some stop)
    (hhandled : ((Reader.ofPath path target encoding).handleAll t
      (Document.ofBytes bytes).elements).2 = none) :
    ∃ last : Reader, parse t path target encoding = .error (last.stopped stop) := by
  rcases hr : (Reader.ofPath path target encoding).handleAll t (Document.ofBytes bytes).elements with
    ⟨last, failure⟩
  rw [hr] at hhandled
  obtain rfl : failure = none := hhandled
  refine ⟨last, ?_⟩
  have hb : t.contentOf (Reader.ofPath path target encoding).path.toString = .ok bytes := hb
  rw [parse, Reader.read_eq_of_content hb, Reader.readDocument, hr]
  dsimp only
  rw [hstop]

theorem parse_of_failure {bytes : List UInt8}
    (hb : t.contentOf (Path.ofString path).toString = .ok bytes) {done rest : List Element}
    {e : Element} (helements : (Document.ofBytes bytes).elements = done ++ e :: rest)
    {mid last : Reader}
    (hdone : (Reader.ofPath path target encoding).handleAll t done = (mid, none))
    (he : mid.handle t e = (last, some f)) : parse t path target encoding = .error f := by
  have hb : t.contentOf (Reader.ofPath path target encoding).path.toString = .ok bytes := hb
  rw [parse, Reader.read_eq_of_content hb, Reader.readDocument, helements,
    Reader.handleAll_append, hdone]
  dsimp only
  rw [Reader.handleAll, he]

/-- **What commands do not expect of a descriptor**: that it declares an encoding that descriptors
are not read in, that its path holds U+0000, or that its example files are looked for too deep. -/
theorem parse_fails_unexpectedly_iff (hall : Grammar.DecodesAll encoding) :
    (∃ f, parse t path target encoding = .error f ∧ f.isExpected = false) ↔
      '\x00' ∈ (Path.ofString path).toString.toList ∨
        (Reader.ofPath path target encoding).MeetsEncoding t ∨
        (Reader.ofPath path target encoding).MeetsDepth t := by
  constructor
  · rintro ⟨f, hparse, hf⟩
    rcases parse_fails hparse with ⟨cause, hb, rfl⟩ | ⟨bytes, hb, hfails⟩
    · obtain rfl : cause = .embeddedNull := by
        by_contra hne
        rw [(Failure.isExpected_access _ cause).2 hne] at hf
        cases hf
      exact .inl (FileTree.embeddedNull_of_contentOf hb)
    · rcases hfails with ⟨done, e, rest, mid, last, helements, hdone, he⟩ |
        ⟨stop, hstop, rfl, hhandled⟩
      · have hmid : mid.encoding = encoding := by
          have hs := Reader.settings_handleAll (t := t) (r := .ofPath path target encoding) done
          rw [hdone] at hs
          exact congrArg (·.2.2.2.1) hs
        rcases Reader.handle_fails_expectedly (hmid ▸ hall) he with hexpected | rfl
        · rw [hexpected] at hf
          cases hf
        · exact .inr (.inr ⟨bytes, done, e, rest, mid, last, hb, helements, hdone, he⟩)
      · rw [Reader.isExpected_stopped] at hf
        exact .inr (.inl ⟨bytes, stop, hb, hstop, by simpa using hf, hhandled⟩)
  · rintro (hnull | ⟨bytes, stop, hb, hstop, hencoding, hhandled⟩ |
      ⟨bytes, done, e, rest, mid, last, hb, helements, hdone, he⟩)
    · have hb : t.contentOf (Path.ofString path).toString = .error .embeddedNull := by
        rw [← FileTree.find_eq_embeddedNull_iff (t := t)] at hnull
        rw [FileTree.contentOf, hnull]
        rfl
      refine ⟨.access (.ofString path) .embeddedNull, ?_, rfl⟩
      have hb : t.contentOf (Reader.ofPath path target encoding).path.toString =
        .error .embeddedNull := hb
      rw [parse, Reader.read, hb]
      rfl
    · obtain ⟨last, hparse⟩ := parse_of_stop hb hstop hhandled
      exact ⟨_, hparse, by rw [Reader.isExpected_stopped, hencoding]; rfl⟩
    · exact ⟨.tooDeep, parse_of_failure hb helements hdone he, rfl⟩

end

end Descriptor

end GrammarProject
