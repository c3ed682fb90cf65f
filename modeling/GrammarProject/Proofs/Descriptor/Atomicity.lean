import GrammarProject.Proofs.Descriptor.Stranding
import GrammarProject.Proofs.Descriptor.Relabelling
import GrammarProject.Proofs.FileTree.Listing

/-!
# Failures leave no trace

An element that cannot be handled leaves the reader as it was, so a run comes to the same without it
(`failures_leave_no_trace`). The exception is a reference that strands a file, which stays included
(`Handling.strands_iff`). Later references to the file are then repeats (`reference_undecoded`).
-/

namespace GrammarProject.Descriptor

open Markup (Element)

section
variable [Platform]

/-! ## Elements that cannot be handled -/

namespace Handling

variable {h : Handling} {f : Failure}

/-- **An element that cannot be handled** leaves the reader as it was, or strands. -/
theorem outcome_fails (hf : h.outcome.2 = some f) :
    h.outcome.1 = h.before ∨ ∃ file, h.Strands file := by
  rcases ho : h.outcome with ⟨r', failure⟩
  rw [ho] at hf
  obtain rfl : failure = some f := hf
  have houtcome : h.before.handleAmid h.looks h.element = (r', some f) := ho
  unfold Reader.handleAmid at houtcome
  cases hfield : Field.ofElement? h.element with
  | none =>
    rw [hfield] at houtcome
    cases houtcome
  | some field =>
    rw [hfield] at houtcome
    cases field with
    | grammar =>
      have h := reference_fails hfield (congrArg Prod.snd ho)
      rw [ho] at h
      exact h.imp_left And.left
    | exampleFiles =>
      -- Both fields are set when nothing can fail any more.
      have h : h.before.onExampleFiles h.looks.examples h.element.text = (r', some f) := houtcome
      unfold Reader.onExampleFiles at h
      split at h
      · cases h
        exact .inl rfl
      · cases h
    | artifact | longName | entryPoint | caseInsensitiveType => cases houtcome

/-- Nothing else leaves a trace: a handling strands just if it fails and changes the reader. -/
theorem strands_iff :
    (∃ file, h.Strands file) ↔ h.outcome.2 ≠ none ∧ h.outcome.1 ≠ h.before := by
  constructor
  · rintro ⟨file, hs⟩
    obtain ⟨f, -, -, ho⟩ := outcome_of_strands hs
    rw [ho]
    refine ⟨by simp, fun he => ?_⟩
    have hlength := congrArg (·.draft.includes.length) he
    simp [Draft.addInclude] at hlength
  · rintro ⟨hfails, hchanged⟩
    obtain ⟨f, hf⟩ := Option.ne_none_iff_exists'.1 hfails
    exact (outcome_fails hf).resolve_left hchanged

end Handling

namespace Reader

/-! ## Runs -/

/-- The elements among some handlings that could be handled, handled once more from the start. -/
def replay (r : Reader) (hs : List Handling) : Reader :=
  (hs.filter (·.outcome.2.isNone)).foldl (fun r h => (r.handleAmid h.looks h.element).1) r

theorem replay_concat (r : Reader) (hs : List Handling) (h : Handling) :
    r.replay (hs ++ [h]) =
      if h.outcome.2.isNone then ((r.replay hs).handleAmid h.looks h.element).1
      else r.replay hs := by
  unfold replay
  rw [List.filter_append, List.foldl_append]
  by_cases hn : h.outcome.2.isNone = true <;> simp [hn]

theorem settings_replay (r : Reader) (hs : List Handling) :
    (r.replay hs).settings = r.settings := by
  induction hs using List.reverseRecOn with
  | nil => rfl
  | append_singleton hs h ih =>
    rw [replay_concat]
    split
    · exact (settings_handleAmid _ _ _).trans ih
    · exact ih

theorem replay_step {r r' : Reader} {hs : List Handling} {name : String} {journal : List Note}
    (hr : r' = (r.replay hs).relabel name journal) (l : Looks) (e : Element)
    (hs' : ∀ file, ¬Handling.Strands ⟨r', l, e⟩ file) : ∃ journal',
    (r'.handleAmid l e).1 = (r.replay (hs ++ [⟨r', l, e⟩])).relabel name journal' := by
  rw [replay_concat]
  cases hn : Handling.outcome ⟨r', l, e⟩ with
  | mk next failure =>
    have hnext : r'.handleAmid l e = (next, failure) := hn
    cases failure with
    | some f =>
      have hsame : next = r' := by
        have h := Handling.outcome_fails (h := ⟨r', l, e⟩) (congrArg Prod.snd hn)
        rw [hn] at h
        exact h.resolve_right fun ⟨file, hf⟩ => hs' file hf
      rw [hnext, hsame]
      exact ⟨journal, hr⟩
    | none =>
      obtain ⟨journal', hsteps⟩ := handleAmid_relabel (r.replay hs) name journal l e
      rw [hr, hsteps]
      exact ⟨journal', rfl⟩

/-- **A run is the replay of it**, but for the journal. -/
theorem run_eq_replay {r : Reader} {actions : List Action}
    (h : ∀ one ∈ r.handlings actions, ∀ file, ¬one.Strands file) : ∃ journal,
    r.run actions = (r.replay (r.handlings actions)).relabel r.draft.fileName journal := by
  refine run_induction (r := r)
    (P := fun hs r' => (∀ one ∈ hs, ∀ file, ¬one.Strands file) → ∃ journal,
      r' = (r.replay hs).relabel r.draft.fileName journal)
    ?_ ?_ (fun _ => ⟨r.journal, rfl⟩) actions h
  · intro hs r' l e ih hnone
    obtain ⟨journal, hr⟩ := ih fun one hone => hnone one (List.mem_append_left _ hone)
    exact replay_step hr l e (hnone _ (by simp))
  · intro hs r' ih hnone
    obtain ⟨journal, rfl⟩ := ih hnone
    exact ⟨_, rfl⟩

/-- **Failures leave no trace.** In a run in which no file is stranded, an element that cannot be
handled leaves the reader as it was, and what is known in the end, the draft and the findings, is
what the other elements come to by themselves. A file is stranded just if a handling fails and
changes the reader: the file is included, and nothing else, since it is not decoded. -/
theorem failures_leave_no_trace {r : Reader} {actions : List Action}
    (h : ∀ one ∈ r.handlings actions, ∀ file, ¬one.Strands file) :
    (∀ one ∈ r.handlings actions, ∀ f, one.outcome.2 = some f → one.outcome.1 = one.before) ∧
      (r.run actions).draft = (r.replay (r.handlings actions)).draft ∧
      (r.run actions).findings = (r.replay (r.handlings actions)).findings ∧
      ∀ one : Handling,
        ((∃ file, one.Strands file) ↔ one.outcome.2 ≠ none ∧ one.outcome.1 ≠ one.before) ∧
        ∀ file, one.Strands file →
          ∃ f, Grammar.read one.looks.headers file one.before.encoding = .error f ∧
            (f = .unusableEncoding ∨ ∃ fault, f = .codec fault) ∧
            one.outcome = ({ one.before with draft := one.before.draft.addInclude file }, some f) := by
  refine ⟨?_, ?_⟩
  · intro one hone f hf
    exact (Handling.outcome_fails hf).resolve_right fun ⟨file, hs⟩ => h one hone file hs
  · obtain ⟨journal, hrun⟩ := run_eq_replay h
    have hname : (r.replay (r.handlings actions)).draft.fileName = r.draft.fileName :=
      congrArg (·.2.2.2.2) (settings_replay r (r.handlings actions))
    refine ⟨?_, ?_, fun one => ⟨Handling.strands_iff, fun file => Handling.outcome_of_strands⟩⟩
    · rw [hrun, ← hname]
      rfl
    · rw [hrun]
      rfl

end Reader

end

section
open scoped Platform

namespace Reader

/-- A run in which a pattern is malformed, by itself and in a descriptor. -/
def failing : List Action :=
  let t : FileTree := ⟨[(["F.g4"], .file (Text.utf8Bytes "grammar F;".toList))], []⟩
  let element (name text : String) : Element := ⟨⟨none, name.toList⟩, text.toList⟩
  [.handle (.still t) (element "exampleFiles" "["),
    .read (.ok (Text.utf8Bytes
      "<p><include>F.g4</include><exampleFiles>[</exampleFiles><include>G.g4</include></p>".toList))
      fun _ => .still t,
    .handle (.still t) (element "entryPoint" "start")]

theorem failures_leave_no_trace_pattern :
    let r := ofPath "pom.xml" .go "utf-8"
    (∀ one ∈ r.handlings failing, ∀ file, ¬one.Strands file) ∧
      (r.handlings failing).map (·.outcome.2.isSome) = [true, false, true, false] ∧
      (∀ one ∈ r.handlings failing, ∀ f, one.outcome.2 = some f → one.outcome.1 = one.before) ∧
      (r.run failing).draft = (r.replay (r.handlings failing)).draft ∧
      (r.run failing).draft.grammars.map (·.name) = ["F"] ∧
      (r.run failing).draft.entryPoint = "start" := by
  intro r
  have hnone : ∀ one ∈ r.handlings failing, ∀ file, ¬one.Strands file := by
    intro one hone file
    have hencoding : one.before.encoding = r.encoding :=
      congrArg (·.2.2.2.1) ((settings_handlings r failing).2 one hone)
    have hall : Grammar.DecodesAll r.encoding := Grammar.decodesAll_of_named? (by decide)
    exact Handling.not_strands_of_decodesAll (hencoding ▸ hall)
  obtain ⟨hsame, hdraft, -, -⟩ := failures_leave_no_trace hnone
  obtain ⟨houtcomes, hgrammars, hentry⟩ :
      (r.handlings failing).map (·.outcome.2.isSome) = [true, false, true, false] ∧
        (r.run failing).draft.grammars.map (·.name) = ["F"] ∧
        (r.run failing).draft.entryPoint = "start" := by
    rw [failing, String.toList_ofList, String.toList_ofList]
    decide +kernel
  exact ⟨hnone, houtcomes, hsame, hdraft, hgrammars, hentry⟩

/-- **A file that is included before it is read**: if the encoding is not known, the reference
fails, and yet the file is included, without a grammar and without a finding. The next reference to
it is passed over. -/
theorem reference_undecoded :
    let t : FileTree := ⟨[(["Foo.g4"], .file (Text.utf8Bytes "grammar Foo;".toList))], []⟩
    let r := ofPath "pom.xml" .go "nope-8"
    let e : Element := ⟨⟨none, "include".toList⟩, "Foo.g4".toList⟩
    let (next, failure) := r.handle t e
    t.IsProper ∧ failure.map (·.message) = some "unknown encoding: nope-8" ∧
      r.draft.includes = [] ∧ next.draft.includes = [.ofString "Foo.g4"] ∧
      next.draft.grammars = [] ∧ next.findings.length = 0 ∧ (next.handle t e).2.isNone = true := by
  decide +kernel

end Reader

end

end GrammarProject.Descriptor
