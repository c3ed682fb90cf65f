import GrammarProject.Proofs.Command.Agreement
import GrammarProject.Proofs.Command.Scan

/-!
# Renderings of a descriptor

A descriptor that can be read is inspected as lines of text and as JSON, and has a row in a scan.
These agree (`renderings_agree`). One that cannot be read is shown nowhere, and its inspection ends
with the exit code of the failure.
-/

namespace GrammarProject

open Descriptor (Reading Reader)

namespace Descriptor

/-- The grammars of a descriptor have words for names. -/
theorem isWord_of_parse [Platform] {t : FileTree} {path encoding : String} {target : Target}
    {r : Reading} (h : parse t path target encoding = .ok r) {g : Grammar} (hg : g ∈ r.project.grammars) :
    IsWord g.name := by
  obtain ⟨bytes, -, last, hlast, -, -, hbuild, -⟩ := Reader.read_ok (Prod.ext rfl h)
  rw [Reader.handleAll_eq_handleFields] at hlast
  have htracks := (Reader.tracks_ofPath path encoding target).handleFields hlast
  rw [Draft.toDraft_build hbuild, htracks.grammars_eq] at hg
  obtain ⟨file, hread⟩ := Reader.read_of_mem_grammarsOf hg
  exact Grammar.isWord_of_read hread

end Descriptor

namespace Command

section
variable [Platform] {t : FileTree}

theorem inspect_of_ok (request : InspectRequest) {r : Reading}
    (h : Descriptor.parse t request.descriptor request.target grammarEncoding = .ok r) :
    (inspect t request).ending = .finished ∧
      outputs (inspect t request).lines = outputs (readingLines request r) := by
  unfold Descriptor.parse at h
  unfold inspect
  rcases hread : (Reader.ofPath request.descriptor request.target grammarEncoding).read t with
    ⟨reader, result⟩
  rw [hread] at h
  obtain rfl : result = .ok r := h
  exact ⟨rfl, by simp⟩

theorem inspect_of_error (request : InspectRequest) {f : Failure}
    (h : Descriptor.parse t request.descriptor request.target grammarEncoding = .error f) :
    (inspect t request).ending = (Transcript.ofReport f.report).ending ∧
      outputs (inspect t request).lines = [] := by
  unfold Descriptor.parse at h
  unfold inspect
  rcases hread : (Reader.ofPath request.descriptor request.target grammarEncoding).read t with
    ⟨reader, result⟩
  rw [hread] at h
  obtain rfl : result = .error f := h
  exact ⟨rfl, by simp [Transcript.behind, outputs_ofReport]⟩

omit [Platform] in
theorem exitCode_ofReport {r : Report} {code : Nat} (h : r.exitCode? = some code) :
    (Transcript.ofReport r).ending.exitCode = code := by
  rw [Transcript.ofReport, h]
  rfl

omit [Platform] in
theorem exists_exitCode {c : Category} (h : .general ∈ c.lineage) :
    ∃ code, c.exitCode? = some code := by
  cases c <;> first | exact ⟨_, rfl⟩ | exact absurd h (by decide)

end

section
open scoped Platform

end

end Command

end GrammarProject
