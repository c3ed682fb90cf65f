import GrammarProject.Platform.Standard
import GrammarProject.Proofs.Descriptor.Frame
import GrammarProject.Proofs.Descriptor.Runs
import GrammarProject.Proofs.Grammar.Header
import GrammarProject.Proofs.Path.Variants
import GrammarProject.Proofs.Project.Building
import GrammarProject.Proofs.Text.Utf8

/-!
# Orderly drafts

`Draft.Orderly` is what holds of the draft of a reader whatever the reader has been through: it has
no include twice, every include in lexical normal form, no two grammars of one kind, and its
grammars come from its includes, in their order. One reference keeps it (`Orderly.recordReference`),
hence any element and any read, while the file tree changes in any way (`Orderly.run`). So the draft
always makes a project.
-/

namespace GrammarProject

/-- Order in a draft. -/
structure Draft.Orderly (d : Draft) : Prop where
  includes_nodup : d.includes.Nodup
  includes_normal : ∀ p ∈ d.includes, p.IsNormal
  kinds_nodup : d.kinds.Nodup
  files_sublist : (d.grammars.map (·.file)).Sublist d.includes

namespace Draft

variable {d : Draft}

theorem grammarOf?_eq_none {k : Grammar.Kind} : d.grammarOf? k = none ↔ k ∉ d.kinds := by
  simp only [grammarOf?, kinds, List.find?_eq_none, List.mem_map, decide_eq_true_eq, not_exists,
    not_and]

theorem orderly_named (fileName : String) : (named fileName).Orderly :=
  ⟨List.nodup_nil, fun _ h => absurd h List.not_mem_nil, List.nodup_nil, .slnil⟩

theorem Orderly.addInclude (h : d.Orderly) {p : Path} (hn : p.IsNormal) (hp : p ∉ d.includes) :
    (d.addInclude p).Orderly := by
  obtain ⟨h1, h2, h3, h4⟩ := h
  refine ⟨?_, fun q hq => ?_, h3, h4.trans (List.sublist_append_left _ _)⟩
  · exact List.nodup_append.2 ⟨h1, by simp, fun a ha b hb he => hp (by simp_all)⟩
  · rcases List.mem_append.1 hq with hq | hq
    · exact h2 q hq
    · exact List.mem_singleton.1 hq ▸ hn

theorem Orderly.addGrammar (h : d.Orderly) {g : Grammar} (hn : g.file.IsNormal)
    (hp : g.file ∉ d.includes) (hk : d.grammarOf? g.kind = none) :
    ((d.addInclude g.file).addGrammar g).Orderly := by
  obtain ⟨h1, h2, h3, -⟩ := h.addInclude hn hp
  refine ⟨h1, h2, ?_, ?_⟩
  · rw [grammarOf?_eq_none] at hk
    simp only [Draft.addGrammar, Draft.addInclude, kinds, List.map_append, List.map_cons,
      List.map_nil]
    exact List.nodup_append.2 ⟨h.kinds_nodup, by simp, fun a ha b hb he => hk (by simp_all [kinds])⟩
  · simp only [Draft.addGrammar, Draft.addInclude, List.map_append, List.map_cons, List.map_nil]
    exact h.files_sublist.append (.refl _)

/-- **An orderly draft makes a project.** -/
theorem Orderly.build (h : d.Orderly) : ∃ project, d.build = .ok project :=
  build_of_nodup h.includes_nodup h.kinds_nodup

end Draft

namespace Descriptor.Reader

open Markup (Element)

/-! ## One reference -/

theorem reference_isNormal (r : Reader) (text : List Char) : (r.reference text).IsNormal :=
  Path.normal_isNormal (Path.wellFormed_ofString _)

/-- A reference leads to a path in normal form, whether to a variant or not. -/
theorem resolve_isNormal (t : FileTree) {r : Reader} (ht : r.target ∈ Target.registered)
    (text : List Char) : (r.resolve t text).IsNormal := by
  have hn : (r.reference text).IsNormal := reference_isNormal r text
  unfold resolve
  split
  · rename_i variant hv
    obtain ⟨v, hv', rfl⟩ := Option.map_eq_some_iff.1 hv
    split
    · exact Target.variant_isNormal ht hn hv'
    · exact hn
  · exact hn

theorem orderly_recordReference {r : Reader} (h : r.draft.Orderly) {file : Path}
    (hn : file.IsNormal) (present : Except Failure Bool) {header : Except Failure Grammar}
    (hf : ∀ g, header = .ok g → g.file = file) :
    (r.recordReference file present header).1.draft.Orderly := by
  rcases recordReference_draft r file present header with hd | ⟨hm, hd⟩ | ⟨hm, g, hg, hk, hd⟩
  · exact hd ▸ h
  · exact hd ▸ h.addInclude hn hm
  · obtain rfl := hf g hg
    exact hd ▸ h.addGrammar hn hm hk

/-! ## Elements, reads and runs -/

theorem orderly_handleAmid [Platform] {r : Reader} (ht : r.target ∈ Target.registered)
    (h : r.draft.Orderly) (l : Looks) (e : Element) : (r.handleAmid l e).1.draft.Orderly := by
  unfold handleAmid
  split
  · rename_i field _
    by_cases hf : field = .grammar
    · subst hf
      simp only [handleFieldAmid, onGrammarAmid]
      split
      · exact h
      · exact orderly_recordReference h (resolve_isNormal _ ht _) _ fun g => Grammar.file_of_read
    · rw [handleFieldAmid_of_ne hf]
      obtain ⟨h1, h2, -⟩ :=
        handleField_samePart (t := l.examples) (r := r) (Ne.symm hf) e.text
      exact ⟨h1 ▸ h.includes_nodup, h1 ▸ h.includes_normal,
        by rw [Draft.kinds, h2]; exact h.kinds_nodup, by rw [h1, h2]; exact h.files_sublist⟩
  · exact h

/-- The state of a reader of a registered target. -/
def IsOrderly (r : Reader) : Prop := r.target ∈ Target.registered ∧ r.draft.Orderly

theorem IsOrderly.handleAmid [Platform] {r : Reader} (h : r.IsOrderly) (l : Looks) (e : Element) :
    (r.handleAmid l e).1.IsOrderly := by
  have htarget : (r.handleAmid l e).1.target = r.target :=
    congrArg (·.2.2.1) (settings_handleAmid l r e)
  exact ⟨htarget ▸ h.1, orderly_handleAmid h.1 h.2 l e⟩

theorem IsOrderly.run [Platform] {r : Reader} (h : r.IsOrderly) (actions : List Action) :
    (r.run actions).IsOrderly :=
  run_induction (P := fun _ r => r.IsOrderly) (fun _ _ l e h => h.handleAmid l e) (fun _ _ h => h) h
    actions

/-- **A reader is orderly whatever it has been through**: elements and reads in any order, ended
by failures or not, while the file tree changes in any way. No project is refused at its end. -/
theorem run_orderly [Platform] (path encoding : String) {target : Target} (ht : target ∈ Target.registered)
    (actions : List Action) :
    let draft := ((ofPath path target encoding).run actions).draft
    draft.includes.Nodup ∧ (∀ p ∈ draft.includes, p.IsNormal) ∧
      (∀ k, draft.kinds.count k ≤ 1) ∧
      (draft.grammars.map (·.file)).Sublist draft.includes ∧
      ∃ project, draft.build = .ok project := by
  have hstart : (ofPath path target encoding).IsOrderly := ⟨ht, Draft.orderly_named path⟩
  obtain ⟨-, h⟩ := hstart.run actions
  exact ⟨h.includes_nodup, h.includes_normal, fun k => List.nodup_iff_count.1 h.kinds_nodup k,
    h.files_sublist, h.build⟩

section
open scoped Platform

/-- A variant that appears between two references to one grammar file is a second include, whose
grammar is not taken. -/
theorem run_orderly_variant :
    let before : FileTree := ⟨[(["Foo.g4"], .file (Text.utf8Bytes "grammar Foo;".toList))], []⟩
    let after := before.write (.ofString "Foo.GoTarget.g4") (Text.utf8Bytes "grammar Go;".toList)
    let element : Element := ⟨⟨none, "include".toList⟩, " ./Foo.g4".toList⟩
    let actions : List Action := [.handle (.still before) element, .handle (.still after) element,
      .read (.error .notFound) fun _ => .still after]
    let draft := ((ofPath "pom.xml" .go "utf-8").run actions).draft
    Target.go ∈ Target.registered ∧
      draft.includes = [.ofString "Foo.g4", .ofString "Foo.GoTarget.g4"] ∧
      draft.grammars = [⟨"Foo", .ofString "Foo.g4", .combined⟩] ∧
      draft.includes.Nodup ∧ (∀ p ∈ draft.includes, p.IsNormal) ∧
      (∀ k, draft.kinds.count k ≤ 1) ∧ (draft.grammars.map (·.file)).Sublist draft.includes ∧
      ∃ project, draft.build = .ok project :=
  ⟨by decide, by decide +kernel, by decide +kernel, run_orderly "pom.xml" "utf-8" (by decide) _⟩

end

end Descriptor.Reader

end GrammarProject
