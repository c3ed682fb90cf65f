import GrammarProject.Proofs.Descriptor.Atomicity
import GrammarProject.Proofs.Path.Parents

/-!
# Spellings of the path of a descriptor

A descriptor is opened by its path, but its directory is taken from the text that the path was
given by. Two texts that spell one path are read alike if both end in a component or neither does,
but for the name that the project is given (`parse_respelled`). The directory is the parent of the
path only if the text ends in a component: behind a last slash or `.`, references start at the
descriptor itself (`parse_endSlash`).
-/

namespace GrammarProject

def Project.renamed (p : Project) (name : String) : Project :=
  ⟨{ p.toDraft with fileName := name }, p.includes_nodup, p.kinds_nodup⟩

namespace Descriptor

open Markup (Document Element)

def Reading.renamed (r : Reading) (name : String) : Reading :=
  { r with project := r.project.renamed name }

namespace Reader

variable {t : FileTree}

/-! ## Readers of one path -/

/-- Where references start: at the parent of the descriptor just if the text of its path ends in
a component. -/
theorem directory_ofPath (path encoding : String) (target : Target) :
    (ofPath path target encoding).directory =
      if Path.EndsInName path then (Path.ofString path).parent else .ofString path :=
  Path.ofString_directoryText path

/-- Readers of two spellings differ in the label alone. -/
theorem ofPath_respelled {path other : String} (hpath : Path.ofString path = .ofString other)
    (hend : Path.EndsInName path ↔ Path.EndsInName other) (encoding : String) (target : Target) :
    ofPath other target encoding = (ofPath path target encoding).relabel other [] := by
  have hdirectory :
      (ofPath path target encoding).directory = (ofPath other target encoding).directory := by
    simp only [directory_ofPath, hpath, hend]
  unfold relabel
  rw [hdirectory]
  simp only [ofPath, hpath]
  rfl

/-! ## Reading -/

theorem reading_relabel {r : Reader} {project : Project} (h : r.draft.build = .ok project)
    (name : String) (journal : List Note) :
    (r.relabel name journal).reading = r.reading.map (·.renamed name) := by
  have hdraft : (r.relabel name journal).draft = (project.renamed name).toDraft := by
    unfold relabel
    rw [← Draft.toDraft_build h]
    rfl
  rw [reading, reading, hdraft, Draft.build_toDraft, h]
  rfl

section
variable [Platform]

theorem readDocument_relabel {path encoding : String} {target : Target} (name : String)
    (d : Document) :
    (((ofPath path target encoding).relabel name []).readDocument t d).2 =
      ((ofPath path target encoding).readDocument t d).2.map (·.renamed name) := by
  obtain ⟨journal, hall⟩ :=
    handleAll_relabel (ofPath path target encoding) name [] t d.elements
  rw [readDocument, readDocument, hall]
  rcases hr : (ofPath path target encoding).handleAll t d.elements with ⟨last, _ | f⟩
  · cases d.stop with
    | some stop => cases stop <;> rfl
    | none =>
      -- References never keep a project from being made.
      rw [handleAll_eq_handleFields] at hr
      obtain ⟨project, hproject⟩ := ((tracks_ofPath path encoding target).handleFields hr).build
      exact reading_relabel hproject name journal
  · rfl

theorem read_relabel (path encoding : String) (target : Target) (name : String) :
    (((ofPath path target encoding).relabel name []).read t).2 =
      ((ofPath path target encoding).read t).2.map (·.renamed name) := by
  have hpath : ((ofPath path target encoding).relabel name []).path =
      (ofPath path target encoding).path := rfl
  rw [read, read, hpath]
  cases t.contentOf (ofPath path target encoding).path.toString with
  | error cause => rfl
  | ok bytes => exact readDocument_relabel name (.ofBytes bytes)

end

end Reader

section
variable [Platform]

theorem parse_unopened {t : FileTree} {path : String} {cause : AccessError}
    (h : t.contentOf (Path.ofString path).toString = .error cause) (target : Target)
    (encoding : String) :
    parse t path target encoding = .error (.access (.ofString path) cause) := by
  have h : t.contentOf (Reader.ofPath path target encoding).path.toString = .error cause := h
  rw [parse, Reader.read, h]
  rfl

/-- **The spelling of the path makes no difference** to what is read, but for the name of the
project, between texts that both end in a component and between texts of which neither does. If the
descriptor cannot be opened, it makes none at all. Whatever a reader has been through, its
references start at the parent of its path if the text ends in a component, and at the path itself
if not. -/
theorem parse_respelled {path other : String} (hpath : Path.ofString path = .ofString other)
    (t : FileTree) (target : Target) (encoding : String) :
    ((Path.EndsInName path ↔ Path.EndsInName other) →
      parse t other target encoding =
        (parse t path target encoding).map (·.renamed other)) ∧
    (∀ cause, t.contentOf (Path.ofString path).toString = .error cause →
      parse t path target encoding = .error (.access (.ofString path) cause) ∧
        parse t other target encoding = .error (.access (.ofString path) cause)) ∧
    ∀ actions, let r := (Reader.ofPath path target encoding).run actions
      r.path = .ofString path ∧
        r.directory = if Path.EndsInName path then r.path.parent else r.path := by
  refine ⟨fun hend => ?alike, fun cause hcause => ⟨parse_unopened hcause target encoding, ?_⟩,
    fun actions => ?start⟩
  case alike =>
    rw [parse, Reader.ofPath_respelled hpath hend]
    exact Reader.read_relabel path encoding target other
  case start =>
    obtain ⟨hsettings, -⟩ :=
      Reader.settings_handlings (.ofPath path target encoding) actions
    intro r
    have hp : r.path = .ofString path := congrArg Prod.fst hsettings
    have hd : r.directory = (Reader.ofPath path target encoding).directory :=
      congrArg (·.2.1) hsettings
    rw [hp, hd]
    exact ⟨rfl, Reader.directory_ofPath path encoding target⟩
  · rw [hpath] at hcause ⊢
    exact parse_unopened hcause target encoding

end

section
open scoped Platform

/-- A descriptor and its grammar in one directory. -/
def nested : FileTree :=
  ⟨[(["a"], .directory),
    (["a", "pom.xml"], .file (Text.utf8Bytes "<p><include>Foo.g4</include></p>".toList)),
    (["a", "Foo.g4"], .file (Text.utf8Bytes "grammar Foo;".toList))], []⟩

theorem parse_respelled_slashes :
    Path.ofString "a//./pom.xml" = .ofString "a/pom.xml" ∧
      (Path.EndsInName "a//./pom.xml" ↔ Path.EndsInName "a/pom.xml") ∧
      parse nested "a/pom.xml" .go "utf-8" =
        (parse nested "a//./pom.xml" .go "utf-8").map (·.renamed "a/pom.xml") ∧
      (parse nested "a//./pom.xml" .go "utf-8").toOption.map (·.project.includes) =
        some [.ofString "a/Foo.g4"] ∧
      (parse nested "a//./pom.xml" .go "utf-8").toOption.map (·.project.fileName) =
        some "a//./pom.xml" := by
  have h : (parse nested "a//./pom.xml" .go "utf-8").toOption.map
      (fun r => (r.project.includes, r.project.fileName)) =
        some ([.ofString "a/Foo.g4"], "a//./pom.xml") := by
    rw [nested, String.toList_ofList, String.toList_ofList]
    decide +kernel
  obtain ⟨reading, hreading, hboth⟩ := exists_ok_of_toOption h
  obtain ⟨hincludes, hname⟩ := Prod.mk.inj hboth
  refine ⟨by decide, by decide, (parse_respelled (by decide) nested .go "utf-8").1 (by decide),
    ?_, ?_⟩
  · rw [hreading]
    exact congrArg some hincludes
  · rw [hreading]
    exact congrArg some hname

/-- **A slash at the end** makes no difference to the path, and the same file is opened; but its
references start at the file, where there is nothing. -/
theorem parse_endSlash :
    nested.IsProper ∧ Path.ofString "a/pom.xml/" = .ofString "a/pom.xml" ∧
      (parse nested "a/pom.xml" .go "utf-8").toOption.map
        (fun r => (r.project.includes, r.findings.length)) = some ([.ofString "a/Foo.g4"], 0) ∧
      (parse nested "a/pom.xml/" .go "utf-8").toOption.map
        (fun r => (r.project.includes, r.findings.map (·.message))) = some ([],
          ["missing grammar 'a/pom.xml/Foo.g4' referenced in 'a/pom.xml'"]) := by
  rw [nested, String.toList_ofList, String.toList_ofList]
  decide +kernel

end

end Descriptor

end GrammarProject
