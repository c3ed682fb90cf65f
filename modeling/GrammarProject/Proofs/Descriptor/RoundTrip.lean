import GrammarProject.Platform.Standard
import GrammarProject.Proofs.Descriptor.Fields
import GrammarProject.Proofs.Descriptor.References
import GrammarProject.Proofs.Markup.Writing

/-!
# Reading back what was written

A descriptor that is written with one element for each thing it says is read back without loss
(`read_written`): what is handled are the elements that matter, in their order, each with its text
character for character, up to the first that cannot be handled. Among the fields that are kept as
they are the last one counts (`handleFields_last`), while a plugin is used if any artifact shows it
(`handleFields_plugin`).
-/

namespace GrammarProject.Descriptor

open Markup (Item Name)

namespace Reader

variable {t : FileTree} {r r' : Reader} {said : List (Field × List Char)}

/-! ## Fields that are kept as they are -/

theorem handleFields_last [Platform] {field : Field} {value : Draft → String}
    (hown : ∀ r text, value (handleField t r field text).1.draft = String.ofList text)
    (hpart : ∀ {r r'}, SamePart field r r' → value r.draft = value r'.draft) {before : List Char}
    (hb : value r.draft = String.ofList before) (h : r.handleFields t said = (r', none)) :
    value r'.draft = String.ofList ((field.textsOf said).getLastD before) := by
  induction said generalizing r before with
  | nil =>
    cases h
    exact hb
  | cons s said ih =>
    obtain ⟨other, text⟩ := s
    obtain ⟨next, hr, hrest⟩ := handleFields_cons h
    by_cases ho : other = field
    · subst ho
      have hnext : value next.draft = String.ofList text := by rw [← hown r text, hr]
      rw [Field.textsOf_cons_self, List.getLastD_cons]
      exact ih hnext hrest
    · have hnext : value next.draft = String.ofList before := by
        have := hpart (handleField_samePart (t := t) (r := r) (Ne.symm ho) text)
        rw [hr] at this
        rw [this, hb]
      rw [Field.textsOf_cons_of_ne ho]
      exact ih hnext hrest

/-- A plugin is used if some artifact shows it. -/
theorem handleFields_plugin [Platform] (h : r.handleFields t said = (r', none)) :
    r'.draft.usesPlugin = true ↔ r.draft.usesPlugin = true ∨
      ∃ text ∈ Field.artifact.textsOf said, Text.trim text = r.target.plugin.toList := by
  induction said generalizing r with
  | nil =>
    cases h
    simp [Field.textsOf]
  | cons s said ih =>
    obtain ⟨field, text⟩ := s
    obtain ⟨next, hr, hrest⟩ := handleFields_cons h
    have htarget : next.target = r.target := congrArg (·.2.2.1) (settings_of_handleField hr)
    rw [ih hrest, htarget]
    by_cases ha : field = .artifact
    · subst ha
      have hnext : next.draft.usesPlugin = true ↔
          r.draft.usesPlugin = true ∨ Text.trim text = r.target.plugin.toList := by
        have hn : next = r.onArtifact text := (congrArg Prod.fst hr).symm
        rw [hn, onArtifact]
        split <;> simp_all
      rw [Field.textsOf_cons_self, hnext, or_assoc]
      simp
    · have hnext : next.draft.usesPlugin = r.draft.usesPlugin := by
        have := handleField_samePart (t := t) (r := r) (Ne.symm ha) text
        rwa [hr] at this
      rw [Field.textsOf_cons_of_ne ha, hnext]

/-! ## Written descriptors -/

/-- What an item says, if it matters. -/
def said? (i : Item) : Option (Field × List Char) :=
  (Field.ofLocalName? i.name.text).map fun field => (field, i.text)

theorem said_written {root : Name} (hroot : Field.ofLocalName? root.text = none)
    (items : List Item) :
    Field.said (items.map Item.element ++ [⟨root.expanded, []⟩]) = items.filterMap said? := by
  have hlast : Field.ofElement? ⟨root.expanded, []⟩ = none := hroot
  unfold Field.said
  rw [List.filterMap_append, List.filterMap_map, List.filterMap_cons, hlast]
  exact List.append_nil _

/-- **A written descriptor is read back.** -/
theorem read_written [Platform] {t : FileTree} {path encoding : String} {target : Target} {root : Name}
    {items : List Item} (hroot : Field.ofLocalName? root.text = none)
    (hfile : t.contentOf (Path.ofString path).toString =
      .ok (Text.utf8Bytes (Markup.written root items))) :
    let r := ofPath path target encoding
    let said := items.filterMap said?
    (r.read t = match r.handleFields t said with
      | (last, some f) => (last, .error f)
      | (last, none) => (last.count, last.reading)) ∧
    ((r.handleFields t said).2 = none → ∃ reading, (r.read t).2 = .ok reading ∧
      reading.project.longName = String.ofList ((Field.longName.textsOf said).getLastD []) ∧
      reading.project.entryPoint = String.ofList ((Field.entryPoint.textsOf said).getLastD []) ∧
      reading.project.caseInsensitiveType =
        String.ofList ((Field.caseInsensitiveType.textsOf said).getLastD []) ∧
      (reading.project.usesPlugin = true ↔
        ∃ text ∈ Field.artifact.textsOf said, Text.trim text = target.plugin.toList)) := by
  intro r said
  have hread : r.read t = match r.handleFields t said with
      | (last, some f) => (last, .error f)
      | (last, none) => (last.count, last.reading) := by
    have hdocument := Markup.ofBytes_written root items
    have hfields := read_eq_handleFields (r := r) hfile (by rw [hdocument])
    rw [hdocument] at hfields
    dsimp only at hfields
    rw [said_written hroot] at hfields
    exact hfields
  refine ⟨hread, fun hnone => ?_⟩
  rcases hr : r.handleFields t said with ⟨last, _ | f⟩
  · rw [hr] at hread
    obtain ⟨project, hproject⟩ := ((tracks_ofPath path encoding target).handleFields hr).build
    have hd := Draft.toDraft_build hproject
    refine ⟨⟨project, last.findings⟩, ?_, ?_, ?_, ?_, ?_⟩
    · rw [hread]
      dsimp only
      rw [Reader.reading, hproject]
      rfl
    · rw [hd]
      exact handleFields_last (fun _ _ => rfl) id rfl hr
    · rw [hd]
      exact handleFields_last (fun _ _ => rfl) id rfl hr
    · rw [hd]
      exact handleFields_last (fun _ _ => rfl) id rfl hr
    · rw [hd, handleFields_plugin hr]
      simp [r, ofPath, Draft.named]
  · rw [hr] at hnone
    cases hnone

section
open scoped Platform

/-- Characters that have to be escaped, line ends and blanks at the ends of texts are read back. -/
theorem read_written_escaped :
    let root : Name := ⟨"project".toList, by decide⟩
    let items : List Item := [
      ⟨⟨"grammarName".toList, by decide⟩, "first".toList, by decide⟩,
      ⟨⟨"artifactId".toList, by decide⟩, " antlr4-maven-plugin\r\n".toList, by decide⟩,
      ⟨⟨"other".toList, by decide⟩, "]]>".toList, by decide⟩,
      ⟨⟨"grammarName".toList, by decide⟩, " <a>\r\n& ]]>\t".toList, by decide⟩,
      ⟨⟨"entryPoint".toList, by decide⟩, [], by decide⟩]
    let t : FileTree :=
      ⟨[(["pom.xml"], .file (Text.utf8Bytes (Markup.written root items)))], []⟩
    let r := ofPath "pom.xml" .go "utf-8"
    Field.ofLocalName? root.text = none ∧
      t.contentOf (Path.ofString "pom.xml").toString =
        .ok (Text.utf8Bytes (Markup.written root items)) ∧
      ∃ reading, (r.read t).2 = .ok reading ∧
        reading.project.longName = " <a>\r\n& ]]>\t" ∧ reading.project.usesPlugin = true := by
  intro root items t r
  have hroot : Field.ofLocalName? root.text = none := by decide
  have hfile : t.contentOf (Path.ofString "pom.xml").toString =
      .ok (Text.utf8Bytes (Markup.written root items)) := by decide +kernel
  have hnone : (r.handleFields t (items.filterMap said?)).2 = none := by rfl
  obtain ⟨-, h⟩ := @read_written _ t "pom.xml" "utf-8" .go root items hroot hfile
  obtain ⟨reading, hreading, hname, -, -, hplugin⟩ := h hnone
  refine ⟨hroot, hfile, reading, hreading, hname, hplugin.2 ?_⟩
  exact ⟨" antlr4-maven-plugin\r\n".toList, by decide, by decide⟩

end

end Reader

end GrammarProject.Descriptor
