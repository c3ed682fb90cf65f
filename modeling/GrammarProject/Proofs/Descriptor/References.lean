import GrammarProject.Platform.Standard
import GrammarProject.Proofs.Descriptor.Fields
import GrammarProject.Proofs.Descriptor.Orderly
import GrammarProject.Proofs.Lists
import Mathlib.Data.List.Induction

/-!
# References in closed form

What reading a descriptor makes of its references to grammar files, without a state that is carried
from one reference to the next: the includes are the first occurrences of the files that are there
(`Reader.includesOf`), the grammars are those of the includes that are the first of their kind
(`Reader.grammarsOf`), and each reference gives at most one diagnostic, in view of the references
before it (`Reader.diagnosticsOf`). `Reader.Tracks` says that a reader has come to this by some
references; one more keeps it (`Tracks.onGrammar`), so a whole read ends in it
(`parse_references`).
-/

namespace GrammarProject

namespace Descriptor

open Markup (Element)

namespace Reader

/-! ## The closed form -/

section
variable (t : FileTree) (r : Reader)

/-- The path that a reference leads to, unless the reference is empty. -/
def leadsTo? (text : List Char) : Option Path :=
  match Text.trim text with
  | [] => none
  | c :: cs => some (r.resolve t (c :: cs))

/-- The files that references include: those that are there, each at its first occurrence. -/
def includesOf (texts : List (List Char)) : List Path :=
  ((texts.filterMap (r.leadsTo? t)).filter (t.reaches ·.toString)).eraseDups

variable [Platform]

def grammarAt? (file : Path) : Option Grammar := (Grammar.read t file r.encoding).toOption

/-- The grammar of the first of some files that declares one of a kind. -/
def holder? (files : List Path) (k : Grammar.Kind) : Option Grammar :=
  (files.filterMap (r.grammarAt? t)).find? (·.kind = k)

/-- The grammars among files: those of a kind that no file before declares. -/
def grammarsOf (files : List Path) : List Grammar :=
  eachBehind (fun before file =>
    (r.grammarAt? t file).filter fun g => (r.holder? t before g.kind).isNone) files

/-- What is found about a reference behind some others. -/
def findingOf? (before : List (List Char)) (text : List Char) : Option Finding :=
  match r.leadsTo? t text with
  | none => some (.emptyReference r.path)
  | some file =>
    if !t.reaches file.toString then some (.missingGrammar file r.path)
    else if (r.includesOf t before).contains file then none
    else match Grammar.read t file r.encoding with
      | .error f => some (.unreadableGrammar file f)
      | .ok g => (r.holder? t (r.includesOf t before) g.kind).map (.surplusGrammar g)

/-- The diagnostic that a reference gives behind some others: a warning about the descriptor if
the reference is empty, about the file if it is missing or, at its first occurrence, cannot be read,
and a remark about the file if its kind of grammar has a holder already. -/
def diagnosticOf? (before : List (List Char)) (text : List Char) : Option Diagnostic :=
  match r.leadsTo? t text with
  | none => some ⟨(Finding.emptyReference r.path).message, some r.path, .warning⟩
  | some file =>
    if !t.reaches file.toString then
      some ⟨(Finding.missingGrammar file r.path).message, some file, .warning⟩
    else if (r.includesOf t before).contains file then none
    else match Grammar.read t file r.encoding with
      | .error f => some ⟨(Finding.unreadableGrammar file f).message, some file, .warning⟩
      | .ok g => (r.holder? t (r.includesOf t before) g.kind).map fun holder =>
          ⟨(Finding.surplusGrammar g holder).message, some file, .info⟩

def findingsOf (texts : List (List Char)) : List Finding := eachBehind (r.findingOf? t) texts

def diagnosticsOf (texts : List (List Char)) : List Diagnostic :=
  eachBehind (r.diagnosticOf? t) texts

end

/-! ## One reference -/

section
variable {t : FileTree} {r : Reader}

theorem leadsTo?_congr {start : Reader} (h : r.settings = start.settings) (text : List Char) :
    r.leadsTo? t text = start.leadsTo? t text := by
  simp only [settings, Prod.mk.injEq] at h
  obtain ⟨-, hd, ht, -, -⟩ := h
  unfold leadsTo? resolve variantOf? reference
  rw [hd, ht]

theorem isThere_ok {p : Path} {there : Bool} (h : isThere t p = .ok there) :
    t.reaches p.toString = there := by
  unfold isThere at h
  unfold FileTree.reaches
  split at h <;> simp_all

theorem isThere_of_reaches {p : Path} (h : t.reaches p.toString = true) :
    isThere t p = .ok true := by
  unfold FileTree.reaches at h
  unfold isThere
  split at h
  · rename_i hfind
    rw [hfind]
  · cases h

/-- What a reference does that does not end the reading: it leads nowhere, or to a file that is
included already, or it includes the file, whose header cannot be read, or declares a grammar that
is added, or one of a kind that has a holder. -/
theorem recordReference_returns {r' : Reader} {file : Path} {present : Except Failure Bool}
    {header : Except Failure Grammar} (h : r.recordReference file present header = (r', none)) :
    ∃ there, present = .ok there ∧
      ((there = false ∧ r' = r.find (.missingGrammar file r.path)) ∨
        (there = true ∧ file ∈ r.draft.includes ∧ r' = r) ∨
        (there = true ∧ file ∉ r.draft.includes ∧ r'.draft.includes = r.draft.includes ++ [file] ∧
          ((∃ f, header = .error f ∧ r'.draft.grammars = r.draft.grammars ∧
              r'.findings = r.findings ++ [.unreadableGrammar file f]) ∨
            (∃ g, header = .ok g ∧ r.draft.grammarOf? g.kind = none ∧
              r'.draft.grammars = r.draft.grammars ++ [g] ∧ r'.findings = r.findings) ∨
            (∃ g holder, header = .ok g ∧ r.draft.grammarOf? g.kind = some holder ∧
              r'.draft.grammars = r.draft.grammars ∧
              r'.findings = r.findings ++ [.surplusGrammar g holder])))) := by
  unfold recordReference at h
  split at h
  · cases h
  · cases h
    exact ⟨false, rfl, .inl ⟨rfl, rfl⟩⟩
  · refine ⟨true, rfl, .inr ?_⟩
    split at h
    · rename_i hm
      cases h
      exact .inl ⟨rfl, Draft.hasInclude_iff.1 hm, rfl⟩
    · rename_i hm
      have hm : file ∉ r.draft.includes := fun h => hm (Draft.hasInclude_iff.2 h)
      dsimp only at h
      split at h
      · rename_i g
        cases h
        unfold recordGrammar
        dsimp only
        split
        · rename_i holder hk
          exact .inr ⟨rfl, hm, rfl, .inr (.inr ⟨g, holder, rfl, hk, rfl, rfl⟩)⟩
        · rename_i hk
          exact .inr ⟨rfl, hm, rfl, .inr (.inl ⟨g, rfl, hk, rfl, rfl⟩)⟩
      · rename_i f
        split at h
        · cases h
          exact .inr ⟨rfl, hm, rfl, .inl ⟨f, rfl, rfl, rfl⟩⟩
        · cases h

/-! ## One reference more -/

/-- An empty reference, one that leads nowhere and one to a file that is included already add no
include; any other adds the file. -/
theorem includesOf_concat (texts : List (List Char)) (text : List Char) :
    r.includesOf t (texts ++ [text]) = r.includesOf t texts ++
      (match r.leadsTo? t text with
      | none => []
      | some file =>
        if t.reaches file.toString ∧ file ∉ r.includesOf t texts then [file] else []) := by
  unfold includesOf
  rw [List.filterMap_append, List.filter_append, List.eraseDups_append]
  congr 1
  cases h : r.leadsTo? t text with
  | none => simp [h, List.removeAll]
  | some file =>
    by_cases ht : t.reaches file.toString = true
    · by_cases hm : file ∈ (texts.filterMap (r.leadsTo? t)).filter (t.reaches ·.toString)
      · simp_all [List.removeAll]
      · simp_all [List.removeAll, List.eraseDups_cons]
    · simp [h, ht, List.removeAll]

theorem includesOf_nodup (texts : List (List Char)) : (r.includesOf t texts).Nodup :=
  nodup_eraseDups _

variable [Platform]

theorem grammarsOf_concat (files : List Path) (file : Path) :
    r.grammarsOf t (files ++ [file]) = r.grammarsOf t files ++
      ((r.grammarAt? t file).filter fun g => (r.holder? t files g.kind).isNone).toList :=
  eachBehind_concat _ _ _

theorem read_of_mem_grammarsOf {files : List Path} {g : Grammar} (h : g ∈ r.grammarsOf t files) :
    ∃ file, Grammar.read t file r.encoding = .ok g := by
  rw [grammarsOf, eachBehind, List.mem_filterMap] at h
  obtain ⟨⟨file, i⟩, -, hfile⟩ := h
  obtain ⟨hread, -⟩ := Option.filter_eq_some_iff.1 hfile
  refine ⟨file, ?_⟩
  unfold grammarAt? at hread
  cases hg : Grammar.read t file r.encoding with
  | error f =>
    rw [hg] at hread
    cases hread
  | ok g' =>
    rw [hg] at hread
    cases hread
    rfl

theorem findingsOf_concat (texts : List (List Char)) (text : List Char) :
    r.findingsOf t (texts ++ [text]) = r.findingsOf t texts ++ (r.findingOf? t texts text).toList :=
  eachBehind_concat _ _ _

/-- The grammars that are kept have the same first grammar of each kind as all files. -/
theorem find?_grammarsOf (files : List Path) (k : Grammar.Kind) :
    (r.grammarsOf t files).find? (·.kind = k) = r.holder? t files k := by
  induction files using List.reverseRecOn with
  | nil => rfl
  | append_singleton files file ih =>
    have hstep : r.holder? t (files ++ [file]) k =
        (r.holder? t files k).or ((r.grammarAt? t file).toList.find? (·.kind = k)) := by
      unfold holder?
      rw [List.filterMap_append, List.find?_append]
      cases hg : r.grammarAt? t file <;> simp [hg]
    rw [grammarsOf_concat, List.find?_append, ih, hstep]
    cases hg : r.grammarAt? t file with
    | none => rfl
    | some g =>
      by_cases hk : g.kind = k
      · subst hk
        cases hh : r.holder? t files g.kind <;> simp [Option.filter, hh]
      · cases hh : r.holder? t files g.kind <;> simp [Option.filter, hh, hk]

theorem kinds_grammarsOf_nodup (files : List Path) :
    ((r.grammarsOf t files).map (·.kind)).Nodup := by
  induction files using List.reverseRecOn with
  | nil => exact List.nodup_nil
  | append_singleton files file ih =>
    rw [grammarsOf_concat, List.map_append]
    cases hg : (r.grammarAt? t file).filter fun g => (r.holder? t files g.kind).isNone with
    | none => simpa using ih
    | some g =>
      have hk := (Option.filter_eq_some_iff.1 hg).2
      rw [← find?_grammarsOf, Option.isNone_iff_eq_none, List.find?_eq_none] at hk
      refine List.nodup_append.2 ⟨ih, by simp, fun a ha b hb he => ?_⟩
      obtain ⟨g', hg', rfl⟩ := List.mem_map.1 ha
      have := hk g' hg'
      simp_all

/-! ## The state that references lead to -/

theorem onGrammar_eq (text : List Char) :
    r.onGrammar t text = match r.leadsTo? t text with
      | none => (r.find (.emptyReference r.path), none)
      | some file => r.recordReference file (isThere t file) (Grammar.read t file r.encoding) := by
  unfold onGrammar leadsTo?
  cases Text.trim text <;> rfl

/-- A reader has come to what some references say. -/
structure Tracks (t : FileTree) (start : Reader) (texts : List (List Char)) (r : Reader) :
    Prop where
  settings_eq : r.settings = start.settings
  includes_eq : r.draft.includes = start.includesOf t texts
  grammars_eq : r.draft.grammars = start.grammarsOf t (start.includesOf t texts)
  findings_eq : r.findings = start.findingsOf t texts

/-- A reference that includes nothing leaves includes and grammars as they are. -/
theorem Tracks.pass {start r' : Reader} {texts : List (List Char)} (h : Tracks t start texts r)
    {text : List Char}
    (hi : start.includesOf t (texts ++ [text]) = start.includesOf t texts)
    (hs : r'.settings = r.settings) (hr : r'.draft.includes = r.draft.includes)
    (hg : r'.draft.grammars = r.draft.grammars)
    (hf : r'.findings = r.findings ++ (start.findingOf? t texts text).toList) :
    Tracks t start (texts ++ [text]) r' := by
  refine ⟨hs.trans h.settings_eq, ?_, ?_, ?_⟩
  · rw [hr, hi, h.includes_eq]
  · rw [hg, hi, h.grammars_eq]
  · rw [hf, findingsOf_concat, h.findings_eq]

/-- The first reference to a file includes it; the grammar that the file declares is kept if no
file before declares one of its kind. -/
theorem Tracks.include {start r' : Reader} {texts : List (List Char)} (h : Tracks t start texts r)
    {text : List Char} {file : Path} (hto : start.leadsTo? t text = some file)
    (hp : t.reaches file.toString = true) (hm : file ∉ start.includesOf t texts)
    (hs : r'.settings = r.settings) (hr : r'.draft.includes = r.draft.includes ++ [file])
    (hg : r'.draft.grammars = r.draft.grammars ++ ((start.grammarAt? t file).filter fun g =>
      (start.holder? t (start.includesOf t texts) g.kind).isNone).toList)
    (hf : r'.findings = r.findings ++ (start.findingOf? t texts text).toList) :
    Tracks t start (texts ++ [text]) r' := by
  have hi : start.includesOf t (texts ++ [text]) = start.includesOf t texts ++ [file] := by
    rw [includesOf_concat, hto]
    simp [hp, hm]
  refine ⟨hs.trans h.settings_eq, ?_, ?_, ?_⟩
  · rw [hr, hi, h.includes_eq]
  · rw [hg, hi, h.grammars_eq, grammarsOf_concat]
  · rw [hf, findingsOf_concat, h.findings_eq]

/-- One more reference that does not end the reading. -/
theorem Tracks.onGrammar {start r' : Reader} {texts : List (List Char)} (h : Tracks t start texts r)
    {text : List Char} (he : r.onGrammar t text = (r', none)) :
    Tracks t start (texts ++ [text]) r' := by
  have hs := h.settings_eq
  simp only [settings, Prod.mk.injEq] at hs
  obtain ⟨hpath, -, -, hencoding, -⟩ := hs
  have hi := includesOf_concat (t := t) (r := start) texts text
  rw [onGrammar_eq, leadsTo?_congr h.settings_eq] at he
  cases hto : start.leadsTo? t text with
  | none =>
    rw [hto] at he hi
    cases he
    exact h.pass (by simpa using hi) rfl rfl rfl (by simp [findingOf?, hto, hpath])
  | some file =>
    rw [hto] at he hi
    dsimp only at he hi
    have hs' : r'.settings = r.settings := by
      rw [← settings_recordReference r file (isThere t file) (Grammar.read t file r.encoding), he]
    rw [hencoding] at he
    obtain ⟨there, hp, hcases⟩ := recordReference_returns he
    have hp := isThere_ok hp
    rcases hcases with ⟨rfl, rfl⟩ | ⟨rfl, hm, rfl⟩ | ⟨rfl, hm, hr, hcases⟩
    · -- There is nothing.
      refine h.pass ?_ rfl rfl rfl ?_
      · simpa [hp] using hi
      · simp [findingOf?, hto, hp, hpath]
    · -- The file is included already.
      rw [h.includes_eq] at hm
      refine h.pass ?_ rfl rfl rfl ?_
      · simpa [hm] using hi
      · simp [findingOf?, hto, hp, hm]
    · rw [h.includes_eq] at hm
      have hg {k} : r.draft.grammarOf? k = start.holder? t (start.includesOf t texts) k := by
        rw [Draft.grammarOf?, h.grammars_eq, find?_grammarsOf]
      rcases hcases with ⟨f, hread, hgs, hf⟩ | ⟨g, hread, hk, hgs, hf⟩ |
        ⟨g, holder, hread, hk, hgs, hf⟩
      · refine h.include hto hp hm hs' hr ?_ ?_
        · simp [hgs, grammarAt?, hread, Except.toOption]
        · simp [hf, findingOf?, hto, hp, hm, hread]
      · rw [hg] at hk
        refine h.include hto hp hm hs' hr ?_ ?_
        · simp [hgs, grammarAt?, hread, Except.toOption, Option.filter, hk]
        · simp [hf, findingOf?, hto, hp, hm, hread, hk]
      · rw [hg] at hk
        refine h.include hto hp hm hs' hr ?_ ?_
        · simp [hgs, grammarAt?, hread, Except.toOption, Option.filter, hk]
        · simp [hf, findingOf?, hto, hp, hm, hread, hk]

/-! ## Fields and reads -/

/-- A run over fields tracks the references among them; the others leave references alone. -/
theorem Tracks.handleFields {start r' : Reader} {texts : List (List Char)}
    (h : Tracks t start texts r) {said : List (Field × List Char)}
    (he : r.handleFields t said = (r', none)) :
    Tracks t start (texts ++ Field.grammar.textsOf said) r' := by
  induction said generalizing r texts with
  | nil =>
    cases he
    simpa [Field.textsOf] using h
  | cons s said ih =>
    obtain ⟨field, text⟩ := s
    obtain ⟨next, hnext, hrest⟩ := handleFields_cons he
    by_cases hg : field = .grammar
    · subst hg
      rw [Field.textsOf_cons_self, List.append_cons]
      exact ih (h.onGrammar hnext) hrest
    · obtain ⟨h1, h2, h3⟩ := handleField_samePart (t := t) (r := r) (Ne.symm hg) text
      have h4 := settings_of_handleField hnext
      rw [hnext] at h1 h2 h3
      rw [Field.textsOf_cons_of_ne hg]
      exact ih ⟨h4.trans h.settings_eq, h1.trans h.includes_eq, h2.trans h.grammars_eq,
        h3.trans h.findings_eq⟩ hrest

theorem Tracks.build {start : Reader} {texts : List (List Char)} (h : Tracks t start texts r) :
    ∃ project, r.draft.build = .ok project := by
  refine Draft.build_of_nodup ?_ ?_
  · rw [h.includes_eq]
    exact includesOf_nodup texts
  · rw [Draft.kinds, h.grammars_eq]
    exact kinds_grammarsOf_nodup _

theorem tracks_ofPath (path encoding : String) (target : Target) :
    Tracks t (ofPath path target encoding) [] (ofPath path target encoding) :=
  ⟨rfl, rfl, rfl, rfl⟩

theorem map_findingsOf (texts : List (List Char)) :
    (r.findingsOf t texts).map Finding.diagnostic = r.diagnosticsOf t texts := by
  unfold findingsOf diagnosticsOf
  rw [map_eachBehind]
  congr 1
  funext before text
  unfold findingOf? diagnosticOf?
  cases r.leadsTo? t text with
  | none => rfl
  | some file =>
    dsimp only
    split
    · rfl
    · split
      · rfl
      · split
        · rfl
        · rename_i g hg
          rw [Option.map_map]
          congr 1
          funext holder
          simp [Finding.diagnostic, Finding.path, Finding.severity, Grammar.file_of_read hg]

theorem read_ok {reading : Reading} {r' : Reader} (h : r.read t = (r', .ok reading)) :
    ∃ bytes, t.contentOf r.path.toString = .ok bytes ∧
      ∃ last, r.handleAll t (Markup.Document.ofBytes bytes).elements = (last, none) ∧
        (Markup.Document.ofBytes bytes).stop = none ∧ r' = last.count ∧
        last.draft.build = .ok reading.project ∧ reading.findings = last.findings := by
  unfold Reader.read at h
  cases hb : t.contentOf r.path.toString with
  | error cause =>
    rw [hb] at h
    cases h
  | ok bytes =>
    rw [hb] at h
    dsimp only at h
    unfold readDocument at h
    rcases hr : r.handleAll t (Markup.Document.ofBytes bytes).elements with ⟨last, _ | f⟩ <;>
      rw [hr] at h
    · dsimp only at h
      cases hs : (Markup.Document.ofBytes bytes).stop with
      | some stop =>
        rw [hs] at h
        cases h
      | none =>
        rw [hs] at h
        obtain ⟨rfl, hreading⟩ := Prod.mk.inj h
        unfold Reader.reading at hreading
        cases hd : last.draft.build with
        | error f =>
          rw [hd] at hreading
          cases hreading
        | ok project =>
          rw [hd] at hreading
          cases hreading
          exact ⟨bytes, rfl, last, hr, hs, rfl, hd, rfl⟩
    · cases h

end

end Reader

/-- **What a descriptor says by its references.** -/
theorem parse_references [Platform] {t : FileTree} {path encoding : String} {target : Target}
    {reading : Reading} (h : parse t path target encoding = .ok reading) :
    ∃ bytes, t.contentOf (Path.ofString path).toString = .ok bytes ∧
      let r := Reader.ofPath path target encoding
      let texts := Field.texts .grammar (Markup.Document.ofBytes bytes).elements
      reading.project.includes = r.includesOf t texts ∧
        reading.project.grammars = r.grammarsOf t (r.includesOf t texts) ∧
        reading.findings.map Finding.diagnostic = r.diagnosticsOf t texts := by
  obtain ⟨bytes, hb, last, hlast, -, -, hbuild, hfindings⟩ := Reader.read_ok (Prod.ext rfl h)
  rw [Reader.handleAll_eq_handleFields] at hlast
  have ht := (Reader.tracks_ofPath path encoding target).handleFields hlast
  rw [List.nil_append, Field.textsOf_said] at ht
  refine ⟨bytes, hb, ?_, ?_, ?_⟩
  · rw [Draft.toDraft_build hbuild, ht.includes_eq]
  · rw [Draft.toDraft_build hbuild, ht.grammars_eq]
  · rw [hfindings, ht.findings_eq, Reader.map_findingsOf]

section
open scoped Platform

/-- A reference to a variant, one to nothing, one to the variant again, an empty one and one to a
second grammar of the same kind. -/
theorem parse_references_mixed :
    let t : FileTree := ⟨[(["pom.xml"], .file (Text.utf8Bytes
        ("<p><include>F.g4</include><grammars>N</grammars><include>F.GoTarget.g4</include>" ++
          "<include/><include>G.g4</include></p>").toList)),
      (["F.g4"], .file (Text.utf8Bytes "lexer grammar F;".toList)),
      (["F.GoTarget.g4"], .file (Text.utf8Bytes "grammar F;".toList)),
      (["G.g4"], .file (Text.utf8Bytes "grammar G;".toList))], []⟩
    ∃ reading, parse t "pom.xml" .go "utf-8" = .ok reading ∧
      reading.project.includes = [.ofString "F.GoTarget.g4", .ofString "G.g4"] ∧
      reading.project.grammars = [⟨"F", .ofString "F.GoTarget.g4", .combined⟩] ∧
      reading.findings.map Finding.path = [.ofString "N", .ofString "pom.xml", .ofString "G.g4"] ∧
      ∃ bytes, t.contentOf (Path.ofString "pom.xml").toString = .ok bytes ∧
        let r := Reader.ofPath "pom.xml" .go "utf-8"
        let texts := Field.texts .grammar (Markup.Document.ofBytes bytes).elements
        reading.project.includes = r.includesOf t texts ∧
          reading.project.grammars = r.grammarsOf t (r.includesOf t texts) ∧
          reading.findings.map Finding.diagnostic = r.diagnosticsOf t texts := by
  rw [String.toList_append, String.toList_ofList, String.toList_ofList, String.toList_ofList,
    String.toList_ofList, String.toList_ofList]
  intro t
  have h : (parse t "pom.xml" .go "utf-8").toOption.map (fun reading =>
      (reading.project.includes, reading.project.grammars, reading.findings.map Finding.path)) =
        some ([.ofString "F.GoTarget.g4", .ofString "G.g4"],
          [⟨"F", .ofString "F.GoTarget.g4", .combined⟩],
          [.ofString "N", .ofString "pom.xml", .ofString "G.g4"]) := by
    decide +kernel
  obtain ⟨reading, hp, hreading⟩ := exists_ok_of_toOption h
  simp only [Prod.mk.injEq] at hreading
  exact ⟨reading, hp, hreading.1, hreading.2.1, hreading.2.2, parse_references hp⟩

end

end Descriptor

end GrammarProject
