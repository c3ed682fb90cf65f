import GrammarProject.Platform.Standard
import GrammarProject.Proofs.Descriptor.Fields
import GrammarProject.Proofs.Descriptor.Streaming
import GrammarProject.Proofs.FileTree.Expansion
import GrammarProject.Proofs.Path.Order

/-!
# Independence of markup and of order across fields

What a descriptor says depends on the texts of each field alone: neither the markup around them
matters nor how the fields are mixed (`parse_independent`). Two readers are `Alike` for a field if
the field cannot tell them apart; then it does the same to both (`handleField_alike`). A read that
returns leaves each field where it comes to alone (`handleFields_alone`), and a read returns if each
field alone does (`handleFields_of_alone`), so two reads with the same texts return the same or both
fail.
-/

namespace GrammarProject.Descriptor

open FileTree (AgreeOutside)
open Markup (Document)

namespace Reader

/-! ## One field in two readers -/

/-- Two readers that a field cannot tell apart. -/
def Alike (field : Field) (r s : Reader) : Prop := r.settings = s.settings ∧ SamePart field r s

theorem Alike.refl (field : Field) (r : Reader) : Alike field r r := ⟨rfl, .refl field r⟩

theorem Alike.symm {field : Field} {r s : Reader} (h : Alike field r s) : Alike field s r :=
  ⟨h.1.symm, h.2.symm⟩

theorem Alike.trans {field : Field} {r s u : Reader} (h : Alike field r s) (h' : Alike field s u) :
    Alike field r u :=
  ⟨h.1.trans h'.1, h.2.trans h'.2⟩

/-- None of some references leads to a place. -/
def Avoids (t : FileTree) (place : Location) (r : Reader) (texts : List (List Char)) : Prop :=
  ∀ text ∈ texts, ∀ file, r.leadsTo? t text = some file → t.locate file.toString ≠ .ok place

section
variable {place : Location} {t t' : FileTree} {r s : Reader}

theorem isThere_eq (h : AgreeOutside place t t') (p : Path) : isThere t p = isThere t' p := by
  unfold isThere
  rcases h.find_cases p.toString with hp | ⟨_, _, hp, hp'⟩
  · rw [hp]
  · rw [hp, hp']

theorem leadsTo?_eq (h : AgreeOutside place t t') (hs : r.settings = s.settings)
    (text : List Char) : r.leadsTo? t text = s.leadsTo? t' text := by
  rw [leadsTo?_congr hs]
  unfold leadsTo? resolve
  simp only [h.reaches_eq]

theorem Avoids.of_settings {texts : List (List Char)} (h : Avoids t place r texts)
    (hs : s.settings = r.settings) : Avoids t place s texts := fun text ht file hf =>
  h text ht file (leadsTo?_congr hs text ▸ hf)

theorem Avoids.agree (h : AgreeOutside place t t') {texts : List (List Char)}
    (hv : Avoids t place r texts) : Avoids t' place r texts := by
  intro text ht file hf
  rw [← leadsTo?_eq h rfl] at hf
  rw [← h.locate_eq]
  exact hv text ht file hf

theorem Avoids.head {field : Field} {text : List Char} {said : List (Field × List Char)}
    (h : Avoids t place r (Field.grammar.textsOf ((field, text) :: said))) (hg : field = .grammar) :
    Avoids t place r [text] := by
  subst hg
  rw [Field.textsOf_cons_self] at h
  exact fun x hx => h x (List.mem_singleton.1 hx ▸ List.mem_cons_self)

theorem Avoids.tail {field : Field} {text : List Char} {said : List (Field × List Char)}
    (h : Avoids t place r (Field.grammar.textsOf ((field, text) :: said))) :
    Avoids t place r (Field.grammar.textsOf said) := by
  by_cases hg : field = .grammar
  · subst hg
    rw [Field.textsOf_cons_self] at h
    exact fun x hx => h x (List.mem_cons_of_mem _ hx)
  · rwa [Field.textsOf_cons_of_ne hg] at h

theorem Alike.find (h : Alike .grammar r s) (f : Finding) :
    Alike .grammar (r.find f) (s.find f) := by
  obtain ⟨hs, hi, hg, hf⟩ := h
  exact ⟨hs, hi, hg, by rw [find_findings, find_findings, hf]⟩

theorem Alike.recordGrammar (h : Alike .grammar r s) (g : Grammar) :
    Alike .grammar (r.recordGrammar g) (s.recordGrammar g) := by
  obtain ⟨hs, hi, hg, hf⟩ := h
  have hk : r.draft.grammarOf? g.kind = s.draft.grammarOf? g.kind := by
    rw [Draft.grammarOf?, hg, Draft.grammarOf?]
  unfold Reader.recordGrammar
  dsimp only [log_draft]
  rw [hk]
  split
  · exact Alike.find ⟨hs, hi, hg, hf⟩ _
  · exact ⟨hs, hi, by simp [Draft.addGrammar, hg], hf⟩

/-- A reference is recorded in the same way by readers that references cannot tell apart. -/
theorem Alike.recordReference (h : Alike .grammar r s) (file : Path)
    (present : Except Failure Bool) (header : Except Failure Grammar) :
    (r.recordReference file present header).2 = (s.recordReference file present header).2 ∧
      Alike .grammar (r.recordReference file present header).1
        (s.recordReference file present header).1 := by
  have hm : r.draft.hasInclude file = s.draft.hasInclude file := by
    rw [Draft.hasInclude, h.2.1, Draft.hasInclude]
  have hadd : Alike .grammar { r with draft := r.draft.addInclude file }
      { s with draft := s.draft.addInclude file } := by
    obtain ⟨hs, hi, hg, hf⟩ := h
    exact ⟨hs, by simp [Draft.addInclude, hi], hg, hf⟩
  unfold Reader.recordReference
  rw [hm]
  split
  · exact ⟨rfl, h⟩
  · have hpath : r.path = s.path := congrArg Prod.fst h.1
    rw [hpath]
    exact ⟨rfl, h.find _⟩
  · split
    · exact ⟨rfl, h⟩
    · dsimp only
      split
      · exact ⟨rfl, hadd.recordGrammar _⟩
      · split
        · exact ⟨rfl, hadd.find _⟩
        · exact ⟨rfl, hadd⟩

theorem Alike.onArtifact (h : Alike .artifact r s) (text : List Char) :
    Alike .artifact (r.onArtifact text) (s.onArtifact text) := by
  have htarget : r.target = s.target := congrArg (·.2.2.1) h.1
  unfold Reader.onArtifact
  by_cases hp : Text.trim text = r.target.plugin.toList
  · rw [if_pos hp, if_pos (htarget ▸ hp)]
    exact ⟨h.1, rfl⟩
  · rw [if_neg hp, if_neg (htarget ▸ hp)]
    exact h

theorem reading_eq_of_alike (h : ∀ field, Alike field r s) : r.reading = s.reading := by
  obtain ⟨hs, hi, hg, hf⟩ := h .grammar
  have hd : r.draft = s.draft := draft_eq_of_parts hs hi hg fun field _ => (h field).2
  unfold Reader.reading
  rw [hd, hf]

variable [Platform]

theorem read_eq (h : AgreeOutside place t t') {file : Path}
    (hf : t.locate file.toString ≠ .ok place) (encoding : String) :
    Grammar.read t file encoding = Grammar.read t' file encoding := by
  unfold Grammar.read
  rw [h.contentOf_eq hf]

theorem examplesIn_eq (h : AgreeOutside place t t') (hs : r.settings = s.settings)
    (text : List Char) : r.examplesIn t text = s.examplesIn t' text := by
  rw [examplesIn_congr hs]
  unfold examplesIn
  dsimp only
  rcases Glob.expand_perm h (s.examplePattern text) with
    ⟨e, h1, h2⟩ | ⟨found, found', h1, h2, hperm⟩
  · rw [h1, h2]
  · rw [h1, h2]
    cases checkPattern (s.examplePattern text) with
    | error f => rfl
    | ok u =>
      dsimp only
      congr 1
      refine Path.sorted_eq_of_perm (fun p hp => ?_) (hperm.map _)
      obtain ⟨m, -, rfl⟩ := List.mem_map.1 hp
      exact Path.wellFormed_ofString _

/-- **A field does the same to readers that it cannot tell apart**, in trees that differ in a file
that it does not lead to. -/
theorem handleField_alike (h : AgreeOutside place t t') {field : Field} (ha : Alike field r s)
    {text : List Char} (hv : field = .grammar → Avoids t place r [text]) :
    (r.handleField t field text).2 = (s.handleField t' field text).2 ∧
      Alike field (r.handleField t field text).1 (s.handleField t' field text).1 := by
  have hs := ha.1
  cases field with
  | grammar =>
    have hencoding : r.encoding = s.encoding := congrArg (·.2.2.2.1) hs
    simp only [handleField, onGrammar_eq, ← leadsTo?_eq h hs]
    cases hto : r.leadsTo? t text with
    | none =>
      have hpath : r.path = s.path := congrArg Prod.fst hs
      rw [hpath]
      exact ⟨rfl, ha.find _⟩
    | some file =>
      have hf := hv rfl text (List.mem_singleton_self text) file hto
      dsimp only
      rw [isThere_eq h, read_eq h hf, hencoding]
      exact ha.recordReference _ _ _
  | artifact => exact ⟨rfl, ha.onArtifact text⟩
  | exampleFiles =>
    have hroot : exampleRoot r.directory = exampleRoot s.directory :=
      congrArg (exampleRoot ·.2.1) hs
    unfold handleField onExampleFiles
    rw [examplesIn_eq h hs]
    cases s.examplesIn t' text with
    | error f => exact ⟨rfl, ha⟩
    | ok examples => exact ⟨rfl, hs, rfl, hroot⟩
  | longName | entryPoint | caseInsensitiveType => exact ⟨rfl, hs, rfl⟩

/-! ## Fields one by one -/

def handleTexts (t : FileTree) (field : Field) (r : Reader) (texts : List (List Char)) :
    Reader × Option Failure :=
  r.handleFields t (texts.map fun text => (field, text))

theorem handleTexts_cons {field : Field} {text : List Char} {texts : List (List Char)} {r' : Reader}
    (h : handleTexts t field r (text :: texts) = (r', none)) :
    ∃ next, r.handleField t field text = (next, none) ∧
      handleTexts t field next texts = (r', none) :=
  handleFields_cons h

theorem handleTexts_of_cons {field : Field} {text : List Char} {texts : List (List Char)}
    {next r' : Reader} (h : r.handleField t field text = (next, none))
    (hrest : handleTexts t field next texts = (r', none)) :
    handleTexts t field r (text :: texts) = (r', none) := by
  unfold handleTexts at *
  rw [List.map_cons, handleFields, h]
  exact hrest

/-- A field leaves a reader that the others cannot tell from what it was. -/
theorem alike_handleField {field other : Field} (ho : other ≠ field) {text : List Char}
    {next : Reader} {failure : Option Failure} (h : r.handleField t field text = (next, failure)) :
    Alike other next r := by
  have hs := settings_handleField t r field text
  have hp := handleField_samePart (t := t) (r := r) ho text
  rw [h] at hs hp
  exact ⟨hs, hp⟩

/-- A read that returns leaves each field where it comes to alone, in the other tree as well. -/
theorem handleFields_alone (h : AgreeOutside place t t') {field : Field}
    {said : List (Field × List Char)} {r' : Reader} (hr : r.handleFields t said = (r', none))
    (ha : Alike field r s) (hv : Avoids t place r (Field.grammar.textsOf said)) :
    ∃ s', handleTexts t' field s (field.textsOf said) = (s', none) ∧ Alike field r' s' := by
  induction said generalizing r s with
  | nil =>
    cases hr
    exact ⟨s, rfl, ha⟩
  | cons one said ih =>
    obtain ⟨other, text⟩ := one
    obtain ⟨next, hnext, hrest⟩ := handleFields_cons hr
    have hvrest : Avoids t place next (Field.grammar.textsOf said) :=
      hv.tail.of_settings (settings_of_handleField hnext)
    by_cases ho : other = field
    · subst ho
      rw [Field.textsOf_cons_self]
      obtain ⟨hfail, hnextAlike⟩ := handleField_alike h ha hv.head
      rw [hnext] at hfail hnextAlike
      obtain ⟨s', hs', halike⟩ := ih hrest hnextAlike hvrest
      exact ⟨s', handleTexts_of_cons (Prod.ext rfl hfail.symm) hs', halike⟩
    · rw [Field.textsOf_cons_of_ne ho]
      exact ih hrest ((alike_handleField (Ne.symm ho) hnext).trans ha) hvrest

/-- **A read returns if each field alone does.** -/
theorem handleFields_of_alone (h : AgreeOutside place t t) {said : List (Field × List Char)}
    (hv : Avoids t place r (Field.grammar.textsOf said))
    (ha : ∀ field, ∃ s s', Alike field r s ∧
      handleTexts t field s (field.textsOf said) = (s', none)) :
    ∃ r', r.handleFields t said = (r', none) := by
  induction said generalizing r with
  | nil => exact ⟨r, rfl⟩
  | cons one said ih =>
    obtain ⟨field, text⟩ := one
    obtain ⟨s, s', halike, hs⟩ := ha field
    rw [Field.textsOf_cons_self] at hs
    obtain ⟨snext, hsnext, hsrest⟩ := handleTexts_cons hs
    obtain ⟨hfail, hnextAlike⟩ := handleField_alike h halike hv.head
    rcases hr : r.handleField t field text with ⟨next, failure⟩
    rw [hr, hsnext] at hfail hnextAlike
    have hrest : ∀ other, ∃ s s', Alike other next s ∧
        handleTexts t other s (other.textsOf said) = (s', none) := by
      intro other
      by_cases ho : field = other
      · subst ho
        exact ⟨snext, s', hnextAlike, hsrest⟩
      · obtain ⟨u, u', hu, hu'⟩ := ha other
        rw [Field.textsOf_cons_of_ne ho] at hu'
        exact ⟨u, u', (alike_handleField (Ne.symm ho) hr).trans hu, hu'⟩
    obtain ⟨r', hr'⟩ := ih (hv.tail.of_settings (settings_of_handleField hr)) hrest
    refine ⟨r', ?_⟩
    rw [handleFields, hr, show failure = none from hfail]
    exact hr'

/-! ## Two descriptors -/

/-- **Two runs in which each field says the same** fail both or come to the same. -/
theorem handleFields_independent (h : AgreeOutside place t t')
    {said said' : List (Field × List Char)} (hv : Avoids t place r (Field.grammar.textsOf said))
    (hsame : ∀ field : Field, field.textsOf said = field.textsOf said') {last : Reader}
    (hr : r.handleFields t said = (last, none)) :
    ∃ last', r.handleFields t' said' = (last', none) ∧ ∀ field, Alike field last last' := by
  have hself : AgreeOutside place t' t' := ⟨rfl, fun _ _ => rfl, h.isFile', h.isFile'⟩
  have hv' : Avoids t' place r (Field.grammar.textsOf said') := hsame .grammar ▸ hv.agree h
  have halone (field : Field) := handleFields_alone h hr (.refl field r) hv
  obtain ⟨last', hlast'⟩ := handleFields_of_alone hself hv' fun field => by
    obtain ⟨s', hs', -⟩ := halone field
    exact ⟨r, s', .refl field r, hsame field ▸ hs'⟩
  refine ⟨last', hlast', fun field => ?_⟩
  obtain ⟨s₁, hs₁, h₁⟩ := halone field
  obtain ⟨s₂, hs₂, h₂⟩ := handleFields_alone hself hlast' (.refl field r) hv'
  rw [hsame field, hs₂] at hs₁
  cases hs₁
  exact h₁.trans h₂.symm

end

end Reader

open Reader

theorem parse_of_refused [Platform] {t : FileTree} {path encoding : String} {target : Target}
    {bytes : List UInt8} (hbytes : t.contentOf (Path.ofString path).toString = .ok bytes)
    (h : (Document.refusal? bytes).isSome = true) :
    ∃ f, parse t path target encoding = .error f := by
  obtain ⟨⟨n, place⟩, hrefused⟩ := Option.isSome_iff_exists.1 h
  have hread : parse t path target encoding =
      ((ofPath path target encoding).readDocument t (Document.ofBytes bytes)).2 :=
    congrArg Prod.snd (read_eq_of_content (r := ofPath path target encoding) hbytes)
  rw [hread, Document.ofBytes_of_refused hrefused, readDocument]
  split <;> exact ⟨_, rfl⟩

/-- What comes of a descriptor without a fault that the parser does not refuse. -/
theorem parse_eq_handleFields [Platform] {t : FileTree} {path encoding : String} {target : Target}
    {bytes : List UInt8} (hbytes : t.contentOf (Path.ofString path).toString = .ok bytes)
    (hnone : Document.refusal? bytes = none) (hstop : (Document.inFull bytes).stop = none) :
    parse t path target encoding =
      match (ofPath path target encoding).handleFields t
        (Field.said (Document.inFull bytes).elements) with
      | (_, some f) => .error f
      | (last, none) => last.reading := by
  have hfull := Document.ofBytes_eq_inFull hnone hstop
  have hread := read_eq_handleFields (r := ofPath path target encoding) hbytes (hfull ▸ hstop)
  rw [hfull] at hread
  rw [parse, hread]
  rcases (ofPath path target encoding).handleFields t (Field.said (Document.inFull bytes).elements)
    with ⟨last, _ | f⟩ <;> rfl

section
open scoped Platform

/-- It makes no difference in which namespace an element is, nor in which other element. -/
example : Field.said (Document.inFull (Text.utf8Bytes
    "<p xmlns='n'><a>b<grammars>F.g4</grammars></a></p>".toList)).elements =
      [(.grammar, "F.g4".toList)] := by
  rw [String.toList_ofList]
  decide +kernel

end

/-- **What a descriptor says depends on the texts of each field alone**: two descriptors without a
fault whose fields have the same texts, each in the same order, both fail or both give the same
project and the same findings, in trees that differ at most in a file that no reference leads to,
the descriptor itself. The parser may refuse to expand the entities of a descriptor without a fault,
which has to be so for both or for neither. -/
theorem parse_independent [Platform] {t t' : FileTree} {path encoding : String} {target : Target}
    {place : Location} {bytes bytes' : List UInt8} (h : AgreeOutside place t t')
    (hbytes : t.contentOf (Path.ofString path).toString = .ok bytes)
    (hbytes' : t'.contentOf (Path.ofString path).toString = .ok bytes')
    (hstop : (Document.inFull bytes).stop = none) (hstop' : (Document.inFull bytes').stop = none)
    (hrefused : (Document.refusal? bytes).isSome = (Document.refusal? bytes').isSome)
    (hsame : ∀ field : Field, field.texts (Document.inFull bytes).elements =
      field.texts (Document.inFull bytes').elements)
    (hv : Avoids t place (ofPath path target encoding)
      (Field.grammar.texts (Document.inFull bytes).elements)) :
    (∃ f f', parse t path target encoding = .error f ∧ parse t' path target encoding = .error f') ∨
      ∃ reading, parse t path target encoding = .ok reading ∧
        parse t' path target encoding = .ok reading := by
  by_cases hsome : (Document.refusal? bytes).isSome = true
  · obtain ⟨f, hf⟩ := parse_of_refused hbytes hsome
    obtain ⟨f', hf'⟩ := parse_of_refused hbytes' (hrefused ▸ hsome)
    exact .inl ⟨f, f', hf, hf'⟩
  rw [parse_eq_handleFields hbytes (Option.not_isSome_iff_eq_none.1 hsome) hstop,
    parse_eq_handleFields hbytes' (Option.not_isSome_iff_eq_none.1 (hrefused ▸ hsome)) hstop']
  simp only [← Field.textsOf_said] at hsame hv
  generalize Field.said (Document.inFull bytes).elements = said at hsame hv
  generalize Field.said (Document.inFull bytes').elements = said' at hsame
  rcases hr : (ofPath path target encoding).handleFields t said with ⟨last, _ | f⟩
  · obtain ⟨last', hr', halike⟩ := handleFields_independent h hv hsame hr
    rw [hr']
    dsimp only
    rw [← reading_eq_of_alike halike]
    cases last.reading with
    | error f => exact .inl ⟨f, f, rfl, rfl⟩
    | ok reading => exact .inr ⟨reading, rfl, rfl⟩
  · rcases hr' : (ofPath path target encoding).handleFields t' said' with ⟨last', _ | f'⟩
    · have hv' : Avoids t' place (ofPath path target encoding) (Field.grammar.textsOf said') :=
        hsame .grammar ▸ hv.agree h
      obtain ⟨_, hr₁, -⟩ :=
        handleFields_independent h.symm hv' (fun field => (hsame field).symm) hr'
      rw [hr] at hr₁
      cases hr₁
    · exact .inl ⟨f, f', rfl, rfl⟩

section
open scoped Platform

/-- A reference in a namespace and below another element, behind the name that it stood before. -/
theorem parse_independent_nested :
    let bytes := Text.utf8Bytes
      "<p><include>F.g4</include><grammarName>F</grammarName></p>".toList
    let bytes' := Text.utf8Bytes
      "<p xmlns='n'><grammarName>F</grammarName><a>b<grammars>F.g4</grammars></a></p>".toList
    let entries : List (Location × Node) :=
      [(["F.g4"], .file (Text.utf8Bytes "grammar F;".toList))]
    let t : FileTree := ⟨(["pom.xml"], .file bytes) :: entries, []⟩
    let t' : FileTree := ⟨(["pom.xml"], .file bytes') :: entries, []⟩
    AgreeOutside ["pom.xml"] t t' ∧
      ∃ reading, parse t "pom.xml" .go "utf-8" = .ok reading ∧
        parse t' "pom.xml" .go "utf-8" = .ok reading := by
  rw [String.toList_ofList, String.toList_ofList, String.toList_ofList]
  intro bytes bytes' entries t t'
  have h : AgreeOutside ["pom.xml"] t t' := FileTree.agreeOutside_cons (by decide) bytes'
  refine ⟨h, ?_⟩
  have hbytes : t.contentOf (Path.ofString "pom.xml").toString = .ok bytes := by decide +kernel
  have hbytes' : t'.contentOf (Path.ofString "pom.xml").toString = .ok bytes' := by decide +kernel
  obtain ⟨hsaid, hstop, hnone⟩ : Field.said (Document.inFull bytes).elements =
      [(.grammar, "F.g4".toList), (.longName, "F".toList)] ∧
      (Document.inFull bytes).stop = none ∧ Document.refusal? bytes = none := by decide +kernel
  obtain ⟨hsaid', hstop', hnone'⟩ : Field.said (Document.inFull bytes').elements =
      [(.longName, "F".toList), (.grammar, "F.g4".toList)] ∧
      (Document.inFull bytes').stop = none ∧ Document.refusal? bytes' = none := by decide +kernel
  have hsame : ∀ field : Field, field.texts (Document.inFull bytes).elements =
      field.texts (Document.inFull bytes').elements := by
    intro field
    rw [← Field.textsOf_said, ← Field.textsOf_said, hsaid, hsaid']
    cases field <;> decide
  have hv : Avoids t ["pom.xml"] (ofPath "pom.xml" .go "utf-8")
      (Field.grammar.texts (Document.inFull bytes).elements) := by
    rw [← Field.textsOf_said, hsaid]
    intro text ht file hf
    obtain rfl : text = "F.g4".toList := List.mem_singleton.1 ht
    have hto : (ofPath "pom.xml" .go "utf-8").leadsTo? t "F.g4".toList =
        some (.ofString "F.g4") := by decide +kernel
    rw [hto] at hf
    cases hf
    decide +kernel
  have hok : (parse t "pom.xml" .go "utf-8").toOption.isSome = true := by
    rw [parse_eq_handleFields hbytes hnone hstop, hsaid]
    decide +kernel
  have hrefused : (Document.refusal? bytes).isSome = (Document.refusal? bytes').isSome := by
    rw [hnone, hnone']
  rcases parse_independent h hbytes hbytes' hstop hstop' hrefused hsame hv with ⟨f, f', hf, -⟩ | hreading
  · rw [hf] at hok
    cases hok
  · exact hreading

/-- Two descriptors without a fault and with the same texts, of which the parser refuses one. -/
theorem parse_independent_refused :
    let bytes := Text.utf8Bytes Markup.ladder
    let bytes' := Text.utf8Bytes "<p><q/><entryPoint>x</entryPoint></p>".toList
    let tree (bytes : List UInt8) : FileTree := ⟨[(["pom.xml"], .file bytes)], []⟩
    AgreeOutside ["pom.xml"] (tree bytes) (tree bytes') ∧
      (Document.inFull bytes).stop = none ∧ (Document.inFull bytes').stop = none ∧
      (∀ field : Field, field.texts (Document.inFull bytes).elements =
        field.texts (Document.inFull bytes').elements) ∧
      Field.grammar.texts (Document.inFull bytes).elements = [] ∧
      (∃ f, parse (tree bytes) "pom.xml" .go "utf-8" = .error f) ∧
      ∃ reading, parse (tree bytes') "pom.xml" .go "utf-8" = .ok reading := by
  rw [String.toList_ofList]
  intro bytes bytes' tree
  have hb (bytes : List UInt8) :
      (tree bytes).contentOf (Path.ofString "pom.xml").toString = .ok bytes :=
    FileTree.contentOf_single (by decide +kernel)
  obtain ⟨hstop, helements⟩ := Markup.inFull_ladder
  obtain ⟨hstop', helements', hnone⟩ : (Document.inFull bytes').stop = none ∧
      (Document.inFull bytes').elements = (Document.inFull bytes).elements ∧
      Document.refusal? bytes' = none := by
    rw [helements]
    decide +kernel
  refine ⟨FileTree.agreeOutside_cons (by decide) bytes', hstop, hstop', fun field => ?_, ?_, ?_, ?_⟩
  · rw [helements']
  · rw [helements]
    decide
  · exact parse_of_refused (hb bytes) (by rw [Markup.refusal?_ladder]; rfl)
  · rw [parse_eq_handleFields (hb bytes') hnone hstop', helements', helements]
    exact ⟨_, rfl⟩

end

end GrammarProject.Descriptor
