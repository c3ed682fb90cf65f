import GrammarProject.Proofs.Descriptor.References
import GrammarProject.Proofs.Grammar.Scan

/-!
# References that cannot be used

A reference to a grammar file that leads nowhere, or to a file that cannot be read as a grammar, is
a finding and does not end the reading. There are two exceptions: the file tree refuses to look for
the path (`Reader.Fits`), and a new file is there that is not decoded (`Reader.Legible`). So a
reference fails just if one of these is met (`onGrammarAmid_fails`, `onGrammar_returns_iff`), and
elements are all handled just if no reference meets one and all example files are found
(`handleFields_returns_iff`).
-/

namespace GrammarProject

/-- Whether looking for a grammar file ends in the error. The others say that nothing is there. -/
def AccessError.stops : AccessError → Bool
  | nameTooLong => true
  | refused => true
  | _ => false

namespace Descriptor

open Markup (Element)

theorem isThere_eq_error_iff {t : FileTree} {p : Path} {f : Failure} : isThere t p = .error f ↔
    ∃ cause, cause.stops = true ∧ t.find p.toString = .error cause ∧ f = .access p cause := by
  unfold isThere
  cases t.find p.toString with
  | ok n => simp
  | error cause => cases cause <;> simp [AccessError.stops, eq_comm (a := f)]

theorem not_null_of_isThere {t : FileTree} {p : Path} (h : isThere t p = .ok true) :
    '\x00' ∉ p.toString.toList := by
  rw [← FileTree.find_eq_embeddedNull_iff (t := t)]
  intro hf
  rw [isThere, hf] at h
  cases h

namespace Reader

section
variable [Platform]

/-! ## References that fail -/

theorem onGrammarAmid_eq (l : Looks) (r : Reader) (text : List Char) :
    r.onGrammarAmid l text = match r.leadsTo? l.variants text with
      | none => (r.find (.emptyReference r.path), none)
      | some file =>
        r.recordReference file (isThere l.files file) (Grammar.read l.headers file r.encoding) := by
  unfold onGrammarAmid leadsTo?
  cases Text.trim text <;> rfl

omit [Platform] in
theorem recordReference_fails {r r' : Reader} {file : Path} {present : Except Failure Bool}
    {header : Except Failure Grammar} {f : Failure}
    (h : r.recordReference file present header = (r', some f)) :
    (present = .error f ∧ r' = r) ∨
      (present = .ok true ∧ file ∉ r.draft.includes ∧ header = .error f ∧
        f.concernsHeader = false ∧ r' = { r with draft := r.draft.addInclude file }) := by
  unfold recordReference at h
  split at h
  · cases h
    exact .inl ⟨rfl, rfl⟩
  · cases h
  · split at h
    · cases h
    · rename_i hnew
      dsimp only at h
      split at h
      · cases h
      · split at h
        · cases h
        · rename_i hc
          cases h
          exact .inr ⟨rfl, fun hm => hnew (Draft.hasInclude_iff.2 hm), rfl, by simpa using hc, rfl⟩

/-- The two ways in which a reference fails, while the file tree changes in any way. -/
theorem onGrammarAmid_fails {l : Looks} {r r' : Reader} {text : List Char} {f : Failure}
    (h : r.onGrammarAmid l text = (r', some f)) :
    ∃ file, r.leadsTo? l.variants text = some file ∧
      ((∃ cause, cause.stops = true ∧ l.files.find file.toString = .error cause ∧
          f = .access file cause ∧ r' = r) ∨
        (isThere l.files file = .ok true ∧ file ∉ r.draft.includes ∧
          ¬Grammar.Decodes l.headers file r.encoding ∧
          Grammar.read l.headers file r.encoding = .error f ∧
          r' = { r with draft := r.draft.addInclude file })) := by
  rw [onGrammarAmid_eq] at h
  split at h
  · cases h
  · rename_i file hto
    refine ⟨file, hto, ?_⟩
    rcases recordReference_fails h with ⟨hp, hr⟩ | ⟨hp, hnew, hread, hc, hr⟩
    · obtain ⟨cause, hstops, hfind, hf⟩ := isThere_eq_error_iff.1 hp
      exact .inl ⟨cause, hstops, hfind, hf, hr⟩
    · refine .inr ⟨hp, hnew, fun hd => ?_, hread, hr⟩
      rw [Grammar.concernsHeader_of_read hd (not_null_of_isThere hp) hread] at hc
      cases hc

/-- A new file that is not decoded is included, and ends the reading. -/
theorem recordReference_of_not_decodes {t : FileTree} {r : Reader} {file : Path}
    (hnew : file ∉ r.draft.includes) (hd : ¬Grammar.Decodes t file r.encoding) :
    ∃ f, Grammar.read t file r.encoding = .error f ∧
      (f = .unusableEncoding ∨ ∃ fault, f = .codec fault) ∧
      r.recordReference file (.ok true) (.error f) =
        ({ r with draft := r.draft.addInclude file }, some f) := by
  obtain ⟨f, hread, hf⟩ := Grammar.read_of_not_decodes hd
  have hi : r.draft.hasInclude file = false := by
    rw [Bool.eq_false_iff]
    exact fun h => hnew (Draft.hasInclude_iff.1 h)
  have hc : f.concernsHeader = false := by
    rcases hf with rfl | ⟨fault, rfl⟩ <;> rfl
  exact ⟨f, hread, hf, by simp [recordReference, hi, hc]⟩

/-! ## References that are handled -/

variable {t : FileTree} {r : Reader}

omit [Platform] in
theorem wellFormed_of_leadsTo? {text : List Char} {file : Path}
    (h : r.leadsTo? t text = some file) : file.WellFormed := by
  unfold leadsTo? at h
  split at h
  · cases h
  · cases h
    unfold resolve
    split
    · split
      · exact Path.wellFormed_ofString _
      · exact (reference_isNormal r _).wellFormed
    · exact (reference_isNormal r _).wellFormed

/-- The file tree can look for the file that a reference leads to: neither the path nor a name in it
is too long, and no directory on the way is locked. -/
def Fits (t : FileTree) (r : Reader) (text : List Char) : Prop :=
  ∀ file, r.leadsTo? t text = some file →
    ∀ cause, t.find file.toString = .error cause → cause.stops = false

/-- A new file that a reference leads to is decoded, as far as its header. -/
def Legible (t : FileTree) (r : Reader) (text : List Char) : Prop :=
  ∀ file, r.leadsTo? t text = some file → t.reaches file.toString = true →
    file ∉ r.draft.includes → Grammar.Decodes t file r.encoding

omit [Platform] in
/-- A reference fits if the path that it leads to is short, in an open tree. -/
theorem fits_of_short {text : List Char} (hopen : t.IsOpen)
    (h : ∀ file, r.leadsTo? t text = some file → FileTree.IsShort file) : Fits t r text := by
  intro file hto cause hfind
  cases cause with
  | nameTooLong =>
    exact absurd hfind (FileTree.find_ne_nameTooLong (wellFormed_of_leadsTo? hto) (h file hto))
  | refused => exact absurd hfind (hopen.find_ne_refused _)
  | notFound | notDirectory | isDirectory | embeddedNull => rfl

theorem legible_of_decodesAll (h : Grammar.DecodesAll r.encoding) (text : List Char) :
    Legible t r text := fun file _ _ _ => h.decodes t file

omit [Platform] in
theorem fits_congr {s : Reader} (h : s.settings = r.settings) (text : List Char) :
    Fits t s text ↔ Fits t r text := by
  unfold Fits
  rw [leadsTo?_congr h]

/-- **A reference is handled just if it fits and is legible.** -/
theorem onGrammar_returns_iff (text : List Char) :
    (r.onGrammar t text).2 = none ↔ Fits t r text ∧ Legible t r text := by
  constructor
  · intro h
    rw [onGrammar_eq] at h
    refine ⟨fun file hto cause hfind => ?_, fun file hto hreaches hnew => ?_⟩
    · rw [hto] at h
      by_contra hstops
      have hthere : isThere t file = .error (.access file cause) :=
        isThere_eq_error_iff.2 ⟨cause, by simpa using hstops, hfind, rfl⟩
      dsimp only at h
      rw [hthere] at h
      cases h
    · rw [hto] at h
      by_contra hd
      obtain ⟨f, hread, -, hr⟩ := recordReference_of_not_decodes hnew hd
      dsimp only at h
      rw [isThere_of_reaches hreaches, hread, hr] at h
      cases h
  · rintro ⟨hfits, hlegible⟩
    rcases hr : r.onGrammar t text with ⟨r', _ | f⟩
    · rfl
    · have hr : r.onGrammarAmid (.still t) text = (r', some f) := hr
      obtain ⟨file, hto, ⟨cause, hstops, hfind, -⟩ | ⟨hthere, hnew, hd, -⟩⟩ :=
        onGrammarAmid_fails hr
      · rw [hfits file hto cause hfind] at hstops
        cases hstops
      · exact absurd (hlegible file hto (isThere_ok hthere) hnew) hd

theorem onGrammar_of_empty {text : List Char} (h : r.leadsTo? t text = none) :
    r.onGrammar t text = (r.find (.emptyReference r.path), none) := by
  rw [onGrammar_eq, h]

theorem onGrammar_of_missing {text : List Char} {file : Path} {cause : AccessError}
    (hto : r.leadsTo? t text = some file) (hfind : t.find file.toString = .error cause)
    (hfits : Fits t r text) :
    r.onGrammar t text = (r.find (.missingGrammar file r.path), none) := by
  have hstops := hfits file hto cause hfind
  have hthere : isThere t file = .ok false := by
    unfold isThere
    rw [hfind]
    cases cause <;> first | rfl | cases hstops
  rw [onGrammar_eq, hto]
  dsimp only
  rw [hthere]
  rfl

theorem onGrammar_of_unreadable {text : List Char} {file : Path} {f : Failure}
    (hto : r.leadsTo? t text = some file) (hreaches : t.reaches file.toString = true)
    (hnew : file ∉ r.draft.includes) (hd : Grammar.Decodes t file r.encoding)
    (hread : Grammar.read t file r.encoding = .error f) :
    r.onGrammar t text =
      ({ r with draft := r.draft.addInclude file }.find (.unreadableGrammar file f), none) := by
  have hthere := isThere_of_reaches hreaches
  have hc := Grammar.concernsHeader_of_read hd (not_null_of_isThere hthere) hread
  have hi : r.draft.hasInclude file = false := by
    rw [Bool.eq_false_iff]
    exact fun h => hnew (Draft.hasInclude_iff.1 h)
  rw [onGrammar_eq, hto]
  dsimp only
  rw [hthere, hread, recordReference]
  simp [hi, hc]

/-- A reference that is handled is at most one finding. -/
theorem onGrammar_findings {r' : Reader} {text : List Char} (h : r.onGrammar t text = (r', none)) :
    ∃ added, r'.findings = r.findings ++ added ∧ added.length ≤ 1 := by
  rw [onGrammar_eq] at h
  split at h
  · cases h
    exact ⟨[_], rfl, Nat.le_refl 1⟩
  · obtain ⟨there, -, ⟨-, rfl⟩ | ⟨-, -, rfl⟩ | ⟨-, -, -, hcases⟩⟩ := recordReference_returns h
    · exact ⟨[_], rfl, Nat.le_refl 1⟩
    · exact ⟨[], by simp, Nat.zero_le 1⟩
    · rcases hcases with ⟨f, -, -, hf⟩ | ⟨g, -, -, -, hf⟩ | ⟨g, holder, -, -, -, hf⟩
      · exact ⟨[_], hf, Nat.le_refl 1⟩
      · exact ⟨[], by simpa using hf, Nat.zero_le 1⟩
      · exact ⟨[_], hf, Nat.le_refl 1⟩

/-! ## Elements -/

theorem includes_of_onGrammar {r' : Reader} {text : List Char}
    (h : r.onGrammar t text = (r', none)) : r'.draft.includes = r.draft.includes ∨
      ∃ file, Grammar.Decodes t file r.encoding ∧
        r'.draft.includes = r.draft.includes ++ [file] := by
  obtain ⟨-, hlegible⟩ := (onGrammar_returns_iff text).1 (congrArg Prod.snd h)
  rw [onGrammar_eq] at h
  split at h
  · cases h
    exact .inl rfl
  · rename_i file hto
    obtain ⟨there, hthere, ⟨-, rfl⟩ | ⟨-, -, rfl⟩ | ⟨rfl, hnew, hincludes, -⟩⟩ :=
      recordReference_returns h
    · exact .inl rfl
    · exact .inl rfl
    · exact .inr ⟨file, hlegible file hto (isThere_ok hthere) hnew, hincludes⟩

theorem legible_of_handleField {field : Field} {text : List Char} {r' : Reader}
    (h : r.handleField t field text = (r', none)) (x : List Char) :
    Legible t r' x ↔ Legible t r x := by
  have hsettings := settings_of_handleField h
  have hencoding : r'.encoding = r.encoding := congrArg (·.2.2.2.1) hsettings
  have hincludes : r'.draft.includes = r.draft.includes ∨ ∃ file,
      Grammar.Decodes t file r.encoding ∧ r'.draft.includes = r.draft.includes ++ [file] := by
    by_cases hg : field = .grammar
    · subst hg
      exact includes_of_onGrammar h
    · obtain ⟨hi, -, -⟩ := handleField_samePart (t := t) (r := r) (Ne.symm hg) text
      rw [h] at hi
      exact .inl hi
  unfold Legible
  rw [leadsTo?_congr hsettings, hencoding]
  obtain hi | ⟨file, hd, hi⟩ := hincludes
  · rw [hi]
  · rw [hi]
    refine forall_congr' fun other => forall_congr' fun _ => forall_congr' fun _ =>
      ⟨fun hl hnew => ?_, fun hl hnew => hl fun hm => hnew (List.mem_append_left _ hm)⟩
    by_cases hother : other = file
    · exact hother ▸ hd
    · exact hl (by simp [hnew, hother])

/-- The ways in which example files cannot be found: their pattern is at fault, or leads too deep.
-/
theorem examplesIn_fails {text : List Char} {f : Failure} (h : r.examplesIn t text = .error f) :
    let pattern := String.ofList (r.examplePattern text)
    f = .malformedPattern pattern ∨ f = .unusablePattern pattern ∨ f = .tooDeep := by
  unfold examplesIn checkPattern at h
  dsimp only at h
  split at h
  · rename_i hcheck
    split at hcheck
    · cases hcheck
      cases h
      exact .inl rfl
    · cases hcheck
  · rename_i e hcheck hexpand
    clear hcheck hexpand
    cases h
    cases e with
    | embeddedNull => exact .inr (.inl rfl)
    | tooDeep => exact .inr (.inr rfl)
  · cases h

/-- The other fields never fail, but for the example files. -/
theorem handleField_returns_iff (field : Field) (text : List Char) :
    (r.handleField t field text).2 = none ↔
      (field = .grammar → Fits t r text ∧ Legible t r text) ∧
        (field = .exampleFiles → ∃ examples, r.examplesIn t text = .ok examples) := by
  cases field with
  | grammar => simpa [handleField] using onGrammar_returns_iff text
  | exampleFiles =>
    simp only [handleField, onExampleFiles]
    cases r.examplesIn t text <;> simp
  | artifact | longName | entryPoint | caseInsensitiveType => simp [handleField]

theorem handleFields_cons_returns_iff (field : Field) (text : List Char)
    (said : List (Field × List Char)) :
    (r.handleFields t ((field, text) :: said)).2 = none ↔
      ∃ next, r.handleField t field text = (next, none) ∧ (next.handleFields t said).2 = none := by
  rw [handleFields]
  rcases r.handleField t field text with ⟨next, _ | f⟩ <;> simp

/-- **Fields are all handled just if all references are** and all example files are found. -/
theorem handleFields_returns_iff (said : List (Field × List Char)) :
    (r.handleFields t said).2 = none ↔
      (∀ text ∈ Field.grammar.textsOf said, Fits t r text ∧ Legible t r text) ∧
        ∀ text ∈ Field.exampleFiles.textsOf said, ∃ examples,
          r.examplesIn t text = .ok examples := by
  induction said generalizing r with
  | nil => simp [handleFields, Field.textsOf]
  | cons s said ih =>
    obtain ⟨field, text⟩ := s
    have hhead := handleField_returns_iff (t := t) (r := r) field text
    rw [handleFields_cons_returns_iff, Field.forall_textsOf_cons, Field.forall_textsOf_cons,
      and_and_and_comm, ← hhead]
    rcases hf : r.handleField t field text with ⟨next, _ | f⟩
    · -- What the rest needs does not depend on what the first field has changed.
      have hrest := ih (r := next)
      have hs := settings_of_handleField hf
      simp only [fits_congr hs, legible_of_handleField hf, examplesIn_congr hs] at hrest
      simpa using hrest
    · simp

/-- **References degrade gracefully**: one is handled just if it fits and is legible, as all are
that lead to short paths in an open tree, in an encoding that decodes everything, and it is at most
one finding. An empty one and one that leads nowhere are a finding and nothing else, and a new file
that cannot be opened or classified is included and is a finding. So references keep elements from
being handled only if one of them does not fit or is not legible. -/
theorem references_degrade :
    (∀ text, (r.handleField t .grammar text).2 = none ↔ Fits t r text ∧ Legible t r text) ∧
      (t.IsOpen → ∀ text, (∀ file, r.leadsTo? t text = some file → FileTree.IsShort file) →
        Fits t r text) ∧
      (Grammar.DecodesAll r.encoding → ∀ text, Legible t r text) ∧
      (∀ text, Fits t r text → Legible t r text → ∃ r',
        r.handleField t .grammar text = (r', none) ∧
        (∃ added, r'.findings = r.findings ++ added ∧ added.length ≤ 1) ∧
        (r.leadsTo? t text = none → r' = r.find (.emptyReference r.path)) ∧
        (∀ file cause, r.leadsTo? t text = some file → t.find file.toString = .error cause →
          r' = r.find (.missingGrammar file r.path)) ∧
        ∀ file f, r.leadsTo? t text = some file → t.reaches file.toString = true →
          file ∉ r.draft.includes → Grammar.read t file r.encoding = .error f →
            r' = { r with draft := r.draft.addInclude file }.find (.unreadableGrammar file f)) ∧
      ∀ es : List Element, (r.handleAll t es).2 = none ↔
        (∀ text ∈ Field.grammar.texts es, Fits t r text ∧ Legible t r text) ∧
          ∀ text ∈ Field.exampleFiles.texts es, ∃ examples,
            r.examplesIn t text = .ok examples := by
  refine ⟨onGrammar_returns_iff, fun hopen _ => fits_of_short hopen, legible_of_decodesAll,
    fun text hfits hlegible => ?_, fun es => ?_⟩
  · have hnone := (onGrammar_returns_iff text).2 ⟨hfits, hlegible⟩
    rcases hr : r.onGrammar t text with ⟨r', failure⟩
    rw [hr] at hnone
    obtain rfl : failure = none := hnone
    refine ⟨r', hr, onGrammar_findings hr, fun hto => ?_, fun file cause hto hfind => ?_,
      fun file f hto hreaches hnew hread => ?_⟩
    · rw [onGrammar_of_empty hto] at hr
      exact (Prod.mk.inj hr).1.symm
    · rw [onGrammar_of_missing hto hfind hfits] at hr
      exact (Prod.mk.inj hr).1.symm
    · rw [onGrammar_of_unreadable hto hreaches hnew (hlegible file hto hreaches hnew) hread] at hr
      exact (Prod.mk.inj hr).1.symm
  · rw [handleAll_eq_handleFields, handleFields_returns_iff, Field.textsOf_said,
      Field.textsOf_said]

end

section
open scoped Platform

/-- A reference to a directory, through a file that is no directory. -/
theorem references_degrade_directory :
    let t : FileTree := ⟨[(["F"], .file []), (["D.g4"], .directory)], []⟩
    let r := ofPath "pom.xml" .go "utf-8"
    t.IsOpen ∧ Grammar.DecodesAll r.encoding ∧
      (∀ file, r.leadsTo? t " F/../D.g4".toList = some file → FileTree.IsShort file) ∧
      (r.handleField t .grammar " F/../D.g4".toList).2 = none ∧
      (r.handleField t .grammar " F/../D.g4".toList).1.findings.map Finding.message =
        ["failed to parse grammar 'D.g4': [Errno 21] Is a directory: 'D.g4'"] := by
  intro t r
  have hopen : t.IsOpen := by
    intro e he isDirectory
    simp only [t, List.mem_cons, List.not_mem_nil, or_false] at he
    rcases he with rfl | rfl <;> nofun
  have hall : Grammar.DecodesAll r.encoding := Grammar.decodesAll_of_named? (by decide)
  have hto : r.leadsTo? t " F/../D.g4".toList = some (.ofString "D.g4") := by decide +kernel
  have hshort : ∀ file, r.leadsTo? t " F/../D.g4".toList = some file → FileTree.IsShort file := by
    intro file hfile
    rw [hto] at hfile
    cases hfile
    exact ⟨by decide, by decide⟩
  obtain ⟨hiff, hfits, hlegible, -⟩ := references_degrade (t := t) (r := r)
  exact ⟨hopen, hall, hshort, (hiff _).2 ⟨hfits hopen _ hshort, hlegible hall _⟩,
    by decide +kernel⟩

end

/-! ## Names that are too long -/

section
variable {t : FileTree} {r : Reader}

/-- **A reference that does not fit ends the reading** of a descriptor, whether there is a fault in
it or not. -/
theorem read_fails [Platform] {bytes : List UInt8} (hb : t.contentOf r.path.toString = .ok bytes)
    {text : List Char} {said : List (Field × List Char)}
    (hsaid : Field.said (Markup.Document.ofBytes bytes).elements = (.grammar, text) :: said)
    {file : Path} (hto : r.leadsTo? t text = some file) {cause : AccessError}
    (hstops : cause.stops = true) (hfind : t.find file.toString = .error cause) :
    r.read t = (r, .error (.access file cause)) := by
  have hthere : isThere t file = .error (.access file cause) :=
    isThere_eq_error_iff.2 ⟨cause, hstops, hfind, rfl⟩
  have hfield : r.handleField t .grammar text = (r, some (.access file cause)) := by
    simp [handleField, onGrammar_eq, hto, hthere, recordReference]
  simp only [read, hb, readDocument, handleAll_eq_handleFields, hsaid, handleFields, hfield]

theorem reference_component {name : String} (hd : r.directory = .here)
    (hc : Path.IsComponent name) (hdots : name ≠ "..") :
    r.reference name.toList = .child .here name := by
  obtain ⟨c, cs, hhead, hslash⟩ := hc.head
  rw [reference, hd, Path.ofString_joinText_text (by simp [Path.WellFormed, Path.here])
    (by simp [hhead, hslash]), String.ofList_toList, Path.ofString_component hc]
  simp [Path.normal, Path.resolvePart, Path.here, Path.child, hdots]

end

end Reader

def longName : String := String.ofList (List.replicate 256 'a')

theorem toList_longName : longName.toList = List.replicate 256 'a' := String.toList_ofList

theorem isComponent_longName : Path.IsComponent longName :=
  Path.isComponent_ofList (by decide) (by decide)

theorem leadsTo?_longName (t : FileTree) :
    (Reader.ofPath "pom.xml" .go "utf-8").leadsTo? t longName.toList =
      some (.child .here longName) := by
  have hdots : longName ≠ ".." := by
    intro h
    have h := congrArg String.toList h
    rw [toList_longName] at h
    exact absurd h (by decide)
  have htrim : Text.trim longName.toList = 'a' :: List.replicate 255 'a' := by
    rw [toList_longName]
    decide +kernel
  have href := Reader.reference_component (r := .ofPath "pom.xml" .go "utf-8") (by decide)
    isComponent_longName hdots
  have hvariant :
      (Reader.ofPath "pom.xml" .go "utf-8").variantOf? (.child .here longName) = none := by
    rw [Reader.variantOf?, Path.text_child_here isComponent_longName, toList_longName]
    decide
  have hcons : 'a' :: List.replicate 255 'a' = longName.toList := by
    rw [toList_longName, ← List.replicate_succ]
  rw [Reader.leadsTo?, htrim]
  dsimp only
  rw [hcons, Reader.resolve, href, hvariant]

section
open scoped Platform

/-- A reference by a name of 256 characters ends the reading of a descriptor without a fault. -/
theorem parse_long_name :
    let bytes := Text.utf8Bytes
      ("<p><include>".toList ++ longName.toList ++ "</include></p>".toList)
    let t : FileTree := ⟨[(["pom.xml"], .file bytes)], []⟩
    (Text.Encoding.named? "utf-8").isSome = true ∧ (Markup.Document.ofBytes bytes).stop = none ∧
      parse t "pom.xml" .go "utf-8" = .error (.access (.child .here longName) .nameTooLong) := by
  rw [toList_longName]
  intro bytes t
  have hsaid : Field.said (Markup.Document.ofBytes bytes).elements =
      [(.grammar, longName.toList)] := by
    rw [toList_longName]
    decide +kernel
  have hb : t.contentOf (Path.ofString "pom.xml").toString = .ok bytes := by decide +kernel
  have hfind : t.find (Path.child .here longName).toString = .error .nameTooLong := by
    rw [Path.toString, Path.text_child_here isComponent_longName, String.ofList_toList]
    refine FileTree.find_of_long_name isComponent_longName ?_ (by decide +kernel)
    rw [toList_longName]
    decide
  have hread := Reader.read_fails (r := .ofPath "pom.xml" .go "utf-8") hb hsaid
    (leadsTo?_longName t) rfl hfind
  exact ⟨by decide, by decide +kernel, by rw [parse, hread]⟩

end

end Descriptor

end GrammarProject
