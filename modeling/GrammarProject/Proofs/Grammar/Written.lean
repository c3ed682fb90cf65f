import GrammarProject.Platform.Standard
import GrammarProject.Proofs.Grammar.Header
import GrammarProject.Proofs.Grammar.Scan

/-!
# Written headers

`Grammar.HeaderLine` is a header as it may be written: keywords and a name with white space around
them, and perhaps a semicolon and something behind it. A file that is written in a plain encoding
with such a line behind lines that are no headers is read back as the grammar that the line declares
(`Grammar.read_written_header`).
-/

namespace GrammarProject

namespace Text

variable {cs w front : List Char} {ws gaps : List (List Char)}

def IsPadding (cs : List Char) : Prop := (∀ c ∈ cs, isBlank c = true) ∧ IsLine cs

instance (cs : List Char) : Decidable (IsPadding cs) :=
  @instDecidableAnd _ _ (List.decidableBAll (isBlank · = true) cs) _

/-- Words, each with white space behind it. -/
def spaced (ws gaps : List (List Char)) : List Char := (ws.zip gaps).flatMap fun x => x.1 ++ x.2

theorem isLine_of_not_blank (h : ∀ c ∈ cs, isBlank c = false) : IsLine cs := by
  refine fun c hc => ⟨?_, ?_⟩ <;> rintro rfl <;> exact absurd (h _ hc) (by decide)

theorem words_word_append (hne : w ≠ []) (hw : ∀ c ∈ w, isBlank c = false) {gap : List Char}
    (hgapne : gap ≠ []) (hgap : ∀ c ∈ gap, isBlank c = true) (cs : List Char) :
    words (w ++ gap ++ cs) = w :: words cs := by
  obtain ⟨b, gap, rfl⟩ := List.exists_cons_of_ne_nil hgapne
  obtain ⟨hb, hgap⟩ := List.forall_mem_cons.1 hgap
  rw [List.append_assoc, List.cons_append, words_append_blank w hb, words_of_not_blank hne hw,
    words_blanks_append hgap]
  rfl

/-- Words with white space behind them are read one by one. -/
theorem words_spaced (hws : ∀ w ∈ ws, w ≠ [] ∧ ∀ c ∈ w, isBlank c = false)
    (hgaps : ∀ gap ∈ gaps, gap ≠ [] ∧ ∀ c ∈ gap, isBlank c = true)
    (hlength : ws.length = gaps.length) (cs : List Char) :
    words (spaced ws gaps ++ cs) = ws ++ words cs := by
  induction ws generalizing gaps with
  | nil => rfl
  | cons w ws ih =>
    cases gaps with
    | nil => cases hlength
    | cons gap gaps =>
      obtain ⟨⟨hne, hw⟩, hws⟩ := List.forall_mem_cons.1 hws
      obtain ⟨⟨hgapne, hgap⟩, hgaps⟩ := List.forall_mem_cons.1 hgaps
      have hrest := ih hws hgaps (Nat.succ.inj hlength)
      unfold spaced at *
      rw [List.zip_cons_cons, List.flatMap_cons, List.append_assoc,
        words_word_append hne hw hgapne hgap, hrest, List.cons_append]

end Text

namespace Grammar

open Text (IsLine LineEnd PlainEncoding endedLines IsPadding)

/-- The words in front of the name in a header. -/
def keywords : Kind → List (List Char)
  | .combined => ["grammar".toList]
  | .lexer => ["lexer".toList, "grammar".toList]
  | .parser => ["parser".toList, "grammar".toList]

theorem keywords_words (kind : Kind) :
    ∀ w ∈ keywords kind, w ≠ [] ∧ ∀ c ∈ w, Text.isBlank c = false := by
  have hall : ∀ w ∈ keywords kind, w ≠ [] ∧ w.all (!Text.isBlank ·) = true := by
    cases kind <;> decide
  refine fun w hw => ⟨(hall w hw).1, fun c hc => ?_⟩
  simpa using List.all_eq_true.1 (hall w hw).2 c hc

/-- A header as it may be written. -/
structure HeaderLine where
  kind : Kind
  name : String
  margin : List Char -- In front of the keywords
  gaps : List (List Char) -- Behind each keyword
  tail : List Char -- Behind the name
  remark : Option (List Char) -- Behind the semicolon, if there is one
  name_ne : name ≠ ""
  isWord_name : IsWord name
  semicolon_not_mem : ';' ∉ name.toList
  isPadding_margin : IsPadding margin
  isPadding_gaps : ∀ gap ∈ gaps, gap ≠ [] ∧ IsPadding gap
  isPadding_tail : IsPadding tail
  isLine_remark : ∀ cs ∈ remark, IsLine cs
  length_gaps : (keywords kind).length = gaps.length

namespace HeaderLine

/-- What counts of the header. -/
def said (h : HeaderLine) : List Char :=
  h.margin ++ (Text.spaced (keywords h.kind) h.gaps ++ (h.name.toList ++ h.tail))

def text (h : HeaderLine) : List Char :=
  h.said ++ match h.remark with
    | none => []
    | some cs => ';' :: cs

variable (h : HeaderLine)

theorem plain_said : ∀ c ∈ h.said, (c ≠ '\n' ∧ c ≠ '\r') ∧ c ≠ ';' := by
  have hpadding {cs : List Char} (hcs : IsPadding cs) :
      ∀ c ∈ cs, (c ≠ '\n' ∧ c ≠ '\r') ∧ c ≠ ';' := by
    refine fun c hc => ⟨hcs.2 c hc, ?_⟩
    rintro rfl
    exact absurd (hcs.1 ';' hc) (by decide)
  have hword {w : List Char} (hw : ∀ c ∈ w, Text.isBlank c = false) (hsemicolon : ';' ∉ w) :
      ∀ c ∈ w, (c ≠ '\n' ∧ c ≠ '\r') ∧ c ≠ ';' := by
    refine fun c hc => ⟨Text.isLine_of_not_blank hw c hc, ?_⟩
    rintro rfl
    exact hsemicolon hc
  have hkeywords : ∀ w ∈ keywords h.kind, ';' ∉ w := by cases h.kind <;> decide
  intro c hc
  simp only [said, List.mem_append] at hc
  rcases hc with hc | hc | hc | hc
  · exact hpadding h.isPadding_margin c hc
  · obtain ⟨⟨w, gap⟩, hx, hc⟩ := List.mem_flatMap.1 hc
    obtain ⟨hw, hgap⟩ := List.of_mem_zip hx
    rcases List.mem_append.1 hc with hc | hc
    · exact hword (keywords_words h.kind w hw).2 (hkeywords w hw) c hc
    · exact hpadding (h.isPadding_gaps gap hgap).2 c hc
  · exact hword h.isWord_name h.semicolon_not_mem c hc
  · exact hpadding h.isPadding_tail c hc

theorem isLine_text : IsLine h.text := by
  refine Text.IsLine.append (fun c hc => (h.plain_said c hc).1) ?_
  cases hremark : h.remark with
  | none => exact Text.isLine_nil
  | some cs => exact Text.isLine_cons.2 ⟨by decide, h.isLine_remark cs hremark⟩

theorem declaration_text : declaration h.text = h.said := by
  have hsaid : ∀ c ∈ h.said, decide (c ≠ ';') = true := fun c hc =>
    decide_eq_true (h.plain_said c hc).2
  rw [declaration, text, List.takeWhile_append_of_pos hsaid]
  cases h.remark <;> simp

theorem words_said : Text.words h.said = keywords h.kind ++ [h.name.toList] := by
  have hname : h.name.toList ≠ [] := fun hnil => h.name_ne (String.toList_eq_nil_iff.1 hnil)
  rw [said, Text.words_blanks_append h.isPadding_margin.1,
    Text.words_spaced (keywords_words h.kind) (fun gap hgap => ⟨(h.isPadding_gaps gap hgap).1,
      (h.isPadding_gaps gap hgap).2.1⟩) h.length_gaps,
    Text.words_append_blanks _ h.isPadding_tail.1, Text.words_of_not_blank hname h.isWord_name]

theorem headerOf?_text : headerOf? h.text = some (Text.trim h.text, h.kind) := by
  obtain ⟨w, ws, hwords, hmem⟩ : ∃ w ws, keywords h.kind = w :: ws ∧
      (w, h.kind) ∈ headerKeywords := by
    cases h.kind <;> exact ⟨_, _, rfl, by decide⟩
  obtain ⟨hne, hblank⟩ := keywords_words h.kind w (hwords ▸ List.mem_cons_self)
  obtain ⟨gap, gaps, hgaps⟩ : ∃ gap gaps, h.gaps = gap :: gaps := by
    refine List.exists_cons_of_length_pos ?_
    rw [← h.length_gaps, hwords]
    simp
  refine headerOf?_of_keyword hmem ?_
  have hstart := Text.isPrefix_trim h.isPadding_margin.1 hne hblank
  rw [text, said, hwords, hgaps, Text.spaced]
  simpa only [List.zip_cons_cons, List.flatMap_cons, List.append_assoc] using hstart _

end HeaderLine

/-! ## Reading back -/

theorem words_declaration_trim (line : List Char) :
    Text.words (declaration (Text.trim line)) = Text.words (declaration line) := by
  have hblank {c : Char} (hc : Text.isBlank c = true) : decide (c ≠ ';') = true := by
    refine decide_eq_true ?_
    rintro rfl
    exact absurd hc (by decide)
  have hleft (cs : List Char) :
      Text.words (declaration (Text.trimLeft cs)) = Text.words (declaration cs) := by
    conv_rhs => rw [← List.takeWhile_append_dropWhile (p := Text.isBlank) (l := cs)]
    have htaken : ∀ c ∈ cs.takeWhile Text.isBlank, Text.isBlank c = true :=
      fun c hc => List.mem_takeWhile_imp hc
    rw [declaration, declaration, List.takeWhile_append_of_pos fun c hc => hblank (htaken c hc),
      Text.words_blanks_append htaken, Text.trimLeft]
  have hright (cs : List Char) :
      Text.words (declaration (Text.trimRight cs)) = Text.words (declaration cs) := by
    conv_rhs => rw [← List.rdropWhile_append_rtakeWhile (p := Text.isBlank) (l := cs)]
    have htaken : ∀ c ∈ cs.rtakeWhile Text.isBlank, Text.isBlank c = true :=
      fun c hc => List.mem_rtakeWhile_imp hc
    rw [declaration, declaration, List.takeWhile_append, ← Text.trimRight_eq_rdropWhile]
    split
    · -- No semicolon stands before the white space, so the declaration goes on into it.
      rename_i hlength
      rw [(List.takeWhile_prefix _).eq_of_length hlength]
      exact (Text.words_append_blanks _ fun c hc =>
        htaken c ((List.takeWhile_prefix _).subset hc)).symm
    · rfl
  rw [Text.trim, hright, hleft]

/-- **A written header is read back.** -/
theorem read_written_header [Platform] {t : FileTree} {file : Path} (p : PlainEncoding)
    {before : List (List Char × LineEnd)} {h : HeaderLine} {behind : List Char}
    (hbefore : ∀ l ∈ before, IsLine l.1 ∧ ¬IsHeader l.1)
    (hbehind : behind = [] ∨ ∃ (e : LineEnd) (rest : List Char), behind = e.chars ++ rest)
    (hwrite : p.CanWrite (endedLines LineEnd.chars before ++ (h.text ++ behind)))
    (hcontent : t.contentOf file.toString =
      .ok (p.encode (endedLines LineEnd.chars before ++ (h.text ++ behind)))) :
    read t file p.name = .ok ⟨h.name, file, h.kind⟩ := by
  have hheader : header? (h.text ++ behind) = some (Text.trim h.text, h.kind) := by
    rcases hbehind with rfl | ⟨e, rest, rfl⟩
    · have hne : h.text ≠ [] := by
        intro hnil
        have hheader := h.headerOf?_text
        rw [hnil, headerOf?_nil] at hheader
        cases hheader
      rw [List.append_nil, header?, Text.lines_of_isLine h.isLine_text hne, List.findSome?_cons,
        h.headerOf?_text]
    · rw [← List.append_assoc, header?_ended h.isLine_text, h.headerOf?_text, Option.some_or]
  have hskip : (before.map (·.1)).findSome? headerOf? = none := by
    rw [List.findSome?_eq_none_iff, List.forall_mem_map]
    exact fun l hl => headerOf?_eq_none_iff.2 (hbefore l hl).2
  have hwords : Text.words (declaration (Text.trim h.text)) =
      keywords h.kind ++ [h.name.toList] := by
    rw [words_declaration_trim, h.declaration_text, h.words_said]
  have hne : keywords h.kind ≠ [] := by cases h.kind <;> decide
  rw [read_plain p hcontent, p.decode_encode hwrite,
    header?_endedLines fun l hl => (hbefore l hl).1, hskip, hheader, Option.none_or]
  dsimp only
  rw [ofHeader_of_words hwords hne, String.ofList_toList]

/-- Separators that are white space and end no line, and a remark that could be a header. -/
def separated : HeaderLine where
  kind := .parser
  name := "été"
  margin := "\x1c".toList
  gaps := ["\xa0".toList, "\x85\t".toList]
  tail := "\x0b".toList
  remark := some ";grammar A".toList
  name_ne := by decide
  isWord_name := by decide
  semicolon_not_mem := by decide
  isPadding_margin := by decide
  isPadding_gaps := by decide
  isPadding_tail := by decide
  isLine_remark := by decide
  length_gaps := rfl

section
open scoped Platform

/-- In Latin-1, behind an empty line whose end joins the one before, with another header behind. -/
theorem read_written_header_separated :
    let before : List (List Char × LineEnd) :=
      [("// a grammar".toList, .carriageReturn), ([], .lineFeed)]
    let behind := LineEnd.carriageReturn.chars ++ "lexer grammar B;".toList
    let text := endedLines LineEnd.chars before ++ (separated.text ++ behind)
    let t : FileTree := ⟨[(["F.g4"], .file (PlainEncoding.latin1.encode text))], []⟩
    (∀ l ∈ before, IsLine l.1 ∧ ¬IsHeader l.1) ∧
      PlainEncoding.latin1.CanWrite text ∧
      t.contentOf (Path.ofString "F.g4").toString = .ok (PlainEncoding.latin1.encode text) ∧
      read t (.ofString "F.g4") "latin-1" = .ok ⟨"été", .ofString "F.g4", .parser⟩ := by
  intro before behind text t
  have hbefore : ∀ l ∈ before, IsLine l.1 ∧ ¬IsHeader l.1 := by decide
  have hwrite : PlainEncoding.latin1.CanWrite text := by decide
  have hcontent : t.contentOf (Path.ofString "F.g4").toString =
      .ok (PlainEncoding.latin1.encode text) := by decide +kernel
  exact ⟨hbefore, hwrite, hcontent, read_written_header .latin1 (h := separated) hbefore
    (.inr ⟨.carriageReturn, _, rfl⟩) hwrite hcontent⟩

end

end Grammar

end GrammarProject
