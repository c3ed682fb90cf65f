import GrammarProject.Grammar.Header
import GrammarProject.Platform.Standard
import GrammarProject.Proofs.FileTree.Following
import GrammarProject.Proofs.Text.PlainEncoding
import GrammarProject.Proofs.Text.Words

/-!
# The header of a file

What a grammar file is read as depends on its header alone: the first line that starts with a
keyword, not counting white space (`Grammar.header?`). A line in front of a text is the header or
leaves the header of the text as it is, whatever ends it (`Grammar.header?_ended`). Hence the exact
outcome of reading a file (`Grammar.read_by_header`), and that neither the text behind the header
nor the line ends matter (`Grammar.read_header_alone`).
-/

namespace GrammarProject

/-- The last run of characters that are not white space, if it does not start the text. -/
def Text.IsLastWord (w cs : List Char) : Prop :=
  w ≠ [] ∧ (∀ c ∈ w, isBlank c = false) ∧ ∃ front back, cs = front ++ w ++ back ∧
    (∃ b ∈ front.getLast?, isBlank b = true) ∧ ∀ c ∈ back, isBlank c = true

namespace Grammar

open Text (IsLine LineEnd PlainEncoding endedLines)

variable {file : Path} {kind : Kind} {line text rest : List Char}

/-! ## Headers -/

/-- A line that starts with a keyword, not counting white space. -/
def IsHeader (line : List Char) : Prop := ∃ k ∈ headerKeywords, k.1 <+: Text.trim line

instance (line : List Char) : Decidable (IsHeader line) :=
  inferInstanceAs (Decidable (∃ k ∈ headerKeywords, k.1 <+: Text.trim line))

theorem keyword_unique {k k' : List Char × Kind} (hk : k ∈ headerKeywords)
    (hk' : k' ∈ headerKeywords) (h : k.1 <+: line) (h' : k'.1 <+: line) : k = k' := by
  have hdiffer : ∀ k ∈ headerKeywords, ∀ k' ∈ headerKeywords, k.1.head? = k'.1.head? → k = k' := by
    decide
  have hne : ∀ k ∈ headerKeywords, k.1 ≠ [] := by decide
  refine hdiffer k hk k' hk' ?_
  obtain ⟨_, rfl⟩ := h
  obtain ⟨_, heq⟩ := h'
  have hhead := congrArg List.head? heq
  rwa [List.head?_append_of_ne_nil _ (hne k hk), List.head?_append_of_ne_nil _ (hne k' hk'),
    eq_comm] at hhead

theorem kindOfLine?_eq_some_iff :
    kindOfLine? line = some kind ↔ ∃ k ∈ headerKeywords, k.1 <+: line ∧ k.2 = kind := by
  unfold kindOfLine?
  rw [Option.map_eq_some_iff]
  constructor
  · rintro ⟨k, hfind, rfl⟩
    exact ⟨k, List.mem_of_find?_eq_some hfind, by simpa using List.find?_some hfind, rfl⟩
  · rintro ⟨k, hk, hstart, rfl⟩
    cases hfind : headerKeywords.find? fun k => k.1.isPrefixOf line with
    | none =>
      have := List.find?_eq_none.1 hfind k hk
      simp [hstart] at this
    | some k' =>
      have hk' := List.mem_of_find?_eq_some hfind
      have hstart' : k'.1 <+: line := by simpa using List.find?_some hfind
      exact ⟨k', rfl, by rw [keyword_unique hk hk' hstart hstart']⟩

/-- What a line says if it is a header, and the kind that it declares. -/
def headerOf? (line : List Char) : Option (List Char × Kind) :=
  (kindOfLine? (Text.trim line)).map (Text.trim line, ·)

/-- The header of a text. -/
def header? (text : List Char) : Option (List Char × Kind) := (Text.lines text).findSome? headerOf?

theorem headerOf?_of_keyword {k : List Char × Kind} (hk : k ∈ headerKeywords)
    (h : k.1 <+: Text.trim line) : headerOf? line = some (Text.trim line, k.2) := by
  rw [headerOf?, kindOfLine?_eq_some_iff.2 ⟨k, hk, h, rfl⟩, Option.map_some]

theorem headerOf?_eq_none_iff : headerOf? line = none ↔ ¬IsHeader line := by
  constructor
  · rintro hnone ⟨k, hk, h⟩
    rw [headerOf?_of_keyword hk h] at hnone
    cases hnone
  · intro h
    rw [headerOf?, Option.map_eq_none_iff, Option.eq_none_iff_forall_ne_some]
    intro kind hkind
    obtain ⟨k, hk, hstart, -⟩ := kindOfLine?_eq_some_iff.1 hkind
    exact h ⟨k, hk, hstart⟩

/-- A keyword may be the beginning of a longer word. -/
example : headerOf? "\tlexerX A;\n".toList = some ("lexerX A;".toList, .lexer) := by decide +kernel

theorem headerOf?_nil : headerOf? [] = none := by decide

theorem ofText_eq (file : Path) (text : List Char) : ofText file text =
    match header? text with
    | none => .error (.missingHeader file)
    | some (line, kind) => ofHeader line kind file := by
  unfold ofText header?
  induction Text.lines text with
  | nil => rfl
  | cons l ls ih =>
    rw [List.map_cons, List.findSome?_cons, headerOf?]
    cases hkind : kindOfLine? (Text.trim l) with
    | none =>
      rw [List.find?_cons_of_neg (by simp [hkind]), Option.map_none]
      exact ih
    | some kind =>
      rw [List.find?_cons_of_pos (by simp [hkind]), Option.map_some]
      dsimp only
      rw [hkind]

/-- The header of a text behind a line, whatever ends the line: where a carriage return comes to
stand before a line feed, a line without characters is lost, which is no header. -/
theorem header?_ended (hl : IsLine line) (e : LineEnd) (rest : List Char) :
    header? (line ++ e.chars ++ rest) = (headerOf? line).or (header? rest) := by
  have hcons (ls : List (List Char)) :
      (line :: ls).findSome? headerOf? = (headerOf? line).or (ls.findSome? headerOf?) := by
    rw [List.findSome?_cons]
    cases headerOf? line <;> rfl
  by_cases h : e = .carriageReturn ∧ rest.head? = some '\n'
  · obtain ⟨rfl, hhead⟩ := h
    obtain ⟨rest, rfl⟩ := List.head?_eq_some_iff.1 hhead
    have hjoined : line ++ LineEnd.carriageReturn.chars ++ '\n' :: rest =
        line ++ LineEnd.both.chars ++ rest := by simp [LineEnd.chars]
    rw [header?, hjoined, Text.lines_ended .both hl (by simp), hcons, header?, Text.lines_lineFeed,
      List.findSome?_cons, headerOf?_nil]
  · rw [header?, Text.lines_ended e hl fun he hhead => h ⟨he, hhead⟩, hcons, header?]

/-! ## What a header says -/

theorem ofHeader_of_words {ws : List (List Char)} {w : List Char}
    (h : Text.words (declaration line) = ws ++ [w]) (hne : ws ≠ []) :
    ofHeader line kind file = .ok ⟨String.ofList w, file, kind⟩ := by
  obtain ⟨v, vs, rfl⟩ := List.exists_cons_of_ne_nil hne
  rw [ofHeader, h]
  cases vs with
  | nil => rfl
  | cons u us => simp

theorem ofHeader_of_few (h : (Text.words (declaration line)).length < 2) :
    ofHeader line kind file = .error (.unnamedHeader file (String.ofList (declaration line))) := by
  unfold ofHeader
  split
  · rename_i hwords
    rw [hwords, List.length_cons, List.length_cons] at h
    omega
  · rfl

theorem not_mem_declaration (line : List Char) : ';' ∉ declaration line := by
  intro h
  simpa using List.mem_takeWhile_imp h

/-- **The name in a header** is the last word of what stands before its semicolon. -/
theorem ofHeader_of_many (h : 2 ≤ (Text.words (declaration line)).length) (kind : Kind)
    (file : Path) : ∃ name : String, ofHeader line kind file = .ok ⟨name, file, kind⟩ ∧
      Text.IsLastWord name.toList (declaration line) ∧ ';' ∉ name.toList := by
  obtain hnil | ⟨ws, w, hwords⟩ := List.eq_nil_or_concat (Text.words (declaration line))
  · rw [hnil] at h
    simp at h
  rw [List.concat_eq_append] at hwords
  have hne : ws ≠ [] := by
    rintro rfl
    rw [hwords] at h
    simp at h
  obtain ⟨front, back, heq, rfl, hfront, hw, hblank, hback⟩ := Text.words_concat_iff.1 hwords
  have hfrontne : front ≠ [] := by
    rintro rfl
    exact hne Text.words_nil
  refine ⟨String.ofList w, ofHeader_of_words hwords hne, ?_⟩
  rw [String.toList_ofList]
  refine ⟨⟨hw, hblank, front, back, heq, ?_, hback⟩, ?_⟩
  · have hlast := List.getLast?_eq_some_getLast hfrontne
    exact ⟨_, hlast, hfront _ hlast⟩
  · intro hm
    refine not_mem_declaration line ?_
    rw [heq]
    simp [hm]

/-! ## What a file is read as -/

theorem ofHeader_ne_missing (line : List Char) (kind : Kind) (file other : Path) :
    ofHeader line kind file ≠ .error (.missingHeader other) := by
  unfold ofHeader
  split <;> nofun

/-- Decoded bytes are read by their header. A decoder that gives up behind the header does not
matter. -/
theorem ofDecoded_eq (file : Path) (d : Text.Decoded) : ofDecoded file d =
    match header? d.text, d.fault with
    | some (line, kind), _ => ofHeader line kind file
    | none, some fault => .error (.codec fault)
    | none, none => .error (.missingHeader file) := by
  unfold ofDecoded
  rw [ofText_eq]
  cases header? d.text with
  | none => cases d.fault <;> rfl
  | some header =>
    obtain ⟨line, kind⟩ := header
    dsimp only
    split
    · rename_i h _
      exact absurd h (ofHeader_ne_missing line kind file _)
    · rfl

section
variable [Platform] {t : FileTree} {encoding : String} {content : List UInt8}

theorem read_eq (hcontent : t.contentOf file.toString = .ok content)
    (h0 : '\x00' ∉ encoding.toList) (hdecode : Text.decode encoding content = ⟨text, none⟩) :
    read t file encoding = match header? text with
      | none => .error (.missingHeader file)
      | some (line, kind) => ofHeader line kind file := by
  rw [read, if_neg (by simpa using h0), hcontent]
  dsimp only
  rw [hdecode, ofDecoded_eq]
  cases header? text <;> rfl

theorem read_plain (p : PlainEncoding) (hcontent : t.contentOf file.toString = .ok content) :
    read t file p.name = match header? (p.encoding.decode content) with
      | none => .error (.missingHeader file)
      | some (line, kind) => ofHeader line kind file :=
  read_eq hcontent (by cases p <;> decide) (Text.decode_of_named? p.named?_name content)

/-- **What a file is read as**: its text is cut into lines at line feeds, carriage returns and both
together; the first line that starts with a keyword, not counting white space, decides. Without such
a line there is no header. Otherwise the declaration is what stands in this line before the first
semicolon: it holds a name just if it has two words, and then the name is the last of them. -/
theorem read_by_header (hcontent : t.contentOf file.toString = .ok content)
    (h0 : '\x00' ∉ encoding.toList) (hdecode : Text.decode encoding content = ⟨text, none⟩) :
    ∃ ls, (∀ ls', Text.CutsInto text ls' ↔ ls' = ls) ∧
      ((∀ l ∈ ls, ¬IsHeader l) → read t file encoding = .error (.missingHeader file)) ∧
      ∀ before line after, ls = before ++ line :: after → (∀ l ∈ before, ¬IsHeader l) →
        ∀ k ∈ headerKeywords, k.1 <+: Text.trim line →
          let said := declaration (Text.trim line)
          (read t file encoding = .error (.unnamedHeader file (String.ofList said)) ↔
            (Text.words said).length < 2) ∧
          (2 ≤ (Text.words said).length → ∃ name : String,
            read t file encoding = .ok ⟨name, file, k.2⟩ ∧
              Text.IsLastWord name.toList said ∧ ';' ∉ name.toList) := by
  refine ⟨Text.lines text, fun _ => Text.cutsInto_iff, fun hnone => ?_,
    fun before line after hls hbefore k hk hstart => ?_⟩
  · have hheader : header? text = none :=
      List.findSome?_eq_none_iff.2 fun l hl => headerOf?_eq_none_iff.2 (hnone l hl)
    rw [read_eq hcontent h0 hdecode, hheader]
  · intro said
    have hheader : header? text = some (Text.trim line, k.2) := by
      have hskip : before.findSome? headerOf? = none :=
        List.findSome?_eq_none_iff.2 fun l hl => headerOf?_eq_none_iff.2 (hbefore l hl)
      rw [header?, hls, List.findSome?_append, hskip, List.findSome?_cons,
        headerOf?_of_keyword hk hstart]
      rfl
    have hread : read t file encoding = ofHeader (Text.trim line) k.2 file := by
      rw [read_eq hcontent h0 hdecode, hheader]
    rw [hread]
    refine ⟨⟨fun herror => ?_, fun hfew => ofHeader_of_few hfew⟩,
      fun hmany => ofHeader_of_many hmany k.2 file⟩
    by_contra hmany
    obtain ⟨name, hok, -⟩ := ofHeader_of_many (Nat.le_of_not_lt hmany) k.2 file
    rw [hok] at herror
    cases herror

end

section
open scoped Platform

/-- White space that ends no line, a keyword without white space behind it, and a second header. -/
theorem read_by_header_separators :
    let text := "#\x85grammar A;\r\x0b lexerX\u2003grammar \x1cB\u3000; C\r\nparser grammar D;".toList
    let content := Text.utf8Bytes text
    let t : FileTree := ⟨[(["F.g4"], .file content)], []⟩
    let said := "lexerX\u2003grammar \x1cB\u3000".toList
    t.contentOf (Path.ofString "F.g4").toString = .ok content ∧
      '\x00' ∉ "utf-8".toList ∧ Text.decode "utf-8" content = ⟨text, none⟩ ∧
      ∃ name : String, read t (.ofString "F.g4") "utf-8" = .ok ⟨name, .ofString "F.g4", .lexer⟩ ∧
        Text.IsLastWord name.toList said ∧ ';' ∉ name.toList := by
  rw [String.toList_ofList, String.toList_ofList]
  intro text content t said
  have hcontent : t.contentOf (Path.ofString "F.g4").toString = .ok content := by decide +kernel
  have h0 : '\x00' ∉ "utf-8".toList := by decide
  have hdecode : Text.decode "utf-8" content = ⟨text, none⟩ := by decide
  obtain ⟨ls, hcut, -, hfirst⟩ := read_by_header hcontent h0 hdecode
  have hls : ls = ["#\x85grammar A;".toList] ++ "\x0b lexerX\u2003grammar \x1cB\u3000; C".toList ::
      ["parser grammar D;".toList] := by
    rw [← (hcut _).1 (Text.cutsInto_lines _)]
    decide
  obtain ⟨-, hname⟩ := hfirst _ _ _ hls (by decide) ("lexer".toList, .lexer)
    (by decide) (by decide)
  exact ⟨hcontent, h0, hdecode, hname (by decide)⟩

end

/-! ## Files that are not decoded -/

/-- The bytes of a file are decoded as far as its header, or cannot be had. -/
def Decodes [Platform] (t : FileTree) (file : Path) (encoding : String) : Prop :=
  '\x00' ∉ encoding.toList ∧ ∀ content, t.contentOf file.toString = .ok content →
    (Text.decode encoding content).fault = none ∨
      (header? (Text.decode encoding content).text).isSome = true

instance [Platform] (t : FileTree) (file : Path) (encoding : String) :
    Decidable (Decodes t file encoding) :=
  match h : t.contentOf file.toString with
  | .error _ => decidable_of_iff ('\x00' ∉ encoding.toList) (by simp [Decodes, h])
  | .ok content =>
    decidable_of_iff ('\x00' ∉ encoding.toList ∧ ((Text.decode encoding content).fault = none ∨
      (header? (Text.decode encoding content).text).isSome = true)) (by simp [Decodes, h])

/-- Whatever the bytes of a file are, they are decoded. -/
def DecodesAll [Platform] (encoding : String) : Prop :=
  '\x00' ∉ encoding.toList ∧ ∀ content, (Text.decode encoding content).fault = none

section
variable [Platform] {t : FileTree} {encoding : String} {f : Failure}

theorem DecodesAll.decodes (h : DecodesAll encoding) (t : FileTree) (file : Path) :
    Decodes t file encoding := ⟨h.1, fun content _ => .inl (h.2 content)⟩

/-- The common encodings decode everything. -/
theorem decodesAll_of_named? (h : (Text.Encoding.named? encoding).isSome = true) :
    DecodesAll encoding := by
  obtain ⟨e, he⟩ := Option.isSome_iff_exists.1 h
  refine ⟨fun h0 => ?_, fun content => by rw [Text.decode_of_named? he]⟩
  rw [Text.Encoding.named?, if_pos (by simpa using h0)] at he
  cases he

/-- **A file that is decoded is a grammar or is at fault itself.** -/
theorem concernsHeader_of_read (hd : Decodes t file encoding)
    (hnull : '\x00' ∉ file.toString.toList) (h : read t file encoding = .error f) :
    f.concernsHeader = true := by
  rw [read, if_neg (by simpa using hd.1)] at h
  split at h
  · rename_i cause hcause
    cases h
    have hne : cause ≠ .embeddedNull := by
      rintro rfl
      exact hnull (FileTree.embeddedNull_of_contentOf hcause)
    simpa [Failure.concernsHeader] using hne
  · rename_i content hcontent
    rw [ofDecoded_eq] at h
    cases hheader : header? (Text.decode encoding content).text with
    | some header =>
      rw [hheader] at h
      dsimp only at h
      unfold ofHeader at h
      split at h <;> cases h
      rfl
    | none =>
      rcases hd.2 content hcontent with hfault | hsome
      · rw [hheader, hfault] at h
        cases h
        rfl
      · rw [hheader] at hsome
        cases hsome

/-- A file that is not decoded cannot be read, through no fault of its header. -/
theorem read_of_not_decodes (h : ¬Decodes t file encoding) :
    ∃ f, read t file encoding = .error f ∧ (f = .unusableEncoding ∨ ∃ fault, f = .codec fault) := by
  unfold read
  by_cases h0 : '\x00' ∈ encoding.toList
  · exact ⟨_, if_pos (by simpa using h0), .inl rfl⟩
  · rw [if_neg (by simpa using h0)]
    obtain ⟨content, hcontent, hfault, hheader⟩ : ∃ content,
        t.contentOf file.toString = .ok content ∧ (Text.decode encoding content).fault ≠ none ∧
          (header? (Text.decode encoding content).text).isSome = false := by
      by_contra hall
      refine h ⟨h0, fun content hcontent => ?_⟩
      by_contra hne
      rw [not_or, Bool.not_eq_true] at hne
      exact hall ⟨content, hcontent, hne⟩
    obtain ⟨fault, hfault⟩ := Option.ne_none_iff_exists'.1 hfault
    refine ⟨.codec fault, ?_, .inr ⟨fault, rfl⟩⟩
    rw [hcontent]
    dsimp only
    rw [ofDecoded_eq, Option.isSome_eq_false_iff.1 hheader |> Option.isNone_iff_eq_none.1, hfault]

end

/-! ## What does not matter -/

/-- A text behind a line end leaves the header of what stands before it alone. -/
theorem header?_append {ls : List (List Char)} (h : Text.CutsInto text ls)
    (hend : text = [] ∨ ∃ c ∈ text.getLast?, c = '\n' ∨ c = '\r') (rest : List Char) :
    header? (text ++ rest) = (header? text).or (header? rest) := by
  induction h with
  | empty => simp [header?]
  | last hl hne =>
    obtain hnil | ⟨c, hc, hbreak⟩ := hend
    · exact absurd hnil hne
    · obtain ⟨h1, h2⟩ := hl c (List.mem_of_getLast? hc)
      exact absurd hbreak (not_or.2 ⟨h1, h2⟩)
  | @ended l more ls e hl he hcut ih =>
    have hmore : more = [] ∨ ∃ c ∈ more.getLast?, c = '\n' ∨ c = '\r' := by
      by_cases hnil : more = []
      · exact .inl hnil
      · refine .inr ?_
        obtain h | h := hend
        · simp [hnil] at h
        · rwa [List.getLast?_append_of_ne_nil _ hnil] at h
    rw [List.append_assoc, header?_ended hl, ih hmore, header?_ended hl, Option.or_assoc]

/-- The header of lines is the first among them, whatever ends them. -/
theorem header?_endedLines {ls : List (List Char × LineEnd)} (h : ∀ l ∈ ls, IsLine l.1)
    (rest : List Char) : header? (endedLines LineEnd.chars ls ++ rest) =
      ((ls.map (·.1)).findSome? headerOf?).or (header? rest) := by
  induction ls with
  | nil => rfl
  | cons l ls ih =>
    obtain ⟨hl, hls⟩ := List.forall_mem_cons.1 h
    rw [Text.endedLines_cons, List.append_assoc, header?_ended hl, ih hls, List.map_cons,
      List.findSome?_cons]
    cases headerOf? l.1 <;> rfl

theorem header?_congr {ls ls' : List (List Char × LineEnd)} (h : ∀ l ∈ ls, IsLine l.1)
    (hsame : ls.map (·.1) = ls'.map (·.1)) :
    header? (endedLines LineEnd.chars ls) = header? (endedLines LineEnd.chars ls') := by
  have hls := header?_endedLines h []
  have hls' := header?_endedLines (Text.forall_of_same_lines hsame h) []
  rw [List.append_nil] at hls hls'
  rw [hls, hls', hsame]

/-- **The header alone matters**, in a file in UTF-8, Latin-1 or ASCII, whether all of it decodes or
not: a file that holds a header and ends with a line end is read in the same way with any bytes
behind it; and files that differ in their line ends alone are read in the same way, be they given as
lines of bytes or as lines of text. -/
theorem read_header_alone [Platform] (t t' : FileTree) (file : Path) (p : PlainEncoding) :
    (∀ u v : List UInt8, t.contentOf file.toString = .ok u →
      t'.contentOf file.toString = .ok (u ++ v) → (∃ b ∈ u.getLast?, b = 10 ∨ b = 13) →
      (∃ l ∈ Text.lines (p.encoding.decode u), IsHeader l) →
        read t' file p.name = read t file p.name) ∧
    (∀ ls ls' : List (List UInt8 × LineEnd), ls.map (·.1) = ls'.map (·.1) →
      (∀ l ∈ ls, ∀ b ∈ l.1, b ≠ 10 ∧ b ≠ 13) →
      t.contentOf file.toString = .ok (endedLines LineEnd.bytes ls) →
      t'.contentOf file.toString = .ok (endedLines LineEnd.bytes ls') →
        read t' file p.name = read t file p.name) ∧
    ∀ ls ls' : List (List Char × LineEnd), ls.map (·.1) = ls'.map (·.1) →
      (∀ l ∈ ls, IsLine l.1 ∧ p.CanWrite l.1) →
      t.contentOf file.toString = .ok (p.encode (endedLines LineEnd.chars ls)) →
      t'.contentOf file.toString = .ok (p.encode (endedLines LineEnd.chars ls')) →
        read t' file p.name = read t file p.name := by
  have hread {u v : List UInt8} (hu : t.contentOf file.toString = .ok u)
      (hv : t'.contentOf file.toString = .ok v)
      (h : header? (p.encoding.decode v) = header? (p.encoding.decode u)) :
      read t' file p.name = read t file p.name := by
    rw [read_plain p hv, read_plain p hu, h]
  refine ⟨fun u v hu hv hend ⟨l, hl, hheader⟩ => hread hu hv ?behind,
    fun ls ls' hsame hls ht ht' => hread ht ht' ?bytes,
    fun ls ls' hsame hls ht ht' => hread ht ht' ?texts⟩
  case behind =>
    rw [p.decode_append_of_end hend,
      header?_append (Text.cutsInto_lines _) (.inr (p.getLast?_decode hend))]
    cases h : header? (p.encoding.decode u) with
    | some header => rfl
    | none => exact absurd hheader (headerOf?_eq_none_iff.1 (List.findSome?_eq_none_iff.1 h l hl))
  case bytes =>
    rw [p.decode_endedLines, p.decode_endedLines]
    refine (header?_congr (fun l hl => ?_) ?_).symm
    · obtain ⟨u, hu, rfl⟩ := List.mem_map.1 hl
      exact p.isLine_decode (hls u hu)
    · have hdecoded := congrArg (List.map p.encoding.decode) hsame
      rw [List.map_map, List.map_map] at hdecoded ⊢
      exact hdecoded
  case texts =>
    have hwrite : ∀ l ∈ ls, p.CanWrite l.1 := fun l hl => (hls l hl).2
    have hwrite' : ∀ l ∈ ls', p.CanWrite l.1 := Text.forall_of_same_lines hsame hwrite
    rw [p.decode_encode (p.canWrite_endedLines hwrite),
      p.decode_encode (p.canWrite_endedLines hwrite')]
    exact (header?_congr (fun l hl => (hls l hl).1) hsame).symm

section
open scoped Platform

/-- A header with an unfinished character at the end of its line, and lines without characters whose
ends come to stand next to each other. -/
theorem read_header_alone_unfinished :
    let file := Path.ofString "F.g4"
    let tree (content : List UInt8) : FileTree := ⟨[(["F.g4"], .file content)], []⟩
    let header := Text.utf8Bytes "lexer grammar A".toList ++ [0xe2, 0x82]
    let behind := [10, 0xac] ++ Text.utf8Bytes "grammar B;".toList
    let ls : List (List UInt8 × LineEnd) :=
      [([0xff], .carriageReturn), ([], .lineFeed), (header, .both)]
    let ls' : List (List UInt8 × LineEnd) :=
      [([0xff], .lineFeed), ([], .both), (header, .carriageReturn)]
    let texts : List (List Char × LineEnd) :=
      [([], .carriageReturn), ("grammar Bé".toList, .lineFeed)]
    let texts' : List (List Char × LineEnd) := [([], .lineFeed), ("grammar Bé".toList, .both)]
    let written (ls : List (List Char × LineEnd)) : FileTree :=
      tree (PlainEncoding.latin1.encode (endedLines LineEnd.chars ls))
    (read (tree (header ++ [13])) file "utf-8").toOption = some ⟨"A\ufffd", file, .lexer⟩ ∧
      read (tree (header ++ [13] ++ behind)) file "utf-8" =
        read (tree (header ++ [13])) file "utf-8" ∧
      read (tree (endedLines LineEnd.bytes ls')) file "ascii" =
        read (tree (endedLines LineEnd.bytes ls)) file "ascii" ∧
      read (written texts') file "latin-1" = read (written texts) file "latin-1" := by
  intro file tree header behind ls ls' texts texts' written
  obtain ⟨hbehind, -, -⟩ := read_header_alone (tree (header ++ [13]))
    (tree (header ++ [13] ++ behind)) file .utf8
  obtain ⟨-, hbytes, -⟩ := read_header_alone (tree (endedLines LineEnd.bytes ls))
    (tree (endedLines LineEnd.bytes ls')) file .ascii
  obtain ⟨-, -, htexts⟩ := read_header_alone (written texts) (written texts') file .latin1
  refine ⟨by decide +kernel, ?_, ?_, ?_⟩
  · exact hbehind (header ++ [13]) behind (by decide +kernel) (by decide +kernel)
      ⟨13, by simp, .inr rfl⟩ (by decide +kernel)
  · exact hbytes ls ls' rfl (by decide +kernel) (by decide +kernel) (by decide +kernel)
  · exact htexts texts texts' rfl (by decide +kernel) (by decide +kernel) (by decide +kernel)

end

end Grammar

end GrammarProject
