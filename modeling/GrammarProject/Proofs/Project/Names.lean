import GrammarProject.Project.Summary
import GrammarProject.Proofs.Grammar.Files
import Mathlib.Data.List.Nodup

/-!
# Derived names and generated files

The names of a parser, a lexer and a listener are looked up by kind; the files are listed grammar by
grammar. Both come to the same: what has a name has its file, and what has none has no file
(`names_match_files`). A combined grammar and the parser and lexer grammars that it may be split
into give the same parser and lexer (`split_agrees`).
-/

namespace GrammarProject.Project

variable {p : Project}

/-! ## Grammars by kind -/

theorem find?_eq_none_iff {k : Grammar.Kind} : p.find? k = none ↔ ∀ g ∈ p.grammars, g.kind ≠ k := by
  simp [find?, Draft.grammarOf?]

theorem find?_eq_some_iff {k : Grammar.Kind} {g : Grammar} :
    p.find? k = some g ↔ g ∈ p.grammars ∧ g.kind = k := by
  constructor
  · intro h
    exact ⟨List.mem_of_find?_eq_some h, by simpa using List.find?_some h⟩
  · rintro ⟨hm, rfl⟩
    cases hf : p.find? g.kind with
    | none => exact absurd rfl (find?_eq_none_iff.1 hf g hm)
    | some g' =>
      have hm' := List.mem_of_find?_eq_some hf
      have hk : g'.kind = g.kind := by simpa using List.find?_some hf
      rw [List.inj_on_of_nodup_map p.kinds_nodup hm' hm hk]

def LacksParser (p : Project) : Prop := ∀ g ∈ p.grammars, g.kind ≠ .parser ∧ g.kind ≠ .combined

def LacksLexer (p : Project) : Prop := ∀ g ∈ p.grammars, g.kind ≠ .lexer ∧ g.kind ≠ .combined

instance (p : Project) : Decidable p.LacksParser := by
  unfold LacksParser
  infer_instance

instance (p : Project) : Decidable p.LacksLexer := by
  unfold LacksLexer
  infer_instance

theorem lacksParser_iff :
    p.LacksParser ↔ p.find? .parser = none ∧ p.find? .combined = none := by
  rw [find?_eq_none_iff, find?_eq_none_iff, LacksParser]
  exact forall₂_and

theorem lacksLexer_iff : p.LacksLexer ↔ p.find? .lexer = none ∧ p.find? .combined = none := by
  rw [find?_eq_none_iff, find?_eq_none_iff, LacksLexer]
  exact forall₂_and

/-! ## Names -/

/-- **Where the parser comes from**: from the parser grammar, from the combined one if there is no
other, or from nowhere. -/
theorem parser_cases (p : Project) :
    (p.LacksParser ∧ p.listenerGrammar? = none ∧
        p.parserBaseName = .error (.missingParser p.fileName)) ∨
      ∃ g ∈ p.grammars, p.listenerGrammar? = some g ∧
        ((g.kind = .parser ∧ p.parserBaseName = .ok (Grammar.stem "Parser" g.name)) ∨
          (g.kind = .combined ∧ p.parserBaseName = .ok g.name)) := by
  unfold listenerGrammar? parserBaseName
  cases hp : p.find? .parser with
  | some g =>
    obtain ⟨hm, hk⟩ := find?_eq_some_iff.1 hp
    exact .inr ⟨g, hm, rfl, .inl ⟨hk, rfl⟩⟩
  | none =>
    cases hc : p.find? .combined with
    | some g =>
      obtain ⟨hm, hk⟩ := find?_eq_some_iff.1 hc
      exact .inr ⟨g, hm, rfl, .inr ⟨hk, rfl⟩⟩
    | none => exact .inl ⟨lacksParser_iff.2 ⟨hp, hc⟩, rfl, rfl⟩

/-- Where the lexer comes from. -/
theorem lexer_cases (p : Project) :
    (p.LacksLexer ∧ p.lexerBaseName = .error (.missingLexer p.fileName)) ∨
      ∃ g ∈ p.grammars,
        (g.kind = .lexer ∧ p.lexerBaseName = .ok (Grammar.stem "Lexer" g.name)) ∨
          (g.kind = .combined ∧ p.lexerBaseName = .ok g.name) := by
  unfold lexerBaseName
  cases hl : p.find? .lexer with
  | some g =>
    obtain ⟨hm, hk⟩ := find?_eq_some_iff.1 hl
    exact .inr ⟨g, hm, .inl ⟨hk, rfl⟩⟩
  | none =>
    cases hc : p.find? .combined with
    | some g =>
      obtain ⟨hm, hk⟩ := find?_eq_some_iff.1 hc
      exact .inr ⟨g, hm, .inr ⟨hk, rfl⟩⟩
    | none => exact .inl ⟨lacksLexer_iff.2 ⟨hl, hc⟩, rfl⟩

theorem parserName_of_base {base : String} (h : p.parserBaseName = .ok base) :
    p.parserName = .ok (base ++ "Parser") := by
  rw [parserName, h]
  rfl

theorem lexerName_of_base {base : String} (h : p.lexerBaseName = .ok base) :
    p.lexerName = .ok (base ++ "Lexer") := by
  rw [lexerName, h]
  rfl

theorem listenerName_of_grammar {g : Grammar} (h : p.listenerGrammar? = some g) :
    p.listenerName = .ok (g.name ++ "Listener") := by
  rw [listenerName, h]

theorem LacksParser.names (h : p.LacksParser) :
    p.parserName = .error (.missingParser p.fileName) ∧
      p.listenerName = .error (.missingParser p.fileName) := by
  rw [lacksParser_iff] at h
  simp [parserName, parserBaseName, listenerName, listenerGrammar?, h, Except.map]

theorem LacksLexer.name (h : p.LacksLexer) : p.lexerName = .error (.missingLexer p.fileName) := by
  rw [lacksLexer_iff] at h
  simp [lexerName, lexerBaseName, h, Except.map]

theorem LacksParser.exists_of_not (h : ¬p.LacksParser) :
    ∃ base, ∃ g ∈ p.grammars, p.parserBaseName = .ok base ∧ p.listenerGrammar? = some g := by
  rcases parser_cases p with ⟨hlacks, -⟩ | ⟨g, hm, hl, ⟨-, hb⟩ | ⟨-, hb⟩⟩
  · exact absurd hlacks h
  · exact ⟨_, g, hm, hb, hl⟩
  · exact ⟨_, g, hm, hb, hl⟩

theorem LacksLexer.exists_of_not (h : ¬p.LacksLexer) : ∃ base, p.lexerBaseName = .ok base := by
  rcases lexer_cases p with ⟨hlacks, -⟩ | ⟨g, -, ⟨-, hb⟩ | ⟨-, hb⟩⟩
  · exact absurd hlacks h
  · exact ⟨_, hb⟩
  · exact ⟨_, hb⟩

/-- There is a name just if there is a parser. -/
theorem names_fail_iff (p : Project) :
    ((∃ f, p.parserName = .error f) ↔ p.LacksParser) ∧
      ((∃ f, p.listenerName = .error f) ↔ p.LacksParser) := by
  by_cases h : p.LacksParser
  · obtain ⟨hparser, hlistener⟩ := h.names
    exact ⟨iff_of_true ⟨_, hparser⟩ h, iff_of_true ⟨_, hlistener⟩ h⟩
  · obtain ⟨base, g, -, hb, hl⟩ := LacksParser.exists_of_not h
    rw [parserName_of_base hb, listenerName_of_grammar hl]
    simp [h]

theorem lexerName_fails_iff (p : Project) : (∃ f, p.lexerName = .error f) ↔ p.LacksLexer := by
  by_cases h : p.LacksLexer
  · exact iff_of_true ⟨_, h.name⟩ h
  · obtain ⟨base, hb⟩ := LacksLexer.exists_of_not h
    rw [lexerName_of_base hb]
    simp [h]

/-- A parser grammar gives its own name, with the suffix if it lacks it. -/
theorem parserName_of_kind {g : Grammar} (h : g ∈ p.grammars) (hk : g.kind = .parser) :
    p.parserName = .ok (if EndsIn "Parser" g.name then g.name else g.name ++ "Parser") := by
  have hfind : p.find? .parser = some g := find?_eq_some_iff.2 ⟨h, hk⟩
  have hbase : p.parserBaseName = .ok (Grammar.stem "Parser" g.name) := by
    rw [parserBaseName, hfind]
    rfl
  rw [parserName_of_base hbase, Grammar.stem_append_suffix]

/-- A lexer grammar gives its own name, with the suffix if it lacks it. -/
theorem lexerName_of_kind {g : Grammar} (h : g ∈ p.grammars) (hk : g.kind = .lexer) :
    p.lexerName = .ok (if EndsIn "Lexer" g.name then g.name else g.name ++ "Lexer") := by
  have hfind : p.find? .lexer = some g := find?_eq_some_iff.2 ⟨h, hk⟩
  have hbase : p.lexerBaseName = .ok (Grammar.stem "Lexer" g.name) := by
    rw [lexerBaseName, hfind]
    rfl
  rw [lexerName_of_base hbase, Grammar.stem_append_suffix]

/-! ## Files -/

theorem mem_generatedFiles {extension file : String} :
    file ∈ p.generatedFiles extension ↔ ∃ g ∈ p.grammars, file ∈ g.files extension :=
  List.mem_flatMap

theorem parserFile_mem {base : String} (h : p.parserBaseName = .ok base) (extension : String) :
    Text.lowered base ++ "_parser" ++ extension ∈ p.generatedFiles extension := by
  rw [mem_generatedFiles]
  rcases parser_cases p with ⟨-, -, he⟩ | ⟨g, hm, -, ⟨hk, hb⟩ | ⟨hk, hb⟩⟩
  · rw [he] at h
    cases h
  all_goals
    rw [hb] at h
    cases h
    exact ⟨g, hm, by simp [Grammar.files, Grammar.fileStems, hk, Grammar.parserFile,
      Grammar.parserStem_eq_stem]⟩

theorem lexerFile_mem {base : String} (h : p.lexerBaseName = .ok base) (extension : String) :
    Text.lowered base ++ "_lexer" ++ extension ∈ p.generatedFiles extension := by
  rw [mem_generatedFiles]
  rcases lexer_cases p with ⟨-, he⟩ | ⟨g, hm, ⟨hk, hb⟩ | ⟨hk, hb⟩⟩
  · rw [he] at h
    cases h
  all_goals
    rw [hb] at h
    cases h
    exact ⟨g, hm, by simp [Grammar.files, Grammar.fileStems, hk, Grammar.lexerFile,
      Grammar.lexerStem_eq_stem]⟩

theorem listenerFiles_mem {g : Grammar} (h : p.listenerGrammar? = some g) (extension : String) :
    Text.lowered g.name ++ "_base_listener" ++ extension ∈ p.generatedFiles extension ∧
      Text.lowered g.name ++ "_listener" ++ extension ∈ p.generatedFiles extension := by
  rcases parser_cases p with ⟨-, he, -⟩ | ⟨g', hm, hl, hcases⟩
  · rw [he] at h
    cases h
  · obtain rfl : g' = g := Option.some.inj (hl.symm.trans h)
    rw [mem_generatedFiles, mem_generatedFiles]
    rcases hcases with ⟨hk, -⟩ | ⟨hk, -⟩ <;>
      exact ⟨⟨g', hm, by simp [Grammar.files_eq_map, Grammar.fileParts, hk]⟩,
        ⟨g', hm, by simp [Grammar.files_eq_map, Grammar.fileParts, hk]⟩⟩

/-- Without a parser there is no file of one, nor of a listener. -/
theorem not_parserFile (h : p.LacksParser) {extension file : String}
    (hf : file ∈ p.generatedFiles extension) :
    ¬EndsIn ("_parser" ++ extension) file ∧ ¬EndsIn ("_listener" ++ extension) file := by
  obtain ⟨g, hm, hf⟩ := mem_generatedFiles.1 hf
  obtain ⟨hp, hc⟩ := h g hm
  rw [Grammar.files_eq_map] at hf
  cases hk : g.kind with
  | parser => exact absurd hk hp
  | combined => exact absurd hk hc
  | lexer =>
    simp only [Grammar.fileParts, hk, List.map_cons, List.map_nil, List.mem_singleton] at hf
    rw [hf, EndsIn.append_right_iff, EndsIn.append_right_iff]
    exact ⟨EndsIn.not_append (by decide) (by decide) _, EndsIn.not_append (by decide) (by decide) _⟩

/-- Without a lexer there is no file of one. -/
theorem not_lexerFile (h : p.LacksLexer) {extension file : String}
    (hf : file ∈ p.generatedFiles extension) : ¬EndsIn ("_lexer" ++ extension) file := by
  obtain ⟨g, hm, hf⟩ := mem_generatedFiles.1 hf
  obtain ⟨hl, hc⟩ := h g hm
  rw [Grammar.files_eq_map] at hf
  obtain ⟨part, hpart, rfl⟩ := List.mem_map.1 hf
  rw [Grammar.endsIn_part_iff hpart (.inr rfl)]
  intro hlexer
  cases hk : g.kind with
  | lexer => exact absurd hk hl
  | combined => exact absurd hk hc
  | parser =>
    simp only [Grammar.fileParts, hk, List.mem_cons, List.not_mem_nil, or_false] at hpart
    rcases hpart with rfl | rfl | rfl <;> simp at hlexer

/-! ## Split and combined grammars -/

theorem filter_generatedFiles {ending : String} (he : ending = "_parser" ∨ ending = "_lexer")
    (p : Project) (extension : String) :
    (p.generatedFiles extension).filter (EndsIn (ending ++ extension)) =
      (p.grammars.flatMap fun g => g.fileParts.filter (·.2 = ending)).map fun part =>
        part.1 ++ part.2 ++ extension := by
  rw [generatedFiles, List.filter_flatMap, List.map_flatMap]
  simp only [Grammar.filter_files he]

theorem combined_names {name : String} {file : Path} (h : p.grammars = [⟨name, file, .combined⟩]) :
    p.parserBaseName = .ok name ∧ p.lexerBaseName = .ok name ∧
      p.listenerName = .ok (name ++ "Listener") := by
  simp [parserBaseName, lexerBaseName, listenerName, listenerGrammar?, find?, Draft.grammarOf?, h]

/-- A project with a parser grammar and a lexer grammar whose names are a text and the suffix. -/
theorem split_names {name : String} {fp fl : Path}
    (hp : p.find? .parser = some ⟨name ++ "Parser", fp, .parser⟩)
    (hl : p.find? .lexer = some ⟨name ++ "Lexer", fl, .lexer⟩) :
    p.parserBaseName = .ok name ∧ p.lexerBaseName = .ok name ∧
      p.listenerName = .ok (name ++ "ParserListener") := by
  have happend : name ++ "Parser" ++ "Listener" = name ++ "ParserListener" := by
    rw [String.append_assoc]
    rfl
  simp [parserBaseName, lexerBaseName, listenerName, listenerGrammar?, hp, hl,
    Grammar.parserStem_eq_stem, Grammar.lexerStem_eq_stem, Grammar.stem_append, happend]

/-- **Split and combined grammars agree.** A combined grammar, and a parser and a lexer grammar that
have its name and a suffix, give parsers and lexers of the same names, in files of the same names.
Only the listener has the suffix of the parser grammar in its name. And the parser of any parser
grammar has the name of the grammar, with the suffix if it lacks it, as has the lexer of a lexer
grammar. -/
theorem split_agrees {c s : Project} {name : String} {file fp fl : Path}
    (hc : c.grammars = [⟨name, file, .combined⟩])
    (hs : s.grammars = [⟨name ++ "Parser", fp, .parser⟩, ⟨name ++ "Lexer", fl, .lexer⟩] ∨
      s.grammars = [⟨name ++ "Lexer", fl, .lexer⟩, ⟨name ++ "Parser", fp, .parser⟩])
    (extension : String) :
    (∀ p ∈ [c, s], p.parserBaseName = .ok name ∧ p.lexerBaseName = .ok name ∧
      p.parserName = .ok (name ++ "Parser") ∧ p.lexerName = .ok (name ++ "Lexer") ∧
      (p.generatedFiles extension).filter (EndsIn ("_parser" ++ extension)) =
        [Text.lowered name ++ "_parser" ++ extension] ∧
      (p.generatedFiles extension).filter (EndsIn ("_lexer" ++ extension)) =
        [Text.lowered name ++ "_lexer" ++ extension]) ∧
    c.listenerName = .ok (name ++ "Listener") ∧ s.listenerName = .ok (name ++ "ParserListener") ∧
    ∀ p : Project, ∀ g ∈ p.grammars,
      (g.kind = .parser →
        p.parserName = .ok (if EndsIn "Parser" g.name then g.name else g.name ++ "Parser")) ∧
      (g.kind = .lexer →
        p.lexerName = .ok (if EndsIn "Lexer" g.name then g.name else g.name ++ "Lexer")) := by
  obtain ⟨hcp, hcl, hclistener⟩ := combined_names hc
  have hparser : s.find? .parser = some ⟨name ++ "Parser", fp, .parser⟩ := by
    rw [find?_eq_some_iff]
    rcases hs with hs | hs <;> simp [hs]
  have hlexer : s.find? .lexer = some ⟨name ++ "Lexer", fl, .lexer⟩ := by
    rw [find?_eq_some_iff]
    rcases hs with hs | hs <;> simp [hs]
  obtain ⟨hsp, hsl, hslistener⟩ := split_names hparser hlexer
  refine ⟨?_, hclistener, hslistener, fun p g hm => ⟨parserName_of_kind hm, lexerName_of_kind hm⟩⟩
  intro p hp
  simp only [List.mem_cons, List.not_mem_nil, or_false] at hp
  rcases hp with rfl | rfl
  · refine ⟨hcp, hcl, parserName_of_base hcp, lexerName_of_base hcl, ?_, ?_⟩
    · rw [filter_generatedFiles (.inl rfl), hc]
      simp [Grammar.fileParts]
    · rw [filter_generatedFiles (.inr rfl), hc]
      simp [Grammar.fileParts]
  · refine ⟨hsp, hsl, parserName_of_base hsp, lexerName_of_base hsl, ?_, ?_⟩
    · rw [filter_generatedFiles (.inl rfl)]
      rcases hs with hs | hs <;> simp [hs, Grammar.fileParts, Grammar.stem_append]
    · rw [filter_generatedFiles (.inr rfl)]
      rcases hs with hs | hs <;> simp [hs, Grammar.fileParts, Grammar.stem_append]

/-- A name with a dotted capital I and a capital sigma at its end: the sigma is a final one in the
names of all files, though a suffix follows it in the name of the grammar. -/
theorem split_agrees_sigma :
    let name := "\u0130\u03a3"
    let file := Path.ofString "X.g4"
    let c : Project :=
      ⟨{ Draft.named "pom.xml" with grammars := [⟨name, file, .combined⟩] }, by decide, by decide⟩
    let s : Project :=
      ⟨{ Draft.named "pom.xml" with grammars :=
          [⟨name ++ "Lexer", file, .lexer⟩, ⟨name ++ "Parser", file, .parser⟩] },
        by decide, by decide⟩
    c.grammars = [⟨name, file, .combined⟩] ∧
      s.grammars = [⟨name ++ "Lexer", file, .lexer⟩, ⟨name ++ "Parser", file, .parser⟩] ∧
      ∀ p ∈ [c, s], p.parserName = .ok "\u0130\u03a3Parser" ∧
        (p.generatedFiles ".go").filter (EndsIn "_parser.go") = ["i\u0307\u03c2_parser.go"] := by
  intro name file c s
  have hc : c.grammars = [⟨name, file, .combined⟩] := rfl
  have hs : s.grammars =
      [⟨name ++ "Lexer", file, .lexer⟩, ⟨name ++ "Parser", file, .parser⟩] := rfl
  obtain ⟨hall, -⟩ := split_agrees hc (.inr hs) ".go"
  have hlower : Text.lowered name = "i\u0307\u03c2" := by decide +kernel
  refine ⟨hc, hs, ?_⟩
  intro p hp
  obtain ⟨-, -, hparser, -, hfile, -⟩ := hall p hp
  rw [hlower] at hfile
  exact ⟨hparser, hfile⟩

/-! ## Summaries -/

theorem ofResult_eq_null_iff {name : Except Failure String} :
    Literal.ofResult name = .null ↔ ∃ f, name = .error f := by
  cases name <;> simp [Literal.ofResult]

theorem lookup_parserName (p : Project) (extension : String) :
    (p.fields extension).lookup "parser_name" = some (.ofResult p.parserName) := rfl

theorem lookup_lexerName (p : Project) (extension : String) :
    (p.fields extension).lookup "lexer_name" = some (.ofResult p.lexerName) := rfl

theorem lookup_listenerName (p : Project) (extension : String) :
    (p.fields extension).lookup "listener_name" = some (.ofResult p.listenerName) := rfl

theorem lookup_generatedFiles (p : Project) (extension : String) :
    (p.fields extension).lookup "generated_filenames" =
      some (.list ((p.generatedFiles extension).map .text)) := rfl

/-- **Names and files tell the same.** The files are those of the grammars, in order, each with the
extension. What the project lacks has no name and no file; a parser, a listener or a lexer that has
a name has its files. The summary has a name just where there is one, and always the files. -/
theorem names_match_files (p : Project) (extension : String) :
    let files := p.generatedFiles extension
    let fields := p.fields extension
    (files = (p.grammars.map (·.files extension)).flatten ∧
      ∀ g ∈ p.grammars, (g.files extension).length =
        match g.kind with
        | .combined => 4
        | .parser => 3
        | .lexer => 1) ∧
    files = (p.generatedFiles "").map (· ++ extension) ∧
    ((p.parserName = .error (.missingParser p.fileName) ↔ p.LacksParser) ∧
      (p.LacksParser → ∀ file ∈ files,
        ¬EndsIn ("_parser" ++ extension) file ∧ ¬EndsIn ("_listener" ++ extension) file) ∧
      (¬p.LacksParser → ∃ base, ∃ g ∈ p.grammars, p.parserBaseName = .ok base ∧
        p.listenerGrammar? = some g ∧ p.parserName = .ok (base ++ "Parser") ∧
        p.listenerName = .ok (g.name ++ "Listener") ∧
        Text.lowered base ++ "_parser" ++ extension ∈ files ∧
        Text.lowered g.name ++ "_base_listener" ++ extension ∈ files ∧
        Text.lowered g.name ++ "_listener" ++ extension ∈ files)) ∧
    ((p.lexerName = .error (.missingLexer p.fileName) ↔ p.LacksLexer) ∧
      (p.LacksLexer → ∀ file ∈ files, ¬EndsIn ("_lexer" ++ extension) file) ∧
      (¬p.LacksLexer → ∃ base, p.lexerBaseName = .ok base ∧ p.lexerName = .ok (base ++ "Lexer") ∧
        Text.lowered base ++ "_lexer" ++ extension ∈ files)) ∧
    p.summary extension = .record fields ∧
    (fields.lookup "parser_name" = some .null ↔ p.LacksParser) ∧
    (fields.lookup "listener_name" = some .null ↔ p.LacksParser) ∧
    (fields.lookup "lexer_name" = some .null ↔ p.LacksLexer) ∧
    fields.lookup "generated_filenames" = some (.list (files.map .text)) := by
  intro files fields
  refine ⟨⟨List.flatMap_def, fun g _ => g.length_files extension⟩, ?_, ⟨⟨?_, fun h => h.names.1⟩,
    fun h file => not_parserFile h, fun h => ?_⟩, ⟨⟨?_, fun h => h.name⟩,
    fun h file => not_lexerFile h, fun h => ?_⟩, rfl, ?_, ?_, ?_, p.lookup_generatedFiles extension⟩
  · simp only [files, generatedFiles, List.map_flatMap]
    exact List.flatMap_congr fun g _ => g.files_eq_map_files extension
  · exact fun h => p.names_fail_iff.1.1 ⟨_, h⟩
  · obtain ⟨base, g, hm, hb, hl⟩ := LacksParser.exists_of_not h
    exact ⟨base, g, hm, hb, hl, parserName_of_base hb, listenerName_of_grammar hl,
      parserFile_mem hb extension, listenerFiles_mem hl extension⟩
  · exact fun h => p.lexerName_fails_iff.1 ⟨_, h⟩
  · obtain ⟨base, hb⟩ := LacksLexer.exists_of_not h
    exact ⟨base, hb, lexerName_of_base hb, lexerFile_mem hb extension⟩
  · rw [lookup_parserName, Option.some_inj, ofResult_eq_null_iff, p.names_fail_iff.1]
  · rw [lookup_listenerName, Option.some_inj, ofResult_eq_null_iff, p.names_fail_iff.2]
  · rw [lookup_lexerName, Option.some_inj, ofResult_eq_null_iff, p.lexerName_fails_iff]

/-- A lexer grammar before a parser grammar without the suffix, with an extension that looks like an
ending; and a project that lacks a parser. -/
theorem names_match_files_split :
    let split : Project := ⟨{ Draft.named "pom.xml" with grammars :=
      [⟨"FooLexer", .ofString "L.g4", .lexer⟩, ⟨"Bar", .ofString "P.g4", .parser⟩] },
        by decide, by decide⟩
    let lexer : Project := ⟨{ Draft.named "pom.xml" with grammars :=
      [⟨"_Parser", .ofString "L.g4", .lexer⟩] }, by decide, by decide⟩
    split.generatedFiles "_lexer" =
        ["foo_lexer_lexer", "bar_base_listener_lexer", "bar_listener_lexer", "bar_parser_lexer"] ∧
      split.parserName = .ok "BarParser" ∧ split.lexerName = .ok "FooLexer" ∧
      lexer.generatedFiles "" = ["_parser_lexer"] ∧
      lexer.parserName = .error (.missingParser "pom.xml") ∧
      ∀ file ∈ lexer.generatedFiles "", ¬EndsIn "_parser" file ∧ ¬EndsIn "_listener" file := by
  intro split lexer
  obtain ⟨-, -, ⟨-, -, hparser⟩, ⟨-, -, hlexer⟩, -⟩ := names_match_files split "_lexer"
  obtain ⟨-, -, ⟨hlacks, hnone, -⟩, -⟩ := names_match_files lexer ""
  have hl : lexer.LacksParser := by decide
  obtain ⟨base, -, -, hbase, -, hname, -⟩ := hparser (by decide)
  obtain ⟨base', hbase', hname', -⟩ := hlexer (by decide)
  obtain rfl : "Bar" = base := by
    have h : split.parserBaseName.toOption = some "Bar" := by decide
    rw [hbase] at h
    exact (Option.some.inj h).symm
  obtain rfl : "Foo" = base' := by
    have h : split.lexerBaseName.toOption = some "Foo" := by decide
    rw [hbase'] at h
    exact (Option.some.inj h).symm
  exact ⟨by decide, hname, hname', by decide, hlacks.2 hl, hnone hl⟩

end GrammarProject.Project
