import GrammarProject.Command.Scan
import GrammarProject.Proofs.Grammar.Header
import GrammarProject.Proofs.Project.Names
import GrammarProject.Proofs.Text.Spaced

/-!
# What renderings show of a project

A project is shown as a record, as lines of text and as a row. All three show the same values
(`Agree`): what the record has under a key stands behind the label (`valueOf?_projectLines`), in the
list below the heading (`listed_grammars`, `listed_files`) and in the column of the row
(`projectRow_eq_row`). A name never looks like the words for a missing one (`parserName_ne`), nor
the name of a file like the remark that there are none (`file_ne_remark`).
-/

namespace GrammarProject.Command

/-! ## What a reader of the renderings looks at -/

/-- What stands before the value of a field. -/
def labelText (label : String) : String := padded 16 (label ++ ":")

def hasLabel (label line : String) : Bool := (labelText label).toList.isPrefixOf line.toList

def valueOf? (label : String) (lines : List String) : Option String :=
  (lines.find? (hasLabel label)).map fun line =>
    String.ofList (line.toList.drop (labelText label).toList.length)

def isIndented (line : String) : Bool := "  ".toList.isPrefixOf line.toList

/-- The lines of the list below a heading. -/
def listed (heading : String) (lines : List String) : List String :=
  ((lines.dropWhile (· ≠ heading)).drop 1).takeWhile isIndented

structure Columns where
  descriptor : String
  plugin : String
  count : String
  parser : String

def Columns.row (c : Columns) : String :=
  "\t".intercalate [c.descriptor, c.plugin, c.count, c.parser]

/-- The labels of derived names, each with the key of the record. -/
def derivedNames : List (String × String) :=
  [("Parser", "parser_name"), ("Lexer", "lexer_name"), ("Listener", "listener_name")]

/-- **A record, lines of text and a row tell the same.** -/
structure Agree (extension : String) (fields : List (String × Literal)) (lines : List String)
    (columns : Columns) : Prop where
  plugin : ∃ plugin : Bool, fields.lookup "found_antlr4_maven_plugin" = some (.bool plugin) ∧
    valueOf? "ANTLR plugin" lines = some (if plugin then "yes" else "no") ∧
    columns.plugin = if plugin then "plugin" else "-"
  /-- A name is missing in the lines just if it is null in the record. -/
  names : ∀ entry ∈ derivedNames, ∃ name : Option String,
    fields.lookup entry.2 = some (name.elim .null .text) ∧
    valueOf? entry.1 lines = some (name.getD notAvailable) ∧
    (valueOf? entry.1 lines = some notAvailable ↔ name = none)
  /-- The last column is the parser, or says why there is none. -/
  parser : ∃ (name : Option String) (file : String),
    fields.lookup "parser_name" = some (name.elim .null .text) ∧
    fields.lookup "file_name" = some (.text file) ∧
    let refusal := "(" ++ (Failure.missingParser file).message ++ ")"
    columns.parser = name.getD refusal ∧ (columns.parser = refusal ↔ name = none)
  grammars : ∃ grammars : List Grammar,
    fields.lookup "grammars" = some (.list (grammars.map Grammar.summary)) ∧
    listed "Grammars:" lines = grammars.map grammarLine ∧
    columns.count = toString grammars.length
  /-- The list of files is never a remark that there are none. -/
  files : ∃ files : List String,
    fields.lookup "generated_filenames" = some (.list (files.map .text)) ∧
    (∀ file ∈ files, EndsIn extension file) ∧
    listed "Generated files:" lines = files.map ("  " ++ ·) ∧
    ∀ reason, "  n/a (" ++ reason ++ ")" ∉ listed "Generated files:" lines
  /-- There is nothing behind the last column. -/
  separate : '\t' ∉ columns.parser.toList

/-! ## Fields -/

theorem fieldLine_eq (label value : String) :
    fieldLine label value = labelText label ++ value := rfl

theorem valueOf?_cons_self (label value : String) (lines : List String) :
    valueOf? label (fieldLine label value :: lines) = some value := by
  have hprefix : hasLabel label (fieldLine label value) = true := by
    rw [hasLabel, List.isPrefixOf_iff_prefix, fieldLine_eq, String.toList_append]
    exact List.prefix_append _ _
  rw [valueOf?, List.find?_cons_of_pos hprefix, Option.map_some, fieldLine_eq, String.toList_append,
    List.drop_left, String.ofList_toList]

theorem valueOf?_cons_of_ne {label other : String}
    (h : (labelText label).toList.length = (labelText other).toList.length)
    (hne : (labelText label).toList ≠ (labelText other).toList) (value : String)
    (lines : List String) :
    valueOf? label (fieldLine other value :: lines) = valueOf? label lines := by
  have hprefix : ¬hasLabel label (fieldLine other value) = true := by
    rw [hasLabel, List.isPrefixOf_iff_prefix, fieldLine_eq, String.toList_append]
    rintro ⟨rest, he⟩
    exact hne (List.append_inj_left he h)
  rw [valueOf?, List.find?_cons_of_neg hprefix, valueOf?]

def labels : List String :=
  ["Project", "Long name", "ANTLR plugin", "Entry point", "Parser", "Lexer", "Listener", "Examples"]

/-- Labels are filled up to one length, and none is another. -/
theorem labels_apart : ∀ label ∈ labels, ∀ other ∈ labels,
    (labelText label).toList.length = (labelText other).toList.length ∧
      (label ≠ other → (labelText label).toList ≠ (labelText other).toList) := by decide

def labelled (p : Project) : List (String × String) :=
  [("Project", p.fileName),
   ("Long name", p.longName),
   ("ANTLR plugin", if p.usesPlugin then "yes" else "no"),
   ("Entry point", p.entryPoint),
   ("Parser", nameOrNot p.parserName),
   ("Lexer", nameOrNot p.lexerName),
   ("Listener", nameOrNot p.listenerName),
   ("Examples", examplesText p)]

theorem label_mem {p : Project} {f : String × String} (h : f ∈ labelled p) : f.1 ∈ labels := by
  have hlabels : (labelled p).map (·.1) = labels := rfl
  rw [← hlabels]
  exact List.mem_map_of_mem h

theorem projectLines_eq (p : Project) (extension : String) : projectLines p extension =
    (labelled p).map (fun f => fieldLine f.1 f.2) ++
      "Grammars:" :: p.grammars.map grammarLine ++
      "Generated files:" :: (p.generatedFiles extension).map ("  " ++ ·) := by
  simp [projectLines, labelled]

theorem valueOf?_fields {label value : String} (hlabel : label ∈ labels)
    {fields : List (String × String)} (hfields : ∀ f ∈ fields, f.1 ∈ labels)
    (h : fields.lookup label = some value) (rest : List String) :
    valueOf? label (fields.map (fun f => fieldLine f.1 f.2) ++ rest) = some value := by
  induction fields with
  | nil => cases h
  | cons f fields ih =>
    obtain ⟨other, text⟩ := f
    obtain ⟨hother, hfields⟩ := List.forall_mem_cons.1 hfields
    rw [List.map_cons, List.cons_append]
    by_cases he : label = other
    · subst he
      rw [List.lookup_cons_self] at h
      cases h
      exact valueOf?_cons_self label _ _
    · obtain ⟨hlength, hne⟩ := labels_apart label hlabel other hother
      rw [valueOf?_cons_of_ne hlength (hne he)]
      rw [List.lookup_cons, beq_false_of_ne he] at h
      exact ih hfields h

theorem valueOf?_projectLines {p : Project} {label value : String} (hlabel : label ∈ labels)
    (h : (labelled p).lookup label = some value) (extension : String) :
    valueOf? label (projectLines p extension) = some value := by
  rw [projectLines_eq, List.append_assoc]
  exact valueOf?_fields hlabel (fun _ => label_mem) h _

/-! ## Lists -/

/-- A list is what stands below its heading, up to a line that is not indented. -/
theorem listed_section {heading : String} {before items after : List String}
    (hbefore : heading ∉ before) (hitems : ∀ item ∈ items, isIndented item = true)
    (hafter : ∀ line ∈ after.head?, isIndented line = false) :
    listed heading (before ++ heading :: items ++ after) = items := by
  have hdrop : (before ++ heading :: items ++ after).dropWhile (· ≠ heading) =
      heading :: items ++ after := by
    rw [List.append_assoc, List.dropWhile_append_of_pos]
    · simp
    · intro line hline
      have hne : line ≠ heading := by
        rintro rfl
        exact hbefore hline
      simpa using hne
  rw [listed, hdrop, List.cons_append, List.drop_succ_cons, List.drop_zero,
    List.takeWhile_append_of_pos hitems]
  cases after with
  | nil => simp
  | cons line after =>
    rw [List.takeWhile_cons, hafter line rfl]
    simp

theorem isIndented_append (s : String) : isIndented ("  " ++ s) = true := by
  rw [isIndented, String.toList_append, List.isPrefixOf_iff_prefix]
  exact List.prefix_append _ _

theorem isIndented_grammarLine (g : Grammar) : isIndented (grammarLine g) = true := by
  simp only [grammarLine, String.append_assoc]
  exact isIndented_append _

def headings : List String := ["Grammars:", "Generated files:"]

theorem labels_not_headings : ∀ label ∈ labels, ∀ heading ∈ headings,
    ¬(labelText label).toList <+: heading.toList := by decide

theorem heading_not_mem_fields {heading : String} (h : heading ∈ headings) (p : Project) :
    heading ∉ (labelled p).map fun f => fieldLine f.1 f.2 := by
  intro hm
  obtain ⟨f, hf, rfl⟩ := List.mem_map.1 hm
  refine labels_not_headings f.1 (label_mem hf) _ h ?_
  rw [fieldLine_eq, String.toList_append]
  exact List.prefix_append _ _

theorem listed_grammars (p : Project) (extension : String) :
    listed "Grammars:" (projectLines p extension) = p.grammars.map grammarLine := by
  rw [projectLines_eq]
  refine listed_section (heading_not_mem_fields (by decide) p) ?_ ?_
  · intro line hline
    obtain ⟨g, -, rfl⟩ := List.mem_map.1 hline
    exact isIndented_grammarLine g
  · intro line hline
    cases hline
    rfl

theorem listed_files (p : Project) (extension : String) :
    listed "Generated files:" (projectLines p extension) =
      (p.generatedFiles extension).map ("  " ++ ·) := by
  rw [projectLines_eq, ← List.append_nil (_ ++ "Generated files:" :: _)]
  refine listed_section ?_ ?_ ?_
  · intro hm
    rcases List.mem_append.1 hm with hm | hm
    · exact heading_not_mem_fields (by decide) p hm
    · rcases List.mem_cons.1 hm with he | hm
      · exact absurd he (by decide)
      · obtain ⟨g, -, hg⟩ := List.mem_map.1 hm
        have hindented := isIndented_grammarLine g
        rw [hg] at hindented
        cases hindented
  · intro line hline
    obtain ⟨file, -, rfl⟩ := List.mem_map.1 hline
    exact isIndented_append _
  · intro line hline
    cases hline

/-! ## Names -/

theorem exists_parserBase {p : Project} {name : String} (h : p.parserName = .ok name) :
    ∃ base, p.parserBaseName = .ok base ∧ name = base ++ "Parser" := by
  cases hbase : p.parserBaseName with
  | error f =>
    rw [Project.parserName, hbase] at h
    cases h
  | ok base =>
    rw [Project.parserName_of_base hbase] at h
    cases h
    exact ⟨base, rfl, rfl⟩

/-- A parser never looks like what does not end in its suffix. -/
theorem parserName_ne {missing : String} (hmissing : ¬EndsIn "Parser" missing) {p : Project}
    {name : String} (h : p.parserName = .ok name) : name ≠ missing := by
  obtain ⟨base, -, rfl⟩ := exists_parserBase h
  rintro rfl
  exact hmissing (EndsIn.append _ _)

theorem lexerName_ne {missing : String} (hmissing : ¬EndsIn "Lexer" missing) {p : Project}
    {name : String} (h : p.lexerName = .ok name) : name ≠ missing := by
  cases hbase : p.lexerBaseName with
  | error f =>
    rw [Project.lexerName, hbase] at h
    cases h
  | ok base =>
    rw [Project.lexerName_of_base hbase] at h
    cases h
    rintro rfl
    exact hmissing (EndsIn.append _ _)

theorem listenerName_ne {missing : String} (hmissing : ¬EndsIn "Listener" missing) {p : Project}
    {name : String} (h : p.listenerName = .ok name) : name ≠ missing := by
  cases hgrammar : p.listenerGrammar? with
  | none =>
    rw [Project.listenerName, hgrammar] at h
    cases h
  | some g =>
    rw [Project.listenerName_of_grammar hgrammar] at h
    cases h
    rintro rfl
    exact hmissing (EndsIn.append _ _)

theorem ofResult_eq (name : Except Failure String) :
    Literal.ofResult name = name.toOption.elim .null .text := by
  cases name <;> rfl

theorem nameOrNot_eq (name : Except Failure String) :
    nameOrNot name = name.toOption.getD notAvailable := by
  cases name <;> rfl

theorem shown_eq_missing_iff {name : Except Failure String} {missing : String}
    (h : ∀ s, name = .ok s → s ≠ missing) :
    name.toOption.getD missing = missing ↔ name.toOption = none := by
  cases name with
  | ok s => simpa [Except.toOption] using h s rfl
  | error f => simp [Except.toOption]

/-! ## Rows -/

def parserColumn (p : Project) : String :=
  match p.parserName with
  | .ok name => name
  | .error f => "(" ++ f.message ++ ")"

def columnsOf (descriptor : Path) (p : Project) : Columns :=
  ⟨descriptor.toString, if p.usesPlugin then "plugin" else "-", toString p.grammars.length,
    parserColumn p⟩

theorem projectRow_eq_row (descriptor : Path) (p : Project) :
    projectRow descriptor p = (columnsOf descriptor p).row := rfl

theorem spaced_missingParser (file : String) :
    Spaced ("(" ++ (Failure.missingParser file).message ++ ")").toList := by
  have hmessage : (Failure.missingParser file).message =
      (Literal.text file).display ++ " does not contain a " ++ "parser" := rfl
  have hquoted : Spaced (Literal.text file).display.toList := by
    rw [Literal.display, String.toList_ofList, Literal.shown]
    exact spaced_of_printable (Text.printable_quoteList _)
  simp only [hmessage, String.toList_append, spaced_append]
  exact ⟨⟨by decide, ⟨hquoted, by decide⟩, by decide⟩, by decide⟩

theorem parserColumn_cases (p : Project) :
    (∃ name, p.parserName = .ok name ∧ parserColumn p = name) ∨
      p.parserName.toOption = none ∧
        parserColumn p = "(" ++ (Failure.missingParser p.fileName).message ++ ")" := by
  unfold parserColumn
  cases h : p.parserName with
  | ok name => exact .inl ⟨name, rfl, rfl⟩
  | error f =>
    have hlacks := p.names_fail_iff.1.1 ⟨f, h⟩
    rw [hlacks.names.1] at h
    cases h
    exact .inr ⟨rfl, rfl⟩

theorem parserColumn_eq (p : Project) : parserColumn p =
    p.parserName.toOption.getD ("(" ++ (Failure.missingParser p.fileName).message ++ ")") := by
  rcases parserColumn_cases p with ⟨name, hname, hcolumn⟩ | ⟨hnone, hcolumn⟩
  · rw [hcolumn, hname]
    rfl
  · rw [hcolumn, hnone]
    rfl

theorem isWord_parserName {p : Project} (hwords : ∀ g ∈ p.grammars, IsWord g.name) {name : String}
    (h : p.parserName = .ok name) : IsWord name := by
  obtain ⟨base, hbase, rfl⟩ := exists_parserBase h
  have hsuffix : IsWord "Parser" := by decide
  refine IsWord.append ?_ hsuffix
  rcases Project.parser_cases p with ⟨-, -, hb⟩ | ⟨g, hg, -, ⟨-, hb⟩ | ⟨-, hb⟩⟩
  · rw [hb] at hbase
    cases hbase
  · rw [hb] at hbase
    cases hbase
    exact (hwords g hg).stem "Parser"
  · rw [hb] at hbase
    cases hbase
    exact hwords g hg

/-- The last column holds no white space but U+0020, whatever the descriptor and the grammars
are called. -/
theorem spaced_parserColumn {p : Project} (hwords : ∀ g ∈ p.grammars, IsWord g.name) :
    Spaced (parserColumn p).toList := by
  rcases parserColumn_cases p with ⟨name, hname, hcolumn⟩ | ⟨-, hcolumn⟩ <;> rw [hcolumn]
  · exact spaced_of_forall (isWord_parserName hwords hname)
  · exact spaced_missingParser p.fileName

/-! ## Files -/

theorem exists_parts_of_mem {p : Project} {extension file : String}
    (h : file ∈ p.generatedFiles extension) :
    ∃ g ∈ p.grammars, ∃ part ∈ g.fileParts, file = part.1 ++ part.2 ++ extension := by
  obtain ⟨g, hg, hfile⟩ := Project.mem_generatedFiles.1 h
  rw [Grammar.files_eq_map] at hfile
  obtain ⟨part, hpart, rfl⟩ := List.mem_map.1 hfile
  exact ⟨g, hg, part, hpart, rfl⟩

/-- What the name of a file starts with is free of blanks, if the name of the grammar is. -/
theorem blank_not_mem_part {g : Grammar} (hword : IsWord g.name) {part : String × String}
    (h : part ∈ g.fileParts) : ' ' ∉ part.1.toList := by
  have hname := Text.blank_not_mem_lowered (hword.not_mem (c := ' ') (by decide))
  have hstem (suffix : String) :=
    Text.blank_not_mem_lowered ((hword.stem suffix).not_mem (c := ' ') (by decide))
  unfold Grammar.fileParts at h
  cases hk : g.kind with
  | parser =>
    simp only [hk, List.mem_cons, List.not_mem_nil, or_false] at h
    rcases h with rfl | rfl | rfl
    · exact hname
    · exact hname
    · exact hstem "Parser"
  | lexer =>
    simp only [hk, List.mem_singleton] at h
    obtain rfl := h
    exact hstem "Lexer"
  | combined =>
    simp only [hk, List.mem_cons, List.not_mem_nil, or_false] at h
    rcases h with rfl | rfl | rfl | rfl <;> exact hname

/-- An underscore behind a text without blanks does not stand in the remark, which has a blank. -/
theorem ne_remark {l r : List Char} (h : ' ' ∉ l) (m : List Char) :
    l ++ '_' :: r ≠ "n/a (".toList ++ m := by
  intro he
  match l with
  | [] => simp at he
  | [_] => simp at he
  | [_, _] => simp at he
  | [_, _, _] => simp at he
  | _ :: _ :: _ :: d :: _ =>
    simp at he h
    exact h.2.2.2.1 he.2.2.2.1.symm

/-- A file is never a remark that there are none. -/
theorem file_ne_remark {p : Project} (hwords : ∀ g ∈ p.grammars, IsWord g.name)
    {extension file : String} (h : file ∈ p.generatedFiles extension) (reason : String) :
    "  " ++ file ≠ "  n/a (" ++ reason ++ ")" := by
  obtain ⟨g, hg, part, hpart, rfl⟩ := exists_parts_of_mem h
  obtain ⟨rest, hrest⟩ : ∃ rest, part.2.toList = '_' :: rest := by
    have hending := Grammar.mem_endings hpart
    simp only [Grammar.endings, List.mem_cons, List.not_mem_nil, or_false] at hending
    rcases hending with he | he | he | he <;> rw [he] <;> exact ⟨_, rfl⟩
  have hsplit : ("  " ++ (part.1 ++ part.2 ++ extension)).toList =
      "  ".toList ++ (part.1.toList ++ '_' :: (rest ++ extension.toList)) := by simp [hrest]
  have hremark : ("  n/a (" ++ reason ++ ")").toList =
      "  ".toList ++ ("n/a (".toList ++ (reason ++ ")").toList) := by simp
  intro he
  have he := congrArg String.toList he
  rw [hsplit, hremark] at he
  exact ne_remark (blank_not_mem_part (hwords g hg) hpart) _ (List.append_cancel_left he)

/-! ## Agreement -/

theorem name_agrees (p : Project) (label : String) {name : Except Failure String}
    (hlabel : label ∈ labels) (hvalue : (labelled p).lookup label = some (nameOrNot name))
    (hname : ∀ s, name = .ok s → s ≠ notAvailable) (extension : String) :
    ∃ shown : Option String, Literal.ofResult name = shown.elim .null .text ∧
      valueOf? label (projectLines p extension) = some (shown.getD notAvailable) ∧
      (valueOf? label (projectLines p extension) = some notAvailable ↔ shown = none) := by
  have hshown := valueOf?_projectLines hlabel hvalue extension
  rw [nameOrNot_eq] at hshown
  refine ⟨name.toOption, ofResult_eq name, hshown, ?_⟩
  rw [hshown, Option.some_inj]
  exact shown_eq_missing_iff hname

/-- **The renderings of a project agree**, if its grammars have words for names. -/
theorem agree_of_words {p : Project} (hwords : ∀ g ∈ p.grammars, IsWord g.name)
    (extension : String) (descriptor : Path) {fields : List (String × Literal)}
    (hfields : ∀ key v, (p.fields extension).lookup key = some v → fields.lookup key = some v) :
    Agree extension fields (projectLines p extension) (columnsOf descriptor p) := by
  constructor
  case plugin =>
    exact ⟨p.usesPlugin, hfields _ _ rfl, valueOf?_projectLines (by decide) rfl extension, rfl⟩
  case names =>
    intro entry hentry
    simp only [derivedNames, List.mem_cons, List.not_mem_nil, or_false] at hentry
    rcases hentry with rfl | rfl | rfl
    · obtain ⟨name, hname, hvalue⟩ := name_agrees p "Parser" (by decide) rfl
        (fun _ => parserName_ne (by decide)) extension
      exact ⟨name, hname ▸ hfields _ _ (p.lookup_parserName extension), hvalue⟩
    · obtain ⟨name, hname, hvalue⟩ := name_agrees p "Lexer" (by decide) rfl
        (fun _ => lexerName_ne (by decide)) extension
      exact ⟨name, hname ▸ hfields _ _ (p.lookup_lexerName extension), hvalue⟩
    · obtain ⟨name, hname, hvalue⟩ := name_agrees p "Listener" (by decide) rfl
        (fun _ => listenerName_ne (by decide)) extension
      exact ⟨name, hname ▸ hfields _ _ (p.lookup_listenerName extension), hvalue⟩
  case parser =>
    refine ⟨p.parserName.toOption, p.fileName, ?_, hfields _ _ rfl, parserColumn_eq p, ?_⟩
    · rw [← ofResult_eq]
      exact hfields _ _ (p.lookup_parserName extension)
    · show parserColumn p = _ ↔ _
      rw [parserColumn_eq]
      apply shown_eq_missing_iff
      intro name hname
      -- A parser ends in a letter, what stands for a missing one in a bracket.
      exact parserName_ne (EndsIn.not_append (by decide) (by decide) _) hname
  case grammars => exact ⟨p.grammars, hfields _ _ rfl, listed_grammars p extension, rfl⟩
  case files =>
    refine ⟨p.generatedFiles extension, hfields _ _ (p.lookup_generatedFiles extension), ?_,
      listed_files p extension, ?_⟩
    · intro file hfile
      obtain ⟨g, -, part, -, rfl⟩ := exists_parts_of_mem hfile
      exact EndsIn.append _ _
    · intro reason hm
      rw [listed_files] at hm
      obtain ⟨file, hfile, he⟩ := List.mem_map.1 hm
      exact file_ne_remark hwords hfile reason he
  case separate => exact (spaced_parserColumn hwords).not_mem (by decide) (by decide)

end GrammarProject.Command
