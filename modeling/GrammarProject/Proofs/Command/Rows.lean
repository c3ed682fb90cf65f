import GrammarProject.Proofs.Command.Renderings

/-!
# Rows of a scan

The fields of a row hold no tab and nothing that ends a line, unless it comes from the path of the
descriptor: what comes from files is a word or quoted (`spaced_fields`). A path holds what the names
of the tree hold and what the scan was asked for (`lacks_of_mem_foundBy`). So what a scan writes is
cut into its rows at the line ends, and a row into its fields at the tabs (`scan_writes_rows`).
-/

namespace GrammarProject

/-- No name in the tree holds the character. -/
def FileTree.Lacks (t : FileTree) (c : Char) : Prop :=
  ∀ place ∈ t.workingDirectory :: t.entries.map (·.1), ∀ name ∈ place, c ∉ name.toList

instance (t : FileTree) (c : Char) : Decidable (t.Lacks c) := by
  unfold FileTree.Lacks
  infer_instance

theorem FileTree.Lacks.of_hasName {t : FileTree} {c : Char} (h : t.Lacks c) {name : String}
    (hname : t.HasName name) : c ∉ name.toList := by
  obtain ⟨place, hplace, hname⟩ := hname
  exact h place hplace name hname

/-- What commands expect: failures of the library's own and of the file system. -/
theorem Failure.isExpected_iff (f : Failure) : f.isExpected = true ↔
    .general ∈ f.report.category.lineage ∨ ∃ fault, f.report.category = .system fault := by
  rw [Failure.isExpected, Report.exitCode?]
  cases f.report.category <;> simp [Category.exitCode?, Category.lineage, Category.parent?]

namespace Command

open Descriptor (Reading)

variable {t : FileTree} {request : ScanRequest} {c : Char}

/-! ## Rows and fields -/

def rowFields (descriptor : Path) (p : Project) : List String :=
  [descriptor.toString, if p.usesPlugin then "plugin" else "-", toString p.grammars.length,
    parserColumn p]

theorem projectRow_eq_append (descriptor : Path) (p : Project) :
    projectRow descriptor p = descriptor.toString ++ "\t" ++
      (if p.usesPlugin then "plugin" else "-") ++ "\t" ++ toString p.grammars.length ++ "\t" ++
      parserColumn p := rfl

theorem not_mem_row {descriptor : Path} {p : Project}
    (h : ∀ field ∈ rowFields descriptor p, c ∉ field.toList) (hc : c ≠ '\t') :
    c ∉ (projectRow descriptor p).toList := by
  rw [rowFields, List.forall_mem_cons, List.forall_mem_cons, List.forall_mem_cons,
    List.forall_mem_cons] at h
  obtain ⟨hpath, hplugin, hcount, hparser, -⟩ := h
  have htab : c ∉ "\t".toList := by simpa using hc
  simp only [projectRow_eq_append, String.toList_append, List.mem_append, not_or]
  exact ⟨⟨⟨⟨⟨⟨hpath, htab⟩, hplugin⟩, htab⟩, hcount⟩, htab⟩, hparser⟩

/-- What a row tells of a project is spaced, if the grammars have words for names. -/
theorem spaced_fields {p : Project} (hwords : ∀ g ∈ p.grammars, IsWord g.name)
    (descriptor : Path) : ∀ field ∈ (rowFields descriptor p).tail, Spaced field.toList := by
  intro field hfield
  simp only [rowFields, List.tail_cons, List.mem_cons, List.not_mem_nil, or_false] at hfield
  rcases hfield with rfl | rfl | rfl
  · split <;> decide
  · exact spaced_of_printable (Text.printable_natText _)
  · exact spaced_parserColumn hwords

/-! ## Cutting -/

theorem splitOn_intercalate {fields : List String} (hne : fields ≠ [])
    (h : ∀ field ∈ fields, '\t' ∉ field.toList) :
    ("\t".intercalate fields).toList.splitOn '\t' = fields.map String.toList := by
  rw [String.toList_intercalate]
  refine List.splitOn_intercalate '\t' ?_ (by simpa using hne)
  rintro _ hm
  obtain ⟨field, hfield, rfl⟩ := List.mem_map.1 hm
  exact h field hfield

theorem fed_eq_intercalate (texts : List String) :
    fed texts = ['\n'].intercalate (texts.map String.toList ++ [[]]) := by
  induction texts with
  | nil => rfl
  | cons text texts ih =>
    obtain ⟨next, rest, hrest⟩ := List.exists_cons_of_ne_nil
      (show texts.map String.toList ++ [[]] ≠ [] by simp)
    rw [List.map_cons, List.cons_append, hrest, List.intercalate_cons_cons, ← hrest, ← ih]
    simp [fed]

theorem splitOn_fed {texts : List String} (h : ∀ text ∈ texts, '\n' ∉ text.toList) :
    (fed texts).splitOn '\n' = texts.map String.toList ++ [[]] := by
  rw [fed_eq_intercalate]
  refine List.splitOn_intercalate '\n' ?_ (by simp)
  intro line hline
  rcases List.mem_append.1 hline with hline | hline
  · obtain ⟨text, htext, rfl⟩ := List.mem_map.1 hline
    exact h text htext
  · rw [List.mem_singleton.1 hline]
    exact List.not_mem_nil

/-! ## The descriptors of a scan -/

section
variable [Platform]

/-- The descriptors that a scan finds, none if the search for them is refused. -/
def foundBy (t : FileTree) (request : ScanRequest) : List Path :=
  (Descriptor.search t request.root request.name).toOption.getD []

/-- The descriptors that can be read, each with what it says. -/
def readable (t : FileTree) (request : ScanRequest) : List (Path × Reading) :=
  (foundBy t request).filterMap fun p => (readingOf t request.target p).toOption.map (p, ·)

theorem mem_readable {p : Path} {r : Reading} : (p, r) ∈ readable t request ↔
    p ∈ foundBy t request ∧ readingOf t request.target p = .ok r := by
  simp only [readable, List.mem_filterMap, Option.map_eq_some_iff, Prod.mk.injEq]
  constructor
  · rintro ⟨_, hp, _, hr, rfl, rfl⟩
    exact ⟨hp, ok_of_toOption hr⟩
  · rintro ⟨hp, hr⟩
    exact ⟨p, hp, r, by rw [hr]; rfl, rfl, rfl⟩

theorem ordered_readable
    (h : (foundBy t request).Pairwise fun p q => p.key < q.key) :
    (readable t request).Pairwise fun x y => x.1.key < y.1.key := by
  refine h.filterMap _ fun p q hlt x hx y hy => ?_
  obtain ⟨_, -, rfl⟩ := Option.map_eq_some_iff.1 hx
  obtain ⟨_, -, rfl⟩ := Option.map_eq_some_iff.1 hy
  exact hlt

theorem foundBy_spec (ht : t.IsProper) :
    (foundBy t request).Pairwise (fun p q => p.key < q.key) ∧
      ∀ p ∈ foundBy t request, ∀ part ∈ p.parts, part ∈ (Path.ofString request.root).parts ∨
        t.HasName part ∨ part ∈ (Path.ofString request.name).parts := by
  unfold foundBy Descriptor.search
  cases hsearch : Glob.search t (.ofString request.root) request.name with
  | error e => exact ⟨.nil, fun p hp => absurd hp List.not_mem_nil⟩
  | ok found => exact Glob.search_ok ht (Path.wellFormed_ofString _) hsearch

/-- The request asks for nothing that holds the character. -/
def ScanRequest.Lacks (request : ScanRequest) (c : Char) : Prop :=
  c ∉ request.root.toList ∧ c ∉ request.name.toList

instance (request : ScanRequest) (c : Char) : Decidable (request.Lacks c) :=
  inferInstanceAs (Decidable (_ ∧ _))

/-- White space in the path of a descriptor is that of a name in the tree or of the request. -/
theorem lacks_of_mem_foundBy (ht : t.IsProper) (hc : Text.isBlank c = true) (htree : t.Lacks c)
    (hrequest : request.Lacks c) {p : Path} (hp : p ∈ foundBy t request) :
    c ∉ p.toString.toList := by
  intro hm
  rw [Path.toString, String.toList_ofList] at hm
  rcases Path.mem_text hm with rfl | rfl | ⟨part, hpart, hm⟩
  · exact absurd hc (by decide)
  · exact absurd hc (by decide)
  · rcases (foundBy_spec ht).2 p hp part hpart with hpart | hpart | hpart
    · exact hrequest.1 (Path.subset_of_mem_parts hpart hm)
    · exact htree.of_hasName hpart hm
    · exact hrequest.2 (Path.subset_of_mem_parts hpart hm)

/-- The fields of a row hold no white space that is not in the tree or the request, but for
U+0020. -/
theorem not_mem_fields (ht : t.IsProper) (hc : Text.isBlank c = true) (hne : c ≠ ' ')
    (htree : t.Lacks c) (hrequest : request.Lacks c) {x : Path × Reading}
    (hx : x ∈ readable t request) : ∀ field ∈ rowFields x.1 x.2.project, c ∉ field.toList := by
  obtain ⟨hp, hr⟩ := mem_readable.1 hx
  have hwords := fun g => Descriptor.isWord_of_parse (g := g) hr
  have htail := spaced_fields hwords x.1
  intro field hfield
  rcases List.mem_cons.1 hfield with rfl | hfield
  · exact lacks_of_mem_foundBy ht hc htree hrequest hp
  · exact (htail field hfield).not_mem hc hne

/-! ## What a scan writes -/

/-- What does not end a scan: a descriptor whose failure, if any, is the library's own or one of
the file system. -/
theorem interruption?_isNone_iff {target : Target} {p : Path} :
    (interruption? t target p).isNone = true ↔ ∀ f, readingOf t target p = .error f →
      .general ∈ f.report.category.lineage ∨ ∃ fault, f.report.category = .system fault := by
  simp only [← Failure.isExpected_iff]
  cases h : readingOf t target p with
  | ok r => simp [interruption?_of_ok h]
  | error f => cases hf : f.isExpected <;> simp [interruption?_of_error h, hf]

theorem outputs_scan
    (h : ∀ p ∈ foundBy t request, (interruption? t request.target p).isNone = true) :
    outputs (scan t request).lines =
      (readable t request).map fun x => projectRow x.1 x.2.project := by
  have hrows : (readable t request).map (fun x => projectRow x.1 x.2.project) =
      (foundBy t request).filterMap (row? t request.target) := by
    rw [readable, List.map_filterMap]
    refine List.filterMap_congr fun p _ => ?_
    rw [Option.map_map]
    rfl
  rw [hrows]
  cases hsearch : Descriptor.search t request.root request.name with
  | error f => simp [scan, foundBy, hsearch, outputs_ofReport, Except.toOption]
  | ok found =>
    have hfound : foundBy t request = found := by rw [foundBy, hsearch]; rfl
    rw [hfound] at h ⊢
    rw [(scan_outputs hsearch).1, List.takeWhile_eq_self_iff.2 h]

omit [Platform] in
theorem plainText_row (descriptor : Path) (p : Project) : plainText (projectRow descriptor p) =
    "\t".intercalate ((rowFields descriptor p).map plainText) := by
  have hplugin : plainText (if p.usesPlugin then "plugin" else "-") =
      if p.usesPlugin then "plugin" else "-" := by
    split <;> exact plainText_of_clean (by decide)
  rw [projectRow_eq_append, plainText_append_tab, plainText_append_tab, plainText_append_tab]
  simp only [rowFields, List.map_cons, List.map_nil, hplugin,
    plainText_of_clean (clean_natText _)]
  rfl

omit [Platform] in
/-- The last field of a row is spaced, so the row ends in no carriage return. -/
theorem getLast?_plainText_row {p : Project} (hwords : ∀ g ∈ p.grammars, IsWord g.name)
    (descriptor : Path) : (plainText (projectRow descriptor p)).toList.getLast? ≠ some '\r' := by
  have hparser : '\r' ∉ (plainText (parserColumn p)).toList :=
    not_mem_plainText ((spaced_fields hwords descriptor _ (by simp [rowFields])).not_mem
      (by decide) (by decide))
  rw [projectRow_eq_append, plainText_append_tab, String.toList_append, String.toList_append,
    List.append_assoc, List.getLast?_append_of_ne_nil _ (by simp)]
  intro hlast
  rcases List.mem_append.1 (List.mem_of_getLast? hlast) with hm | hm
  · exact absurd hm (by decide)
  · exact hparser hm

/-- **A scan writes one line for each descriptor that can be read**, in the order of paths, unless
one fails in a way that commands do not expect: with a failure that is neither the library's own nor
one of the file system. A line is cut at its tabs into the path, whether the project uses the
plugin, the number of grammars, and the parser or why there is none. This needs that no name in the
tree, nor what the scan is asked for, holds a tab or a line feed; whatever the files hold, they add
neither, nor other white space but U+0020. On the standard output a row is a line of its own if
texts are shown as they are; on a stream like those of the standard platform each field is without
escape sequences. -/
theorem scan_writes_rows (ht : t.IsProper) (htabs : t.Lacks '\t' ∧ request.Lacks '\t')
    (hfeeds : t.Lacks '\n' ∧ request.Lacks '\n')
    (hexpected : ∀ p ∈ foundBy t request, ∀ f,
      Descriptor.parse t p.toString request.target grammarEncoding = .error f →
        .general ∈ f.report.category.lineage ∨ ∃ fault, f.report.category = .system fault) :
    let rows := readable t request
    let row (x : Path × Reading) := projectRow x.1 x.2.project
    let fields (x : Path × Reading) := rowFields x.1 x.2.project
    rows.Pairwise (fun x y => x.1.key < y.1.key) ∧
      (∀ p r, (p, r) ∈ rows ↔ p ∈ foundBy t request ∧
        Descriptor.parse t p.toString request.target grammarEncoding = .ok r) ∧
      (fed (outputs (scan t request).lines)).splitOn '\n' =
        rows.map (fun x => (row x).toList) ++ [[]] ∧
      ((∀ texts, Platform.stream (texts.map .shown) = String.ofList (fed texts)) →
        (scan t request).standardOutput.toList.splitOn '\n' =
          rows.map (fun x => (row x).toList) ++ [[]]) ∧
      ((∀ written, Platform.stream written = Platform.Standard.stream written) →
        (scan t request).standardOutput.toList.splitOn '\n' =
          rows.map (fun x => (plainText (row x)).toList) ++ [[]]) ∧
      ∀ x ∈ rows, (row x).toList.splitOn '\t' = (fields x).map String.toList ∧
        (plainText (row x)).toList.splitOn '\t' =
          (fields x).map (fun field => (plainText field).toList) ∧
        ∀ c, Text.isBlank c = true → c ≠ ' ' → t.Lacks c → request.Lacks c →
          ∀ field ∈ fields x, c ∉ field.toList := by
  intro rows row fields
  have houtputs := outputs_scan fun p hp => interruption?_isNone_iff.2 (hexpected p hp)
  have hfields : ∀ x ∈ rows, ∀ c, Text.isBlank c = true → c ≠ ' ' → t.Lacks c → request.Lacks c →
      ∀ field ∈ fields x, c ∉ field.toList :=
    fun x hx c hc hne htree hrequest => not_mem_fields ht hc hne htree hrequest hx
  have htab : ∀ x ∈ rows, ∀ field ∈ fields x, '\t' ∉ field.toList := fun x hx =>
    hfields x hx '\t' (by decide) (by decide) htabs.1 htabs.2
  have hfeed : ∀ x ∈ rows, '\n' ∉ (row x).toList := fun x hx =>
    not_mem_row (hfields x hx '\n' (by decide) (by decide) hfeeds.1 hfeeds.2) (by decide)
  have hhanded : (fed (outputs (scan t request).lines)).splitOn '\n' =
      rows.map (fun x => (row x).toList) ++ [[]] := by
    rw [houtputs, splitOn_fed, List.map_map]
    · rfl
    · intro text htext
      obtain ⟨x, hx, rfl⟩ := List.mem_map.1 htext
      exact hfeed x hx
  refine ⟨ordered_readable (foundBy_spec ht).1, fun p r => mem_readable, hhanded,
    fun hstream => ?shown, fun hstream => ?plain, fun x hx => ⟨?_, ?_, hfields x hx⟩⟩
  case shown =>
    rw [Transcript.standardOutput, hstream, String.toList_ofList]
    exact hhanded
  case plain =>
    have hshown : ∀ text ∈ rows.map fun x => plainText (row x),
        '\n' ∉ text.toList ∧ text.toList.getLast? ≠ some '\r' := by
      intro text htext
      obtain ⟨x, hx, rfl⟩ := List.mem_map.1 htext
      have hr := (mem_readable.1 hx).2
      have hwords := fun g => Descriptor.isWord_of_parse (g := g) hr
      exact ⟨not_mem_plainText (hfeed x hx), getLast?_plainText_row hwords x.1⟩
    have hplain : (outputs (scan t request).lines).map plainText =
        rows.map fun x => plainText (row x) := by
      rw [houtputs, List.map_map]
      rfl
    have hfree := fun text htext => (hshown text htext).1
    rw [standardOutput_standard hstream, String.toList_ofList, hplain,
      plainBreaks_fed hfree fun text htext => (hshown text htext).2, splitOn_fed hfree, List.map_map]
    rfl
  · exact splitOn_intercalate (by simp) (htab x hx)
  · show (plainText (projectRow x.1 x.2.project)).toList.splitOn '\t' = _
    rw [plainText_row, splitOn_intercalate (by simp [rowFields]), List.map_map]
    · rfl
    · intro field hfield
      obtain ⟨part, hpart, rfl⟩ := List.mem_map.1 hfield
      exact not_mem_plainText (htab x hx part hpart)

end

section
open scoped Platform

/-- Three descriptors, one of which is not well-formed. The header of the grammar is written with
tabs and a line separator, and another directory has a quote in its name. -/
def mixed : FileTree :=
  ⟨[(["a b", "pom.xml"], .file (Text.utf8Bytes "<p><include>F.g4</include></p>".toList)),
    (["a b", "F.g4"], .file (Text.utf8Bytes "\tgrammar\t\u2028Foo\u2028;\n".toList)),
    (["c", "pom.xml"], .file (Text.utf8Bytes "<p".toList)),
    (["d'", "pom.xml"], .file (Text.utf8Bytes "<p/>".toList))], []⟩

theorem scan_writes_rows_mixed :
    let request : ScanRequest := ⟨".", .go, "pom.xml", false⟩
    mixed.IsProper ∧ (mixed.Lacks '\t' ∧ request.Lacks '\t') ∧
      (mixed.Lacks '\n' ∧ request.Lacks '\n') ∧
      foundBy mixed request = ["a b/pom.xml", "c/pom.xml", "d'/pom.xml"].map .ofString ∧
      (∀ p ∈ foundBy mixed request, ∀ f,
        Descriptor.parse mixed p.toString request.target grammarEncoding = .error f →
          .general ∈ f.report.category.lineage ∨ ∃ fault, f.report.category = .system fault) ∧
      (scan mixed request).standardOutput.toList.splitOn '\n' =
        ["a b/pom.xml\t-\t1\tFooParser".toList,
          "d'/pom.xml\t-\t0\t(\"d'/pom.xml\" does not contain a parser)".toList, []] ∧
      (readable mixed request).Pairwise fun x y => x.1.key < y.1.key := by
  intro request
  have hsearch : Descriptor.search mixed request.root request.name =
      .ok (["a b/pom.xml", "c/pom.xml", "d'/pom.xml"].map .ofString) :=
    search_of_select (ok_of_toOption (a := [.name "pom.xml"]) (by decide))
      (ok_of_toOption (by decide +kernel)) (ok_of_toOption (by decide +kernel)) (by decide)
  have hfound : foundBy mixed request =
      ["a b/pom.xml", "c/pom.xml", "d'/pom.xml"].map .ofString := by
    rw [foundBy, hsearch]
    rfl
  obtain ⟨hnone, hrows⟩ :
      (∀ p ∈ foundBy mixed request, (interruption? mixed request.target p).isNone = true) ∧
        (readable mixed request).map (fun x => (plainText (projectRow x.1 x.2.project)).toList) ++
          [[]] = ["a b/pom.xml\t-\t1\tFooParser".toList,
            "d'/pom.xml\t-\t0\t(\"d'/pom.xml\" does not contain a parser)".toList, []] := by
    rw [readable, hfound, String.toList_ofList, String.toList_ofList]
    decide +kernel
  have hexpected := fun p hp => interruption?_isNone_iff.1 (hnone p hp)
  have hproper : mixed.IsProper := by decide
  have htabs : mixed.Lacks '\t' ∧ request.Lacks '\t' := by decide
  have hfeeds : mixed.Lacks '\n' ∧ request.Lacks '\n' := by decide
  obtain ⟨hordered, -, -, -, hlines, -⟩ := scan_writes_rows hproper htabs hfeeds hexpected
  exact ⟨hproper, htabs, hfeeds, hfound, hexpected, (hlines fun _ => rfl).trans hrows, hordered⟩

end

end Command

end GrammarProject
