import GrammarProject.Proofs.Project.Names

/-!
# Making projects

A draft makes a project just if no include and no kind of grammar is in it twice
(`Draft.build_cases`); the project has all that the draft has (`Draft.toDraft_build`). A repeated
include is told whatever else is wrong, and repeated kinds are told in the order of their names.
As no two grammars of a project are of one kind, a grammar is found by its kind wherever it stands,
and nothing but the order of the files depends on the order of the grammars (`Reordered`).
-/

namespace GrammarProject

namespace Draft

variable {d : Draft}

/-! ## Repeated kinds -/

theorem mem_repeatedKinds {k : Grammar.Kind} : k ∈ d.repeatedKinds ↔ 1 < d.kinds.count k := by
  simp [repeatedKinds, Grammar.Kind.mem_all]

theorem repeatedKinds_eq_nil_iff : d.repeatedKinds = [] ↔ d.kinds.Nodup := by
  refine ⟨kinds_nodup, fun h => List.eq_nil_iff_forall_not_mem.2 fun k hk => ?_⟩
  have hcount := List.nodup_iff_count.1 h k
  have hrepeated := mem_repeatedKinds.1 hk
  omega

theorem repeatedKinds_ascending (d : Draft) :
    (d.repeatedKinds.map Grammar.Kind.name).Pairwise (· < ·) := by
  have hall : (Grammar.Kind.all.map Grammar.Kind.name).Pairwise (· < ·) := by decide
  exact hall.sublist (List.filter_sublist.map _)

/-! ## Filling a draft -/

theorem foldl_addInclude (paths : List Path) (d : Draft) :
    paths.foldl addInclude d = { d with includes := d.includes ++ paths } := by
  induction paths generalizing d with
  | nil => simp
  | cons path paths ih =>
    rw [List.foldl_cons, ih]
    simp [addInclude]

theorem foldl_addGrammar (grammars : List Grammar) (d : Draft) :
    grammars.foldl addGrammar d = { d with grammars := d.grammars ++ grammars } := by
  induction grammars generalizing d with
  | nil => simp
  | cons g grammars ih =>
    rw [List.foldl_cons, ih]
    simp [addGrammar]

/-! ## Making a project -/

/-- What becomes of a draft. -/
theorem build_cases (d : Draft) :
    (d.includes.Nodup ∧ d.kinds.Nodup ∧ ∃ p, d.build = .ok p ∧ p.toDraft = d) ∨
      (¬d.includes.Nodup ∧ d.build = .error (.repeatedInclude d.fileName)) ∨
      (d.includes.Nodup ∧ ¬d.kinds.Nodup ∧
        d.build = .error (.repeatedKind d.fileName d.repeatedKinds)) := by
  by_cases hi : d.includes.Nodup
  · by_cases hk : d.kinds.Nodup
    · have hr := repeatedKinds_eq_nil_iff.2 hk
      exact .inl ⟨hi, hk, ⟨d, hi, hk⟩, by simp [build, hi, hr], rfl⟩
    · have hr : d.repeatedKinds ≠ [] := fun hr => hk (repeatedKinds_eq_nil_iff.1 hr)
      exact .inr (.inr ⟨hi, hk, by simp [build, hi, hr]⟩)
  · exact .inr (.inl ⟨hi, by simp [build, hi]⟩)

theorem toDraft_build {p : Project} (h : d.build = .ok p) : p.toDraft = d := by
  obtain ⟨-, -, p', hp', heq⟩ | ⟨-, he⟩ | ⟨-, -, he⟩ := build_cases d
  · rw [hp'] at h
    cases h
    exact heq
  · rw [he] at h
    cases h
  · rw [he] at h
    cases h

theorem build_toDraft (p : Project) : p.toDraft.build = .ok p := by
  have hr : p.repeatedKinds = [] := repeatedKinds_eq_nil_iff.2 p.kinds_nodup
  rw [build, dif_pos p.includes_nodup, dif_pos hr]

theorem build_of_nodup (hi : d.includes.Nodup) (hk : d.kinds.Nodup) :
    ∃ project, d.build = .ok project := by
  obtain ⟨-, -, p, hp, -⟩ | ⟨hi', -⟩ | ⟨-, hk', -⟩ := build_cases d
  · exact ⟨p, hp⟩
  · exact absurd hi hi'
  · exact absurd hk hk'

/-- A draft makes a project just if no include and no kind of grammar is in it twice. -/
theorem build_eq_ok_iff (d : Draft) :
    (∃ p, d.build = .ok p) ↔ d.includes.Nodup ∧ d.kinds.Nodup := by
  refine ⟨?_, fun ⟨hi, hk⟩ => build_of_nodup hi hk⟩
  rintro ⟨p, hp⟩
  have hd := toDraft_build hp
  exact ⟨hd ▸ p.includes_nodup, hd ▸ p.kinds_nodup⟩

end Draft

namespace Project

variable {p q : Project}

/-! ## The order of grammars -/

theorem has_iff {k : Grammar.Kind} : p.has k = true ↔ ∃ g ∈ p.grammars, g.kind = k := by
  rw [has, Option.isSome_iff_exists]
  exact exists_congr fun g => find?_eq_some_iff

/-- Two projects that differ at most in the order of their grammars. -/
structure Reordered (p q : Project) : Prop where
  perm : q.grammars.Perm p.grammars
  others : { q.toDraft with grammars := p.grammars } = p.toDraft

namespace Reordered

theorem fileName_eq (h : Reordered p q) : q.fileName = p.fileName := congrArg (·.fileName) h.others

/-- A grammar is found by its kind, wherever it stands. -/
theorem find?_eq (h : Reordered p q) (k : Grammar.Kind) : q.find? k = p.find? k := by
  refine Option.ext fun g => ?_
  rw [find?_eq_some_iff, find?_eq_some_iff, h.perm.mem_iff]

theorem parserName_eq (h : Reordered p q) : q.parserName = p.parserName := by
  simp only [parserName, parserBaseName, h.find?_eq, h.fileName_eq]

theorem lexerName_eq (h : Reordered p q) : q.lexerName = p.lexerName := by
  simp only [lexerName, lexerBaseName, h.find?_eq, h.fileName_eq]

theorem listenerName_eq (h : Reordered p q) : q.listenerName = p.listenerName := by
  simp only [listenerName, listenerGrammar?, h.find?_eq, h.fileName_eq]

theorem generatedFiles_perm (h : Reordered p q) (extension : String) :
    (q.generatedFiles extension).Perm (p.generatedFiles extension) :=
  h.perm.flatMap_right _

end Reordered

/-- The grammars of a project in another order make a project again. -/
theorem exists_reordered (p : Project) {grammars : List Grammar}
    (h : grammars.Perm p.grammars) :
    ∃ q, { p.toDraft with grammars }.build = .ok q ∧ q.grammars = grammars ∧ Reordered p q := by
  have hk : (grammars.map (·.kind)).Nodup := (h.map _).nodup_iff.2 p.kinds_nodup
  obtain ⟨q, hq⟩ := Draft.build_of_nodup (d := { p.toDraft with grammars }) p.includes_nodup hk
  have hd := Draft.toDraft_build hq
  have hg : q.grammars = grammars := congrArg (·.grammars) hd
  exact ⟨q, hq, hg, hg ▸ h, by rw [hd]⟩

/-! ## Projects and their grammars -/

/-- **What makes a project, and what is found in it.** Includes that are spelled by texts, and
grammars, whether they are put into a draft at once or added one by one, make a project just if the
texts spell different paths and the grammars are of different kinds. A path that is spelled twice is
told first; otherwise the kinds are told of which there is more than one grammar, in the order of
their names. In a project a grammar is found by its kind, and the grammars in any other order make a
project in which the same is found, with the same names and the same blocks of files. -/
theorem made_of_distinct (base : Draft) (texts : List String) (grammars : List Grammar) :
    let draft := { base with includes := texts.map Path.ofString, grammars }
    let kinds := grammars.map (·.kind)
    (base.includes = [] → base.grammars = [] →
      grammars.foldl Draft.addGrammar ((texts.map Path.ofString).foldl Draft.addInclude base) =
        draft) ∧
    ((∃ p, draft.build = .ok p) ↔ (texts.map Path.ofString).Nodup ∧ kinds.Nodup) ∧
    (∀ p, draft.build = .ok p → p.toDraft = draft) ∧
    (¬(texts.map Path.ofString).Nodup → ∃ f, draft.build = .error f ∧
      f.report.category = .value ∧
      f.message = Text.quoted base.fileName ++ " lists an include more than once") ∧
    ((texts.map Path.ofString).Nodup → ¬kinds.Nodup → ∃ f, ∃ repeated : List Grammar.Kind,
      draft.build = .error f ∧ f.report.category = .repeatedKind ∧
      f.message = Text.quoted base.fileName ++ " has more than one grammar of type " ++
        ", ".intercalate (repeated.map Grammar.Kind.name) ∧
      (∀ k, k ∈ repeated ↔ 1 < kinds.count k) ∧
      (repeated.map Grammar.Kind.name).Pairwise (· < ·)) ∧
    ∀ p : Project,
      (∀ k g, p.find? k = some g ↔ g ∈ p.grammars ∧ g.kind = k) ∧
      (∀ k, p.has k = true ↔ ∃ g ∈ p.grammars, g.kind = k) ∧
      ∀ others : List Grammar, others.Perm p.grammars →
        ∃ q, { p.toDraft with grammars := others }.build = .ok q ∧ q.grammars = others ∧
          (∀ k, q.find? k = p.find? k) ∧ q.parserName = p.parserName ∧
          q.lexerName = p.lexerName ∧ q.listenerName = p.listenerName ∧
          ∀ extension,
            q.generatedFiles extension = (others.map (·.files extension)).flatten ∧
            p.generatedFiles extension = (p.grammars.map (·.files extension)).flatten ∧
            (others.map (·.files extension)).Perm (p.grammars.map (·.files extension)) ∧
            (q.generatedFiles extension).Perm (p.generatedFiles extension) := by
  intro draft kinds
  refine ⟨fun hi hg => ?filled, draft.build_eq_ok_iff, fun p => Draft.toDraft_build,
    fun hi => ?includes, fun hi hk => ?kinds,
    fun p => ⟨fun k g => find?_eq_some_iff, fun k => has_iff, fun others h => ?reordered⟩⟩
  case filled =>
    rw [Draft.foldl_addInclude, Draft.foldl_addGrammar]
    simp [draft, hi, hg]
  case includes =>
    obtain ⟨hi', -⟩ | ⟨-, he⟩ | ⟨hi', -⟩ := draft.build_cases
    · exact absurd hi' hi
    · exact ⟨_, he, rfl, rfl⟩
    · exact absurd hi' hi
  case kinds =>
    obtain ⟨-, hk', -⟩ | ⟨hi', -⟩ | ⟨-, -, he⟩ := draft.build_cases
    · exact absurd hk' hk
    · exact absurd hi hi'
    · exact ⟨_, draft.repeatedKinds, he, rfl, rfl, fun k => Draft.mem_repeatedKinds,
        draft.repeatedKinds_ascending⟩
  case reordered =>
    obtain ⟨q, hq, rfl, hr⟩ := p.exists_reordered h
    exact ⟨q, hq, rfl, hr.find?_eq, hr.parserName_eq, hr.lexerName_eq, hr.listenerName_eq,
      fun extension => ⟨List.flatMap_def, List.flatMap_def, h.map _, hr.generatedFiles_perm _⟩⟩

/-- Two spellings of one path beside repeated kinds, the repeated kinds alone, and a project whose
grammars are put in another order. -/
theorem made_of_distinct_repeated :
    let file := Path.ofString "G.g4"
    let grammars : List Grammar := [⟨"P", file, .parser⟩, ⟨"C", file, .combined⟩,
      ⟨"L", file, .lexer⟩, ⟨"D", file, .combined⟩, ⟨"Q", file, .parser⟩]
    let split : Project := ⟨{ Draft.named "pom.xml" with grammars :=
      [⟨"A", file, .parser⟩, ⟨"B", file, .lexer⟩] }, by decide, by decide⟩
    let draft (texts : List String) : Draft :=
      { Draft.named "pom.xml" with includes := texts.map Path.ofString, grammars }
    (∃ f, (draft ["a//b", "./a/b/"]).build = .error f ∧
      f.message = "'pom.xml' lists an include more than once") ∧
    (∃ f, (draft ["a//b", "a/../b"]).build = .error f ∧
      f.message = "'pom.xml' has more than one grammar of type COMBINED, PARSER") ∧
    ∃ q, { split.toDraft with grammars := split.grammars.reverse }.build = .ok q ∧
      q.parserName = split.parserName ∧ split.parserName.toOption = some "AParser" := by
  intro file grammars split draft
  obtain ⟨-, -, -, hincludes, -⟩ := made_of_distinct (.named "pom.xml") ["a//b", "./a/b/"] grammars
  obtain ⟨-, -, -, -, hkinds, hprojects⟩ :=
    made_of_distinct (.named "pom.xml") ["a//b", "a/../b"] grammars
  obtain ⟨f, he, -, hm⟩ := hincludes (by decide)
  obtain ⟨f', kinds, he', -, hm', -⟩ := hkinds (by decide) (by decide)
  obtain ⟨q, hq, -, -, hparser, -⟩ := (hprojects split).2.2 _ (List.reverse_perm _)
  refine ⟨⟨f, he, hm.trans (by decide)⟩, ⟨f', he', ?_⟩, q, hq, hparser, by decide⟩
  have hmessage : (match (draft ["a//b", "a/../b"]).build with
      | .error f => f.message
      | .ok _ => "") = "'pom.xml' has more than one grammar of type COMBINED, PARSER" := by
    decide
  rw [show (draft ["a//b", "a/../b"]).build = .error f' from he'] at hmessage
  exact hmessage

end Project

end GrammarProject
