import GrammarProject.Proofs.Project.Names
import Mathlib.Data.List.Pairwise

/-!
# Files that are named twice

A project names a file twice just if its combined grammar clashes with its parser grammar or its
lexer grammar (`Grammar.Clashes`, `repeats_file_iff`): no two files of one grammar have one name,
and a parser grammar and a lexer grammar have none in common. The names are compared by their parts.
`_base_listener` ends in `_listener`, so `_base` counts as part of what the ending is added to
(`Grammar.nameParts`); the endings that are left do not end in one another, and a name has its parts
in one way only (`nameParts_inj`).
-/

namespace GrammarProject

namespace Grammar

/-! ## Parts of a name -/

/-- The endings of names of files, none of which ends in another. -/
def plainEndings : List String := ["_listener", "_parser", "_lexer"]

/-- The files of a grammar, each as what its name starts with and its plain ending. -/
def nameParts (g : Grammar) : List (String × String) :=
  let base := Text.lowered g.name
  match g.kind with
  | .parser => [(base ++ "_base", "_listener"), (base, "_listener"),
      (Text.lowered (parserStem g.name), "_parser")]
  | .lexer => [(Text.lowered (lexerStem g.name), "_lexer")]
  | .combined => [(base ++ "_base", "_listener"), (base, "_listener"), (base, "_parser"),
      (base, "_lexer")]

theorem files_eq_map_nameParts (g : Grammar) (extension : String) :
    g.files extension = g.nameParts.map fun part => part.1 ++ part.2 ++ extension := by
  have hbase (s : String) : s ++ "_base" ++ "_listener" = s ++ "_base_listener" := by
    rw [String.append_assoc]
    rfl
  obtain ⟨name, file, kind⟩ := g
  cases kind <;>
    simp [files, fileStems, nameParts, listenerFiles, parserFile, lexerFile, hbase]

theorem mem_plainEndings {g : Grammar} {part : String × String} (h : part ∈ g.nameParts) :
    part.2 ∈ plainEndings := by
  obtain ⟨name, file, kind⟩ := g
  cases kind with
  | parser =>
    simp only [nameParts, List.mem_cons, List.not_mem_nil, or_false] at h
    obtain rfl | rfl | rfl := h <;> simp [plainEndings]
  | lexer =>
    simp only [nameParts, List.mem_cons, List.not_mem_nil, or_false] at h
    obtain rfl := h
    simp [plainEndings]
  | combined =>
    simp only [nameParts, List.mem_cons, List.not_mem_nil, or_false] at h
    obtain rfl | rfl | rfl | rfl := h <;> simp [plainEndings]

/-- A name has its parts in one way only. -/
theorem nameParts_inj {part other : String × String} (h : part.2 ∈ plainEndings)
    (ho : other.2 ∈ plainEndings) {extension : String}
    (he : part.1 ++ part.2 ++ extension = other.1 ++ other.2 ++ extension) : part = other := by
  have hname : part.1 ++ part.2 = other.1 ++ other.2 := String.append_left_inj extension |>.1 he
  have hends : EndsIn part.2 (other.1 ++ other.2) := hname ▸ EndsIn.append _ _
  have hsame : part.2 = other.2 := by
    by_contra hne
    have hapart : ∀ e ∈ plainEndings, ∀ e' ∈ plainEndings, e ≠ e' → ¬EndsIn e e' := by decide
    exact EndsIn.not_append (hapart _ h _ ho hne) (hapart _ ho _ h (Ne.symm hne)) other.1 hends
  rw [hsame] at hname
  exact Prod.ext (String.append_left_inj other.2 |>.1 hname) hsame

theorem nodup_nameParts (g : Grammar) : g.nameParts.Nodup := by
  obtain ⟨name, file, kind⟩ := g
  cases kind <;> simp [nameParts]

/-! ## Clashes -/

/-- A combined grammar has a file of the name that a file of a parser or lexer grammar has. -/
def Clashes (c g : Grammar) : Prop :=
  (g.kind = .parser ∧
    (Text.lowered c.name = Text.lowered g.name ∨
      Text.lowered c.name = Text.lowered g.name ++ "_base" ∨
      Text.lowered g.name = Text.lowered c.name ++ "_base" ∨
      Text.lowered c.name = Text.lowered (parserStem g.name))) ∨
  (g.kind = .lexer ∧ Text.lowered c.name = Text.lowered (lexerStem g.name))

theorem Clashes.kind_ne {c g : Grammar} (h : c.Clashes g) : g.kind ≠ .combined := by
  rcases h with ⟨hk, -⟩ | ⟨hk, -⟩ <;> simp [hk]

/-- A combined grammar and another have a name in common just if they clash. -/
theorem disjoint_iff_of_combined {c g : Grammar} (hc : c.kind = .combined)
    (hg : g.kind ≠ .combined) : c.nameParts.Disjoint g.nameParts ↔ ¬c.Clashes g := by
  cases hk : g.kind with
  | combined => exact absurd hk hg
  | parser =>
    simp [nameParts, Clashes, hc, hk]
    grind
  | lexer => simp [nameParts, Clashes, hc, hk, eq_comm]

/-- Two grammars of a project have no name in common if neither is a combined one that clashes
with the other. -/
theorem disjoint_of_ne {g h : Grammar} (hne : g.kind ≠ h.kind)
    (hg : g.kind = .combined → ¬g.Clashes h) (hh : h.kind = .combined → ¬h.Clashes g) :
    g.nameParts.Disjoint h.nameParts := by
  by_cases hgc : g.kind = .combined
  · exact (disjoint_iff_of_combined hgc (hgc ▸ Ne.symm hne)).2 (hg hgc)
  · by_cases hhc : h.kind = .combined
    · exact List.disjoint_symm ((disjoint_iff_of_combined hhc hgc).2 (hh hhc))
    · -- The endings of a parser grammar and of a lexer grammar differ.
      cases hgk : g.kind <;> cases hhk : h.kind <;> simp_all [nameParts]

end Grammar

namespace Project

variable {p : Project}

theorem generatedFiles_eq_map (p : Project) (extension : String) :
    p.generatedFiles extension =
      (p.grammars.flatMap Grammar.nameParts).map fun part => part.1 ++ part.2 ++ extension := by
  rw [generatedFiles, List.map_flatMap]
  exact List.flatMap_congr fun g _ => g.files_eq_map_nameParts extension

theorem nodup_generatedFiles_iff_parts (p : Project) (extension : String) :
    (p.generatedFiles extension).Nodup ↔ (p.grammars.flatMap Grammar.nameParts).Nodup := by
  rw [generatedFiles_eq_map]
  refine ⟨List.Nodup.of_map _, fun h => h.map_on ?_⟩
  intro part hpart other hother he
  obtain ⟨g, -, hg⟩ := List.mem_flatMap.1 hpart
  obtain ⟨g', -, hg'⟩ := List.mem_flatMap.1 hother
  exact Grammar.nameParts_inj (Grammar.mem_plainEndings hg) (Grammar.mem_plainEndings hg') he

theorem kind_ne_of_ne {g h : Grammar} (hg : g ∈ p.grammars) (hh : h ∈ p.grammars) (hne : g ≠ h) :
    g.kind ≠ h.kind :=
  fun hk => hne (List.inj_on_of_nodup_map p.kinds_nodup hg hh hk)

/-- **Every file is named once** just if the combined grammar clashes with no other. -/
theorem nodup_generatedFiles_iff (p : Project) (extension : String) :
    (p.generatedFiles extension).Nodup ↔
      ∀ c ∈ p.grammars, c.kind = .combined → ∀ g ∈ p.grammars, ¬c.Clashes g := by
  rw [nodup_generatedFiles_iff_parts, List.nodup_flatMap]
  constructor
  · rintro ⟨-, hpairs⟩ c hc hk g hg hclash
    have hgk := hclash.kind_ne
    have hne : c ≠ g := fun he => hgk (he ▸ hk)
    have : Std.Symm (Function.onFun List.Disjoint Grammar.nameParts) :=
      ⟨fun _ _ => List.disjoint_symm⟩
    have hdisjoint : c.nameParts.Disjoint g.nameParts := hpairs.forall hc hg hne
    exact (Grammar.disjoint_iff_of_combined hk hgk).1 hdisjoint hclash
  · intro h
    refine ⟨fun g _ => g.nodup_nameParts, ?_⟩
    have hnodup : p.grammars.Nodup := List.Nodup.of_map _ p.kinds_nodup
    refine hnodup.pairwise_of_forall_ne fun g hg g' hg' hne => ?_
    exact Grammar.disjoint_of_ne (kind_ne_of_ne hg hg' hne) (fun hk => h g hg hk g' hg')
      fun hk => h g' hg' hk g hg

/-- **When a file is named twice**: when a combined grammar clashes with a parser grammar, whose
name may differ by `_base` or by the suffix, or with a lexer grammar. So a project without a
combined grammar, or with nothing else, names each file once. -/
theorem repeats_file_iff (p : Project) (extension : String) :
    (¬(p.generatedFiles extension).Nodup ↔
      ∃ c ∈ p.grammars, c.kind = .combined ∧ ∃ g ∈ p.grammars, c.Clashes g) ∧
    ((∀ g ∈ p.grammars, g.kind ≠ .combined) → (p.generatedFiles extension).Nodup) ∧
    ((∀ g ∈ p.grammars, g.kind = .combined) → (p.generatedFiles extension).Nodup) := by
  refine ⟨?_, fun hnone => ?_, fun hall => ?_⟩
  · rw [nodup_generatedFiles_iff]
    simp only [not_forall, not_not, exists_prop]
  · rw [nodup_generatedFiles_iff]
    intro c hc hk
    exact absurd hk (hnone c hc)
  · rw [nodup_generatedFiles_iff]
    intro c _ _ g hg hclash
    exact hclash.kind_ne (hall g hg)

/-- A combined grammar `Foo` and a parser grammar that is called like its base listener; and a
parser grammar beside a lexer grammar of the same name. -/
theorem repeats_file_base :
    let clash : Project := ⟨{ Draft.named "pom.xml" with grammars :=
      [⟨"Foo", .ofString "F.g4", .combined⟩, ⟨"FOO_Base", .ofString "P.g4", .parser⟩] },
        by decide, by decide⟩
    let split : Project := ⟨{ Draft.named "pom.xml" with grammars :=
      [⟨"Foo", .ofString "P.g4", .parser⟩, ⟨"Foo", .ofString "L.g4", .lexer⟩] },
        by decide, by decide⟩
    clash.generatedFiles ".go" = ["foo_base_listener.go", "foo_listener.go", "foo_parser.go",
        "foo_lexer.go", "foo_base_base_listener.go", "foo_base_listener.go",
        "foo_base_parser.go"] ∧
      ¬(clash.generatedFiles ".go").Nodup ∧
      (∀ g ∈ split.grammars, g.kind ≠ .combined) ∧ (split.generatedFiles ".go").Nodup := by
  intro clash split
  have hclash : (⟨"Foo", .ofString "F.g4", .combined⟩ : Grammar).Clashes
      ⟨"FOO_Base", .ofString "P.g4", .parser⟩ :=
    .inl ⟨rfl, .inr (.inr (.inl (by decide)))⟩
  have hsplit : ∀ g ∈ split.grammars, g.kind ≠ .combined := by decide
  refine ⟨by decide, ?_, hsplit, (repeats_file_iff split ".go").2.1 hsplit⟩
  exact (repeats_file_iff clash ".go").1.2
    ⟨_, List.mem_cons_self, rfl, _, List.mem_cons_of_mem _ List.mem_cons_self, hclash⟩

end Project

end GrammarProject
