import GrammarProject.Grammar.Files
import Mathlib.Data.List.Infix

/-!
# Suffixes and names of generated files

A suffix that is dropped is the one that was added (`stem_append`), and adding it again gives the
name back if it was there (`stem_append_suffix`). The name of a generated file is a text, an ending
and the extension (`files_eq_map`). The endings of parsers and lexers do not end in any other, so
they tell what a file is, whatever the extension (`filter_files`).
-/

namespace GrammarProject

/-! ## Texts that end in a suffix -/

def EndsIn (suffix text : String) : Prop := suffix.toList <:+ text.toList

instance (suffix text : String) : Decidable (EndsIn suffix text) :=
  inferInstanceAs (Decidable (_ <:+ _))

namespace EndsIn

theorem append (text suffix : String) : EndsIn suffix (text ++ suffix) := by
  rw [EndsIn, String.toList_append]
  exact List.suffix_append _ _

theorem append_right_iff {suffix text : String} (e : String) :
    EndsIn (suffix ++ e) (text ++ e) ↔ EndsIn suffix text := by
  simp only [EndsIn, String.toList_append, List.suffix_append_self_iff]

/-- Of two suffixes of a text, the longer ends in the shorter. -/
theorem total {suffix other text : String} (h : EndsIn suffix text) (ho : EndsIn other text) :
    EndsIn suffix other ∨ EndsIn other suffix :=
  List.suffix_or_suffix_of_suffix h ho

/-- A text that ends in one of two suffixes that do not end in one another. -/
theorem not_append {suffix other : String} (h : ¬EndsIn suffix other) (ho : ¬EndsIn other suffix)
    (text : String) : ¬EndsIn suffix (text ++ other) := by
  intro hs
  rcases hs.total (append text other) with h' | h'
  · exact h h'
  · exact ho h'

end EndsIn

namespace Grammar

/-! ## Stems -/

theorem dropSuffix_append (suffix text : List Char) :
    dropSuffix suffix (text ++ suffix) = text := by
  have hs : suffix.isSuffixOf (text ++ suffix) = true :=
    List.isSuffixOf_iff_suffix.2 (List.suffix_append _ _)
  rw [dropSuffix, if_pos hs, List.length_append, Nat.add_sub_cancel, List.take_left]

theorem dropSuffix_of_not_suffix {suffix text : List Char} (h : ¬suffix <:+ text) :
    dropSuffix suffix text = text := by
  rw [dropSuffix, if_neg (by rwa [List.isSuffixOf_iff_suffix])]

def stem (suffix name : String) : String := String.ofList (dropSuffix suffix.toList name.toList)

theorem parserStem_eq_stem (name : String) : parserStem name = stem "Parser" name := rfl

theorem lexerStem_eq_stem (name : String) : lexerStem name = stem "Lexer" name := rfl

theorem stem_append (suffix name : String) : stem suffix (name ++ suffix) = name := by
  rw [stem, String.toList_append, dropSuffix_append, String.ofList_toList]

/-- The stem and the suffix are the name, if it ends in the suffix; otherwise it gets one. -/
theorem stem_append_suffix (suffix name : String) :
    stem suffix name ++ suffix = if EndsIn suffix name then name else name ++ suffix := by
  by_cases h : EndsIn suffix name
  · obtain ⟨text, htext⟩ := h
    obtain rfl : name = String.ofList text ++ suffix := by
      rw [← String.toList_inj, String.toList_append, String.toList_ofList, htext]
    rw [stem_append, if_pos (EndsIn.append _ _)]
  · rw [if_neg h, stem, dropSuffix_of_not_suffix h, String.ofList_toList]

/-! ## Files -/

/-- The files of a grammar, each as what its name starts with and its ending. -/
def fileParts (g : Grammar) : List (String × String) :=
  let base := Text.lowered g.name
  match g.kind with
  | .parser => [(base, "_base_listener"), (base, "_listener"),
      (Text.lowered (stem "Parser" g.name), "_parser")]
  | .lexer => [(Text.lowered (stem "Lexer" g.name), "_lexer")]
  | .combined =>
    [(base, "_base_listener"), (base, "_listener"), (base, "_parser"), (base, "_lexer")]

/-- The endings of names of files. -/
def endings : List String := ["_base_listener", "_listener", "_parser", "_lexer"]

theorem mem_endings {g : Grammar} {part : String × String} (h : part ∈ g.fileParts) :
    part.2 ∈ endings := by
  obtain ⟨name, file, kind⟩ := g
  cases kind with
  | parser =>
    simp only [fileParts, List.mem_cons, List.not_mem_nil, or_false] at h
    rcases h with rfl | rfl | rfl <;> simp [endings]
  | lexer =>
    simp only [fileParts, List.mem_cons, List.not_mem_nil, or_false] at h
    obtain rfl := h
    simp [endings]
  | combined =>
    simp only [fileParts, List.mem_cons, List.not_mem_nil, or_false] at h
    rcases h with rfl | rfl | rfl | rfl <;> simp [endings]

theorem files_eq_map (g : Grammar) (extension : String) :
    g.files extension = g.fileParts.map fun part => part.1 ++ part.2 ++ extension := by
  obtain ⟨name, file, kind⟩ := g
  cases kind <;> rfl

theorem length_files (g : Grammar) (extension : String) : (g.files extension).length =
    match g.kind with
    | .combined => 4
    | .parser => 3
    | .lexer => 1 := by
  obtain ⟨name, file, kind⟩ := g
  cases kind <;> simp [files_eq_map, fileParts]

/-- The extension is added behind the name of each file. -/
theorem files_eq_map_files (g : Grammar) (extension : String) :
    g.files extension = (g.files "").map (· ++ extension) := by
  simp only [files, List.map_map, Function.comp_def, String.append_empty]

/-- The endings that tell what a file is. -/
theorem endsIn_part_iff {g : Grammar} {part : String × String} (h : part ∈ g.fileParts)
    {ending : String} (he : ending = "_parser" ∨ ending = "_lexer") (extension : String) :
    EndsIn (ending ++ extension) (part.1 ++ part.2 ++ extension) ↔ part.2 = ending := by
  have hapart : ∀ other ∈ endings, other ≠ ending →
      ¬EndsIn ending other ∧ ¬EndsIn other ending := by
    rcases he with rfl | rfl <;> decide
  rw [EndsIn.append_right_iff]
  constructor
  · intro hs
    by_contra hne
    obtain ⟨h1, h2⟩ := hapart part.2 (mem_endings h) hne
    exact EndsIn.not_append h1 h2 part.1 hs
  · rintro rfl
    exact EndsIn.append _ _

/-- The files with an ending, among those of a grammar. -/
theorem filter_files {ending : String} (he : ending = "_parser" ∨ ending = "_lexer") (g : Grammar)
    (extension : String) : (g.files extension).filter (EndsIn (ending ++ extension)) =
      (g.fileParts.filter (·.2 = ending)).map fun part => part.1 ++ part.2 ++ extension := by
  rw [files_eq_map, List.filter_map]
  congr 1
  refine List.filter_congr ?_
  intro part hpart
  simpa using endsIn_part_iff hpart he extension

end Grammar

end GrammarProject
