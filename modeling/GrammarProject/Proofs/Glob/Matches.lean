import GrammarProject.Proofs.Glob.Directory
import GrammarProject.Proofs.Path.Parents

/-!
# Matches of a path pattern

A path pattern is expanded name by name. Each name adds a component to the directories found so far
or nothing (`ofString_under`), and the same for all of them, so one step back leads to the directory
that a match comes from (`origin_of_mem_expandName`). Hence no two matches are one path, whatever
the pattern (`nodup_expand`).
-/

namespace GrammarProject.Glob

variable {t : FileTree}

def matchPath (m : List Char) : Path := .ofString (String.ofList m)

theorem wellFormed_matchPath (m : List Char) : (matchPath m).WellFormed :=
  Path.wellFormed_ofString _

/-! ## One name -/

theorem ofString_under (directory : List Char) {name : List Char} (h : '/' ∉ name) :
    matchPath (under directory name) = { matchPath directory with
      parts := (matchPath directory).parts ++
        if Path.isPart name then [String.ofList name] else [] } := by
  rw [under_eq_joinText fun hs => h (List.mem_of_mem_head? hs)]
  exact Path.ofString_joinText_piece directory h

theorem matchPath_under_component (directory : List Char) {name : String}
    (h : Path.IsComponent name) :
    matchPath (under directory name.toList) = (matchPath directory).child name := by
  rw [ofString_under directory h.2.2, if_pos (Path.isPart_toList h), String.ofList_toList]
  rfl

theorem isPart_of_isMagic {name : List Char} (h : isMagic name = true) :
    Path.isPart name = true := by
  rw [Path.isPart, Bool.and_eq_true, decide_eq_true_iff, decide_eq_true_iff]
  constructor <;> rintro rfl <;> cases h

/-- The path of the directory that the match of a name comes from. -/
def origin (name : List Char) (p : Path) : Path := if Path.isPart name then p.parent else p

theorem origin_of_isPart {name : List Char} (h : Path.isPart name = true) (p : Path)
    (part : String) : origin name (p.child part) = p := by
  rw [origin, if_pos h, Path.parent, Path.child, List.dropLast_concat]

/-- One step back from the match of a name. -/
theorem origin_of_mem_expandName (ht : t.IsProper) {directory name m : List Char}
    (hname : '/' ∉ name) (hm : m ∈ expandName t directory name) :
    origin name (matchPath m) = matchPath directory := by
  unfold expandName at hm
  split at hm
  · -- The empty name asks for a directory, and stays.
    rename_i hempty
    obtain rfl : name = [] := List.isEmpty_iff.1 hempty
    split at hm
    · rw [List.mem_singleton.1 hm]
      rfl
    · cases hm
  · split at hm
    · rename_i hmagic
      split at hm
      · cases hm
      · rename_i names hnames
        obtain ⟨entry, hentry, rfl⟩ := List.mem_map.1 hm
        have hentry := (FileTree.namesIn_ok hnames).2 entry (List.mem_filter.1 hentry).1
        have hc := (ht.of_hasName hentry).1
        rw [matchPath_under_component directory hc]
        exact origin_of_isPart (isPart_of_isMagic hmagic) _ _
    · split at hm
      · rw [List.mem_singleton.1 hm, ofString_under directory hname]
        by_cases hp : Path.isPart name = true
        · rw [if_pos hp]
          exact origin_of_isPart hp (matchPath directory) _
        · rw [if_neg hp, List.append_nil, origin, if_neg hp]
      · cases hm

theorem nodup_expandName (ht : t.IsProper) (directory name : List Char) :
    ((expandName t directory name).map matchPath).Nodup := by
  unfold expandName
  split
  · split <;> simp
  · split
    · split
      · exact List.nodup_nil
      · rename_i names hnames
        obtain ⟨hnodup, hnames⟩ := FileTree.namesIn_ok hnames
        rw [List.map_map]
        refine (hnodup.filter _).map_on fun entry hentry other hother heq => ?_
        have hc := (ht.of_hasName (hnames entry (List.mem_filter.1 hentry).1)).1
        have hc' := (ht.of_hasName (hnames other (List.mem_filter.1 hother).1)).1
        rw [Function.comp, Function.comp, matchPath_under_component directory hc,
          matchPath_under_component directory hc'] at heq
        simpa [Path.child] using heq
    · split <;> simp

/-! ## All names -/

theorem countingNames_subset (names : List (List Char)) : countingNames names ⊆ names := by
  induction names with
  | nil => exact List.Subset.refl _
  | cons name names ih =>
    cases names with
    | nil => exact List.Subset.refl _
    | cons next names =>
      rw [countingNames]
      split
      · exact List.subset_cons_of_subset _ ih
      · exact List.cons_subset_cons _ ih
      · simp

theorem nodup_foldl_expandName (ht : t.IsProper) {names : List (List Char)}
    (hnames : ∀ name ∈ names, '/' ∉ name) {ds : List (List Char)}
    (hds : (ds.map matchPath).Nodup) :
    ((names.foldl (fun ds n => ds.flatMap (expandName t · n)) ds).map matchPath).Nodup := by
  induction names generalizing ds with
  | nil => exact hds
  | cons name names ih =>
    have hname := hnames name (.head _)
    refine ih (fun n hn => hnames n (.tail _ hn)) ?_
    exact nodup_map_flatMap hds (fun d _ => nodup_expandName ht d name)
      fun d _ m hm => origin_of_mem_expandName ht hname hm

/-- No two matches are one path. -/
theorem nodup_expand [Platform] (ht : t.IsProper) {pattern : List Char} {found : List (List Char)}
    (h : expand t pattern = .ok found) : (found.map matchPath).Nodup := by
  unfold expand at h
  dsimp only at h
  split at h
  · have hone (b : Bool) : ((if b then [pattern] else []).map matchPath).Nodup := by
      cases b <;> simp
    cases h
    exact hone _
  · rename_i wild hwild
    split at h
    · cases h
    split at h
    · cases h
    · cases h
      refine nodup_foldl_expandName ht (fun name hname => ?_) (List.nodup_singleton _)
      have hpiece := List.dropWhile_subset _ (countingNames_subset _ hname)
      exact Path.slash_not_mem_pieces hpiece

end GrammarProject.Glob
