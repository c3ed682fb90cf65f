import GrammarProject.Proofs.FileTree.Descending
import GrammarProject.Proofs.Glob.Search

/-!
# Searching for a name

A name that is no pattern is looked up in the directory where the search starts and in every
directory below it (`mem_directoriesBelow`, `select_name`). If all the path texts are short enough
to be looked up and no directory stands too deep, the search finds the entries of this name at any
depth (`search_named_ok`).
-/

namespace GrammarProject.Glob

open FileTree (IsFileName pathLimit)

variable {t : FileTree} {place : Location} {way : List String} {name : String} {p root : Path}

/-! ## The pattern -/

theorem star_mem_of_holdsDoubleStar {cs : List Char} (h : holdsDoubleStar cs = true) :
    '*' ∈ cs := by
  fun_induction holdsDoubleStar cs with
  | case1 => exact .head _
  | case2 c cs _ ih => exact .tail _ (ih h)
  | case3 => cases h

/-- A name that is no pattern is looked up as it is. -/
theorem searchParts_name [Platform] (hname : Path.IsComponent name)
    (hplain : isMagic name.toList = false) :
    searchParts name = .ok [.name name] := by
  have hstar : '*' ∉ name.toList := by
    intro hm
    rw [isMagic, List.any_eq_false] at hplain
    exact hplain _ hm rfl
  have htwo : name.toList ≠ ['*', '*'] := fun he => hstar (he ▸ .head _)
  have hdouble : holdsDoubleStar name.toList = false :=
    Bool.not_eq_true _ ▸ fun h => hstar (star_mem_of_holdsDoubleStar h)
  have hpart : SearchPart.ofText name.toList = .ok (.name name) := by
    simp [SearchPart.ofText, htwo, hdouble, hplain]
  have hlast : name.toList.getLast? ≠ some '/' := fun h => hname.2.2 (List.mem_of_getLast? h)
  unfold searchParts
  rw [Path.ofString_component hname]
  simp [Path.child, Path.here, hpart, hlast, bind, Except.bind, pure, Except.pure]

/-! ## Directories -/

/-- Every directory below a place is gone through. -/
theorem mem_directoriesBelow :
    way ∈ directoriesBelow t place ↔ (t.node? (place ++ way)).any Node.isDirectory = true := by
  unfold directoriesBelow
  rw [List.mem_filter, List.mem_eraseDups]
  refine ⟨And.right, fun h => ⟨?_, h⟩⟩
  obtain ⟨other, hother, rest, rfl⟩ :
      ∃ other ∈ t.workingDirectory :: t.entries.map (·.1), place ++ way <+: other := by
    rcases FileTree.isSome_node?_iff.1 (Option.isSome_of_any h) with hw | ⟨e, he, hp⟩
    · exact ⟨_, .head _, hw⟩
    · exact ⟨e.1, .tail _ (List.mem_map_of_mem he), hp⟩
  refine List.mem_flatMap.2 ⟨_, hother, ?_⟩
  rw [if_pos (by simp [List.append_assoc]), List.append_assoc, List.drop_left]
  refine List.mem_map.2 ⟨way.length, List.mem_range.2 ?_, List.take_left⟩
  rw [List.length_append]
  omega

variable [Platform]

theorem select_anyDirectory_name (hroot : t.locate p.toString = .ok place)
    (hdepth : ∀ way ∈ directoriesBelow t place, way.length ≤ Platform.searchDepth) :
    select t [.anyDirectory, .name name] p =
      ((directoriesBelow t place).mapM fun way => select t [.name name] (p.below way)).map
        (·.flatten.eraseDups) := by
  have hany : (directoriesBelow t place).any (Platform.searchDepth < ·.length) = false := by
    rw [List.any_eq_false]
    exact fun way hway => by simpa using hdepth way hway
  rw [select, hroot]
  dsimp only
  rw [hany]
  rfl

theorem search_eq_of_name {n : Node} (hdir : t.find root.toString = .ok n)
    (hn : n.isDirectory = true) (hname : IsFileName name) (hplain : isMagic name.toList = false) :
    search t root name = (select t [.anyDirectory, .name name] root).map Path.sorted := by
  have htested : tested t Node.isDirectory root = .ok true := by
    rw [tested, hdir, ← hn]
  unfold search
  rw [searchParts_name hname.1 hplain]
  simp only [bind, Except.bind, htested, if_true]
  cases select t [.anyDirectory, .name name] root <;> rfl

/-- A search is refused for a directory that stands too deep, whatever there is to be found. -/
theorem search_named_deep {n : Node} (hdir : t.find root.toString = .ok n)
    (hn : n.isDirectory = true) (hname : IsFileName name) (hplain : isMagic name.toList = false)
    (hroot : t.locate root.toString = .ok place)
    (hdeep : ∃ way ∈ directoriesBelow t place, Platform.searchDepth < way.length) :
    search t root name = .error .tooDeep := by
  have hany : (directoriesBelow t place).any (Platform.searchDepth < ·.length) = true := by
    simpa using hdeep
  rw [search_eq_of_name hdir hn hname hplain, select, hroot]
  dsimp only
  rw [hany]
  rfl

section
variable (ht : t.HasFileNames) (hp : root.WellFormed) (hroot : t.locate root.toString = .ok place)
  (hname : IsFileName name)
include ht hp hroot hname

/-- One directory: the name in it is found if there is an entry, and cannot be looked up if the
path text is too long. Nothing is found in a locked directory. -/
theorem select_name (hdir : (t.node? (place ++ way)).any Node.isDirectory = true) :
    select t [.name name] (root.below way) =
      if pathLimit < (root.below (way ++ [name])).toString.utf8ByteSize then
        .error (.access .nameTooLong (root.below (way ++ [name])))
      else .ok (if (t.node? (place ++ way ++ [name])).isSome then [root.below (way ++ [name])]
        else []) := by
  unfold select tested
  rw [Path.child_below]
  rcases FileTree.any_isDirectory_iff.1 hdir with hopen | hlocked
  · rw [FileTree.find_below ht hp hroot hname hopen]
    by_cases hlong : pathLimit < (root.below (way ++ [name])).toString.utf8ByteSize
    · rw [if_pos hlong, if_pos hlong]
      rfl
    · rw [if_neg hlong, if_neg hlong]
      cases t.node? (place ++ way ++ [name]) <;> rfl
  · rw [FileTree.find_below_locked ht hp hroot hname hlocked,
      FileTree.node?_below_locked hlocked]
    by_cases hlong : pathLimit < (root.below (way ++ [name])).toString.utf8ByteSize
    · rw [if_pos hlong, if_pos hlong]
      rfl
    · rw [if_neg hlong, if_neg hlong]
      rfl

/-- **A search finds every entry of a name**, each once and in the order of paths. -/
theorem search_named_ok (hplain : isMagic name.toList = false)
    (hdir : (t.node? place).any Node.isDirectory = true)
    (hdirs : ∀ way, (t.node? (place ++ way)).any Node.isDirectory = true →
      (root.below (way ++ [name])).toString.utf8ByteSize ≤ pathLimit ∧
        way.length ≤ Platform.searchDepth) :
    ∃ found, search t root name = .ok found ∧
      (∀ q, q ∈ found ↔ ∃ way, q = root.below (way ++ [name]) ∧
        (t.node? (place ++ way ++ [name])).isSome = true) ∧
      found.Pairwise fun p q => p.key < q.key := by
  have hselect : ∀ way ∈ directoriesBelow t place, select t [.name name] (root.below way) =
      .ok (if (t.node? (place ++ way ++ [name])).isSome then [root.below (way ++ [name])]
        else []) := by
    intro way hway
    have hway := mem_directoriesBelow.1 hway
    rw [select_name ht hp hroot hname hway, if_neg (Nat.not_lt.2 (hdirs way hway).1)]
  have hdepth : ∀ way ∈ directoriesBelow t place, way.length ≤ Platform.searchDepth :=
    fun way hway => (hdirs way (mem_directoriesBelow.1 hway)).2
  obtain ⟨n, hn, hfind⟩ := FileTree.find_of_locate hroot
  have hisDirectory : n.isDirectory = true := by simpa [hn] using hdir
  have hsearch := search_eq_of_name hfind hisDirectory hname hplain
  rw [select_anyDirectory_name hroot hdepth, mapM_eq_map hselect] at hsearch
  refine ⟨_, hsearch, fun q => ?_, (search_ok ht.isProper hp hsearch).1⟩
  rw [Path.sorted, (List.mergeSort_perm _ _).mem_iff, List.mem_eraseDups, ← List.flatMap_def,
    List.mem_flatMap]
  constructor
  · rintro ⟨way, hway, hq⟩
    split at hq
    · rename_i hthere
      exact ⟨way, List.mem_singleton.1 hq, hthere⟩
    · cases hq
  · rintro ⟨way, rfl, hthere⟩
    have hway : t.isDirectoryAt (place ++ way) = true :=
      FileTree.isDirectoryAt_of_prefix hthere (List.prefix_append _ _) (by simp)
    refine ⟨way, mem_directoriesBelow.2 (FileTree.any_isDirectory_iff.2 (.inl hway)), ?_⟩
    rw [if_pos hthere]
    exact .head _

end

end GrammarProject.Glob
