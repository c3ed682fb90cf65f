import GrammarProject.Glob.Expansion
import GrammarProject.Proofs.FileTree.Listing

/-!
# Patterns for the entries of a directory

A text without wildcards stands for itself in a path pattern (`IsPlain`). So a plain text of a
directory and one wildcard pattern behind it fit the entries of this directory that the pattern
matches (`expand_entries`), and with `*` all of them (`expand_star`).
-/

namespace GrammarProject.Glob

/-- A text that stands for itself in a path pattern. -/
def IsPlain (cs : List Char) : Prop := isMagic cs = false ∧ '\x00' ∉ cs

instance (cs : List Char) : Decidable (IsPlain cs) := inferInstanceAs (Decidable (_ ∧ _))

theorem isMagic_eq_false_iff {cs : List Char} :
    isMagic cs = false ↔ ∀ c ∈ cs, isMagicChar c = false := by
  simp [isMagic]

theorem IsPlain.subset {cs ds : List Char} (h : IsPlain cs) (hsub : ds ⊆ cs) : IsPlain ds :=
  ⟨isMagic_eq_false_iff.2 fun c hc => isMagic_eq_false_iff.1 h.1 c (hsub hc),
    fun h0 => h.2 (hsub h0)⟩

theorem IsPlain.append {cs ds : List Char} (h : IsPlain cs) (h' : IsPlain ds) :
    IsPlain (cs ++ ds) := by
  refine ⟨?_, by simpa using ⟨h.2, h'.2⟩⟩
  rw [isMagic, List.any_append, Bool.or_eq_false_iff]
  exact ⟨h.1, h'.1⟩

theorem IsPlain.joinText {directory text : List Char} (hd : IsPlain directory)
    (ht : IsPlain text) : IsPlain (Path.joinText directory text) := by
  have hslash : IsPlain ['/'] := by decide
  unfold Path.joinText
  split
  · exact ht
  · split
    · exact ht
    · exact hd.append ht
    · exact hd.append (hslash.append ht)

theorem joinText_split {directory name : List Char} (hne : directory ≠ [])
    (h : name.head? ≠ some '/') : ∃ init, Path.joinText directory name = init ++ '/' :: name ∧
      init ⊆ directory ∧
        Path.withoutEndSlashes (init ++ ['/']) = Path.withoutEndSlashes directory := by
  obtain ⟨init, hj, rfl | ⟨rfl, hl⟩⟩ := Path.joinText_eq_append hne h
  · exact ⟨init, hj, List.subset_append_left _ _, rfl⟩
  · exact ⟨directory, hj, List.Subset.refl _, Path.withoutEndSlashes_append_slash hne hl⟩

/-! ## Any name -/

theorem anyMatches_any (cs : List Char) : Pattern.anyMatches [[.any]] cs = true := by
  induction cs with
  | nil => rfl
  | cons c cs ih => exact ih

theorem matches_star (cs : List Char) : (Pattern.ofText ['*']).matches cs = true :=
  anyMatches_any cs

/-! ## One wildcard name behind a directory -/

theorem slashed_pieces (cs : List Char) : slashed (Path.pieces cs) = cs ++ ['/'] := by
  induction cs with
  | nil => rfl
  | cons c cs ih =>
    by_cases hc : c = '/'
    · subst hc
      rw [Path.pieces_slash, slashed, List.flatMap_cons]
      exact congrArg ('/' :: ·) ih
    · obtain ⟨first, rest, hp⟩ := List.exists_cons_of_ne_nil (Path.pieces_ne_nil cs)
      rw [hp] at ih
      rw [Path.pieces_cons hc hp]
      exact congrArg (c :: ·) ih

theorem isMagic_piece {cs piece : List Char} (h : isMagic cs = false)
    (hp : piece ∈ Path.pieces cs) : isMagic piece = false := by
  refine isMagic_eq_false_iff.2 fun c hc => ?_
  have hmem : c ∈ cs ++ ['/'] := by
    rw [← slashed_pieces]
    exact List.mem_flatMap.2 ⟨piece, hp, List.mem_append_left _ hc⟩
  rcases List.mem_append.1 hmem with hm | hm
  · exact isMagic_eq_false_iff.1 h c hm
  · obtain rfl := List.mem_singleton.1 hm
    rfl

theorem under_eq_joinText {directory name : List Char} (h : name.head? ≠ some '/') :
    under directory name = Path.joinText directory name :=
  (Path.joinText_of_relative h).symm

/-- The entries of a directory that a pattern matches are what fits the pattern behind the
directory. -/
theorem expand_entries [Platform] {t : FileTree} {directory name : List Char} (hne : directory ≠ [])
    (hd : IsPlain directory) (hmagic : isMagic name = true) (hslash : '/' ∉ name) :
    expand t (Path.joinText directory name) =
      .ok ((((t.namesIn (String.ofList (Path.withoutEndSlashes directory))).toOption.getD []).filter
        fun n => (Pattern.ofText name).matches n.toList).map
          fun n => under (Path.withoutEndSlashes directory) n.toList) := by
  have hname : name ≠ [] := by
    rintro rfl
    cases hmagic
  have hhead : name.head? ≠ some '/' := fun h => hslash (List.mem_of_mem_head? h)
  obtain ⟨init, hj, hsub, hbase⟩ := joinText_split hne hhead
  have hpieces : Path.pieces (Path.joinText directory name) = Path.pieces init ++ [name] := by
    rw [hj, Path.pieces_append_slash, Path.pieces_of_no_slash hslash]
  have hfixed : ∀ piece ∈ Path.pieces init, (!isMagic piece) = true := fun piece hp => by
    rw [isMagic_piece (hd.subset hsub).1 hp]
    rfl
  have htake : (Path.pieces init ++ [name]).takeWhile (!isMagic ·) = Path.pieces init := by
    rw [List.takeWhile_append_of_pos hfixed, List.takeWhile_cons_of_neg (by simp [hmagic]),
      List.append_nil]
  have hdrop : (Path.pieces init ++ [name]).dropWhile (!isMagic ·) = [name] := by
    rw [List.dropWhile_append_of_pos hfixed, List.dropWhile_cons_of_neg (by simp [hmagic])]
  have hnull : (init ++ ['/']).contains '\x00' = false := by
    simpa using (hd.subset hsub).2
  have hdepth : ¬ Platform.patternDepth + 1 < [name].length :=
    Nat.not_lt.2 (Nat.le_add_left 1 Platform.patternDepth)
  have hlisted : listed (Path.withoutEndSlashes directory) =
      String.ofList (Path.withoutEndSlashes directory) :=
    if_neg (by simpa using Path.withoutEndSlashes_ne_nil hne)
  unfold expand
  simp only [hpieces, htake, hdrop, slashed_pieces, hnull, hbase, countingNames, hdepth,
    List.foldl_cons, List.foldl_nil, List.flatMap_cons, List.flatMap_nil, List.append_nil, Bool.false_eq_true,
    if_false]
  rw [expandName, if_neg (by simpa using hname), if_pos hmagic, hlisted]
  cases t.namesIn (String.ofList (Path.withoutEndSlashes directory)) <;> rfl

theorem isMalformed_star {directory : List Char} (hne : directory ≠ []) (hd : IsPlain directory) :
    isMalformed (Path.joinText directory ['*']) = false := by
  obtain ⟨init, hj, hsub, -⟩ := joinText_split hne (show ['*'].head? ≠ some '/' by decide)
  have hinit : '[' ∉ init := fun hm =>
    absurd (isMagic_eq_false_iff.1 hd.1 _ (hsub hm)) (by decide)
  have hopen : '[' ∉ (init ++ ['/', '*']).reverse.takeWhile (· ≠ ']') := fun hm =>
    absurd (List.mem_reverse.1 (List.takeWhile_subset _ hm)) (by simpa using hinit)
  rw [hj, isMalformed, List.contains_eq_mem, decide_eq_false hopen]
  simp

/-- All entries of a directory are what fits `*` behind it. -/
theorem expand_star [Platform] {t : FileTree} {directory : List Char} (hne : directory ≠ [])
    (hd : IsPlain directory) : expand t (Path.joinText directory ['*']) =
      .ok (((t.namesIn (String.ofList (Path.withoutEndSlashes directory))).toOption.getD []).map
        fun n => under (Path.withoutEndSlashes directory) n.toList) := by
  rw [expand_entries hne hd (by decide) (by decide),
    List.filter_eq_self.2 fun n _ => matches_star n.toList]

end GrammarProject.Glob
