import GrammarProject.Proofs.Path.Text

/-!
# The directory part of a text and the parent of a path

`directoryText` cuts a text at its last slash, and knows nothing of components. A path drops what
says nothing before its last component is dropped (`Path.parent`). The two lead to one directory
if the text ends in a component (`EndsInName`); if it ends in a slash or in `.`, its directory part
leads to the path itself (`ofString_directoryText`).
-/

namespace GrammarProject.Path

def parent (p : Path) : Path := { p with parts := p.parts.dropLast }

/-- What stands behind the last slash of a path text is a component. -/
def EndsInName (s : String) : Prop := isPart (behindLastSlash s.toList) = true

instance (s : String) : Decidable (EndsInName s) := inferInstanceAs (Decidable (_ = true))

/-! ## Cutting at the last slash -/

theorem throughLastSlash_append_behindLastSlash (cs : List Char) :
    throughLastSlash cs ++ behindLastSlash cs = cs := by
  rw [throughLastSlash, behindLastSlash, ← List.reverse_append, List.takeWhile_append_dropWhile,
    List.reverse_reverse]

theorem slash_not_mem_behindLastSlash (cs : List Char) : '/' ∉ behindLastSlash cs := by
  intro h
  simpa using List.mem_takeWhile_imp (List.mem_reverse.1 h)

theorem throughLastSlash_eq_nil_or (cs : List Char) :
    throughLastSlash cs = [] ∨ (throughLastSlash cs).getLast? = some '/' := by
  unfold throughLastSlash
  rw [List.getLast?_reverse, List.reverse_eq_nil_iff]
  rcases hd : cs.reverse.dropWhile (· ≠ '/') with _ | ⟨c, rest⟩
  · exact .inl rfl
  · right
    have hhead := List.head?_dropWhile_not (· ≠ '/') cs.reverse
    rw [hd] at hhead
    simpa using hhead

/-! ## One piece more -/

theorem ofString_piece {piece : List Char} (h : '/' ∉ piece) :
    ofString (String.ofList piece) =
      ⟨.relative, if isPart piece then [String.ofList piece] else []⟩ := by
  have hanchor : anchorOf piece = .relative := by
    rcases piece with _ | ⟨c, piece⟩
    · rfl
    · have hc : c ≠ '/' := fun hc => h (hc ▸ .head _)
      simp [anchorOf, hc]
  rw [ofString, String.toList_ofList, hanchor, pieces_of_no_slash h]
  by_cases hp : isPart piece = true <;> simp [hp]

/-- A piece that is joined to a directory is one component more, or nothing more. -/
theorem ofString_joinText_piece (directory : List Char) {piece : List Char} (h : '/' ∉ piece) :
    ofString (String.ofList (joinText directory piece)) =
      { ofString (String.ofList directory) with
        parts := (ofString (String.ofList directory)).parts ++
          if isPart piece then [String.ofList piece] else [] } := by
  have hhead : piece.head? ≠ some '/' := fun hs => h (List.mem_of_mem_head? hs)
  by_cases hd : directory = []
  · subst hd
    have hempty : ofString (String.ofList []) = here := by decide
    rw [joinText_of_relative hhead, hempty]
    exact ofString_piece h
  · rw [ofString_joinText hd hhead, ofString_piece h]

theorem joinText_eq_append_of_slash {front piece : List Char}
    (hfront : front = [] ∨ front.getLast? = some '/') (h : piece.head? ≠ some '/') :
    joinText front piece = front ++ piece := by
  rw [joinText_of_relative h]
  rcases hfront with rfl | hslash
  · rfl
  · simp [hslash]

/-! ## The directory part -/

/-- **The directory part of a text** leads to the parent if the text ends in a component, else to
the path itself. -/
theorem ofString_directoryText (s : String) :
    ofString (String.ofList (directoryText s.toList)) =
      if EndsInName s then (ofString s).parent else ofString s := by
  have hlast := slash_not_mem_behindLastSlash s.toList
  have hcut := ofString_joinText_piece (throughLastSlash s.toList) hlast
  rw [joinText_eq_append_of_slash (throughLastSlash_eq_nil_or s.toList)
    (fun hs => hlast (List.mem_of_mem_head? hs)), throughLastSlash_append_behindLastSlash,
    String.ofList_toList] at hcut
  rw [directoryText, ofString_withoutEndSlashes]
  by_cases h : EndsInName s
  · have hpart : isPart (behindLastSlash s.toList) = true := h
    rw [if_pos hpart] at hcut
    rw [if_pos h, hcut, parent, List.dropLast_concat]
  · have hpart : ¬isPart (behindLastSlash s.toList) = true := h
    rw [if_neg hpart, List.append_nil] at hcut
    rw [if_neg h, hcut]

end GrammarProject.Path
