import GrammarProject.Proofs.Path.Siblings

/-!
# Lexical normal form

A path is in lexical normal form if `..` stands at most at its front, and there only if it is
relative (`Path.IsNormal`). Resolving `..` leads there (`normal_isNormal`), and so does replacing
the last component (`IsNormal.sibling`).
-/

namespace GrammarProject

namespace Path

/-- Lexical normal form: no empty component and no `.`, and `..` only as a leading run of a
relative path. -/
structure IsNormal (p : Path) : Prop where
  wellFormed : p.WellFormed
  upward : ∃ n rest, p.parts = List.replicate n ".." ++ rest ∧ ".." ∉ rest ∧
    (p.anchor = .relative ∨ n = 0)

/-! ## Resolving `..` -/

/-- A way, innermost first, that goes up only at its outer end, and there only from a relative
start. -/
def IsWay (a : Anchor) (way : List String) : Prop :=
  ∃ n down, way = down ++ List.replicate n ".." ∧ ".." ∉ down ∧ (a = .relative ∨ n = 0)

theorem IsWay.resolvePart {a : Anchor} {way : List String} (h : IsWay a way) (part : String) :
    IsWay a (resolvePart a way part) := by
  obtain ⟨n, down, rfl, hd, hn⟩ := h
  unfold Path.resolvePart
  split
  · rename_i hp
    exact ⟨n, part :: down, rfl, by simp [Ne.symm hp, hd], hn⟩
  · rename_i hp
    have hp : part = ".." := by simpa using hp
    subst hp
    cases down with
    | cons d down =>
      simp only [List.mem_cons, not_or] at hd
      refine ⟨n, down, ?_, hd.2, hn⟩
      simp [Ne.symm hd.1]
    | nil =>
      cases n with
      | succ n =>
        refine ⟨n + 2, [], ?_, List.not_mem_nil, .inl (hn.resolve_right (by omega))⟩
        simp [List.replicate_succ]
      | zero =>
        by_cases ha : a = .relative
        · exact ⟨1, [], by simp [ha], List.not_mem_nil, .inl ha⟩
        · exact ⟨0, [], by simp [ha], List.not_mem_nil, .inr rfl⟩

theorem mem_resolvePart {a : Anchor} {way : List String} {part x : String}
    (h : x ∈ resolvePart a way part) : x = part ∨ x ∈ way := by
  unfold resolvePart at h
  split at h
  · simpa using h
  · rename_i hp
    have hp : part = ".." := by simpa using hp
    subst hp
    cases way with
    | nil => split at h <;> simp_all
    | cons p ps =>
      simp only at h
      split at h
      · simpa using h
      · exact .inr (.tail _ h)

theorem isWay_foldl (a : Anchor) (parts : List String) {way : List String} (h : IsWay a way) :
    IsWay a (parts.foldl (resolvePart a) way) ∧
      ∀ x ∈ parts.foldl (resolvePart a) way, x ∈ parts ∨ x ∈ way := by
  induction parts generalizing way with
  | nil => exact ⟨h, fun x hx => .inr hx⟩
  | cons part parts ih =>
    obtain ⟨hw, hm⟩ := ih (h.resolvePart part)
    refine ⟨hw, fun x hx => ?_⟩
    rcases hm x hx with hx | hx
    · exact .inl (.tail _ hx)
    · rcases mem_resolvePart hx with rfl | hx
      · exact .inl (.head _)
      · exact .inr hx

/-- **Resolving `..` leads to the lexical normal form.** -/
theorem normal_isNormal {p : Path} (h : p.WellFormed) : p.normal.IsNormal := by
  have hstart : IsWay p.anchor [] := ⟨0, [], rfl, List.not_mem_nil, .inr rfl⟩
  obtain ⟨⟨n, down, hw, hd, hn⟩, hm⟩ := isWay_foldl p.anchor p.parts hstart
  refine ⟨fun part hp => ?_, n, down.reverse, ?_, by simpa using hd, hn⟩
  · rcases hm part (List.mem_reverse.1 hp) with hp | hp
    · exact h part hp
    · exact absurd hp List.not_mem_nil
  · simp [normal, hw]

/-! ## Another last component -/

/-- The last component may be replaced unless it is `..`, by any other that is not `..`. -/
theorem IsNormal.sibling {p : Path} (h : p.IsNormal) (hlast : p.parts.getLast? ≠ some "..")
    {name : String} (hname : IsComponent name) (hdots : name ≠ "..") :
    (p.sibling name).IsNormal := by
  refine ⟨h.wellFormed.sibling hname, ?_⟩
  obtain ⟨n, rest, hparts, hrest, hn⟩ := h.upward
  unfold Path.sibling
  rcases List.eq_nil_or_concat rest with rfl | ⟨init, last, rfl⟩
  · -- Nothing but `..`, so nothing at all.
    cases n with
    | zero => exact ⟨0, [name], by simp [hparts], by simp [Ne.symm hdots], .inr rfl⟩
    | succ n => exact absurd (by simp [hparts, List.replicate_succ']) hlast
  · refine ⟨n, init ++ [name], ?_, ?_, hn⟩
    · rw [hparts, List.concat_eq_append, ← List.append_assoc, List.dropLast_concat,
        List.append_assoc]
    · simp only [List.concat_eq_append, List.mem_append, List.mem_singleton, not_or] at hrest ⊢
      exact ⟨hrest.1, Ne.symm hdots⟩

/-! ## The text of the normal form -/

open scoped List

theorem resolvePart_sublist (a : Anchor) (way : List String) (part : String) :
    (resolvePart a way part).reverse <+ way.reverse ++ [part] := by
  rw [← List.reverse_cons, List.reverse_sublist]
  unfold resolvePart
  split
  · exact .refl _
  · rename_i hp
    obtain rfl : part = ".." := by simpa using hp
    cases way with
    | nil =>
      dsimp only
      split
      · exact .refl _
      · exact List.nil_sublist _
    | cons name way =>
      dsimp only
      split
      · exact .refl _
      · exact ((List.Sublist.refl way).cons name).cons ".."

theorem parts_normal_sublist (p : Path) : p.normal.parts <+ p.parts := by
  have hrun (parts way : List String) :
      (parts.foldl (resolvePart p.anchor) way).reverse <+ way.reverse ++ parts := by
    induction parts generalizing way with
    | nil => simp
    | cons part parts ih =>
      rw [List.foldl_cons, List.append_cons]
      exact (ih _).trans ((resolvePart_sublist p.anchor way part).append (.refl parts))
  exact hrun p.parts []

theorem joined_sublist {ps qs : List String} (h : ps <+ qs) : joined ps <+ joined qs := by
  induction h with
  | slnil => exact .refl _
  | @cons ps qs q _ ih =>
    cases qs with
    | nil => exact ih.trans (List.nil_sublist _)
    | cons q' qs =>
      exact ih.trans ((List.sublist_cons_self _ _).trans (List.sublist_append_right _ _))
  | @cons_cons ps qs q h ih =>
    cases qs with
    | nil =>
      obtain rfl := List.sublist_nil.1 h
      exact .refl _
    | cons q' qs =>
      cases ps with
      | nil => exact List.sublist_append_left _ _
      | cons p ps => exact (List.Sublist.refl _).append (ih.cons_cons '/')

theorem joined_pieces (cs : List Char) : joined ((pieces cs).map String.ofList) = cs := by
  induction cs with
  | nil => rfl
  | cons c cs ih =>
    obtain ⟨first, rest, hp⟩ := List.exists_cons_of_ne_nil (pieces_ne_nil cs)
    by_cases hc : c = '/'
    · subst hc
      rw [pieces_slash, List.map_cons, joined, ih]
      · rfl
      · simp [hp]
    · rw [pieces_cons hc hp]
      rw [hp] at ih
      cases rest with
      | nil => simpa [joined] using ih
      | cons next rest => simpa [joined] using ih

theorem anchorOf_cases (cs : List Char) : ∃ rest, cs = (anchorOf cs).slashes ++ rest ∧
    (pieces cs).filter isPart = (pieces rest).filter isPart := by
  have hempty : isPart [] = false := rfl
  unfold anchorOf
  split
  · exact ⟨_, rfl, by simp [hempty]⟩
  · exact ⟨_, rfl, by simp [hempty]⟩
  · exact ⟨_, rfl, by simp [hempty]⟩
  · exact ⟨_, rfl, rfl⟩

/-- The text of the normal form has nothing that was not in the text, and `.` at most. -/
theorem text_normal_sublist (cs : List Char) :
    (ofString (String.ofList cs)).normal.text = ['.'] ∨
      (ofString (String.ofList cs)).normal.text <+ cs := by
  obtain ⟨rest, hcs, hparts⟩ := anchorOf_cases cs
  have hsub : joined (ofString (String.ofList cs)).normal.parts <+ rest := calc
    joined (ofString (String.ofList cs)).normal.parts
    _ <+ joined (ofString (String.ofList cs)).parts := joined_sublist (parts_normal_sublist _)
    _ = joined (((pieces rest).filter isPart).map String.ofList) := by
      rw [ofString, String.toList_ofList, hparts]
    _ <+ joined ((pieces rest).map String.ofList) := joined_sublist (List.filter_sublist.map _)
    _ = rest := joined_pieces rest
  have hanchor : (ofString (String.ofList cs)).normal.anchor = anchorOf cs := by
    rw [normal, ofString, String.toList_ofList]
  unfold text
  split
  · exact .inl rfl
  · right
    calc (ofString (String.ofList cs)).normal.anchor.slashes ++
        joined (ofString (String.ofList cs)).normal.parts
    _ <+ (anchorOf cs).slashes ++ rest := by
      rw [hanchor]
      exact (List.Sublist.refl _).append hsub
    _ = cs := hcs.symm

end Path

end GrammarProject
