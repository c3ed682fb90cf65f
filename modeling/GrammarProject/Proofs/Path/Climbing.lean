import GrammarProject.Proofs.Path.Normal

/-!
# Going up from a path

A path text is followed from a path by joining the two and resolving `..` by the components alone
(`Path.followed`). A path without `..` loses one component for each step up (`followed_ups`). At the
root further steps change nothing; from a relative path there may be no more steps than components.
-/

namespace GrammarProject.Path

/-- Where a path text leads from a path, by the components alone. -/
def followed (p : Path) (text : List Char) : Path :=
  (ofString (String.ofList (joinText p.text text))).normal

/-- The text that goes up `n` times. -/
def ups (n : Nat) : List Char := (List.replicate n ['.', '.', '/']).flatten

@[simp] theorem ups_succ (n : Nat) : ups (n + 1) = '.' :: '.' :: '/' :: ups n := rfl

theorem head?_ups (n : Nat) : (ups n).head? ≠ some '/' := by
  cases n with
  | zero => nofun
  | succ n => simp

theorem parts_ups (n : Nat) : (ofString (String.ofList (ups n))).parts = List.replicate n ".." := by
  have hpieces : ((pieces (ups n)).filter isPart).map String.ofList = List.replicate n ".." := by
    induction n with
    | zero => rfl
    | succ n ih =>
      have hcut : pieces (ups (n + 1)) = ['.', '.'] :: pieces (ups n) :=
        pieces_append_slash ['.', '.'] (ups n)
      rw [hcut, List.filter_cons_of_pos (by decide), List.map_cons, ih, List.replicate_succ]
  rw [ofString, String.toList_ofList]
  exact hpieces

/-! ## Resolving -/

theorem foldl_resolvePart_of_no_dots (a : Anchor) {parts : List String} (h : ".." ∉ parts)
    (way : List String) : parts.foldl (resolvePart a) way = parts.reverse ++ way := by
  induction parts generalizing way with
  | nil => rfl
  | cons part parts ih =>
    obtain ⟨hpart, hparts⟩ := not_or.1 (fun hm => h (List.mem_cons.2 hm))
    have hstep : resolvePart a way part = part :: way := if_pos (Ne.symm hpart)
    rw [List.foldl_cons, hstep, ih hparts, List.reverse_cons, List.append_assoc,
      List.singleton_append]

/-- Steps up undo one component each. -/
theorem foldl_resolvePart_dots {a : Anchor} {way : List String} (h : ".." ∉ way) {n : Nat}
    (hn : n ≤ way.length ∨ a ≠ .relative) :
    (List.replicate n "..").foldl (resolvePart a) way = way.drop n := by
  induction n generalizing way with
  | zero => rfl
  | succ n ih =>
    rw [List.replicate_succ, List.foldl_cons]
    cases way with
    | nil =>
      -- The parent of the root is the root.
      have ha : a ≠ .relative := hn.resolve_left (by simp)
      have hstep : resolvePart a [] ".." = [] := by simp [resolvePart, ha]
      rw [hstep, ih h (.inr ha), List.drop_nil, List.drop_nil]
    | cons part way =>
      obtain ⟨hpart, hway⟩ := not_or.1 (fun hm => h (List.mem_cons.2 hm))
      have hstep : resolvePart a (part :: way) ".." = way := by
        simp [resolvePart, Ne.symm hpart]
      rw [hstep, ih hway (hn.imp_left Nat.le_of_succ_le_succ), List.drop_succ_cons]

/-- Going up from a path without `..` leaves out its last components. -/
theorem followed_ups {p : Path} (hp : p.WellFormed) (hdots : ".." ∉ p.parts) {n : Nat}
    (hn : n ≤ p.parts.length ∨ p.anchor ≠ .relative) :
    p.followed (ups n) = { p with parts := p.parts.take (p.parts.length - n) } := by
  have hway : ".." ∉ p.parts.reverse := by simpa using hdots
  have hlength : n ≤ p.parts.reverse.length ∨ p.anchor ≠ .relative := by simpa using hn
  rw [followed, ofString_joinText_text hp (head?_ups n), parts_ups, normal, List.foldl_append,
    foldl_resolvePart_of_no_dots p.anchor hdots, List.append_nil,
    foldl_resolvePart_dots hway hlength, List.drop_reverse, List.reverse_reverse]

end GrammarProject.Path
