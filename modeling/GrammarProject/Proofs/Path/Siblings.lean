import GrammarProject.Proofs.Path.Text

/-!
# Paths in one directory

`Path.sibling` has another last component in the place of the last one. Its text differs only
behind the last slash (`text_sibling`), so a text that ends in no slash may be given another end:
it is then the text of a sibling (`exists_sibling`), in the same directory
(`directoryText_append`).
-/

namespace GrammarProject.Path

/-! ## The last component -/

/-- The path with the last component `name`, in the place of another if there is one. -/
def sibling (p : Path) (name : String) : Path := { p with parts := p.parts.dropLast ++ [name] }

theorem WellFormed.sibling {p : Path} (h : p.WellFormed) {name : String}
    (hname : IsComponent name) : (p.sibling name).WellFormed := by
  intro part hp
  rcases List.mem_append.1 hp with hp | hp
  · exact h part (List.dropLast_subset _ hp)
  · exact List.mem_singleton.1 hp ▸ hname

def front (p : Path) : List Char :=
  p.anchor.slashes ++ p.parts.dropLast.flatMap fun part => part.toList ++ ['/']

theorem joined_concat (parts : List String) (name : String) :
    joined (parts ++ [name]) = (parts.flatMap fun part => part.toList ++ ['/']) ++ name.toList := by
  induction parts with
  | nil => rfl
  | cons part parts ih =>
    obtain ⟨next, rest, hnext⟩ : ∃ next rest, parts ++ [name] = next :: rest :=
      List.exists_cons_of_ne_nil (by simp)
    rw [List.cons_append, hnext, joined, ← hnext, ih]
    · simp
    · simp

theorem front_eq_nil_or (p : Path) : p.front = [] ∨ p.front.getLast? = some '/' := by
  unfold front
  rcases List.eq_nil_or_concat p.parts.dropLast with h | ⟨init, last, h⟩ <;> rw [h]
  · cases p.anchor with
    | relative => exact .inl rfl
    | root | doubleRoot => exact .inr rfl
  · right
    simp

theorem text_sibling (p : Path) {name : String} (h : IsComponent name) :
    (p.sibling name).text = p.front ++ name.toList := by
  obtain ⟨c, cs, hhead, -⟩ := h.head
  have htext : p.anchor.slashes ++ joined (p.parts.dropLast ++ [name]) =
      p.front ++ name.toList := by
    rw [joined_concat, ← List.append_assoc]
    rfl
  unfold text sibling
  dsimp only
  rw [htext]
  split
  · simp_all
  · rfl

theorem sibling_self {p : Path} {last : String} (h : p.parts.getLast? = some last) :
    p.sibling last = p := by
  obtain ⟨init, hparts⟩ := List.getLast?_eq_some_iff.1 h
  rw [sibling, hparts, List.dropLast_concat, ← hparts]

/-- The text of a path is its front and a piece, which is its last component if there is one. -/
theorem text_eq_front {p : Path} (h : p.WellFormed) :
    ∃ last, p.text = p.front ++ last ∧ '/' ∉ last := by
  cases hlast : p.parts.getLast? with
  | none =>
    have hparts : p.parts = [] := List.getLast?_eq_none_iff.1 hlast
    refine ⟨if p.anchor = .relative then ['.'] else [], ?_, ?_⟩
    · unfold text front
      cases p.anchor <;> simp [hparts, joined, Anchor.slashes]
    · split <;> simp
  | some last =>
    have hcomponent : IsComponent last := h last (List.mem_of_getLast? hlast)
    refine ⟨last.toList, ?_, hcomponent.2.2⟩
    rw [← text_sibling p hcomponent, sibling_self hlast]

/-! ## Another end -/

/-- A text that ends in no slash may be given another end, of more than one character: the
text of a sibling. -/
theorem exists_sibling {p : Path} (hp : p.WellFormed) {stem old new : List Char}
    (h : p.text = stem ++ old) (hold : '/' ∉ old) (hlen : 1 < new.length)
    (hnew : '/' ∉ new) : ∃ kept, IsComponent (String.ofList (kept ++ new)) ∧
      (p.sibling (String.ofList (kept ++ new))).text = stem ++ new := by
  obtain ⟨last, htext, hlast⟩ := text_eq_front hp
  -- The old end stands behind the last slash.
  obtain ⟨kept, rfl, hkept⟩ : ∃ kept, stem = p.front ++ kept ∧ '/' ∉ kept := by
    rw [h] at htext
    rcases List.append_eq_append_iff.1 htext with ⟨rest, hfront, rfl⟩ | ⟨kept, rfl, rfl⟩
    · rcases List.eq_nil_or_concat rest with rfl | ⟨rest, c, rfl⟩
      · exact ⟨[], by simpa using hfront.symm, List.not_mem_nil⟩
      · exfalso
        rw [List.concat_eq_append, ← List.append_assoc] at hfront
        rcases front_eq_nil_or p with hf | hf
        · simp [hf] at hfront
        · rw [hfront, List.getLast?_concat] at hf
          cases hf
          exact hold (by simp)
    · exact ⟨kept, rfl, fun hk => hlast (List.mem_append_left _ hk)⟩
  have hlong : 1 < (kept ++ new).length := by
    rw [List.length_append]
    omega
  have hname : IsComponent (String.ofList (kept ++ new)) := by
    refine isComponent_ofList ?_ (by simp [hkept, hnew])
    rw [isPart, Bool.and_eq_true, decide_eq_true_iff, decide_eq_true_iff]
    refine ⟨fun he => ?_, fun he => ?_⟩ <;> rw [he] at hlong <;> exact absurd hlong (by decide)
  refine ⟨kept, hname, ?_⟩
  rw [text_sibling p hname, String.toList_ofList, List.append_assoc]

theorem directoryText_append (cs : List Char) {t : List Char} (h : '/' ∉ t) :
    directoryText (cs ++ t) = directoryText cs := by
  have hpass : ∀ c ∈ t.reverse, decide (c ≠ '/') = true := by
    intro c hc
    refine decide_eq_true fun he => h ?_
    rwa [he, List.mem_reverse] at hc
  unfold directoryText throughLastSlash
  rw [List.reverse_append, List.dropWhile_append_of_pos hpass]

end GrammarProject.Path
