import GrammarProject.Path
import Mathlib.Data.List.TakeWhile

/-!
# Path texts

A text is cut into pieces at its slashes (`Path.pieces`, `pieces_append_slash`). A path whose
components are components indeed is read back from its text (`ofString_toString`), and every path
that is read from a text is of this kind (`wellFormed_ofString`).
-/

namespace GrammarProject.Path

/-! ## Pieces -/

theorem pieces_ne_nil (cs : List Char) : pieces cs ≠ [] := by
  cases cs with
  | nil => simp [pieces]
  | cons c cs =>
    unfold pieces
    split
    · simp
    · split <;> simp

@[simp] theorem pieces_slash (cs : List Char) : pieces ('/' :: cs) = [] :: pieces cs := by
  simp [pieces]

theorem pieces_cons {c : Char} (hc : c ≠ '/') {cs first : List Char} {rest : List (List Char)}
    (h : pieces cs = first :: rest) : pieces (c :: cs) = (c :: first) :: rest := by
  simp [pieces, hc, h]

theorem slash_not_mem_pieces {cs piece : List Char} (h : piece ∈ pieces cs) : '/' ∉ piece := by
  induction cs generalizing piece with
  | nil => simp_all [pieces]
  | cons c cs ih =>
    by_cases hc : c = '/'
    · subst hc
      rw [pieces_slash, List.mem_cons] at h
      rcases h with rfl | h
      · simp
      · exact ih h
    · obtain ⟨first, rest, hp⟩ := List.exists_cons_of_ne_nil (pieces_ne_nil cs)
      rw [pieces_cons hc hp, List.mem_cons] at h
      rw [hp] at ih
      rcases h with rfl | h
      · simpa [Ne.symm hc] using ih (.head _)
      · exact ih (.tail _ h)

theorem pieces_of_no_slash {cs : List Char} (h : '/' ∉ cs) : pieces cs = [cs] := by
  induction cs with
  | nil => rfl
  | cons c cs ih =>
    simp only [List.mem_cons, not_or] at h
    exact pieces_cons (Ne.symm h.1) (ih h.2)

theorem pieces_append_slash (cs rest : List Char) :
    pieces (cs ++ '/' :: rest) = pieces cs ++ pieces rest := by
  induction cs with
  | nil => exact pieces_slash rest
  | cons c cs ih =>
    by_cases hc : c = '/'
    · subst hc
      rw [List.cons_append, pieces_slash, pieces_slash, ih, List.cons_append]
    · obtain ⟨first, others, hp⟩ := List.exists_cons_of_ne_nil (pieces_ne_nil cs)
      rw [hp, List.cons_append] at ih
      rw [List.cons_append, pieces_cons hc ih, pieces_cons hc hp, List.cons_append]

theorem pieces_joined {ps : List String} (hne : ps ≠ []) (h : ∀ p ∈ ps, '/' ∉ p.toList) :
    pieces (joined ps) = ps.map String.toList := by
  induction ps with
  | nil => exact absurd rfl hne
  | cons p ps ih =>
    have hp := h p (.head _)
    cases ps with
    | nil => exact pieces_of_no_slash hp
    | cons q ps =>
      have hr := ih (by simp) fun x hx => h x (.tail _ hx)
      simp only [joined, List.map_cons] at hr ⊢
      rw [pieces_append_slash, pieces_of_no_slash hp, hr, List.singleton_append]

/-! ## Components -/

/-- A component of a path: not empty, not `.`, and without a slash. -/
def IsComponent (part : String) : Prop := part ≠ "" ∧ part ≠ "." ∧ '/' ∉ part.toList

instance (part : String) : Decidable (IsComponent part) := inferInstanceAs (Decidable (_ ∧ _ ∧ _))

/-- Every component is a component indeed. -/
def WellFormed (p : Path) : Prop := ∀ part ∈ p.parts, IsComponent part

instance (p : Path) : Decidable p.WellFormed :=
  inferInstanceAs (Decidable (∀ part ∈ p.parts, IsComponent part))

theorem isPart_iff {piece : List Char} :
    isPart piece = true ↔ String.ofList piece ≠ "" ∧ String.ofList piece ≠ "." := by
  have hempty : String.ofList piece = "" ↔ piece = [] := by
    rw [← String.toList_inj, String.toList_ofList, String.toList_empty]
  have hdot : String.ofList piece = "." ↔ piece = ['.'] := by
    rw [← String.toList_inj, String.toList_ofList]
    exact Iff.rfl
  simp [isPart, hempty, hdot]

theorem isPart_toList {part : String} (h : IsComponent part) : isPart part.toList = true := by
  rw [isPart_iff, String.ofList_toList]
  exact ⟨h.1, h.2.1⟩

theorem isComponent_ofList {piece : List Char} (h : isPart piece = true) (hs : '/' ∉ piece) :
    IsComponent (String.ofList piece) := by
  obtain ⟨hempty, hdot⟩ := isPart_iff.1 h
  exact ⟨hempty, hdot, by simpa using hs⟩

theorem wellFormed_ofString (s : String) : (ofString s).WellFormed := by
  intro part hp
  simp only [ofString, List.mem_map, List.mem_filter] at hp
  obtain ⟨piece, ⟨hm, hpart⟩, rfl⟩ := hp
  exact isComponent_ofList hpart (slash_not_mem_pieces hm)

theorem IsComponent.head {part : String} (h : IsComponent part) :
    ∃ c cs, part.toList = c :: cs ∧ c ≠ '/' := by
  obtain ⟨h1, -, h3⟩ := h
  cases hl : part.toList with
  | nil => exact absurd (String.toList_inj.1 (by simpa using hl)) h1
  | cons c cs =>
    rw [hl] at h3
    exact ⟨c, cs, rfl, fun hc => h3 (hc ▸ .head _)⟩

theorem joined_head {ps : List String} (hne : ps ≠ []) (h : ∀ p ∈ ps, IsComponent p) :
    ∃ c cs, joined ps = c :: cs ∧ c ≠ '/' := by
  cases ps with
  | nil => exact absurd rfl hne
  | cons p ps =>
    obtain ⟨c, cs, hp, hc⟩ := (h p (.head _)).head
    cases ps with
    | nil => exact ⟨c, cs, hp, hc⟩
    | cons q ps => exact ⟨c, cs ++ '/' :: joined (q :: ps), by simp [joined, hp], hc⟩

theorem parts_of_joined {ps : List String} (hne : ps ≠ []) (h : ∀ p ∈ ps, IsComponent p) :
    ((pieces (joined ps)).filter isPart).map String.ofList = ps := by
  rw [pieces_joined hne fun p hp => (h p hp).2.2, List.filter_eq_self.2, List.map_map]
  · simp [Function.comp_def]
  · intro piece hp
    obtain ⟨p, hm, rfl⟩ := List.mem_map.1 hp
    exact isPart_toList (h p hm)

/-- **A path is read back from its text.** -/
theorem ofString_toString {p : Path} (h : p.WellFormed) : ofString p.toString = p := by
  obtain ⟨anchor, parts⟩ := p
  by_cases hne : parts = []
  · subst hne
    cases anchor <;> rfl
  · obtain ⟨c, cs, hj, hc⟩ := joined_head hne h
    have hparts := parts_of_joined hne h
    have htext :
        (Path.mk anchor parts).toString = String.ofList (anchor.slashes ++ joined parts) := by
      simp [Path.toString, text, hj]
    rw [htext, ofString, String.toList_ofList, Path.mk.injEq]
    refine ⟨?_, ?_⟩
    · cases anchor <;> simp [Anchor.slashes, hj, anchorOf, hc]
    · cases anchor <;> simp only [Anchor.slashes, List.nil_append, List.cons_append, pieces_slash]
      · exact hparts
      · simpa [isPart] using hparts
      · simpa [isPart] using hparts

/-! ## Joined texts -/

theorem joinText_of_relative {directory text : List Char} (h : text.head? ≠ some '/') :
    joinText directory text = match directory.getLast? with
      | none => text
      | some '/' => directory ++ text
      | some _ => directory ++ '/' :: text := by
  unfold joinText
  split
  · exact absurd rfl h
  · rfl

theorem joinText_eq_append {directory text : List Char} (hd : directory ≠ [])
    (h : text.head? ≠ some '/') : ∃ init, joinText directory text = init ++ '/' :: text ∧
      (directory = init ++ ['/'] ∨ directory = init ∧ directory.getLast? ≠ some '/') := by
  rw [joinText_of_relative h]
  cases hl : directory.getLast? with
  | none => exact absurd (List.getLast?_eq_none_iff.1 hl) hd
  | some c =>
    by_cases hc : c = '/'
    · subst hc
      obtain ⟨init, rfl⟩ := List.getLast?_eq_some_iff.1 hl
      exact ⟨init, List.append_cons init '/' text ▸ rfl, .inl rfl⟩
    · refine ⟨directory, ?_, .inr ⟨rfl, by simpa using hc⟩⟩
      split
      · simp_all
      · rename_i he
        exact absurd (by simpa using he) hc
      · rfl

theorem anchorOf_append (cs : List Char) {c : Char} (hc : c ≠ '/') (t : List Char) :
    anchorOf (cs ++ c :: t) = anchorOf cs := by
  rcases cs with _ | ⟨a, _ | ⟨b, _ | ⟨d, cs⟩⟩⟩
  · simp [anchorOf, hc]
  · by_cases ha : a = '/' <;> simp [anchorOf, ha, hc]
  · by_cases ha : a = '/' <;> by_cases hb : b = '/' <;> simp [anchorOf, ha, hb, hc]
  · by_cases ha : a = '/' <;> by_cases hb : b = '/' <;> by_cases hd : d = '/' <;>
      simp [anchorOf, ha, hb, hd]

theorem anchorOf_append_of_last {cs rest : List Char} (hcs : cs ≠ [])
    (h : cs.getLast? = some '/' → rest.head? ≠ some '/') : anchorOf (cs ++ rest) = anchorOf cs := by
  rcases rest with _ | ⟨c, rest⟩
  · rw [List.append_nil]
  · by_cases hc : c = '/'
    · subst hc
      have hlast : cs.getLast? ≠ some '/' := fun hl => h hl rfl
      rcases cs with _ | ⟨a, _ | ⟨b, _ | ⟨d, cs⟩⟩⟩
      · exact absurd rfl hcs
      · simp_all [anchorOf]
      · by_cases ha : a = '/' <;> simp_all [anchorOf]
      · by_cases ha : a = '/' <;> by_cases hb : b = '/' <;> by_cases hd : d = '/' <;>
          simp [anchorOf, ha, hb, hd]
    · exact anchorOf_append cs hc rest

/-- A relative text that is joined to another adds its components. -/
theorem ofString_joinText {directory text : List Char} (hd : directory ≠ [])
    (h : text.head? ≠ some '/') : ofString (String.ofList (joinText directory text)) =
      { ofString (String.ofList directory) with
        parts := (ofString (String.ofList directory)).parts ++
          (ofString (String.ofList text)).parts } := by
  obtain ⟨init, hj, hinit⟩ := joinText_eq_append hd h
  have hanchor : anchorOf (init ++ '/' :: text) = anchorOf directory := by
    rcases hinit with rfl | ⟨rfl, hl⟩
    · rw [List.append_cons]
      exact anchorOf_append_of_last hd fun _ => h
    · exact anchorOf_append_of_last hd fun he => absurd he hl
  have hparts : (pieces (init ++ '/' :: text)).filter isPart =
      (pieces directory).filter isPart ++ (pieces text).filter isPart := by
    rw [pieces_append_slash, List.filter_append]
    rcases hinit with rfl | ⟨rfl, -⟩
    · rw [pieces_append_slash]
      simp [pieces, isPart]
    · rfl
  simp only [ofString, String.toList_ofList, hj, hparts, List.map_append, hanchor]

theorem text_ne_nil (p : Path) : p.text ≠ [] := by
  unfold text
  split
  · simp
  · assumption

theorem ofString_joinText_text {p : Path} (hp : p.WellFormed) {text : List Char}
    (h : text.head? ≠ some '/') : ofString (String.ofList (joinText p.text text)) =
      { p with parts := p.parts ++ (ofString (String.ofList text)).parts } := by
  have hread : ofString (String.ofList p.text) = p := ofString_toString hp
  rw [ofString_joinText p.text_ne_nil h, hread]

/-! ## Slashes at the end -/

theorem filter_pieces_slashes {cs : List Char} (h : ∀ c ∈ cs, c = '/') :
    (pieces cs).filter isPart = [] := by
  induction cs with
  | nil => rfl
  | cons c cs ih =>
    obtain rfl := h c List.mem_cons_self
    rw [pieces_slash, List.filter_cons_of_neg (by simp [isPart])]
    exact ih fun c hc => h c (List.mem_cons_of_mem _ hc)

/-- A text that is not all slashes, and the slashes at its end. -/
theorem withoutEndSlashes_cases (cs : List Char) : withoutEndSlashes cs = cs ∨
    ∃ slashes, cs = withoutEndSlashes cs ++ slashes ∧ (∀ c ∈ slashes, c = '/') ∧
      withoutEndSlashes cs ≠ [] ∧ (withoutEndSlashes cs).getLast? ≠ some '/' := by
  by_cases hall : cs.all (· = '/') = true
  · exact .inl (if_pos hall)
  · have hdef : withoutEndSlashes cs = (cs.reverse.dropWhile (· = '/')).reverse := if_neg hall
    refine .inr ⟨(cs.reverse.takeWhile (· = '/')).reverse, ?_, fun c hc => ?_, fun he => ?_, ?_⟩
    · rw [hdef, ← List.reverse_append, List.takeWhile_append_dropWhile, List.reverse_reverse]
    · simpa using List.mem_takeWhile_imp (List.mem_reverse.1 hc)
    · rw [hdef, List.reverse_eq_nil_iff, List.dropWhile_eq_nil_iff] at he
      exact hall (List.all_eq_true.2 fun c hc => he c (List.mem_reverse.2 hc))
    · rw [hdef, List.getLast?_reverse]
      intro he
      have hhead := List.head?_dropWhile_not (· = '/') cs.reverse
      rw [he] at hhead
      simp at hhead

theorem withoutEndSlashes_ne_nil {cs : List Char} (h : cs ≠ []) : withoutEndSlashes cs ≠ [] := by
  rcases withoutEndSlashes_cases cs with he | ⟨-, -, -, hne, -⟩
  · rwa [he]
  · exact hne

theorem mem_of_mem_withoutEndSlashes {cs : List Char} {c : Char} (h : c ∈ withoutEndSlashes cs) :
    c ∈ cs := by
  rcases withoutEndSlashes_cases cs with he | ⟨slashes, hcs, -⟩
  · rwa [he] at h
  · rw [hcs]
    exact List.mem_append_left _ h

theorem withoutEndSlashes_append_slash {cs : List Char} (hcs : cs ≠ [])
    (h : cs.getLast? ≠ some '/') : withoutEndSlashes (cs ++ ['/']) = withoutEndSlashes cs := by
  have hall : ¬cs.all (· = '/') = true := by
    intro hall
    have hlast := List.all_eq_true.1 hall _ (List.getLast_mem hcs)
    rw [List.getLast?_eq_some_getLast hcs] at h
    exact h (congrArg some (of_decide_eq_true hlast))
  have hall' : ¬(cs ++ ['/']).all (· = '/') = true := by simpa using hall
  rw [withoutEndSlashes, withoutEndSlashes, if_neg hall, if_neg hall', List.reverse_append,
    List.reverse_singleton, List.singleton_append, List.dropWhile_cons_of_pos (by simp)]

/-- The path does not depend on the slashes at the end of its text. -/
theorem ofString_withoutEndSlashes (cs : List Char) :
    ofString (String.ofList (withoutEndSlashes cs)) = ofString (String.ofList cs) := by
  rcases withoutEndSlashes_cases cs with he | ⟨slashes, hcs, hslashes, hne, hl⟩
  · rw [he]
  · generalize withoutEndSlashes cs = init at *
    subst hcs
    have hanchor : anchorOf (init ++ slashes) = anchorOf init :=
      anchorOf_append_of_last hne fun he => absurd he hl
    have hparts : (pieces (init ++ slashes)).filter isPart = (pieces init).filter isPart := by
      cases slashes with
      | nil => rw [List.append_nil]
      | cons c slashes =>
        obtain rfl := hslashes c List.mem_cons_self
        rw [pieces_append_slash, List.filter_append,
          filter_pieces_slashes fun c hc => hslashes c (List.mem_cons_of_mem _ hc),
          List.append_nil]
    simp only [ofString, String.toList_ofList, hanchor, hparts]

/-! ## Characters -/

theorem subset_of_mem_pieces {cs piece : List Char} (h : piece ∈ pieces cs) : piece ⊆ cs := by
  induction cs generalizing piece with
  | nil =>
    obtain rfl := List.mem_singleton.1 h
    exact List.Subset.refl _
  | cons c cs ih =>
    by_cases hc : c = '/'
    · subst hc
      rw [pieces_slash] at h
      rcases List.mem_cons.1 h with rfl | h
      · exact List.nil_subset _
      · exact List.subset_cons_of_subset _ (ih h)
    · obtain ⟨first, rest, hp⟩ := List.exists_cons_of_ne_nil (pieces_ne_nil cs)
      rw [hp] at ih
      rw [pieces_cons hc hp] at h
      rcases List.mem_cons.1 h with rfl | h
      · exact List.cons_subset_cons c (ih (.head _))
      · exact List.subset_cons_of_subset _ (ih (.tail _ h))

theorem subset_of_mem_parts {s part : String} (h : part ∈ (ofString s).parts) :
    part.toList ⊆ s.toList := by
  obtain ⟨piece, hpiece, rfl⟩ := List.mem_map.1 h
  rw [String.toList_ofList]
  exact subset_of_mem_pieces (List.mem_filter.1 hpiece).1

theorem mem_joined {parts : List String} {c : Char} (h : c ∈ joined parts) :
    c = '/' ∨ ∃ part ∈ parts, c ∈ part.toList := by
  induction parts with
  | nil => cases h
  | cons part parts ih =>
    cases parts with
    | nil => exact .inr ⟨part, .head _, h⟩
    | cons next parts =>
      rcases List.mem_append.1 h with h | h
      · exact .inr ⟨part, .head _, h⟩
      · rcases List.mem_cons.1 h with rfl | h
        · exact .inl rfl
        · exact (ih h).imp_right fun ⟨other, hother, hc⟩ => ⟨other, .tail _ hother, hc⟩

/-- What the text of a path is made of: its components, slashes and a dot. -/
theorem mem_text {p : Path} {c : Char} (h : c ∈ p.text) :
    c = '/' ∨ c = '.' ∨ ∃ part ∈ p.parts, c ∈ part.toList := by
  unfold text at h
  split at h
  · exact .inr (.inl (List.mem_singleton.1 h))
  · rcases List.mem_append.1 h with h | h
    · left
      revert h
      cases p.anchor <;> simp [Anchor.slashes]
    · exact (mem_joined h).imp_right .inr

theorem exists_part_of_mem_toString {p : Path} {c : Char} (hslash : c ≠ '/') (hdot : c ≠ '.')
    (h : c ∈ p.toString.toList) : ∃ part ∈ p.parts, c ∈ part.toList := by
  rw [Path.toString, String.toList_ofList] at h
  exact ((mem_text h).resolve_left hslash).resolve_left hdot

/-! ## Names -/

theorem ofString_component {name : String} (h : IsComponent name) :
    ofString name = .child .here name := by
  obtain ⟨c, cs, hhead, hslash⟩ := h.head
  have hanchor : anchorOf name.toList = .relative := by simp [hhead, anchorOf, hslash]
  simp [ofString, pieces_of_no_slash h.2.2, isPart_toList h, hanchor, child, here]

theorem text_child_here {name : String} (h : IsComponent name) :
    (child .here name).text = name.toList := by
  obtain ⟨c, cs, hhead, -⟩ := h.head
  simp [text, child, here, Anchor.slashes, joined, hhead]

end GrammarProject.Path
