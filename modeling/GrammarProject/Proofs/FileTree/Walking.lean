import GrammarProject.Proofs.FileTree.Listing
import GrammarProject.Proofs.Path.Normal
import Mathlib.Data.String.Basic

/-!
# Walking and the lexical normal form

A file tree walks a path text name by name, and `..` leads to the parent of where it is. The lexical
normal form resolves `..` without looking. The two agree on every walk that comes through: the
components that are kept lead to where the walk is (`LeadsTo`), which one name more keeps
(`LeadsTo.resolvePart`), above the working directory and at the top as well. So the normal form
of a path text that leads to a place leads there too (`locate_normal`).
-/

namespace GrammarProject.FileTree

variable {t : FileTree} {start place next last : Location} {way : List String} {name : String}

/-! ## One name further -/

theorem isSome_node?_of_isDirectoryAt (h : t.isDirectoryAt place = true) :
    (t.node? place).isSome = true := by
  unfold isDirectoryAt at h
  rw [beq_iff_eq] at h
  rw [h]
  rfl

/-- What one name does that can be followed: it stays, leads to the parent, or leads to an entry
that is there. -/
theorem follow_cases (h : t.follow place name = .ok next) : (t.node? place).isSome = true ∧
    (((name = "" ∨ name = ".") ∧ next = place) ∨ (name = ".." ∧ next = place.dropLast) ∨
      (¬(name = "" ∨ name = ".") ∧ name ≠ ".." ∧ next = place ++ [name] ∧
        (t.node? next).isSome = true)) := by
  cases hd : t.isDirectoryAt place with
  | false =>
    rw [follow_of_not_directory hd] at h
    split at h
    · rename_i hlocked
      rw [isLockedAt, beq_iff_eq] at hlocked
      split at h
      · rename_i hname
        cases h
        exact ⟨by rw [hlocked]; rfl, .inl ⟨.inl hname, rfl⟩⟩
      · cases h
    · cases h
  | true =>
    refine ⟨isSome_node?_of_isDirectoryAt hd, ?_⟩
    rw [follow_of_directory hd] at h
    split at h
    · rename_i hblank
      cases h
      exact .inl ⟨hblank, rfl⟩
    · rename_i hblank
      split at h
      · rename_i hdots
        cases h
        exact .inr (.inl ⟨hdots, rfl⟩)
      · rename_i hdots
        split at h
        · cases h
        · split at h
          · rename_i hthere
            cases h
            exact .inr (.inr ⟨hblank, hdots, rfl, hthere⟩)
          · cases h

theorem follow_component (hname : Path.IsComponent name) (hdots : name ≠ "..")
    (h : t.follow place name = .ok next) : next = place ++ [name] := by
  rcases follow_cases h with ⟨-, ⟨hblank, -⟩ | ⟨rfl, -⟩ | ⟨-, -, hnext, -⟩⟩
  · exact absurd hblank (not_or.2 ⟨hname.1, hname.2.1⟩)
  · exact absurd rfl hdots
  · exact hnext

theorem follow_dots (h : t.follow place ".." = .ok next) : next = place.dropLast := by
  rcases follow_cases h with ⟨-, ⟨hblank, -⟩ | ⟨-, hnext⟩ | ⟨-, hdots, -⟩⟩
  · exact absurd hblank (by decide)
  · exact hnext
  · exact absurd rfl hdots

theorem follow_blank (hname : name = "" ∨ name = ".") (h : t.follow place name = .ok next) :
    next = place := by
  rcases follow_cases h with ⟨-, ⟨-, hnext⟩ | ⟨rfl, -⟩ | ⟨hblank, -⟩⟩
  · exact hnext
  · exact absurd hname (by decide)
  · exact absurd hname hblank

theorem follow_blank_of_directory (hname : name = "" ∨ name = ".")
    (h : t.isDirectoryAt place = true) : t.follow place name = .ok place := by
  rw [follow_of_directory h, if_pos hname]

/-! ## Ways -/

/-- A way, innermost first, leads from one place to another. -/
def LeadsTo (t : FileTree) (start : Location) (way : List String) (place : Location) : Prop :=
  way.reverse.foldlM t.follow start = .ok place

theorem foldlM_cons_ok {names : List String} :
    (name :: names).foldlM t.follow place = .ok last ↔
      ∃ next, t.follow place name = .ok next ∧ names.foldlM t.follow next = .ok last := by
  rw [List.foldlM_cons]
  exact bind_eq_ok

theorem leadsTo_nil : t.LeadsTo start [] place ↔ place = start := by
  simp [LeadsTo, pure, Except.pure, eq_comm]

theorem leadsTo_cons : t.LeadsTo start (name :: way) next ↔
    ∃ place, t.LeadsTo start way place ∧ t.follow place name = .ok next := by
  unfold LeadsTo
  rw [List.reverse_cons, List.foldlM_append, bind_eq_ok]
  refine exists_congr fun place => and_congr_right fun _ => ?_
  rw [foldlM_cons_ok]
  simp [pure, Except.pure]

/-- One name more: where the walk is, there the way leads that is kept. -/
theorem LeadsTo.resolvePart {a : Anchor} (hstart : a = .relative ∨ start = [])
    (hway : ∀ part ∈ way, Path.IsComponent part) (h : t.LeadsTo start way place)
    (hfollow : t.follow place name = .ok next) :
    t.LeadsTo start (Path.resolvePart a way name) next := by
  unfold Path.resolvePart
  split
  · exact leadsTo_cons.2 ⟨place, h, hfollow⟩
  · rename_i hdots
    obtain rfl : name = ".." := by simpa using hdots
    cases way with
    | nil =>
      by_cases ha : a = .relative
      · rw [if_pos ha]
        exact leadsTo_cons.2 ⟨place, h, hfollow⟩
      · -- The parent of the top is the top.
        obtain rfl := hstart.resolve_left ha
        obtain rfl := leadsTo_nil.1 h
        rw [if_neg ha, leadsTo_nil]
        exact follow_dots hfollow
    | cons part way =>
      dsimp only
      split
      · exact leadsTo_cons.2 ⟨place, h, hfollow⟩
      · rename_i hpart
        -- The walk goes back to where it was before the component.
        obtain ⟨before, hbefore, hlast⟩ := leadsTo_cons.1 h
        obtain rfl := follow_component (hway part (.head _)) hpart hlast
        obtain rfl := follow_dots hfollow
        rw [List.dropLast_concat]
        exact hbefore

theorem LeadsTo.foldl {a : Anchor} (hstart : a = .relative ∨ start = []) {parts : List String}
    (hparts : ∀ part ∈ parts, Path.IsComponent part) (hway : ∀ part ∈ way, Path.IsComponent part)
    (h : t.LeadsTo start way place) (hwalk : parts.foldlM t.follow place = .ok last) :
    t.LeadsTo start (parts.foldl (Path.resolvePart a) way) last := by
  induction parts generalizing way place with
  | nil =>
    cases hwalk
    exact h
  | cons part parts ih =>
    obtain ⟨next, hfollow, hrest⟩ := foldlM_cons_ok.1 hwalk
    obtain ⟨hpart, hparts⟩ := List.forall_mem_cons.1 hparts
    refine ih hparts (fun x hx => ?_) (h.resolvePart hstart hway hfollow) hrest
    rcases Path.mem_resolvePart hx with rfl | hx
    · exact hpart
    · exact hway x hx

/-- **The normal form leads where the path leads.** -/
theorem foldlM_normal {p : Path} (hp : p.WellFormed)
    (h : p.parts.foldlM t.follow (t.startOf p) = .ok place) :
    p.normal.parts.foldlM t.follow (t.startOf p.normal) = .ok place := by
  have hstart : p.anchor = .relative ∨ t.startOf p = [] := by
    unfold startOf
    split
    · exact .inl ‹_›
    · exact .inr rfl
  exact LeadsTo.foldl hstart hp (by simp) (leadsTo_nil.2 rfl) h

/-! ## Path texts -/

theorem locate_eq_ok_iff {text : String} : t.locate text = .ok place ↔
    '\x00' ∉ text.toList ∧ text ≠ "" ∧ text.utf8ByteSize ≤ pathLimit ∧
      (steps text).foldlM t.follow (t.startOf (.ofString text)) = .ok place := by
  unfold locate
  rw [startOf_ofString]
  by_cases h0 : '\x00' ∈ text.toList
  · simp [h0]
  · by_cases hne : text = ""
    · simp [hne]
    · by_cases hlimit : pathLimit < text.utf8ByteSize
      · simp [h0, hne, hlimit, Nat.not_le_of_lt hlimit]
      · simp [h0, hne, hlimit, Nat.le_of_not_lt hlimit]

theorem foldlM_filter {names : List String} (h : names.foldlM t.follow place = .ok last) :
    (names.filter fun n => n ≠ "" ∧ n ≠ ".").foldlM t.follow place = .ok last := by
  induction names generalizing place with
  | nil => exact h
  | cons name names ih =>
    obtain ⟨next, hfollow, hrest⟩ := foldlM_cons_ok.1 h
    by_cases hname : name = "" ∨ name = "."
    · obtain rfl := follow_blank hname hfollow
      rw [List.filter_cons_of_neg (by rcases hname with rfl | rfl <;> decide)]
      exact ih hrest
    · rw [List.filter_cons_of_pos (by simpa using hname), foldlM_cons_ok]
      exact ⟨next, hfollow, ih hrest⟩

/-- A path text leads where the components of its path lead. -/
theorem foldlM_of_locate {text : String} (h : t.locate text = .ok place) :
    (Path.ofString text).parts.foldlM t.follow (t.startOf (.ofString text)) = .ok place := by
  obtain ⟨-, -, -, hwalk⟩ := locate_eq_ok_iff.1 h
  rw [← filter_steps]
  exact foldlM_filter hwalk

/-- The names in the text of a path are its components, behind names that lead nowhere else. -/
theorem steps_toString {p : Path} (hp : p.WellFormed) :
    ∃ blank, steps p.toString = blank ++ p.parts ∧ ∀ n ∈ blank, n = "" ∨ n = "." := by
  obtain ⟨anchor, parts⟩ := p
  by_cases hne : parts = []
  · subst hne
    cases anchor with
    | relative => exact ⟨["."], rfl, by simp⟩
    | root => exact ⟨[""], rfl, by simp⟩
    | doubleRoot => exact ⟨["", ""], rfl, by simp⟩
  · obtain ⟨c, cs, hjoined, -⟩ := Path.joined_head hne hp
    have htext : (Path.mk anchor parts).toString =
        String.ofList (anchor.slashes ++ Path.joined parts) := by
      simp [Path.toString, Path.text, hjoined]
    have hpieces : (Path.pieces (Path.joined parts)).map String.ofList = parts := by
      rw [Path.pieces_joined hne fun part hpart => (hp part hpart).2.2]
      simp [Function.comp_def]
    unfold steps
    rw [htext, String.toList_ofList]
    cases anchor with
    | relative =>
      rw [Anchor.slashes, List.nil_append, hpieces]
      refine ⟨[], ?_, by simp⟩
      split
      · exact absurd rfl (hp "" (.head _)).1
      · rfl
    | root => exact ⟨[], by simp [Anchor.slashes, hpieces], by simp⟩
    | doubleRoot => exact ⟨[""], by simp [Anchor.slashes, hpieces], by simp⟩

theorem isDirectoryAt_startOf (p : Path) : t.isDirectoryAt (t.startOf p) = true := by
  unfold startOf
  split
  · exact isDirectoryAt_workingDirectory
  · simp [isDirectoryAt, node?, isAbove]

theorem foldlM_blank {blank : List String} (hblank : ∀ n ∈ blank, n = "" ∨ n = ".")
    (h : t.isDirectoryAt place = true) : blank.foldlM t.follow place = .ok place := by
  induction blank with
  | nil => rfl
  | cons n blank ih =>
    obtain ⟨hn, hblank⟩ := List.forall_mem_cons.1 hblank
    exact foldlM_cons_ok.2 ⟨place, follow_blank_of_directory hn h, ih hblank⟩

/-- A path leads where its components lead, if its text can be followed. -/
theorem locate_toString_eq {p : Path} (hp : p.WellFormed) (h0 : '\x00' ∉ p.toString.toList)
    (hlimit : p.toString.utf8ByteSize ≤ pathLimit) :
    t.locate p.toString = p.parts.foldlM t.follow (t.startOf p) := by
  obtain ⟨blank, hsteps, hblank⟩ := steps_toString hp
  have hne : p.toString ≠ "" := fun hempty =>
    p.text_ne_nil (by simpa [Path.toString] using congrArg String.toList hempty)
  unfold locate
  rw [if_neg (by simpa using h0), if_neg hne, if_neg (Nat.not_lt.2 hlimit), ← startOf_ofString,
    Path.ofString_toString hp, hsteps, List.foldlM_append,
    foldlM_blank hblank (isDirectoryAt_startOf p)]
  rfl

theorem locate_toString {p : Path} (hp : p.WellFormed) (h0 : '\x00' ∉ p.toString.toList)
    (hlimit : p.toString.utf8ByteSize ≤ pathLimit)
    (h : p.parts.foldlM t.follow (t.startOf p) = .ok place) : t.locate p.toString = .ok place :=
  (locate_toString_eq hp h0 hlimit).trans h

/-- **Resolving `..` loses nothing**: the normal form of a path text that leads to a place leads to
the same place. -/
theorem locate_normal {text : String} (h : t.locate text = .ok place) :
    t.locate (Path.ofString text).normal.toString = .ok place := by
  obtain ⟨h0, -, hlimit, -⟩ := locate_eq_ok_iff.1 h
  have hp : (Path.ofString text).WellFormed := Path.wellFormed_ofString text
  have hwalk := foldlM_normal hp (foldlM_of_locate h)
  have htext := Path.text_normal_sublist text.toList
  rw [String.ofList_toList] at htext
  refine locate_toString (Path.normal_isNormal hp).wellFormed ?_ ?_ hwalk
  · rw [Path.toString, String.toList_ofList]
    rcases htext with htext | htext
    · rw [htext]
      decide
    · exact fun hm => h0 (htext.subset hm)
  · rw [Path.toString]
    rcases htext with htext | htext
    · rw [htext]
      decide
    · rw [String.utf8ByteSize_ofList]
      rw [← String.ofList_toList (s := text), String.utf8ByteSize_ofList] at hlimit
      exact Nat.le_trans (String.utf8Len_le_of_sublist htext) hlimit

/-! ## Places -/

theorem isSome_node?_dropLast (h : (t.node? place).isSome = true) :
    (t.node? place.dropLast).isSome = true := by
  rw [isSome_node?_iff] at h ⊢
  have hup : place.dropLast <+: place := List.dropLast_prefix place
  rcases h with h | ⟨e, he, h⟩
  · exact .inl (hup.trans h)
  · exact .inr ⟨e, he, hup.trans h⟩

theorem isSome_node?_of_follow (h : t.follow place name = .ok next) :
    (t.node? next).isSome = true := by
  obtain ⟨hthere, hcases⟩ := follow_cases h
  rcases hcases with ⟨-, rfl⟩ | ⟨-, rfl⟩ | ⟨-, -, -, hnext⟩
  · exact hthere
  · exact isSome_node?_dropLast hthere
  · exact hnext

theorem find_of_locate {text : String} (h : t.locate text = .ok place) :
    ∃ n, t.node? place = some n ∧ t.find text = .ok n := by
  have hthere : (t.node? place).isSome = true := by
    have hwalk := foldlM_of_locate h
    have hstart := isSome_node?_of_isDirectoryAt (isDirectoryAt_startOf (t := t) (.ofString text))
    generalize (Path.ofString text).parts = names at hwalk
    generalize t.startOf (.ofString text) = start at hwalk hstart
    induction names generalizing start with
    | nil =>
      cases hwalk
      exact hstart
    | cons name names ih =>
      obtain ⟨next, hfollow, hrest⟩ := foldlM_cons_ok.1 hwalk
      exact ih next hrest (isSome_node?_of_follow hfollow)
  obtain ⟨n, hn⟩ := Option.isSome_iff_exists.1 hthere
  refine ⟨n, hn, ?_⟩
  rw [find, h]
  simp only [bind, Except.bind, hn]
  rfl

theorem reaches_of_locate {text : String} (h : t.locate text = .ok place) :
    t.reaches text = true := by
  obtain ⟨n, -, hfind⟩ := find_of_locate h
  rw [reaches, hfind]

end GrammarProject.FileTree
