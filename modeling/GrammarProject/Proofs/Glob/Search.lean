import GrammarProject.Glob.Search
import GrammarProject.Proofs.FileTree.Listing
import GrammarProject.Proofs.Path.Order

/-!
# What a search finds

A search goes down from its root by names of the tree and by names that its pattern asks for
(`Lies`, `lies_of_mem_select`). It finds each path once, in the order of paths (`search_ok`).
-/

namespace GrammarProject.Glob

variable {t : FileTree} {parts : List SearchPart} {p q : Path} {found : List Path}

/-! ## Going down -/

/-- The path lies at or below `p`, by names of the tree and names that the pattern asks for. -/
def Lies (t : FileTree) (parts : List SearchPart) (p q : Path) : Prop :=
  ∃ names, q = { p with parts := p.parts ++ names } ∧
    ∀ name ∈ names, t.HasName name ∨ .name name ∈ parts

theorem Lies.refl (t : FileTree) (parts : List SearchPart) (p : Path) : Lies t parts p p :=
  ⟨[], by rw [List.append_nil], fun _ h => absurd h List.not_mem_nil⟩

theorem Lies.down {part : SearchPart} {way : List String}
    (h : Lies t parts { p with parts := p.parts ++ way } q)
    (hway : ∀ name ∈ way, t.HasName name ∨ .name name ∈ part :: parts) :
    Lies t (part :: parts) p q := by
  obtain ⟨names, rfl, hnames⟩ := h
  refine ⟨way ++ names, by rw [List.append_assoc], fun name hname => ?_⟩
  rcases List.mem_append.1 hname with hname | hname
  · exact hway name hname
  · exact (hnames name hname).imp_right (List.mem_cons_of_mem part)

theorem hasName_of_mem_directoriesBelow {place : Location} {way : List String}
    (h : way ∈ directoriesBelow t place) {name : String} (hname : name ∈ way) : t.HasName name := by
  unfold directoriesBelow at h
  have hmem := List.mem_eraseDups.1 (List.mem_filter.1 h).1
  obtain ⟨other, hother, hway⟩ := List.mem_flatMap.1 hmem
  split at hway
  · obtain ⟨n, -, rfl⟩ := List.mem_map.1 hway
    exact ⟨other, hother, List.mem_of_mem_drop (List.mem_of_mem_take hname)⟩
  · cases hway

section
variable [Platform]

theorem select_anyDirectory_ok (h : select t (.anyDirectory :: parts) p = .ok found) :
    found = [] ∨ ∃ place blocks, found = blocks.flatten.eraseDups ∧
      (directoriesBelow t place).mapM
        (fun way => select t parts { p with parts := p.parts ++ way }) = .ok blocks := by
  rw [select] at h
  split at h
  · cases h
    exact .inl rfl
  · dsimp only at h
    split at h
    · cases h
    · obtain ⟨blocks, hblocks, h⟩ := bind_eq_ok.1 h
      cases h
      exact .inr ⟨_, blocks, rfl, hblocks⟩

/-- What a pattern selects lies at or below where it starts. The induction is on the pattern. -/
theorem lies_of_mem_select (h : select t parts p = .ok found) (hq : q ∈ found) :
    Lies t parts p q := by
  induction parts generalizing p found with
  | nil =>
    cases h
    obtain rfl := List.mem_singleton.1 hq
    exact .refl t [] q
  | cons part parts ih =>
    cases part with
    | final =>
      cases h
      obtain rfl := List.mem_singleton.1 hq
      exact .refl t _ q
    | anyDirectory =>
      rcases select_anyDirectory_ok h with rfl | ⟨place, blocks, rfl, hblocks⟩
      · cases hq
      · obtain ⟨block, hblock, hq⟩ := List.mem_flatten.1 (List.mem_eraseDups.1 hq)
        obtain ⟨way, hway, hselect⟩ := mem_of_mapM hblocks hblock
        exact (ih hselect hq).down fun name hname =>
          .inl (hasName_of_mem_directoriesBelow hway hname)
    | wildcard pattern =>
      rw [select] at h
      split at h
      · cases h
        cases hq
      · rename_i names hnames
        obtain ⟨blocks, hblocks, h⟩ := bind_eq_ok.1 h
        cases h
        obtain ⟨block, hblock, hq⟩ := List.mem_flatten.1 hq
        obtain ⟨name, hname, hselect⟩ := mem_of_mapM hblocks hblock
        have hentry := (FileTree.namesIn_ok hnames).2 name (List.mem_filter.1 hname).1
        refine (ih hselect hq).down fun other hother => ?_
        rw [List.mem_singleton.1 hother]
        exact .inl hentry
    | name name =>
      rw [select] at h
      obtain ⟨there, -, h⟩ := bind_eq_ok.1 h
      split at h
      · refine (ih h hq).down fun other hother => ?_
        rw [List.mem_singleton.1 hother]
        exact .inr (.head _)
      · cases h
        cases hq

end

/-! ## The pattern -/

theorem ofText_eq_name {cs : List Char} {name : String}
    (h : SearchPart.ofText cs = .ok (.name name)) : name = String.ofList cs := by
  unfold SearchPart.ofText at h
  split at h
  · cases h
  · split at h
    · cases h
    · split at h
      · cases h
      · cases h
        rfl

theorem mem_parts_of_searchParts [Platform] {pattern : String} (h : searchParts pattern = .ok parts)
    {name : String} (hname : .name name ∈ parts) : name ∈ (Path.ofString pattern).parts := by
  unfold searchParts at h
  dsimp only at h
  split at h
  · cases h
  · obtain ⟨texts, htexts, h⟩ := bind_eq_ok.1 h
    have hmem : .name name ∈ texts := by
      split at h
      · cases h
      · cases h
        split at hname
        · simpa using hname
        · exact hname
    obtain ⟨part, hpart, htext⟩ := mem_of_mapM htexts hmem
    rw [ofText_eq_name htext, String.ofList_toList]
    exact hpart

/-! ## The search -/

section
variable [Platform]

theorem nodup_select_anyDirectory (h : select t (.anyDirectory :: parts) p = .ok found) :
    found.Nodup := by
  rcases select_anyDirectory_ok h with rfl | ⟨place, blocks, rfl, -⟩
  · exact List.nodup_nil
  · exact nodup_eraseDups _

theorem search_cases {root : Path} {pattern : String} (h : search t root pattern = .ok found) :
    found = [] ∨ ∃ parts selected, searchParts pattern = .ok parts ∧
      select t (.anyDirectory :: parts) root = .ok selected ∧ found = Path.sorted selected := by
  unfold search at h
  obtain ⟨parts, hparts, h⟩ := bind_eq_ok.1 h
  obtain ⟨there, -, h⟩ := bind_eq_ok.1 h
  split at h
  · obtain ⟨selected, hselected, h⟩ := bind_eq_ok.1 h
    cases h
    exact .inr ⟨parts, selected, hparts, hselected, rfl⟩
  · cases h
    exact .inl rfl

/-- **What a search finds**: paths whose components are those of its root, names of the tree and
components of its pattern, strictly in the order of paths. -/
theorem search_ok (ht : t.IsProper) {root : Path} (hroot : root.WellFormed) {pattern : String}
    (h : search t root pattern = .ok found) :
    found.Pairwise (fun p q => p.key < q.key) ∧
      ∀ q ∈ found, ∀ part ∈ q.parts,
        part ∈ root.parts ∨ t.HasName part ∨ part ∈ (Path.ofString pattern).parts := by
  rcases search_cases h with rfl | ⟨parts, selected, hparts, hselected, rfl⟩
  · exact ⟨.nil, fun q hq => absurd hq List.not_mem_nil⟩
  · have hcomponents : ∀ q ∈ selected, ∀ part ∈ q.parts,
        part ∈ root.parts ∨ t.HasName part ∨ part ∈ (Path.ofString pattern).parts := by
      intro q hq part hpart
      obtain ⟨names, rfl, hnames⟩ := lies_of_mem_select hselected hq
      rcases List.mem_append.1 hpart with hpart | hpart
      · exact .inl hpart
      · refine .inr ((hnames part hpart).imp_right fun hname => ?_)
        exact mem_parts_of_searchParts hparts (by simpa using hname)
    have hwellFormed : ∀ q ∈ selected, q.WellFormed := by
      intro q hq part hpart
      rcases hcomponents q hq part hpart with hpart | hpart | hpart
      · exact hroot part hpart
      · exact (ht.of_hasName hpart).1
      · exact Path.wellFormed_ofString pattern part hpart
    exact ⟨Path.pairwise_sorted_lt hwellFormed (nodup_select_anyDirectory hselected),
      fun q hq => hcomponents q ((List.mergeSort_perm _ _).subset hq)⟩

end

end GrammarProject.Glob
