import GrammarProject.FileTree
import GrammarProject.Proofs.Lists
import Mathlib.Data.List.Perm.Basic

/-!
# Trees that differ in one file

Two trees that differ at most in the content of one file (`FileTree.AgreeOutside`) cannot be told
apart but by reading this file: every path text leads to the same place in both (`locate_eq`), the
same paths lead anywhere (`reaches_eq`), all other files have the same content (`contentOf_eq`), and
directories have the same entries, which may be listed in another order (`children_perm`).
-/

namespace GrammarProject.FileTree

/-! ## Entries of a directory -/

theorem isSome_node?_iff {t : FileTree} {place : Location} : (t.node? place).isSome = true ↔
    place <+: t.workingDirectory ∨ ∃ e ∈ t.entries, place <+: e.1 := by
  have habove : t.isAbove place = true ↔
      place <+: t.workingDirectory ∨ ∃ e ∈ t.entries, place <+: e.1 ∧ e.1 ≠ place := by
    simp [isAbove]
  unfold node?
  split
  · rename_i h
    refine ⟨fun _ => ?_, fun _ => rfl⟩
    rcases habove.1 h with h | ⟨e, he, h, -⟩
    · exact .inl h
    · exact .inr ⟨e, he, h⟩
  · rename_i h
    rw [List.lookup_isSome_iff]
    refine ⟨fun ⟨e, he, hp⟩ => .inr ⟨e, he, by simp_all⟩, ?_⟩
    rintro (hw | ⟨e, he, hp⟩)
    · exact absurd (habove.2 (.inl hw)) h
    · refine ⟨e, he, ?_⟩
      by_contra hne
      exact h (habove.2 (.inr ⟨e, he, hp, fun heq => hne (by simp [heq])⟩))

theorem nextName_iff {place other : Location} {name : String} :
    (if place.isPrefixOf other then (other.drop place.length).head? else none) = some name ↔
      place ++ [name] <+: other := by
  constructor
  · intro h
    split at h
    · rename_i hp
      obtain ⟨rest, rfl⟩ := List.isPrefixOf_iff_prefix.1 hp
      rw [List.drop_left] at h
      obtain ⟨tail, rfl⟩ := List.head?_eq_some_iff.1 h
      exact ⟨tail, by simp⟩
    · cases h
  · rintro ⟨tail, rfl⟩
    simp

/-- The entries of a directory are the names at which there is something. -/
theorem mem_children {t : FileTree} {place : Location} {name : String} :
    name ∈ t.children place ↔ (t.node? (place ++ [name])).isSome = true := by
  simp only [children, List.mem_eraseDups, List.mem_filterMap, nextName_iff, List.mem_cons,
    List.mem_map, exists_eq_or_imp, isSome_node?_iff]
  refine or_congr .rfl ⟨?_, ?_⟩
  · rintro ⟨_, ⟨e, he, rfl⟩, hp⟩
    exact ⟨e, he, hp⟩
  · rintro ⟨e, he, hp⟩
    exact ⟨e.1, ⟨e, he, rfl⟩, hp⟩

/-! ## Agreement -/

/-- Two trees that differ at most in the content of the file at a place. -/
structure AgreeOutside (place : Location) (t t' : FileTree) : Prop where
  workingDirectory_eq : t.workingDirectory = t'.workingDirectory
  node?_eq : ∀ other, other ≠ place → t.node? other = t'.node? other
  isFile : ∃ content, t.node? place = some (.file content)
  isFile' : ∃ content, t'.node? place = some (.file content)

namespace AgreeOutside

variable {place : Location} {t t' : FileTree}

theorem symm (h : AgreeOutside place t t') : AgreeOutside place t' t :=
  ⟨h.workingDirectory_eq.symm, fun other ho => (h.node?_eq other ho).symm, h.isFile', h.isFile⟩

theorem node?_cases (h : AgreeOutside place t t') (other : Location) :
    t.node? other = t'.node? other ∨ ∃ content content',
      t.node? other = some (.file content) ∧ t'.node? other = some (.file content') := by
  by_cases ho : other = place
  · obtain ⟨content, hc⟩ := h.isFile
    obtain ⟨content', hc'⟩ := h.isFile'
    exact .inr ⟨content, content', ho ▸ hc, ho ▸ hc'⟩
  · exact .inl (h.node?_eq other ho)

theorem isSome_node?_eq (h : AgreeOutside place t t') (other : Location) :
    (t.node? other).isSome = (t'.node? other).isSome := by
  rcases h.node?_cases other with ho | ⟨_, _, ho, ho'⟩
  · rw [ho]
  · rw [ho, ho']
    rfl

theorem isDirectoryAt_eq (h : AgreeOutside place t t') (other : Location) :
    t.isDirectoryAt other = t'.isDirectoryAt other := by
  unfold isDirectoryAt
  rcases h.node?_cases other with ho | ⟨_, _, ho, ho'⟩
  · rw [ho]
  · rw [ho, ho']
    rfl

theorem isLockedAt_eq (h : AgreeOutside place t t') (other : Location) :
    t.isLockedAt other = t'.isLockedAt other := by
  unfold isLockedAt
  rcases h.node?_cases other with ho | ⟨_, _, ho, ho'⟩
  · rw [ho]
  · rw [ho, ho']
    rfl

theorem follow_eq (h : AgreeOutside place t t') : t.follow = t'.follow := by
  funext other name
  simp only [follow, h.isLockedAt_eq, h.isDirectoryAt_eq, h.isSome_node?_eq]

/-- **A path text leads to one place in both trees.** -/
theorem locate_eq (h : AgreeOutside place t t') (text : String) :
    t.locate text = t'.locate text := by
  simp only [locate, h.workingDirectory_eq, h.follow_eq]

theorem find_eq (h : AgreeOutside place t t') {text : String} (ht : t.locate text ≠ .ok place) :
    t.find text = t'.find text := by
  unfold find
  rw [← h.locate_eq]
  cases hl : t.locate text with
  | error e => rfl
  | ok other =>
    have ho : other ≠ place := fun he => ht (he ▸ hl)
    simp only [bind, Except.bind, h.node?_eq other ho]

theorem find_place {text : String} (ht : t.locate text = .ok place) {content : List UInt8}
    (hc : t.node? place = some (.file content)) : t.find text = .ok (.file content) := by
  unfold find
  rw [ht]
  simp only [bind, Except.bind, hc]
  rfl

theorem find_cases (h : AgreeOutside place t t') (text : String) :
    t.find text = t'.find text ∨ ∃ content content',
      t.find text = .ok (.file content) ∧ t'.find text = .ok (.file content') := by
  by_cases ht : t.locate text = .ok place
  · obtain ⟨content, hc⟩ := h.isFile
    obtain ⟨content', hc'⟩ := h.isFile'
    exact .inr ⟨content, content', find_place ht hc, find_place (h.locate_eq text ▸ ht) hc'⟩
  · exact .inl (h.find_eq ht)

theorem reaches_eq (h : AgreeOutside place t t') (text : String) :
    t.reaches text = t'.reaches text := by
  unfold reaches
  rcases h.find_cases text with ht | ⟨_, _, ht, ht'⟩
  · rw [ht]
  · rw [ht, ht']

theorem reachesDirectory_eq (h : AgreeOutside place t t') (text : String) :
    t.reachesDirectory text = t'.reachesDirectory text := by
  unfold reachesDirectory
  rcases h.find_cases text with ht | ⟨_, _, ht, ht'⟩
  · rw [ht]
  · rw [ht, ht']
    rfl

/-- A path text that leads to another file gives the same content. -/
theorem contentOf_eq (h : AgreeOutside place t t') {text : String}
    (ht : t.locate text ≠ .ok place) : t.contentOf text = t'.contentOf text := by
  unfold contentOf
  rw [h.find_eq ht]

theorem children_perm (h : AgreeOutside place t t') (other : Location) :
    (t.children other).Perm (t'.children other) := by
  refine (List.perm_ext_iff_of_nodup (nodup_eraseDups _) (nodup_eraseDups _)).2 fun name => ?_
  exact mem_children.trans (by rw [h.isSome_node?_eq]; exact mem_children.symm)

theorem namesIn_perm (h : AgreeOutside place t t') (text : String) :
    (∃ e, t.namesIn text = .error e ∧ t'.namesIn text = .error e) ∨
      ∃ names names', t.namesIn text = .ok names ∧ t'.namesIn text = .ok names' ∧
        names.Perm names' := by
  unfold namesIn
  rw [← h.locate_eq]
  cases t.locate text with
  | error e => exact .inl ⟨e, rfl, rfl⟩
  | ok other =>
    simp only [bind, Except.bind, ← h.isDirectoryAt_eq, ← h.isLockedAt_eq]
    split
    · exact .inr ⟨_, _, rfl, rfl, h.children_perm other⟩
    · exact .inl ⟨_, rfl, rfl⟩

end AgreeOutside

/-- Two files at one place, below which there is nothing. -/
theorem agreeOutside_cons {place : Location} {entries : List (Location × Node)}
    {workingDirectory : Location} {content : List UInt8}
    (h : isAbove ⟨(place, .file content) :: entries, workingDirectory⟩ place = false)
    (content' : List UInt8) :
    AgreeOutside place ⟨(place, .file content) :: entries, workingDirectory⟩
      ⟨(place, .file content') :: entries, workingDirectory⟩ := by
  have habove (other : Location) : isAbove ⟨(place, .file content') :: entries, workingDirectory⟩
      other = isAbove ⟨(place, .file content) :: entries, workingDirectory⟩ other := rfl
  refine ⟨rfl, fun other ho => ?_, ⟨content, ?_⟩, ⟨content', ?_⟩⟩
  · have hne : (other == place) = false := by simpa using ho
    unfold node?
    rw [habove, List.lookup_cons, List.lookup_cons, hne]
  · simp [node?, h]
  · simp [node?, habove, h]

/-- What the only file of a tree holds does not matter to the way to it. -/
theorem contentOf_single {text : String} {name : String} {content : List UInt8}
    (h : locate ⟨[([name], .file [])], []⟩ text = .ok [name]) :
    contentOf ⟨[([name], .file content)], []⟩ text = .ok content := by
  have hagree : AgreeOutside [name] ⟨[([name], .file [])], []⟩ ⟨[([name], .file content)], []⟩ :=
    agreeOutside_cons (by simp [isAbove]) content
  have hnode : node? ⟨[([name], .file content)], []⟩ [name] = some (.file content) := by
    simp [node?, isAbove]
  have hfind : find ⟨[([name], .file content)], []⟩ text = .ok (.file content) := by
    rw [find, ← hagree.locate_eq, h]
    simp only [bind, Except.bind, hnode]
    rfl
  rw [contentOf, hfind]
  rfl

end GrammarProject.FileTree
