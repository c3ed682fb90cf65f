import GrammarProject.Proofs.FileTree.Walking

/-!
# Going down in a tree

In a tree whose names are names that entries may have (`HasFileNames`), what stands above an entry
is a directory (`isDirectoryAt_of_prefix`), and names that lead to a directory can be followed
(`foldlM_way`). So the text of a path that goes down from another leads to the entry, if there is
one and the text is not too long (`find_below`).
-/

namespace GrammarProject

/-- The path that names lead to from a path. -/
def Path.below (p : Path) (way : List String) : Path := { p with parts := p.parts ++ way }

theorem Path.child_below (p : Path) (way : List String) (name : String) :
    (p.below way).child name = p.below (way ++ [name]) := by
  rw [child, below, below, List.append_assoc]

namespace FileTree

variable {t : FileTree} {place other : Location} {way : List String} {name : String} {p : Path}

/-! ## Names of entries -/

/-- A name that an entry of a directory may have. -/
def IsFileName (name : String) : Prop :=
  Path.IsComponent name ∧ name ≠ ".." ∧ '\x00' ∉ name.toList ∧ name.utf8ByteSize ≤ nameLimit

instance (name : String) : Decidable (IsFileName name) := inferInstanceAs (Decidable (_ ∧ _))

def HasFileNames (t : FileTree) : Prop :=
  ∀ place ∈ t.workingDirectory :: t.entries.map (·.1), ∀ name ∈ place, IsFileName name

instance (t : FileTree) : Decidable t.HasFileNames := by
  unfold HasFileNames
  infer_instance

theorem HasFileNames.isProper (ht : t.HasFileNames) : t.IsProper := fun place hplace name hname =>
  have h := ht place hplace name hname
  ⟨h.1, h.2.1⟩

theorem HasFileNames.of_hasName (ht : t.HasFileNames) (h : t.HasName name) : IsFileName name := by
  obtain ⟨place, hplace, hname⟩ := h
  exact ht place hplace name hname

theorem hasName_of_isSome_node? (h : (t.node? place).isSome = true) (hname : name ∈ place) :
    t.HasName name := by
  rcases isSome_node?_iff.1 h with hp | ⟨e, he, hp⟩
  · exact ⟨_, .head _, hp.subset hname⟩
  · exact ⟨_, .tail _ (List.mem_map_of_mem he), hp.subset hname⟩

/-! ## Directories above -/

/-- What stands above an entry is a directory. -/
theorem isDirectoryAt_of_prefix (h : (t.node? other).isSome = true) (hp : place <+: other)
    (hne : place ≠ other) : t.isDirectoryAt place = true := by
  have habove : t.isAbove place = true := by
    rw [isAbove, Bool.or_eq_true, List.any_eq_true, List.isPrefixOf_iff_prefix]
    rcases isSome_node?_iff.1 h with hw | ⟨e, he, hw⟩
    · exact .inl (hp.trans hw)
    · refine .inr ⟨e, he, ?_⟩
      have hbelow : e.1 ≠ place := by
        rintro rfl
        exact hne (hp.eq_of_length_le hw.length_le)
      simpa [hbelow] using hp.trans hw
  rw [isDirectoryAt, node?, if_pos habove]
  rfl

/-! ## Following names down -/

theorem isSome_node?_of_prefix (h : (t.node? other).isSome = true) (hp : place <+: other) :
    (t.node? place).isSome = true := by
  rw [isSome_node?_iff] at h ⊢
  rcases h with h | ⟨e, he, h⟩
  · exact .inl (hp.trans h)
  · exact .inr ⟨e, he, hp.trans h⟩

theorem any_isDirectory_iff : (t.node? place).any Node.isDirectory = true ↔
    t.isDirectoryAt place = true ∨ t.isLockedAt place = true := by
  unfold isDirectoryAt isLockedAt
  match t.node? place with
  | none => simp
  | some .directory => simp [Node.isDirectory]
  | some (.file content) => simp [Node.isDirectory]
  | some (.locked isDirectory) => cases isDirectory <;> simp [Node.isDirectory]

/-- Whatever is below a locked directory does not show. -/
theorem node?_below_locked (h : t.isLockedAt place = true) : t.node? (place ++ [name]) = none := by
  by_contra hthere
  have hdir : t.isDirectoryAt place = true :=
    isDirectoryAt_of_prefix (Option.isSome_iff_ne_none.2 hthere) (List.prefix_append _ _) (by simp)
  rw [isLockedAt_of_isDirectoryAt hdir] at h
  cases h

theorem follow_fileName (hd : t.isDirectoryAt place = true) (hname : IsFileName name) :
    t.follow place name = if (t.node? (place ++ [name])).isSome then .ok (place ++ [name])
      else .error .notFound := by
  obtain ⟨⟨hempty, hdot, -⟩, hdots, -, hlimit⟩ := hname
  rw [follow_of_directory hd, if_neg (by simp [hempty, hdot]), if_neg hdots,
    if_neg (Nat.not_lt.2 hlimit)]

/-- Names that lead to where there is something can be followed. -/
theorem foldlM_way (ht : t.HasFileNames) (h : (t.node? (place ++ way)).isSome = true) :
    way.foldlM t.follow place = .ok (place ++ way) := by
  induction way generalizing place with
  | nil =>
    rw [List.append_nil]
    rfl
  | cons name way ih =>
    rw [List.append_cons] at h ⊢
    have hnext : (t.node? (place ++ [name])).isSome = true :=
      isSome_node?_of_prefix h (List.prefix_append _ _)
    have hname : IsFileName name := ht.of_hasName (hasName_of_isSome_node? hnext (by simp))
    have hd : t.isDirectoryAt place = true :=
      isDirectoryAt_of_prefix hnext (List.prefix_append _ _) (by simp)
    refine foldlM_cons_ok.2 ⟨place ++ [name], ?_, ih h⟩
    rw [follow_fileName hd hname, if_pos hnext]

/-! ## Path texts -/

theorem find_directory {text : String} (h : t.locate text = .ok place)
    (hd : t.isDirectoryAt place = true) : t.find text = .ok .directory := by
  obtain ⟨n, hn, hfind⟩ := find_of_locate h
  have hdirectory : n = .directory := by simpa [isDirectoryAt, hn] using hd
  rw [hfind, hdirectory]

theorem locate_of_long_text {text : String} (h0 : '\x00' ∉ text.toList)
    (hlong : pathLimit < text.utf8ByteSize) : t.locate text = .error .nameTooLong := by
  have hne : text ≠ "" := by
    rintro rfl
    simp at hlong
  unfold locate
  rw [if_neg (by simpa using h0), if_neg hne, if_pos hlong]

theorem null_not_mem_toString (h0 : '\x00' ∉ p.toString.toList) (hp : p.WellFormed)
    (hway : ∀ name ∈ way, IsFileName name) : '\x00' ∉ (p.below way).toString.toList := by
  intro hnull
  obtain ⟨part, hpart, hc⟩ :=
    Path.exists_part_of_mem_toString (by decide) (by decide) hnull
  rcases List.mem_append.1 hpart with hpart | hpart
  · rw [← Path.ofString_toString hp] at hpart
    exact h0 (Path.subset_of_mem_parts hpart hc)
  · exact (hway part hpart).2.2.1 hc

section
variable (ht : t.HasFileNames) (hp : p.WellFormed) (hroot : t.locate p.toString = .ok place)
  (hname : IsFileName name)
include ht hp hroot hname

/-- A name below a path is followed from where the names before it lead. -/
theorem locate_below (hthere : (t.node? (place ++ way)).isSome = true) :
    t.locate (p.below (way ++ [name])).toString =
      if pathLimit < (p.below (way ++ [name])).toString.utf8ByteSize then .error .nameTooLong
      else t.follow (place ++ way) name := by
  have hnames : ∀ part ∈ way ++ [name], IsFileName part := by
    intro part hpart
    rcases List.mem_append.1 hpart with hpart | hpart
    · exact ht.of_hasName (hasName_of_isSome_node? hthere (List.mem_append_right place hpart))
    · exact List.mem_singleton.1 hpart ▸ hname
  have hbelow : (p.below (way ++ [name])).WellFormed := by
    intro part hpart
    rcases List.mem_append.1 hpart with hpart | hpart
    · exact hp part hpart
    · exact (hnames part hpart).1
  have h0 := null_not_mem_toString (locate_eq_ok_iff.1 hroot).1 hp hnames
  split
  · rename_i hlong
    exact locate_of_long_text h0 hlong
  · rename_i hshort
    have hstart := foldlM_of_locate hroot
    rw [Path.ofString_toString hp] at hstart
    have hwalk : (p.below (way ++ [name])).parts.foldlM t.follow (t.startOf p) =
        t.follow (place ++ way) name := by
      rw [Path.below, List.foldlM_append, hstart]
      show (way ++ [name]).foldlM t.follow place = _
      rw [List.foldlM_append, foldlM_way ht hthere]
      show [name].foldlM t.follow (place ++ way) = _
      rw [List.foldlM_cons]
      cases t.follow (place ++ way) name <;> rfl
    exact (locate_toString_eq hbelow h0 (Nat.not_lt.1 hshort)).trans hwalk

/-- Looking up a name below a directory: there is what stands in the tree, unless the path text is
too long. -/
theorem find_below (hdir : t.isDirectoryAt (place ++ way) = true) :
    t.find (p.below (way ++ [name])).toString =
      if pathLimit < (p.below (way ++ [name])).toString.utf8ByteSize then .error .nameTooLong
      else match t.node? (place ++ way ++ [name]) with
        | some n => .ok n
        | none => .error .notFound := by
  rw [find, locate_below ht hp hroot hname (isSome_node?_of_isDirectoryAt hdir),
    follow_fileName hdir hname]
  split
  · rfl
  · cases hnode : t.node? (place ++ way ++ [name]) with
    | none => rfl
    | some n =>
      simp only [bind, Except.bind, Option.isSome_some, if_true, hnode]
      rfl

/-- A name below a locked directory cannot be looked up. -/
theorem find_below_locked (hlocked : t.isLockedAt (place ++ way) = true) :
    t.find (p.below (way ++ [name])).toString =
      if pathLimit < (p.below (way ++ [name])).toString.utf8ByteSize then .error .nameTooLong
      else .error .refused := by
  have hnode : t.node? (place ++ way) = some (.locked true) := by
    simpa [isLockedAt] using hlocked
  have hdir : t.isDirectoryAt (place ++ way) = false := by
    rw [isDirectoryAt, hnode]
    rfl
  rw [find, locate_below ht hp hroot hname (by rw [hnode]; rfl), follow_of_not_directory hdir,
    if_pos hlocked, if_neg hname.1.1]
  split <;> rfl

end

end FileTree

end GrammarProject
