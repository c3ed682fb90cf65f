import GrammarProject.Proofs.FileTree.Agreement
import GrammarProject.Proofs.FileTree.Following

/-!
# Entries of a directory

`FileTree.entriesAt` has the entries of the directory at a path, whose components are followed one
by one. A path text that is not too long lists the same (`namesIn_eq`): the empty names in it and
the dots lead nowhere else. In a tree of proper names (`IsProper`) the entries stand below the
directory (`placeOf_append`).
-/

namespace GrammarProject.FileTree

variable {t : FileTree}

/-- The names of the entries of a directory; nothing else has entries. -/
def entriesOf (t : FileTree) : Except AccessError Location → List String
  | .ok place => if t.isDirectoryAt place then t.children place else []
  | .error _ => []

def startOf (t : FileTree) (p : Path) : Location :=
  if p.anchor = .relative then t.workingDirectory else []

/-- The names of the entries of the directory at a path, none if there is no such directory. -/
def entriesAt (t : FileTree) (p : Path) : List String :=
  t.entriesOf (p.parts.foldlM t.follow (t.startOf p))

theorem entriesOf_foldlM_of_not_directory {place : Location} (h : t.isDirectoryAt place = false)
    (names : List String) : t.entriesOf (names.foldlM t.follow place) = [] := by
  induction names with
  | nil => simp [entriesOf, pure, Except.pure, h]
  | cons name names ih =>
    rw [List.foldlM_cons, follow_of_not_directory h]
    split
    · split
      · exact ih
      · rfl
    · rfl

theorem entriesOf_foldlM_filter (names : List String) (place : Location) :
    t.entriesOf ((names.filter fun n => n ≠ "" ∧ n ≠ ".").foldlM t.follow place) =
      t.entriesOf (names.foldlM t.follow place) := by
  induction names generalizing place with
  | nil => rfl
  | cons name names ih =>
    by_cases hname : name = "" ∨ name = "."
    · rw [List.filter_cons_of_neg (by rcases hname with rfl | rfl <;> decide)]
      cases hd : t.isDirectoryAt place with
      | false => rw [entriesOf_foldlM_of_not_directory hd, entriesOf_foldlM_of_not_directory hd]
      | true =>
        rw [List.foldlM_cons, follow_of_directory hd, if_pos hname]
        exact ih place
    · rw [List.filter_cons_of_pos (by simpa using hname), List.foldlM_cons, List.foldlM_cons]
      cases t.follow place name with
      | error e => rfl
      | ok next => exact ih next

theorem startOf_ofString (text : String) :
    t.startOf (.ofString text) = if text.startsWith "/" then [] else t.workingDirectory := by
  have hrelative : Path.anchorOf text.toList = .relative ↔ ¬text.startsWith "/" = true := by
    rw [String.startsWith_string_iff]
    cases text.toList with
    | nil => simp [Path.anchorOf]
    | cons c cs =>
      by_cases hc : c = '/'
      · subst hc
        unfold Path.anchorOf
        split <;> simp_all
      · simp [Path.anchorOf, hc, List.cons_prefix_cons, Ne.symm hc]
  simp only [startOf, Path.ofString, hrelative, ite_not]

/-- What a path text lists. -/
theorem namesIn_eq {text : String} (h0 : '\x00' ∉ text.toList) (hne : text ≠ "") :
    (t.namesIn text).toOption.getD [] =
      if pathLimit < text.utf8ByteSize then [] else t.entriesAt (.ofString text) := by
  have hnames : (t.namesIn text).toOption.getD [] = t.entriesOf (t.locate text) := by
    unfold namesIn entriesOf
    cases t.locate text with
    | error e => rfl
    | ok place =>
      simp only [bind, Except.bind]
      split <;> rfl
  rw [hnames, entriesAt, ← filter_steps, entriesOf_foldlM_filter, startOf_ofString, locate,
    if_neg (by simpa using h0), if_neg hne]
  split <;> rfl

/-! ## Names -/

/-- The name stands somewhere in the tree. -/
def HasName (t : FileTree) (name : String) : Prop :=
  ∃ place ∈ t.workingDirectory :: t.entries.map (·.1), name ∈ place

theorem hasName_of_mem_children {place : Location} {name : String} (h : name ∈ t.children place) :
    t.HasName name := by
  have hmem {other : Location} (hp : place ++ [name] <+: other) : name ∈ other :=
    hp.subset (List.mem_append_right _ (.head _))
  rcases isSome_node?_iff.1 (mem_children.1 h) with hp | ⟨e, he, hp⟩
  · exact ⟨_, .head _, hmem hp⟩
  · exact ⟨_, .tail _ (List.mem_map_of_mem he), hmem hp⟩

theorem namesIn_ok {text : String} {names : List String} (h : t.namesIn text = .ok names) :
    names.Nodup ∧ ∀ name ∈ names, t.HasName name := by
  unfold namesIn at h
  obtain ⟨place, -, h⟩ := bind_eq_ok.1 h
  split at h
  · cases h
    exact ⟨nodup_eraseDups _, fun name => hasName_of_mem_children⟩
  · cases h

/-- All names in the tree are names that files may have. -/
def IsProper (t : FileTree) : Prop :=
  ∀ place ∈ t.workingDirectory :: t.entries.map (·.1), ∀ name ∈ place,
    Path.IsComponent name ∧ name ≠ ".."

instance (t : FileTree) : Decidable t.IsProper := by
  unfold IsProper
  infer_instance

theorem IsProper.of_hasName (ht : t.IsProper) {name : String} (h : t.HasName name) :
    Path.IsComponent name ∧ name ≠ ".." := by
  obtain ⟨place, hplace, hname⟩ := h
  exact ht place hplace name hname

theorem mem_entriesAt {p : Path} {name : String} : name ∈ t.entriesAt p ↔
    ∃ place, p.parts.foldlM t.follow (t.startOf p) = .ok place ∧ t.isDirectoryAt place = true ∧
      (t.node? (place ++ [name])).isSome = true := by
  unfold entriesAt entriesOf
  cases p.parts.foldlM t.follow (t.startOf p) with
  | error e => simp
  | ok place =>
    cases hd : t.isDirectoryAt place with
    | false => simp [hd]
    | true => simp [hd, mem_children]

theorem IsProper.of_mem_entriesAt (ht : t.IsProper) {p : Path} {name : String}
    (h : name ∈ t.entriesAt p) : Path.IsComponent name ∧ name ≠ ".." := by
  obtain ⟨place, -, -, hnode⟩ := mem_entriesAt.1 h
  exact ht.of_hasName (hasName_of_mem_children (mem_children.2 hnode))

theorem placeOf_append {p : Path} {names : List String} (h : ".." ∉ names) :
    t.placeOf { p with parts := p.parts ++ names } = t.placeOf p ++ names := by
  unfold placeOf
  dsimp only
  rw [List.foldl_append]
  generalize p.parts.foldl _ _ = place
  induction names generalizing place with
  | nil => exact (List.append_nil place).symm
  | cons name names ih =>
    obtain ⟨hname, hrest⟩ := not_or.1 (fun hm => h (List.mem_cons.2 hm))
    rw [List.foldl_cons, if_neg (Ne.symm hname), ih hrest, List.append_assoc, List.singleton_append]

end GrammarProject.FileTree
