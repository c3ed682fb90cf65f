import GrammarProject.FileTree
import GrammarProject.Proofs.Path.Text

/-!
# Following path texts

Following names fails as one of the steps does (`foldlM_follow_ne`). Whether a path text holds
U+0000 is asked before the tree is, so this is found for a text in one tree if it is in any
(`find_eq_embeddedNull_iff`). The names that are followed are the components of the path but for
empty names and dots (`filter_steps`). A long name is not looked for at all (`find_of_long_name`),
and nothing else is too long (`find_ne_nameTooLong`).
-/

namespace GrammarProject.FileTree

variable {t : FileTree}

theorem isLockedAt_of_isDirectoryAt {place : Location} (h : t.isDirectoryAt place = true) :
    t.isLockedAt place = false := by
  rw [isDirectoryAt, beq_iff_eq] at h
  rw [isLockedAt, h]
  rfl

theorem follow_of_directory {place : Location} (h : t.isDirectoryAt place = true) (name : String) :
    t.follow place name =
      if name = "" ∨ name = "." then .ok place
      else if name = ".." then .ok place.dropLast
      else if nameLimit < name.utf8ByteSize then .error .nameTooLong
      else if (t.node? (place ++ [name])).isSome then .ok (place ++ [name])
      else .error .notFound := by
  unfold follow
  simp [h, isLockedAt_of_isDirectoryAt h]

theorem follow_of_not_directory {place : Location} (h : t.isDirectoryAt place = false)
    (name : String) : t.follow place name =
      if t.isLockedAt place then if name = "" then .ok place else .error .refused
      else .error .notDirectory := by
  unfold follow
  simp [h]

theorem follow_ne_embeddedNull (place : Location) (name : String) :
    t.follow place name ≠ .error .embeddedNull := by
  cases h : t.isDirectoryAt place with
  | false =>
    rw [follow_of_not_directory h]
    split
    · split <;> nofun
    · nofun
  | true =>
    rw [follow_of_directory h]
    split
    · nofun
    · split
      · nofun
      · split
        · nofun
        · split <;> nofun

theorem foldlM_follow_ne {e : AccessError} {names : List String}
    (h : ∀ name ∈ names, ∀ place, t.follow place name ≠ .error e) (place : Location) :
    names.foldlM t.follow place ≠ .error e := by
  induction names generalizing place with
  | nil => nofun
  | cons name names ih =>
    rw [List.foldlM_cons]
    cases hf : t.follow place name with
    | error e' =>
      intro he
      cases he
      exact h name (.head _) place hf
    | ok next => exact ih (fun x hx => h x (.tail _ hx)) next

theorem find_ne_of_locate {e : AccessError} {text : String} (hne : e ≠ .notFound)
    (h : t.locate text ≠ .error e) : t.find text ≠ .error e := by
  unfold find
  cases hl : t.locate text with
  | error e' =>
    intro he
    cases he
    exact h hl
  | ok place =>
    simp only [bind, Except.bind]
    split
    · nofun
    · intro he
      cases he
      exact hne rfl

theorem locate_eq_embeddedNull_iff {text : String} :
    t.locate text = .error .embeddedNull ↔ '\x00' ∈ text.toList := by
  unfold locate
  split
  · rename_i h
    exact ⟨fun _ => by simpa using h, fun _ => rfl⟩
  · rename_i h
    refine ⟨fun he => ?_, fun hm => absurd (by simpa using hm) h⟩
    split at he
    · cases he
    · split at he
      · cases he
      · exact absurd he (foldlM_follow_ne (fun name _ place => follow_ne_embeddedNull place name) _)

theorem find_eq_embeddedNull_iff {text : String} :
    t.find text = .error .embeddedNull ↔ '\x00' ∈ text.toList := by
  rw [← locate_eq_embeddedNull_iff (t := t)]
  unfold find
  cases t.locate text with
  | error e => simp [bind, Except.bind]
  | ok place =>
    simp only [bind, Except.bind]
    split <;> simp [pure, Except.pure, throw, throwThe, MonadExceptOf.throw]

theorem embeddedNull_of_contentOf {text : String} (h : t.contentOf text = .error .embeddedNull) :
    '\x00' ∈ text.toList := by
  rw [← find_eq_embeddedNull_iff (t := t)]
  unfold contentOf at h
  cases hf : t.find text with
  | error e =>
    rw [hf] at h
    cases h
    rfl
  | ok n =>
    rw [hf] at h
    cases n <;> cases h

/-! ## Open trees -/

/-- The program has access to everything in the tree. -/
def IsOpen (t : FileTree) : Prop := ∀ e ∈ t.entries, ∀ isDirectory, e.2 ≠ .locked isDirectory

theorem IsOpen.isLockedAt (h : t.IsOpen) (place : Location) : t.isLockedAt place = false := by
  rw [FileTree.isLockedAt, beq_eq_false_iff_ne]
  intro hnode
  unfold node? at hnode
  split at hnode
  · cases hnode
  · obtain ⟨before, after, hentries, -⟩ := List.lookup_eq_some_iff.1 hnode
    have hmem : (place, Node.locked true) ∈ t.entries := by
      rw [hentries]
      simp
    exact h _ hmem true rfl

theorem IsOpen.follow_ne_refused (h : t.IsOpen) (place : Location) (name : String) :
    t.follow place name ≠ .error .refused := by
  cases hd : t.isDirectoryAt place with
  | false =>
    rw [follow_of_not_directory hd, h.isLockedAt]
    nofun
  | true =>
    rw [follow_of_directory hd]
    split
    · nofun
    · split
      · nofun
      · split
        · nofun
        · split <;> nofun

/-- Nothing is refused in an open tree. -/
theorem IsOpen.find_ne_refused (h : t.IsOpen) (text : String) : t.find text ≠ .error .refused := by
  refine find_ne_of_locate nofun ?_
  unfold locate
  split
  · nofun
  · split
    · nofun
    · split
      · nofun
      · exact foldlM_follow_ne (fun name _ place => h.follow_ne_refused place name) _

/-! ## Looking for a path -/

theorem isDirectoryAt_workingDirectory : t.isDirectoryAt t.workingDirectory = true := by
  simp [isDirectoryAt, node?, isAbove]

/-- A component is one step, from the working directory. -/
theorem locate_component {name : String} (hc : Path.IsComponent name)
    (h0 : '\x00' ∉ name.toList) : t.locate name =
      if pathLimit < name.utf8ByteSize then .error .nameTooLong
      else t.follow t.workingDirectory name := by
  obtain ⟨c, cs, hhead, hslash⟩ := hc.head
  have hsteps : steps name = [name] := by
    unfold steps
    rw [Path.pieces_of_no_slash hc.2.2, List.map_singleton, String.ofList_toList]
    split
    · rename_i names h
      cases h
      exact absurd rfl hc.1
    · rfl
  have hstart : name.startsWith "/" = false := by
    rw [String.startsWith_string_eq_false_iff, hhead]
    simpa [List.cons_prefix_cons] using Ne.symm hslash
  unfold locate
  rw [if_neg (by simpa using h0), if_neg hc.1]
  split
  · rfl
  · simp [hstart, hsteps]

/-- A name that is too long is not looked for. -/
theorem find_of_long_name {name : String} (hc : Path.IsComponent name)
    (h0 : '\x00' ∉ name.toList) (hn : nameLimit < name.utf8ByteSize) :
    t.find name = .error .nameTooLong := by
  have hdots : name ≠ ".." := by
    rintro rfl
    exact absurd hn (by decide)
  have hlocate : t.locate name = .error .nameTooLong := by
    rw [locate_component hc h0]
    split
    · rfl
    · rw [follow_of_directory isDirectoryAt_workingDirectory, if_neg (by simp [hc.1, hc.2.1]),
        if_neg hdots, if_pos hn]
  rw [find, hlocate]
  rfl

theorem follow_ne_nameTooLong {name : String} (h : name.utf8ByteSize ≤ nameLimit)
    (place : Location) : t.follow place name ≠ .error .nameTooLong := by
  cases hd : t.isDirectoryAt place with
  | false =>
    rw [follow_of_not_directory hd]
    split
    · split <;> nofun
    · nofun
  | true =>
    rw [follow_of_directory hd]
    split
    · nofun
    · split
      · nofun
      · rw [if_neg (Nat.not_lt.2 h)]
        split <;> nofun

theorem filter_steps (text : String) :
    (steps text).filter (fun n => n ≠ "" ∧ n ≠ ".") = (Path.ofString text).parts := by
  have hparts : (Path.ofString text).parts =
      ((Path.pieces text.toList).map String.ofList).filter fun n => n ≠ "" ∧ n ≠ "." := by
    rw [Path.ofString, List.filter_map]
    refine congrArg (List.map String.ofList) (List.filter_congr fun piece _ => ?_)
    exact Bool.eq_iff_iff.2 (Path.isPart_iff.trans decide_eq_true_iff.symm)
  rw [hparts]
  unfold steps
  split
  · rename_i names h
    rw [h, List.filter_cons_of_neg (by simp)]
  · rfl

/-- Neither a path nor a component of it is longer than a file tree allows. -/
def IsShort (p : Path) : Prop :=
  p.toString.utf8ByteSize ≤ pathLimit ∧ ∀ part ∈ p.parts, part.utf8ByteSize ≤ nameLimit

/-- A short path is looked for, in any tree. -/
theorem find_ne_nameTooLong {p : Path} (hp : p.WellFormed) (hshort : IsShort p) :
    t.find p.toString ≠ .error .nameTooLong := by
  obtain ⟨hlimit, hparts⟩ := hshort
  have hnames : ∀ name ∈ steps p.toString, name.utf8ByteSize ≤ nameLimit := by
    intro name hname
    by_cases hname' : name = "" ∨ name = "."
    · rcases hname' with rfl | rfl <;> decide
    · have hmem : name ∈ (Path.ofString p.toString).parts := by
        rw [← filter_steps]
        exact List.mem_filter.2 ⟨hname, by simpa using hname'⟩
      rw [Path.ofString_toString hp] at hmem
      exact hparts name hmem
  refine find_ne_of_locate nofun ?_
  unfold locate
  split
  · nofun
  · split
    · nofun
    · rw [if_neg (Nat.not_lt.2 hlimit)]
      exact foldlM_follow_ne (fun name hname => follow_ne_nameTooLong (hnames name hname)) _

end GrammarProject.FileTree
