import GrammarProject.Descriptor.Reader
import GrammarProject.Proofs.Path.Climbing

/-!
# The example root

The example root of a directory has one step up for each slash in the text of the directory
(`exampleRoot_eq_ups`): a slash between each two components, and those that the text starts with.
Seen from a directory without `..` it leads to the first component of a relative path, and to the
start of every other (`exampleRoot_leads_up`).
-/

namespace GrammarProject.Descriptor

/-! ## Counting slashes -/

theorem length_filter_slash_joined {parts : List String}
    (h : ∀ part ∈ parts, Path.IsComponent part) :
    ((Path.joined parts).filter (· = '/')).length = parts.length - 1 := by
  have hname {part : String} (hpart : Path.IsComponent part) :
      part.toList.filter (· = '/') = [] := by
    refine List.filter_eq_nil_iff.2 fun c hc he => hpart.2.2 ?_
    rwa [← of_decide_eq_true he]
  induction parts with
  | nil => rfl
  | cons part parts ih =>
    obtain ⟨hpart, hparts⟩ := List.forall_mem_cons.1 h
    cases parts with
    | nil =>
      rw [Path.joined, hname hpart]
      rfl
    | cons next parts =>
      rw [Path.joined, List.filter_append, hname hpart, List.nil_append,
        List.filter_cons_of_pos (by simp), List.length_cons, ih hparts]
      · simp
      · simp

def stepsUp (directory : Path) : Nat :=
  directory.anchor.slashes.length + (directory.parts.length - 1)

theorem length_filter_slash_text {p : Path} (hp : p.WellFormed) :
    (p.text.filter (· = '/')).length = stepsUp p := by
  have hslashes : p.anchor.slashes.filter (· = '/') = p.anchor.slashes := by
    cases p.anchor <;> rfl
  have hcount : ((p.anchor.slashes ++ Path.joined p.parts).filter (· = '/')).length =
      stepsUp p := by
    rw [List.filter_append, List.length_append, hslashes, length_filter_slash_joined hp, stepsUp]
  unfold Path.text
  split
  · rename_i hempty
    rw [hempty] at hcount
    exact hcount
  · exact hcount

/-- The example root goes up, once for each slash. -/
theorem exampleRoot_eq_ups {p : Path} (hp : p.WellFormed) :
    exampleRoot p = String.ofList (Path.ups (stepsUp p)) := by
  rw [exampleRoot, List.flatMap_def, List.map_const', length_filter_slash_text hp]
  rfl

theorem followed_exampleRoot {p : Path} (hp : p.WellFormed) (hdots : ".." ∉ p.parts) :
    p.followed (exampleRoot p).toList =
      { p with parts := if p.anchor = .relative then p.parts.take 1 else [] } := by
  rw [exampleRoot_eq_ups hp, String.toList_ofList]
  by_cases ha : p.anchor = .relative
  · have hsteps : stepsUp p = p.parts.length - 1 := by simp [stepsUp, ha, Anchor.slashes]
    have hfirst : p.parts.length - (p.parts.length - 1) = min 1 p.parts.length := by omega
    rw [hsteps, Path.followed_ups hp hdots (.inl (Nat.sub_le _ _)), if_pos ha, hfirst,
      ← List.take_eq_take_min]
  · have hslash : 1 ≤ p.anchor.slashes.length := by
      cases hanchor : p.anchor with
      | relative => exact absurd hanchor ha
      | root | doubleRoot => decide
    have hsteps : p.parts.length ≤ stepsUp p := by
      unfold stepsUp
      omega
    rw [Path.followed_ups hp hdots (.inr ha), Nat.sub_eq_zero_of_le hsteps, List.take_zero,
      if_neg ha]

/-- **The example root leads back to the top**: to the first component of a relative directory, by
as many steps as there are other components; nowhere from the working directory; to the root of the
file tree from an absolute directory, by a step for each component, and one from the root itself. -/
theorem exampleRoot_leads_up {p : Path} (hp : p.WellFormed) (hdots : ".." ∉ p.parts) :
    (∀ first rest, p = ⟨.relative, first :: rest⟩ →
      (p.followed (exampleRoot p).toList).toString = first ∧
        exampleRoot p = String.ofList (Path.ups (p.parts.length - 1))) ∧
    (p = .here → (p.followed (exampleRoot p).toList).toString = "." ∧ exampleRoot p = "") ∧
    (p.anchor = .root → (p.followed (exampleRoot p).toList).toString = "/" ∧
      exampleRoot p =
        String.ofList (Path.ups (if p.parts = [] then 1 else p.parts.length))) := by
  rw [followed_exampleRoot hp hdots]
  refine ⟨?_, ?_, fun ha => ?_⟩
  · rintro first rest rfl
    have hfirst : Path.IsComponent first := hp first (.head _)
    constructor
    · rw [if_pos rfl, List.take_succ_cons, List.take_zero]
      exact (congrArg String.ofList (Path.text_child_here hfirst)).trans String.ofList_toList
    · rw [exampleRoot_eq_ups hp]
      simp [stepsUp, Anchor.slashes]
  · rintro rfl
    exact ⟨rfl, rfl⟩
  · constructor
    · rw [ha]
      rfl
    · have hsteps : stepsUp p = if p.parts = [] then 1 else p.parts.length := by
        simp only [stepsUp, ha, Anchor.slashes, List.length_cons, List.length_nil]
        cases p.parts with
        | nil => rfl
        | cons part parts => simp [Nat.add_comm]
      rw [exampleRoot_eq_ups hp, hsteps]

/-- Two steps up from a directory in a directory. -/
theorem exampleRoot_leads_up_nested :
    let p : Path := .ofString "grammars/java/java9"
    p.WellFormed ∧ ".." ∉ p.parts ∧ (p.followed (exampleRoot p).toList).toString = "grammars" ∧
      exampleRoot p = "../../" := by
  intro p
  have hp : p.WellFormed := Path.wellFormed_ofString _
  have hdots : ".." ∉ p.parts := by decide
  have hparts : p = ⟨.relative, ["grammars", "java", "java9"]⟩ := by decide
  obtain ⟨htop, hroot⟩ := (exampleRoot_leads_up hp hdots).1 _ _ hparts
  refine ⟨hp, hdots, htop, hroot.trans ?_⟩
  decide

end GrammarProject.Descriptor
