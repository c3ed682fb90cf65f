import GrammarProject.Proofs.Path.Normal
import GrammarProject.Target

/-!
# Variants of paths

For a target with an extension, the variant of a path is the path with the infix between stem and
extension (`Target.IsVariant`): a path in the same directory (`IsVariant.sibling`), and in
normal form for a registered target (`variant_isNormal`). Without an extension the variant of any
path is the infix alone (`variantOf?_no_extension`).
-/

namespace GrammarProject.Target

variable {t : Target}

/-- What variants have between stem and extension; nothing if there are no variants. -/
def inside (t : Target) : List Char := (t.variantInfix.getD "").toList

def extension (t : Target) : List Char := t.grammarExtension.toList

/-- The variant has the stem and the extension of the path, with the infix between them. -/
def IsVariant (t : Target) (path variant : List Char) : Prop :=
  ∃ stem, path = stem ++ t.extension ∧ variant = stem ++ (t.inside ++ t.extension)

/-! ## Which paths have variants -/

theorem variantOf?_eq (path : List Char) : t.variantOf? path =
    if t.inside ≠ [] ∧ t.extension <:+ path then
      some ((if t.extension = [] then [] else path.take (path.length - t.extension.length)) ++
        (t.inside ++ t.extension))
    else none := by
  unfold variantOf? inside extension
  cases t.variantInfix with
  | none => simp
  | some infixed =>
    cases hi : infixed.toList with
    | nil => simp [hi]
    | cons c cs =>
      by_cases hs : t.grammarExtension.toList <:+ path <;> simp [hi, hs]

theorem isSome_variantOf?_iff (path : List Char) :
    (t.variantOf? path).isSome = true ↔ t.inside ≠ [] ∧ t.extension <:+ path := by
  rw [variantOf?_eq]
  split <;> simp_all

theorem variantOf?_no_extension (h : t.extension = []) (hi : t.inside ≠ []) (path : List Char) :
    t.variantOf? path = some t.inside := by
  rw [variantOf?_eq, h]
  simp [hi]

theorem variantOf?_eq_some_iff (h : t.extension ≠ []) {path v : List Char} :
    t.variantOf? path = some v ↔ t.inside ≠ [] ∧ t.IsVariant path v := by
  rw [variantOf?_eq, if_neg h]
  constructor
  · intro hv
    split at hv
    · rename_i hc
      obtain ⟨hi, stem, rfl⟩ := hc
      cases hv
      exact ⟨hi, stem, rfl, by simp⟩
    · cases hv
  · rintro ⟨hi, stem, rfl, rfl⟩
    rw [if_pos ⟨hi, List.suffix_append _ _⟩]
    simp

/-! ## Variants are siblings -/

theorem IsVariant.sibling (h : t.extension ≠ []) (hi : t.inside ≠ []) (hext : '/' ∉ t.extension)
    (hinside : '/' ∉ t.inside) {p : Path} (hp : p.WellFormed) {v : List Char}
    (hv : t.IsVariant p.text v) : ∃ kept,
      Path.ofString (String.ofList v) =
        p.sibling (String.ofList (kept ++ (t.inside ++ t.extension))) ∧
      Path.IsComponent (String.ofList (kept ++ (t.inside ++ t.extension))) ∧
      (Path.ofString (String.ofList v)).text = v := by
  obtain ⟨stem, hpath, rfl⟩ := hv
  have hlong : 1 < (t.inside ++ t.extension).length := by
    have := List.length_pos_iff.2 h
    have := List.length_pos_iff.2 hi
    rw [List.length_append]
    omega
  obtain ⟨kept, hname, htext⟩ := Path.exists_sibling hp hpath hext hlong (by simp [hext, hinside])
  have hread : Path.ofString (String.ofList (stem ++ (t.inside ++ t.extension))) =
      p.sibling (String.ofList (kept ++ (t.inside ++ t.extension))) := by
    rw [← htext]
    exact Path.ofString_toString (hp.sibling hname)
  exact ⟨kept, hread, hname, by rw [hread, htext]⟩

theorem plain_of_registered (ht : t ∈ registered) :
    '/' ∉ t.extension ∧ '/' ∉ t.inside ∧ t.extension ≠ [] := by
  revert t
  decide

/-- The variant of a path in normal form for a registered target is in normal form. -/
theorem variant_isNormal {t : Target} (ht : t ∈ registered) {p : Path} (hp : p.IsNormal)
    {v : List Char} (h : t.variantOf? p.text = some v) :
    (Path.ofString (String.ofList v)).IsNormal := by
  simp only [registered, List.mem_cons, List.not_mem_nil, or_false] at ht
  rcases ht with rfl | rfl
  · obtain ⟨hi, hv⟩ := (variantOf?_eq_some_iff (by decide)).1 h
    obtain ⟨kept, hsibling, hname, -⟩ := hv.sibling (by decide) hi (by decide) (by decide)
      hp.wellFormed
    rw [hsibling]
    obtain ⟨stem, hpath, -⟩ := hv
    refine hp.sibling (fun hlast => ?_) hname (fun hdots => ?_)
    · -- A path that ends in `..` does not end in the extension.
      have hdots : "..".toList.getLast? = some '.' := rfl
      have hext : go.extension.getLast? = some '4' := rfl
      have hends := congrArg List.getLast? hpath
      rw [← Path.sibling_self hlast, Path.text_sibling p (by decide), List.getLast?_append,
        List.getLast?_append, hdots, hext] at hends
      cases hends
    · have hnew : (go.inside ++ go.extension).length = 12 := by decide
      have hlength := congrArg (·.toList.length) hdots
      have htwo : "..".toList.length = 2 := rfl
      rw [String.toList_ofList, List.length_append, hnew, htwo] at hlength
      omega
  · cases h

end GrammarProject.Target
