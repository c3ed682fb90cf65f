import GrammarProject.Proofs.Path.Text

/-!
# The order of paths

Paths are in a total order by their keys (`le_total`, `le_trans`), in which well-formed paths that
stand at one place are equal (`le_antisymm`). So different paths that are sorted are strictly in
order (`pairwise_sorted_lt`), and paths that are sorted do not depend on the order in which they
were found (`sorted_eq_of_perm`).
-/

namespace GrammarProject.Path

theorem le_iff {p q : Path} : p.le q = true ↔ ¬q.key < p.key := by
  simp [le]

theorem le_total (p q : Path) : (p.le q || q.le p) = true := by
  simp only [Bool.or_eq_true, le_iff]
  exact List.le_total p.key q.key

theorem le_trans (p q r : Path) (h : p.le q = true) (h' : q.le r = true) : p.le r = true := by
  rw [le_iff] at *
  exact List.le_trans (α := String) h h'

theorem not_isComponent_slashes {anchor : Anchor} (h : anchor ≠ .relative) :
    ¬IsComponent (String.ofList anchor.slashes) := by
  rintro ⟨-, -, hs⟩
  refine hs ?_
  cases anchor with
  | relative => exact absurd rfl h
  | root | doubleRoot => simp [Anchor.slashes]

theorem key_of_ne {p : Path} (h : p.anchor ≠ .relative) :
    p.key = String.ofList p.anchor.slashes :: p.parts := by
  unfold key
  split
  · contradiction
  · rfl

theorem eq_of_parts {p q : Path} (ha : p.anchor = q.anchor) (hp : p.parts = q.parts) : p = q := by
  cases p
  cases q
  simp_all

theorem key_inj {p q : Path} (hp : p.WellFormed) (hq : q.WellFormed) (h : p.key = q.key) :
    p = q := by
  have hkey {p : Path} (ha : p.anchor = .relative) : p.key = p.parts := by rw [key, ha]
  by_cases ha : p.anchor = .relative <;> by_cases hb : q.anchor = .relative
  · rw [hkey ha, hkey hb] at h
    exact eq_of_parts (ha.trans hb.symm) h
  · rw [hkey ha, key_of_ne hb] at h
    exact absurd (hp _ (h ▸ List.mem_cons_self)) (not_isComponent_slashes hb)
  · rw [hkey hb, key_of_ne ha] at h
    exact absurd (hq _ (h ▸ List.mem_cons_self)) (not_isComponent_slashes ha)
  · rw [key_of_ne ha, key_of_ne hb] at h
    obtain ⟨hs, hparts⟩ := List.cons.inj h
    have hs : p.anchor = q.anchor := by
      revert hs
      cases p.anchor <;> cases q.anchor <;> decide
    exact eq_of_parts hs hparts

theorem le_antisymm {p q : Path} (hp : p.WellFormed) (hq : q.WellFormed) (h : p.le q = true)
    (h' : q.le p = true) : p = q :=
  key_inj hp hq (List.le_antisymm (le_iff.1 h) (le_iff.1 h'))

theorem pairwise_sorted (ps : List Path) : (sorted ps).Pairwise fun p q => p.le q = true :=
  List.pairwise_mergeSort le_trans le_total ps

/-- Different paths in order are strictly in order. -/
theorem pairwise_sorted_lt {ps : List Path} (hw : ∀ p ∈ ps, p.WellFormed) (hn : ps.Nodup) :
    (sorted ps).Pairwise fun p q => p.key < q.key := by
  have hperm : (sorted ps).Perm ps := List.mergeSort_perm ps le
  have hne : (sorted ps).Pairwise (· ≠ ·) := hperm.nodup_iff.2 hn
  refine ((pairwise_sorted ps).and hne).imp_of_mem fun {p q} hp hq ⟨hle, hpq⟩ => ?_
  by_contra hlt
  exact hpq (le_antisymm (hw p (hperm.subset hp)) (hw q (hperm.subset hq)) hle (le_iff.2 hlt))

/-- Paths in order do not depend on the order in which they were found. -/
theorem sorted_eq_of_perm {ps qs : List Path} (hw : ∀ p ∈ ps, p.WellFormed) (h : ps.Perm qs) :
    sorted ps = sorted qs := by
  have hperm : (sorted ps).Perm (sorted qs) :=
    (List.mergeSort_perm ps le).trans (h.trans (List.mergeSort_perm qs le).symm)
  refine hperm.eq_of_pairwise (fun p q hp hq => ?_) (pairwise_sorted ps) (pairwise_sorted qs)
  have hp : p ∈ ps := (List.mergeSort_perm ps le).subset hp
  have hq : q ∈ ps := h.symm.subset ((List.mergeSort_perm qs le).subset hq)
  exact le_antisymm (hw p hp) (hw q hq)

end GrammarProject.Path
