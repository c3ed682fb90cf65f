import GrammarProject.Proofs.Text.Quoted
import GrammarProject.Text.Blank

/-!
# Texts without white space but blanks

A text is spaced if it has no white space but U+0020 (`Spaced`): no tabs and nothing that ends a
line. Printable texts are spaced (`spaced_of_printable`), so quoted texts are, whatever is quoted.
-/

namespace GrammarProject

def Spaced (cs : List Char) : Prop := ∀ c ∈ cs, Text.isBlank c = true → c = ' '

instance (cs : List Char) : Decidable (Spaced cs) :=
  List.decidableBAll (fun c => Text.isBlank c = true → c = ' ') cs

variable {cs ds : List Char} {c : Char}

@[simp] theorem spaced_append : Spaced (cs ++ ds) ↔ Spaced cs ∧ Spaced ds := List.forall_mem_append

theorem Spaced.not_mem (h : Spaced cs) (hc : Text.isBlank c = true) (hne : c ≠ ' ') : c ∉ cs :=
  fun hm => hne (h c hm hc)

theorem spaced_of_forall (h : ∀ c ∈ cs, Text.isBlank c = false) : Spaced cs := by
  intro c hm hc
  rw [h c hm] at hc
  cases hc

/-! ## Printable texts -/

/-- White space is not printable, but for U+0020. -/
theorem isPrintable_of_isBlank (hc : Text.isBlank c = true) (hne : c ≠ ' ') :
    Text.isPrintable c = false := by
  have hranges : ∀ r ∈ Text.blankRanges,
      r = (0x1c, ' '.toNat) ∨ ∃ u ∈ Text.unprintable, u.1 ≤ r.1 ∧ r.2 ≤ u.2 := by decide +kernel
  have hcovers : Text.CharRange.covers Text.unprintable c = true := by
    obtain ⟨r, hr, hlow, hhigh⟩ := Text.CharRange.covers_iff.1 hc
    rcases hranges r hr with rfl | ⟨u, hu, hulow, huhigh⟩
    · -- All of this range is unprintable but its last character.
      have hlt : c.toNat ≠ ' '.toNat := fun he => hne (Char.toNat_inj.1 he)
      refine Text.CharRange.covers_iff.2 ⟨(0x0, 0x1f), List.mem_cons_self, Nat.zero_le _, ?_⟩
      change c.toNat ≠ 0x20 at hlt
      change c.toNat ≤ 0x20 at hhigh
      omega
    · exact Text.CharRange.covers_iff.2 ⟨u, hu, by omega, by omega⟩
  rw [Text.isPrintable_eq, hcovers]
  rfl

theorem spaced_of_printable (h : Text.Printable cs) : Spaced cs := by
  intro c hm hc
  by_contra hne
  have hprintable := h c hm
  rw [isPrintable_of_isBlank hc hne] at hprintable
  cases hprintable

end GrammarProject
