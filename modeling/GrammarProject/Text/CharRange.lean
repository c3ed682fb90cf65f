/-!
# Ranges of characters

A class of characters is a list of ranges of code points. Membership is `CharRange.covers`.
-/

namespace GrammarProject.Text

/-- The code points from the first number to the second, both included. -/
abbrev CharRange := Nat × Nat

def CharRange.holds (r : CharRange) (n : Nat) : Bool := r.1 ≤ n && n ≤ r.2

def CharRange.covers (rs : List CharRange) (c : Char) : Bool := rs.any (·.holds c.toNat)

theorem CharRange.covers_iff {rs : List CharRange} {c : Char} :
    CharRange.covers rs c = true ↔ ∃ r ∈ rs, r.1 ≤ c.toNat ∧ c.toNat ≤ r.2 := by
  simp [CharRange.covers, CharRange.holds]

end GrammarProject.Text
