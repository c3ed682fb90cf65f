import GrammarProject.Text.Quoted
import Mathlib.Tactic.IntervalCases

/-!
# Quoted texts are printable

Digits are printable (`printable_hexDigits`, `printable_natText`), and so is a quoted text, whatever
is quoted (`printable_quoteList`).
-/

namespace GrammarProject.Text

def Printable (cs : List Char) : Prop := ∀ c ∈ cs, isPrintable c = true

variable {cs ds : List Char} {c : Char}

@[simp] theorem printable_nil : Printable [] := fun _ h => absurd h List.not_mem_nil

@[simp] theorem printable_cons : Printable (c :: cs) ↔ isPrintable c = true ∧ Printable cs :=
  List.forall_mem_cons

@[simp] theorem printable_append : Printable (cs ++ ds) ↔ Printable cs ∧ Printable ds :=
  List.forall_mem_append

/-- What stands between U+001F and U+007F is printable. -/
theorem isPrintable_of_ascii (h : 0x20 ≤ c.toNat ∧ c.toNat < 0x7f) : isPrintable c = true := by
  simp [isPrintable, h.1, Nat.le_of_lt_succ h.2]

/-- No character of ASCII that is printable is in the table. -/
theorem isPrintable_eq (c : Char) : isPrintable c = !CharRange.covers unprintable c := by
  have hranges : ∀ r ∈ unprintable, r.2 < 0x20 ∨ 0x7f ≤ r.1 := by decide +kernel
  cases hc : CharRange.covers unprintable c with
  | false => simp [isPrintable, hc]
  | true =>
    obtain ⟨r, hr, hlow, hhigh⟩ := CharRange.covers_iff.1 hc
    have hout : ¬(0x20 ≤ c.toNat ∧ c.toNat ≤ 0x7e) := by
      have := hranges r hr
      omega
    simpa [isPrintable, hc] using hout

/-! ## Digits -/

theorem isPrintable_digitChar (n : Nat) : isPrintable (Nat.digitChar n) = true := by
  refine isPrintable_of_ascii ?_
  by_cases h : n < 16
  · interval_cases n <;> decide
  · rw [Nat.digitChar_eq_star.2 (by omega)]
    decide

theorem printable_hexDigits (width n : Nat) : Printable (hexDigits width n) := by
  induction width generalizing n with
  | zero => exact printable_nil
  | succ width ih => simp [hexDigits, ih, isPrintable_digitChar]

theorem printable_toDigits (n : Nat) : Printable (Nat.toDigits 10 n) := by
  intro c hc
  have hdigit : c.isDigit = true := Nat.isDigit_of_mem_toDigits (by omega) (by omega) hc
  simp only [Char.isDigit, Bool.and_eq_true, decide_eq_true_eq] at hdigit
  have hlow : 48 ≤ c.toNat := UInt32.le_iff_toNat_le.1 hdigit.1
  have hhigh : c.toNat ≤ 57 := UInt32.le_iff_toNat_le.1 hdigit.2
  exact isPrintable_of_ascii ⟨by omega, by omega⟩

theorem printable_natText (n : Nat) : Printable (toString n).toList := by
  rw [Nat.toString_eq_repr, Nat.repr, String.toList_ofList]
  exact printable_toDigits n

/-! ## Quoted texts -/

theorem printable_quotedChar {q : Char} (hq : isPrintable q = true) (c : Char) :
    Printable (quotedChar q c) := by
  have hback : isPrintable '\\' = true := isPrintable_of_ascii (by decide)
  have hescape {d : Char} (hd : isPrintable d = true) : Printable ['\\', d] := by
    simp [hback, hd]
  have hdigits {x : Char} (hx : isPrintable x = true) (width : Nat) :
      Printable ('\\' :: x :: hexDigits width c.toNat) := by
    simp [hback, hx, printable_hexDigits]
  unfold quotedChar
  split
  · rename_i h
    rcases h with rfl | rfl
    · exact hescape hq
    · exact hescape hback
  · split
    · exact hescape (isPrintable_of_ascii (by decide))
    · split
      · exact hescape (isPrintable_of_ascii (by decide))
      · split
        · exact hescape (isPrintable_of_ascii (by decide))
        · split
          · rename_i hprintable
            simpa using hprintable
          · split
            · exact hdigits (isPrintable_of_ascii (by decide)) 2
            · split
              · exact hdigits (isPrintable_of_ascii (by decide)) 4
              · exact hdigits (isPrintable_of_ascii (by decide)) 8

/-- A quoted text is printable, whatever is quoted. -/
theorem printable_quoteList (cs : List Char) : Printable (quoteList cs) := by
  have hq : isPrintable (quoteMark cs) = true := by
    unfold quoteMark
    split <;> exact isPrintable_of_ascii (by decide)
  have hinside : Printable (cs.flatMap (quotedChar (quoteMark cs))) := by
    intro c hc
    obtain ⟨d, -, hd⟩ := List.mem_flatMap.1 hc
    exact printable_quotedChar hq d c hd
  simp [quoteList, hq, hinside]

end GrammarProject.Text
