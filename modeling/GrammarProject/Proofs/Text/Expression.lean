import Mathlib.Data.List.Infix

/-!
# Searching a text for an expression

An expression is a row of items, each of which takes characters from the front of a text. An item
that may take many characters takes as many as it can and gives them back one by one until the items
behind it fit (`manyThen_iff`). A search tries every place of the text (`isFoundIn_iff`).
-/

namespace GrammarProject.Text

/-- One item of an expression. -/
inductive Item where
  | one (test : Char → Bool) -- One character that passes a test
  | many (test : Char → Bool) -- Any number of characters that pass a test
  /-- The end of the text, or the line feed that the text ends in. -/
  | atEnd

/-- The items that a piece of a text has to fit, one behind the other. -/
abbrev Expression := List Item

/-- Characters that pass a test, as many as possible, with a rest that fits behind them. -/
def manyThen (test : Char → Bool) (rest : List Char → Bool) : List Char → Bool
  | [] => rest []
  | c :: cs => (test c && manyThen test rest cs) || rest (c :: cs)

/-- Whether an item fits the front of a text, with a rest that fits behind it. -/
def Item.fits (rest : List Char → Bool) : Item → List Char → Bool
  | one _, [] => false
  | one test, c :: cs => test c && rest cs
  | many test, cs => manyThen test rest cs
  | atEnd, cs => (cs = [] || cs = ['\n']) && rest cs

/-- Whether an expression fits the front of a text. -/
def Expression.fits : Expression → List Char → Bool
  | [], _ => true
  | item :: items, cs => item.fits (fits items) cs

def Expression.isFoundIn (e : Expression) : List Char → Bool
  | [] => e.fits []
  | c :: cs => e.fits (c :: cs) || e.isFoundIn cs

/-- Taking characters and giving them back tries every number of them. -/
theorem manyThen_iff {test : Char → Bool} {rest : List Char → Bool} {cs : List Char} :
    manyThen test rest cs = true ↔
      ∃ front back, cs = front ++ back ∧ (∀ c ∈ front, test c = true) ∧ rest back = true := by
  induction cs with
  | nil =>
    constructor
    · intro h
      exact ⟨[], [], rfl, fun c hc => absurd hc List.not_mem_nil, h⟩
    · rintro ⟨front, back, hcs, -, h⟩
      obtain ⟨-, rfl⟩ := List.append_eq_nil_iff.1 hcs.symm
      exact h
  | cons c cs ih =>
    rw [manyThen, Bool.or_eq_true, Bool.and_eq_true, ih]
    constructor
    · rintro (⟨hc, front, back, rfl, hfront, h⟩ | h)
      · exact ⟨c :: front, back, rfl, List.forall_mem_cons.2 ⟨hc, hfront⟩, h⟩
      · exact ⟨[], c :: cs, rfl, fun c hc => absurd hc List.not_mem_nil, h⟩
    · rintro ⟨front, back, hcs, hfront, h⟩
      cases front with
      | nil =>
        rw [List.nil_append] at hcs
        exact .inr (hcs ▸ h)
      | cons d front =>
        obtain ⟨rfl, rfl⟩ := List.cons.inj hcs
        obtain ⟨hc, hfront⟩ := List.forall_mem_cons.1 hfront
        exact .inl ⟨hc, front, back, rfl, hfront, h⟩

/-- A search tries every place. -/
theorem Expression.isFoundIn_iff {e : Expression} {cs : List Char} :
    e.isFoundIn cs = true ↔ ∃ behind, behind <:+ cs ∧ e.fits behind = true := by
  induction cs with
  | nil => simp [isFoundIn]
  | cons c cs ih =>
    rw [isFoundIn, Bool.or_eq_true, ih]
    constructor
    · rintro (h | ⟨behind, hb, h⟩)
      · exact ⟨c :: cs, List.suffix_refl _, h⟩
      · exact ⟨behind, hb.trans (List.suffix_cons c cs), h⟩
    · rintro ⟨behind, hb, h⟩
      rcases List.suffix_cons_iff.1 hb with rfl | hb
      · exact .inl h
      · exact .inr ⟨behind, hb, h⟩

end GrammarProject.Text
