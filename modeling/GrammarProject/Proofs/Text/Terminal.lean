import GrammarProject.Text.Terminal
import Mathlib.Data.List.TakeWhile

/-!
# What output loses

A text without U+001B loses nothing (`withoutEscapes_of_free`), and what is left of any text is a
sublist of it (`withoutEscapes_sublist`). Of two texts each loses what it loses by itself, if no
escape sequence of the first goes on in the second (`Closes`), as where the second starts with a
character that is neither `[` nor a parameter nor a letter (`closes_before`). A line that ends in no
carriage return keeps its end (`plainBreaks_line`).
-/

namespace GrammarProject.Text

variable {cs ds : List Char} {c : Char} {n : Nat}

theorem length_parameters (cs : List Char) : (cs.takeWhile isEscapeParameter).length +
    (cs.dropWhile isEscapeParameter).length = cs.length := by
  rw [← List.length_append, List.takeWhile_append_dropWhile]

theorem escapeRest?_le (h : escapeRest? cs = some n) : n ≤ cs.length := by
  unfold escapeRest? at h
  split at h
  · rename_i ds
    split at h
    · rename_i c rest hrest
      split at h
      · have hlength := length_parameters ds
        rw [hrest, List.length_cons] at hlength
        simp only [Option.some.injEq] at h
        simp only [List.length_cons]
        omega
      · cases h
    · cases h
  · cases h

/-! ## Texts without escape sequences -/

theorem withoutEscapes_cons_of_ne (h : c ≠ escape) :
    withoutEscapes (c :: cs) = c :: withoutEscapes cs := by
  rw [withoutEscapes, withoutEscapesAfter, if_neg h]
  rfl

/-- What does not start an escape sequence stays, and what follows loses what it loses by
itself. -/
theorem withoutEscapes_append_of_free (h : escape ∉ cs) (ds : List Char) :
    withoutEscapes (cs ++ ds) = cs ++ withoutEscapes ds := by
  induction cs with
  | nil => rfl
  | cons c cs ih =>
    obtain ⟨hc, hcs⟩ := not_or.1 (List.mem_cons.not.1 h)
    rw [List.cons_append, withoutEscapes_cons_of_ne (Ne.symm hc), ih hcs]
    rfl

theorem withoutEscapes_of_free (h : escape ∉ cs) : withoutEscapes cs = cs := by
  simpa [withoutEscapes, withoutEscapesAfter] using withoutEscapes_append_of_free h []

theorem withoutEscapesAfter_sublist (skip : Nat) (cs : List Char) :
    (withoutEscapesAfter skip cs).Sublist cs := by
  induction cs generalizing skip with
  | nil => simp [withoutEscapesAfter]
  | cons c cs ih =>
    unfold withoutEscapesAfter
    split
    · exact (ih _).cons c
    · split
      · split
        · exact (ih _).cons c
        · exact (ih 0).cons_cons c
      · exact (ih 0).cons_cons c

theorem withoutEscapes_sublist (cs : List Char) : (withoutEscapes cs).Sublist cs :=
  withoutEscapesAfter_sublist 0 cs

/-! ## Where an escape sequence ends -/

/-- No escape sequence of the text goes on in what follows. -/
def Closes (cs ds : List Char) : Prop :=
  ∀ before rest, cs = before ++ escape :: rest → escapeRest? (rest ++ ds) = escapeRest? rest

theorem Closes.tail (h : Closes (c :: cs) ds) : Closes cs ds := by
  intro before rest hcs
  exact h (c :: before) rest (by rw [hcs, List.cons_append])

/-- The induction is on the first text, whose start may belong to an escape sequence. -/
theorem withoutEscapesAfter_append (h : Closes cs ds) {skip : Nat} (hskip : skip ≤ cs.length) :
    withoutEscapesAfter skip (cs ++ ds) = withoutEscapesAfter skip cs ++ withoutEscapes ds := by
  induction cs generalizing skip with
  | nil =>
    obtain rfl : skip = 0 := by simpa using hskip
    rfl
  | cons c cs ih =>
    rw [List.cons_append]
    cases skip with
    | succ skip =>
      have hskip : skip ≤ cs.length := by simpa using hskip
      exact ih h.tail hskip
    | zero =>
      by_cases hc : c = escape
      · have hrest := h [] cs (by rw [hc]; rfl)
        simp only [withoutEscapesAfter, if_pos hc, hrest]
        cases hn : escapeRest? cs with
        | none => simp [ih h.tail (Nat.zero_le _)]
        | some n => exact ih h.tail (escapeRest?_le hn)
      · simp only [withoutEscapesAfter, if_neg hc, ih h.tail (Nat.zero_le _), List.cons_append]

/-- Each text loses what it loses by itself, if no escape sequence goes on. -/
theorem withoutEscapes_append (h : Closes cs ds) :
    withoutEscapes (cs ++ ds) = withoutEscapes cs ++ withoutEscapes ds :=
  withoutEscapesAfter_append h (Nat.zero_le _)

/-- A character that an escape sequence does not go on behind. -/
def isStop (c : Char) : Bool := c ≠ '[' && !isEscapeParameter c

theorem isStop_iff : isStop c = true ↔ c ≠ '[' ∧ isEscapeParameter c = false := by
  simp [isStop]

theorem escapeRest?_cons_of_ne (h : c ≠ '[') (cs : List Char) : escapeRest? (c :: cs) = none := by
  unfold escapeRest?
  split
  · rename_i heq
    exact absurd (List.cons.inj heq).1 h
  · rfl

/-- What stands behind the parameters decides. -/
theorem escapeRest?_append_of_not_all (h : ∃ d ∈ cs, isEscapeParameter d = false) :
    escapeRest? ('[' :: (cs ++ ds)) = escapeRest? ('[' :: cs) := by
  obtain ⟨d, hd, hparameter⟩ := h
  have hlength := length_parameters cs
  cases hrest : cs.dropWhile isEscapeParameter with
  | nil =>
    -- Then all of them are parameters.
    rw [hrest, List.length_nil, Nat.add_zero] at hlength
    have hall := (List.takeWhile_prefix isEscapeParameter).eq_of_length hlength
    rw [List.takeWhile_eq_self_iff] at hall
    rw [hall d hd] at hparameter
    cases hparameter
  | cons e rest =>
    rw [hrest, List.length_cons] at hlength
    have hne : (cs.takeWhile isEscapeParameter).length ≠ cs.length := by omega
    simp only [escapeRest?, List.dropWhile_append, List.takeWhile_append, hrest, hne,
      List.isEmpty_cons, Bool.false_eq_true, if_false, List.cons_append]

/-- Nothing goes on in a text that starts with a stop, unless it is a letter: a letter may be
the end of an escape sequence. -/
theorem closes_before (hc : isStop c = true) (hletter : c.isAlpha = false) :
    Closes cs (c :: ds) := by
  obtain ⟨hbracket, hparameter⟩ := isStop_iff.1 hc
  intro before rest _
  cases rest with
  | nil => exact escapeRest?_cons_of_ne hbracket ds
  | cons d rest =>
    by_cases hd : d = '['
    · subst hd
      by_cases hall : ∀ d ∈ rest, isEscapeParameter d = true
      · have hdrop : (rest ++ c :: ds).dropWhile isEscapeParameter = c :: ds := by
          rw [List.dropWhile_append_of_pos hall, List.dropWhile_cons, hparameter]
          rfl
        have hnone : rest.dropWhile isEscapeParameter = [] := by
          have h : (rest ++ []).dropWhile isEscapeParameter = [].dropWhile isEscapeParameter :=
            List.dropWhile_append_of_pos hall
          simpa using h
        simp [escapeRest?, hdrop, hnone, hletter]
      · simp only [not_forall, Bool.not_eq_true] at hall
        obtain ⟨e, he, hparameter⟩ := hall
        exact escapeRest?_append_of_not_all ⟨e, he, hparameter⟩
    · rw [List.cons_append, escapeRest?_cons_of_ne hd, escapeRest?_cons_of_ne hd]

/-! ## Line ends -/

/-- A line without line feeds stays as it is, if it ends in no carriage return. -/
theorem plainBreaks_line (hcs : '\n' ∉ cs) (hlast : cs.getLast? ≠ some '\r') (ds : List Char) :
    plainBreaks (cs ++ '\n' :: ds) = cs ++ '\n' :: plainBreaks ds := by
  induction cs with
  | nil => rw [List.nil_append, List.nil_append, plainBreaks.eq_3 _ _ (by simp)]
  | cons c cs ih =>
    obtain ⟨-, hrest⟩ := not_or.1 (List.mem_cons.not.1 hcs)
    cases cs with
    | nil =>
      have hc : c ≠ '\r' := by simpa using hlast
      rw [List.singleton_append, List.singleton_append, plainBreaks.eq_3 _ _ (by simp [hc]),
        plainBreaks.eq_3 _ _ (by simp)]
    | cons d cs =>
      obtain ⟨hd, -⟩ := not_or.1 (List.mem_cons.not.1 hrest)
      rw [List.getLast?_cons_cons] at hlast
      rw [List.cons_append, plainBreaks.eq_3 _ _ (by simp [Ne.symm hd]), ih hrest hlast]
      rfl

end GrammarProject.Text
