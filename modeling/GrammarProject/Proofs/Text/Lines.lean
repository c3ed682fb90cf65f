import GrammarProject.Text.Lines
import Mathlib.Data.List.Basic

/-!
# Lines

`CutsInto` says what the lines of a text are without cutting it: each but the last has one of three
line ends behind it, and a carriage return before a line feed is one line end with it. A text is cut
into its `lines` and into nothing else (`cutsInto_iff`).
-/

namespace GrammarProject.Text

inductive LineEnd where
  | lineFeed
  | carriageReturn
  | both -- A carriage return followed by a line feed
deriving DecidableEq, Repr

def LineEnd.chars : LineEnd → List Char
  | lineFeed => ['\n']
  | carriageReturn => ['\r']
  | both => ['\r', '\n']

def IsLine (cs : List Char) : Prop := ∀ c ∈ cs, c ≠ '\n' ∧ c ≠ '\r'

instance (cs : List Char) : Decidable (IsLine cs) :=
  List.decidableBAll (fun c => c ≠ '\n' ∧ c ≠ '\r') cs

/-- Lines, of characters or of bytes, each with its end behind it. -/
def endedLines {α : Type} (written : LineEnd → List α) (ls : List (List α × LineEnd)) : List α :=
  ls.flatMap fun l => l.1 ++ written l.2

/-- How a text is cut into lines. -/
inductive CutsInto : List Char → List (List Char) → Prop where
  | empty : CutsInto [] []
  /-- A line at the end of the text that has no end. -/
  | last {l : List Char} : IsLine l → l ≠ [] → CutsInto l [l]
  | ended {l rest : List Char} {ls : List (List Char)} (e : LineEnd) : IsLine l →
      (e = .carriageReturn → rest.head? ≠ some '\n') → CutsInto rest ls →
      CutsInto (l ++ e.chars ++ rest) (l :: ls)

variable {l cs rest text : List Char} {ls : List (List Char)} {c : Char}

@[simp] theorem isLine_nil : IsLine [] := List.forall_mem_nil _

@[simp] theorem isLine_cons : IsLine (c :: cs) ↔ (c ≠ '\n' ∧ c ≠ '\r') ∧ IsLine cs :=
  List.forall_mem_cons

@[simp] theorem endedLines_nil {α : Type} (written : LineEnd → List α) :
    endedLines written [] = [] := rfl

@[simp] theorem endedLines_cons {α : Type} (written : LineEnd → List α) (l : List α × LineEnd)
    (ls : List (List α × LineEnd)) :
    endedLines written (l :: ls) = l.1 ++ written l.2 ++ endedLines written ls := rfl

theorem forall_of_same_lines {α : Type} {P : List α → Prop} {ls ls' : List (List α × LineEnd)}
    (hsame : ls.map (·.1) = ls'.map (·.1)) (h : ∀ l ∈ ls, P l.1) : ∀ l ∈ ls', P l.1 := by
  have hmap : ∀ l ∈ ls.map (·.1), P l := List.forall_mem_map.2 h
  rw [hsame] at hmap
  exact List.forall_mem_map.1 hmap

/-! ## Cutting -/

@[simp] theorem lines_nil : lines [] = [] := by rw [lines]

@[simp] theorem lines_lineFeed (cs : List Char) : lines ('\n' :: cs) = [] :: lines cs := by
  rw [lines]
  · simp
  · simp

@[simp] theorem lines_both (cs : List Char) : lines ('\r' :: '\n' :: cs) = [] :: lines cs := by
  rw [lines]

theorem lines_carriageReturn (h : cs.head? ≠ some '\n') :
    lines ('\r' :: cs) = [] :: lines cs := by
  rw [lines]
  · simp
  · rintro rest - rfl
    exact h rfl

theorem lines_cons (h : c ≠ '\n' ∧ c ≠ '\r') (cs : List Char) : lines (c :: cs) =
    match lines cs with
    | [] => [[c]]
    | l :: ls => (c :: l) :: ls := by
  rw [lines]
  · exact (if_neg (by simp [h])).trans (by cases lines cs <;> rfl)
  · exact fun _ hc => absurd hc h.2

theorem lines_of_isLine (hl : IsLine l) (hne : l ≠ []) : lines l = [l] := by
  induction l with
  | nil => exact absurd rfl hne
  | cons c l ih =>
    obtain ⟨hc, hl⟩ := isLine_cons.1 hl
    rw [lines_cons hc]
    cases l with
    | nil => rfl
    | cons d l => rw [ih hl (by simp)]

/-- A line and its end in front of a text. -/
theorem lines_ended (e : LineEnd) (hl : IsLine l)
    (he : e = .carriageReturn → rest.head? ≠ some '\n') :
    lines (l ++ e.chars ++ rest) = l :: lines rest := by
  induction l with
  | nil =>
    cases e with
    | lineFeed => exact lines_lineFeed rest
    | carriageReturn => exact lines_carriageReturn (he rfl)
    | both => exact lines_both rest
  | cons c l ih =>
    obtain ⟨hc, hl⟩ := isLine_cons.1 hl
    rw [List.cons_append, List.cons_append, lines_cons hc, ih hl]

theorem CutsInto.cons (hc : c ≠ '\n' ∧ c ≠ '\r') (h : CutsInto cs ls) :
    CutsInto (c :: cs) (match ls with
      | [] => [[c]]
      | l :: ls => (c :: l) :: ls) := by
  cases h with
  | empty => exact .last (by simp [hc]) (by simp)
  | last hl _ => exact .last (isLine_cons.2 ⟨hc, hl⟩) (by simp)
  | ended e hl he h => exact .ended e (isLine_cons.2 ⟨hc, hl⟩) he h

theorem cutsInto_lines (text : List Char) : CutsInto text (lines text) := by
  fun_induction lines text with
  | case1 => exact .empty
  | case2 cs ih => exact .ended .both isLine_nil (by simp) ih
  | case3 c cs hboth hc ih =>
    rcases hc with rfl | rfl
    · exact .ended .lineFeed isLine_nil (by simp) ih
    · refine .ended .carriageReturn isLine_nil (fun _ hhead => ?_) ih
      obtain ⟨rest, rfl⟩ := List.head?_eq_some_iff.1 hhead
      exact hboth rest rfl rfl
  | case4 c cs _ hc hnil ih =>
    rw [hnil] at ih
    exact ih.cons (not_or.1 hc)
  | case5 c cs _ hc l ls hcons ih =>
    rw [hcons] at ih
    exact ih.cons (not_or.1 hc)

/-- **A text is cut into its lines** and into nothing else. -/
theorem cutsInto_iff : CutsInto text ls ↔ ls = lines text := by
  constructor
  · intro h
    induction h with
    | empty => exact lines_nil.symm
    | last hl hne => exact (lines_of_isLine hl hne).symm
    | ended e hl he _ ih => rw [lines_ended e hl he, ih]
  · rintro rfl
    exact cutsInto_lines text

end GrammarProject.Text
