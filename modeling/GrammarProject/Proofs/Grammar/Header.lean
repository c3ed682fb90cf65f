import GrammarProject.Grammar.Header
import GrammarProject.Proofs.Grammar.Files
import GrammarProject.Proofs.Text.Utf8

/-!
# Names are words

The name that a header gives is a word: there is no white space in it (`isWord_of_read`). What it
becomes in the names of files has no blanks either (`IsWord.stem`, `blank_not_mem_lowered`).
-/

namespace GrammarProject

namespace Text

variable {cs w : List Char} {c : Char}

theorem isBlank_of_mem_words (h : w ∈ words cs) : ∀ c ∈ w, isBlank c = false := by
  induction cs generalizing w with
  | nil => cases h
  | cons c cs ih =>
    unfold words at h
    split at h
    · exact ih h
    · rename_i hc
      have hone : ∀ d ∈ [c], isBlank d = false := by simpa using hc
      split at h
      · obtain rfl := List.mem_singleton.1 h
        exact hone
      · rename_i d ds
        split at h
        · rcases List.mem_cons.1 h with rfl | h
          · exact hone
          · exact ih h
        · split at h
          · obtain rfl := List.mem_singleton.1 h
            exact hone
          · rename_i v vs hwords
            rw [hwords] at ih
            rcases List.mem_cons.1 h with rfl | h
            · intro e he
              rcases List.mem_cons.1 he with rfl | he
              · exact hone e (by simp)
              · exact ih (by simp) e he
            · exact ih (by simp [h])

theorem blank_lt_of_mem_lowerRuns :
    ∀ r ∈ lowerRuns, (' '.toNat : Int) < r.1 + r.2.2.2 := by decide +kernel

theorem lowerChar_ne_blank (h : c ≠ ' ') : lowerChar c ≠ ' ' := by
  unfold lowerChar
  split
  · exact h
  · rename_i r hr
    have hin := List.find?_some hr
    have hbehind := blank_lt_of_mem_lowerRuns r (List.mem_of_find?_eq_some hr)
    simp only [inLowerRun, Bool.and_eq_true, decide_eq_true_eq] at hin
    intro he
    have hn := eq_of_ofNat_eq (by decide) he
    omega

theorem blank_not_mem_lowerAfter (before : List Char) (h : ' ' ∉ cs) :
    ' ' ∉ lowerAfter before cs := by
  induction cs generalizing before with
  | nil => exact List.not_mem_nil
  | cons c cs ih =>
    obtain ⟨hc, hcs⟩ := not_or.1 (List.mem_cons.not.1 h)
    rw [lowerAfter, List.mem_append, not_or]
    refine ⟨?_, ih _ hcs⟩
    unfold lowerBetween
    split
    · decide
    · split
      · split <;> decide
      · simpa using (lowerChar_ne_blank (Ne.symm hc)).symm

/-- Lower-casing makes no blanks. -/
theorem blank_not_mem_lowered {s : String} (h : ' ' ∉ s.toList) : ' ' ∉ (lowered s).toList := by
  rw [lowered, String.toList_ofList]
  exact blank_not_mem_lowerAfter [] h

end Text

def IsWord (s : String) : Prop := ∀ c ∈ s.toList, Text.isBlank c = false

instance (s : String) : Decidable (IsWord s) :=
  List.decidableBAll (Text.isBlank · = false) s.toList

namespace IsWord

theorem not_mem {s : String} (h : IsWord s) {c : Char} (hc : Text.isBlank c = true) :
    c ∉ s.toList := by
  intro hm
  rw [h c hm] at hc
  cases hc

theorem stem {name : String} (h : IsWord name) (suffix : String) :
    IsWord (Grammar.stem suffix name) := by
  intro c hc
  rw [Grammar.stem, String.toList_ofList, Grammar.dropSuffix] at hc
  split at hc
  · exact h c (List.mem_of_mem_take hc)
  · exact h c hc

theorem append {s other : String} (h : IsWord s) (ho : IsWord other) : IsWord (s ++ other) := by
  intro c hc
  rw [String.toList_append, List.mem_append] at hc
  exact hc.elim (h c) (ho c)

end IsWord

namespace Grammar

variable {t : FileTree} {file : Path} {encoding : String} {g : Grammar}

theorem isWord_of_ofHeader {line : List Char} {kind : Kind} (h : ofHeader line kind file = .ok g) :
    IsWord g.name := by
  unfold ofHeader at h
  split at h
  · rename_i v w ws hwords
    cases h
    have hlast : (w :: ws).getLast (by simp) ∈ Text.words (declaration line) := by
      rw [hwords]
      exact List.mem_cons_of_mem _ (List.getLast_mem _)
    intro c hc
    rw [String.toList_ofList] at hc
    exact Text.isBlank_of_mem_words hlast c hc
  · cases h

theorem file_of_ofHeader {line : List Char} {kind : Kind} (h : ofHeader line kind file = .ok g) :
    g.file = file := by
  unfold ofHeader at h
  split at h
  · cases h
    rfl
  · cases h

/-- What a text says that is read as a grammar, a header of it says. -/
theorem ofHeader_of_ofText {text : List Char} (h : ofText file text = .ok g) :
    ∃ line kind, ofHeader line kind file = .ok g := by
  unfold ofText at h
  split at h
  · cases h
  · split at h
    · cases h
    · exact ⟨_, _, h⟩

theorem ofText_of_ofDecoded {d : Text.Decoded} (h : ofDecoded file d = .ok g) :
    ofText file d.text = .ok g := by
  unfold ofDecoded at h
  split at h
  · cases h
  · exact h

theorem ofHeader_of_read [Platform] (h : read t file encoding = .ok g) :
    ∃ line kind, ofHeader line kind file = .ok g := by
  unfold read at h
  split at h
  · cases h
  · split at h
    · cases h
    · exact ofHeader_of_ofText (ofText_of_ofDecoded h)

/-- The name of a grammar that is read is a word. -/
theorem isWord_of_read [Platform] (h : read t file encoding = .ok g) : IsWord g.name := by
  obtain ⟨line, kind, hheader⟩ := ofHeader_of_read h
  exact isWord_of_ofHeader hheader

/-- What is read from a file is a grammar of this file. -/
theorem file_of_read [Platform] (h : read t file encoding = .ok g) : g.file = file := by
  obtain ⟨line, kind, hheader⟩ := ofHeader_of_read h
  exact file_of_ofHeader hheader

end Grammar

end GrammarProject
