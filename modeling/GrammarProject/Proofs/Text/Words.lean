import GrammarProject.Text.Blank
import Mathlib.Data.List.DropRight

/-!
# Words

Everything about words follows from three facts: white space between two texts keeps their words
apart (`words_append_blank`), white space alone has no words (`words_of_blank`), and a text without
white space is one word (`words_of_not_blank`). So the last word of a text is its last run of other
characters (`words_concat_iff`).
-/

namespace GrammarProject.Text

variable {cs ds w front back : List Char} {ws : List (List Char)} {b c : Char}

/-! ## Where words end -/

@[simp] theorem words_nil : words [] = [] := by rw [words]

theorem words_cons_blank (h : isBlank b = true) (cs : List Char) : words (b :: cs) = words cs := by
  rw [words.eq_def]
  exact if_pos h

theorem words_of_blank (h : ∀ c ∈ cs, isBlank c = true) : words cs = [] := by
  induction cs with
  | nil => exact words_nil
  | cons c cs ih =>
    obtain ⟨hc, hcs⟩ := List.forall_mem_cons.1 h
    rw [words_cons_blank hc, ih hcs]

theorem words_cons_eq (hc : isBlank c = false) (hb : isBlank b = false) (cs : List Char) :
    words (c :: b :: cs) = match words (b :: cs) with
      | [] => [[c]]
      | w :: ws => (c :: w) :: ws := by
  rw [words.eq_def]
  refine (if_neg (by simp [hc])).trans ((if_neg (by simp [hb])).trans ?_)
  cases words (b :: cs) <;> rfl

theorem words_cons_cons (hc : isBlank c = false) (hb : isBlank b = false) (cs : List Char) :
    ∃ w ws, words (b :: cs) = w :: ws ∧ words (c :: b :: cs) = (c :: w) :: ws := by
  induction cs generalizing c b with
  | nil => exact ⟨[b], [], by simp [words, hb], by simp [words, hc, hb]⟩
  | cons d cs ih =>
    rw [words_cons_eq hc hb]
    by_cases hd : isBlank d = true
    · have hword : words (b :: d :: cs) = [b] :: words (d :: cs) := by
        rw [words.eq_def]
        simp [hb, hd]
      exact ⟨[b], _, hword, by rw [hword]⟩
    · obtain ⟨w, ws, -, hword⟩ := ih hb (Bool.eq_false_iff.2 hd)
      exact ⟨b :: w, ws, hword, by rw [hword]⟩

/-- White space keeps words apart. -/
theorem words_append_blank (cs : List Char) (h : isBlank b = true) (ds : List Char) :
    words (cs ++ b :: ds) = words cs ++ words ds := by
  induction cs with
  | nil => exact words_cons_blank h ds
  | cons c cs ih =>
    by_cases hc : isBlank c = true
    · rw [List.cons_append, words_cons_blank hc, words_cons_blank hc, ih]
    · rw [Bool.not_eq_true] at hc
      cases cs with
      | nil => simp [words.eq_def (c :: _), hc, h, words_cons_blank h]
      | cons d cs =>
        by_cases hd : isBlank d = true
        · have hword (cs : List Char) : words (c :: d :: cs) = [c] :: words (d :: cs) := by
            rw [words.eq_def]
            simp [hc, hd]
          rw [List.cons_append] at ih
          rw [List.cons_append, List.cons_append, hword, hword, ih, List.cons_append]
        · rw [Bool.not_eq_true] at hd
          obtain ⟨w, ws, hword, hcons⟩ := words_cons_cons hc hd cs
          obtain ⟨w', ws', hword', hcons'⟩ := words_cons_cons hc hd (cs ++ b :: ds)
          rw [List.cons_append, hword', hword, List.cons_append] at ih
          obtain ⟨rfl, rfl⟩ := List.cons.inj ih
          rw [List.cons_append, List.cons_append, hcons', hcons, List.cons_append]

theorem words_of_not_blank (hne : w ≠ []) (h : ∀ c ∈ w, isBlank c = false) : words w = [w] := by
  induction w with
  | nil => exact absurd rfl hne
  | cons c w ih =>
    obtain ⟨hc, hw⟩ := List.forall_mem_cons.1 h
    cases w with
    | nil => simp [words, hc]
    | cons d w =>
      obtain ⟨v, vs, hword, hcons⟩ := words_cons_cons hc (List.forall_mem_cons.1 hw).1 w
      rw [ih (by simp) hw] at hword
      cases hword
      exact hcons

/-! ## White space at the ends -/

theorem words_blanks_append (h : ∀ c ∈ front, isBlank c = true) (cs : List Char) :
    words (front ++ cs) = words cs := by
  induction front with
  | nil => rfl
  | cons b front ih =>
    obtain ⟨hb, hfront⟩ := List.forall_mem_cons.1 h
    rw [List.cons_append, words_cons_blank hb, ih hfront]

theorem words_append_blanks (cs : List Char) (h : ∀ c ∈ back, isBlank c = true) :
    words (cs ++ back) = words cs := by
  cases back with
  | nil => rw [List.append_nil]
  | cons b back =>
    obtain ⟨hb, hback⟩ := List.forall_mem_cons.1 h
    rw [words_append_blank cs hb, words_of_blank hback, List.append_nil]

theorem trimRight_eq_rdropWhile (cs : List Char) : trimRight cs = cs.rdropWhile isBlank := rfl

/-- What is trimmed off in front of a word. -/
theorem trimLeft_blanks_append (h : ∀ c ∈ front, isBlank c = true) (hc : isBlank c = false)
    (cs : List Char) : trimLeft (front ++ c :: cs) = c :: cs := by
  rw [trimLeft, List.dropWhile_append_of_pos h, List.dropWhile_cons_of_neg (by simp [hc])]

theorem trimRight_append (h : isBlank c = false) (cs ds : List Char) :
    trimRight (cs ++ c :: ds) = cs ++ c :: trimRight ds := by
  induction ds using List.reverseRecOn with
  | nil =>
    rw [trimRight_eq_rdropWhile, List.rdropWhile_concat_neg _ _ _ (by simp [h])]
    rfl
  | append_singleton ds d ih =>
    simp only [trimRight_eq_rdropWhile] at ih ⊢
    rw [← List.cons_append, ← List.append_assoc]
    by_cases hd : isBlank d = true
    · rw [List.rdropWhile_concat_pos _ _ _ hd, List.rdropWhile_concat_pos _ _ _ hd, ih]
    · rw [List.rdropWhile_concat_neg _ _ _ hd, List.rdropWhile_concat_neg _ _ _ hd]
      simp

/-- A word at the start stays at the start. -/
theorem isPrefix_trim (hfront : ∀ c ∈ front, isBlank c = true) (hne : w ≠ [])
    (hw : ∀ c ∈ w, isBlank c = false) (cs : List Char) : w <+: trim (front ++ (w ++ cs)) := by
  have hleft : trimLeft (front ++ (w ++ cs)) = w ++ cs := by
    obtain ⟨c, w, rfl⟩ := List.exists_cons_of_ne_nil hne
    exact trimLeft_blanks_append hfront (hw c List.mem_cons_self) (w ++ cs)
  obtain hnil | ⟨v, c, rfl⟩ := List.eq_nil_or_concat w
  · exact absurd hnil hne
  · have hc : isBlank c = false := hw c (by simp)
    rw [trim, hleft, List.concat_eq_append, List.append_assoc, List.singleton_append,
      trimRight_append hc]
    exact ⟨trimRight cs, by simp⟩

/-! ## The last word -/

theorem words_concat (hfront : ∀ c ∈ front.getLast?, isBlank c = true) (hne : w ≠ [])
    (hw : ∀ c ∈ w, isBlank c = false) (hback : ∀ c ∈ back, isBlank c = true) :
    words (front ++ w ++ back) = words front ++ [w] := by
  rw [words_append_blanks _ hback]
  rcases List.eq_nil_or_concat front with rfl | ⟨front, b, rfl⟩
  · simpa using words_of_not_blank hne hw
  · have hb : isBlank b = true := hfront b (by simp)
    rw [List.concat_eq_append, List.append_assoc, List.singleton_append, words_append_blank _ hb,
      words_of_not_blank hne hw, words_append_blank _ hb, words_nil, List.append_nil]

/-- The last run of characters of one class. -/
theorem exists_last_run (p : Char → Bool) (cs : List Char) : ∃ front run, cs = front ++ run ∧
    (∀ c ∈ run, p c = true) ∧ ∀ c ∈ front.getLast?, p c = false := by
  refine ⟨cs.rdropWhile p, cs.rtakeWhile p, List.rdropWhile_append_rtakeWhile.symm,
    fun c hc => List.mem_rtakeWhile_imp hc, fun c hc => ?_⟩
  obtain ⟨hne, rfl⟩ := List.mem_getLast?_eq_getLast hc
  simpa using List.rdropWhile_last_not p cs hne

/-- **The last word** is the last run of characters that are not white space. -/
theorem words_concat_iff : words cs = ws ++ [w] ↔ ∃ front back, cs = front ++ w ++ back ∧
    words front = ws ∧ (∀ c ∈ front.getLast?, isBlank c = true) ∧ w ≠ [] ∧
    (∀ c ∈ w, isBlank c = false) ∧ ∀ c ∈ back, isBlank c = true := by
  constructor
  · intro h
    obtain ⟨rest, back, rfl, hback, hrest⟩ := exists_last_run isBlank cs
    obtain ⟨front, v, rfl, hv, hfront⟩ := exists_last_run (fun c => !isBlank c) rest
    simp only [Bool.not_eq_true', Bool.not_eq_false'] at hv hfront
    have hne : v ≠ [] := by
      rintro rfl
      rw [List.append_nil] at h hrest
      rcases List.eq_nil_or_concat front with rfl | ⟨front, b, rfl⟩
      · rw [List.nil_append, words_of_blank hback] at h
        simp at h
      · have hb : b ∈ (front.concat b).getLast? := by simp
        have hblank := hfront b hb
        rw [hrest b hb] at hblank
        cases hblank
    rw [words_concat hfront hne hv hback] at h
    obtain ⟨hws, hw⟩ := List.append_inj' h rfl
    cases hw
    exact ⟨front, back, rfl, hws, hfront, hne, hv, hback⟩
  · rintro ⟨front, back, rfl, rfl, hfront, hne, hw, hback⟩
    exact words_concat hfront hne hw hback

end GrammarProject.Text
