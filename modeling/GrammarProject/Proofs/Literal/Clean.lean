import GrammarProject.Literal
import GrammarProject.Proofs.Text.Quoted
import GrammarProject.Proofs.Text.Terminal

/-!
# Texts without control characters

JSON documents hold no control characters but line feeds (`Literal.clean_json`), so output takes
nothing from them.
-/

namespace GrammarProject

def isClean (c : Char) : Bool := c = '\n' || 0x20 ≤ c.toNat

/-- The text holds no control characters but line feeds. -/
def Clean (cs : List Char) : Prop := ∀ c ∈ cs, isClean c = true

instance (cs : List Char) : Decidable (Clean cs) := List.decidableBAll (isClean · = true) cs

variable {cs ds : List Char} {c : Char}

theorem isClean_of_le (h : 0x20 ≤ c.toNat) : isClean c = true := by
  simp [isClean, h]

@[simp] theorem clean_nil : Clean [] := fun _ h => absurd h List.not_mem_nil

@[simp] theorem clean_cons : Clean (c :: cs) ↔ isClean c = true ∧ Clean cs := List.forall_mem_cons

@[simp] theorem clean_append : Clean (cs ++ ds) ↔ Clean cs ∧ Clean ds := List.forall_mem_append

theorem Clean.sublist (h : Clean cs) (hs : ds.Sublist cs) : Clean ds :=
  fun c hc => h c (hs.subset hc)

theorem Clean.not_mem (h : Clean cs) (hc : isClean c = false) : c ∉ cs := by
  intro hm
  rw [h c hm] at hc
  cases hc

theorem Clean.flatMap {α : Type} {f : α → List Char} {as : List α} (h : ∀ a, Clean (f a)) :
    Clean (as.flatMap f) := by
  intro c hc
  obtain ⟨a, -, hc⟩ := List.mem_flatMap.1 hc
  exact h a c hc

/-- Output takes nothing from a clean text. -/
theorem Clean.withoutEscapes (h : Clean cs) : Text.withoutEscapes cs = cs :=
  Text.withoutEscapes_of_free (h.not_mem (by decide))

/-! ## Printable texts -/

theorem isClean_of_isPrintable (h : Text.isPrintable c = true) : isClean c = true := by
  refine isClean_of_le ?_
  by_contra hlt
  have hcovers : Text.CharRange.covers Text.unprintable c = true :=
    Text.CharRange.covers_iff.2 ⟨(0x0, 0x1f), List.mem_cons_self .., Nat.zero_le _, by omega⟩
  rw [Text.isPrintable_eq, hcovers] at h
  cases h

theorem clean_of_printable (h : Text.Printable cs) : Clean cs :=
  fun c hc => isClean_of_isPrintable (h c hc)

theorem clean_hexDigits (width n : Nat) : Clean (Text.hexDigits width n) :=
  clean_of_printable (Text.printable_hexDigits width n)

theorem clean_toDigits (n : Nat) : Clean (Nat.toDigits 10 n) :=
  clean_of_printable (Text.printable_toDigits n)

theorem clean_natText (n : Nat) : Clean (toString n).toList :=
  clean_of_printable (Text.printable_natText n)

theorem clean_intText (n : Int) : Clean (toString n).toList := by
  cases n with
  | ofNat n => exact clean_natText n
  | negSucc n =>
    show Clean ("-" ++ toString (n + 1)).toList
    rw [String.toList_append, clean_append]
    exact ⟨by decide, clean_natText _⟩

/-! ## Decimal numbers -/

namespace Decimal

theorem clean_significant (n : Nat) : Clean (significant n).1 := by
  have h : Clean (Nat.toDigits 10 n).reverse := fun c hc => clean_toDigits n c (List.mem_reverse.1 hc)
  intro c hc
  exact h c ((List.dropWhile_sublist _).subset (List.mem_reverse.1 hc))

theorem clean_zeros (n : Nat) : Clean (List.replicate n '0') := by
  intro c hc
  rw [List.eq_of_mem_replicate hc]
  rfl

theorem clean_positional {digits : List Char} (h : Clean digits) (point : Int) :
    Clean (positional digits point) := by
  have hzero : isClean '0' = true ∧ isClean '.' = true := by decide
  unfold positional
  split
  · simp [hzero, clean_zeros, h]
  · dsimp only
    split
    · simp [hzero, clean_zeros, h.sublist (List.take_sublist _ _)]
    · simp [hzero, clean_zeros, h.sublist (List.take_sublist _ _), h.sublist (List.drop_sublist _ _)]

theorem clean_scientific {digits : List Char} (h : Clean digits) (exponent : Int) :
    Clean (scientific digits exponent) := by
  have hmarks : isClean '0' = true ∧ isClean '.' = true ∧ isClean 'e' = true := by decide
  have hmark : isClean (if exponent < 0 then '-' else '+') = true := by split <;> rfl
  have hpower : Clean (if (Nat.toDigits 10 exponent.natAbs).length < 2 then
      '0' :: Nat.toDigits 10 exponent.natAbs else Nat.toDigits 10 exponent.natAbs) := by
    split
    · exact clean_cons.2 ⟨hmarks.1, clean_toDigits _⟩
    · exact clean_toDigits _
  unfold scientific
  dsimp only
  generalize (if (Nat.toDigits 10 exponent.natAbs).length < 2 then
      '0' :: Nat.toDigits 10 exponent.natAbs else Nat.toDigits 10 exponent.natAbs) = power at hpower ⊢
  split
  · exact clean_nil
  · rw [clean_cons] at h
    simp [h.1, hmarks, hmark, hpower]
  · rw [clean_cons] at h
    simp [h.1, h.2, hmarks, hmark, hpower]

theorem clean_text (d : Decimal) : Clean d.text := by
  unfold text
  split
  · decide
  · have hdigits := clean_significant d.mantissa.natAbs
    dsimp only
    split
    · split
      · simp [clean_positional hdigits, show isClean '-' = true by rfl]
      · simp [clean_scientific hdigits, show isClean '-' = true by rfl]
    · split
      · exact clean_positional hdigits _
      · exact clean_scientific hdigits _

end Decimal

/-! ## JSON -/

namespace Literal

theorem clean_unitEscape (n : Nat) : Clean (unitEscape n) := by
  simp [unitEscape, clean_hexDigits, show isClean '\\' = true ∧ isClean 'u' = true by decide]

theorem clean_jsonChar (c : Char) : Clean (jsonChar c) := by
  have hback : isClean '\\' = true := rfl
  unfold jsonChar
  split
  · rename_i h
    rcases h with rfl | rfl <;> decide
  · repeat' split
    · decide
    · decide
    · decide
    · decide
    · decide
    · rename_i h
      simp [isClean_of_le h.1]
    · exact clean_unitEscape _
    · simp [clean_unitEscape]

theorem clean_jsonText (s : String) : Clean (jsonText s) := by
  simp only [jsonText, List.cons_append, clean_cons, clean_append, clean_nil, and_true]
  exact ⟨rfl, Clean.flatMap clean_jsonChar, rfl⟩

theorem clean_jsonBreak (depth : Nat) : Clean (jsonBreak depth) := by
  rw [jsonBreak, clean_cons]
  refine ⟨rfl, ?_⟩
  intro c hc
  rw [List.eq_of_mem_replicate hc]
  rfl

theorem clean_joined {separator : List Char} (hs : Clean separator) {parts : List (List Char)}
    (h : ∀ part ∈ parts, Clean part) : Clean (joined separator parts) := by
  induction parts using joined.induct with
  | case1 => exact clean_nil
  | case2 part => exact h part (by simp)
  | case3 part parts hne ih =>
    rw [joined]
    · simp [hs, h part (by simp), ih fun p hp => h p (List.mem_cons_of_mem _ hp)]
    · exact hne

theorem clean_jsonBlock (depth : Nat) {first last : Char} (hfirst : isClean first = true)
    (hlast : isClean last = true) {parts : List (List Char)} (h : ∀ part ∈ parts, Clean part) :
    Clean (jsonBlock depth first last parts) := by
  unfold jsonBlock
  split
  · simp [hfirst, hlast]
  · have hseparator : Clean (',' :: jsonBreak (depth + 1)) := by
      rw [clean_cons]
      exact ⟨rfl, clean_jsonBreak _⟩
    simp [hfirst, hlast, clean_jsonBreak, clean_joined hseparator h]

mutual

theorem clean_jsonAt (depth : Nat) : ∀ v, Clean (jsonAt depth v)
  | null => by rw [jsonAt]; decide
  | bool true => by rw [jsonAt]; decide
  | bool false => by rw [jsonAt]; decide
  | int n => by rw [jsonAt]; exact clean_intText n
  | decimal d => by rw [jsonAt]; exact d.clean_text
  | text s => by rw [jsonAt]; exact clean_jsonText s
  | list items => by
    rw [jsonAt]
    exact clean_jsonBlock depth rfl rfl (clean_jsonItems (depth + 1) items)
  | record fields => by
    rw [jsonAt]
    exact clean_jsonBlock depth rfl rfl (clean_jsonFields (depth + 1) fields)

theorem clean_jsonItems (depth : Nat) : ∀ items, ∀ part ∈ jsonItems depth items, Clean part
  | [], part, h => by
    rw [jsonItems] at h
    cases h
  | v :: vs, part, h => by
    rw [jsonItems] at h
    rcases List.mem_cons.1 h with rfl | h
    · exact clean_jsonAt depth v
    · exact clean_jsonItems depth vs part h

theorem clean_jsonFields (depth : Nat) : ∀ fields, ∀ part ∈ jsonFields depth fields, Clean part
  | [], part, h => by
    rw [jsonFields] at h
    cases h
  | (k, v) :: fs, part, h => by
    rw [jsonFields] at h
    rcases List.mem_cons.1 h with rfl | h
    · simp only [clean_append, clean_cons]
      exact ⟨clean_jsonText k, rfl, rfl, clean_jsonAt depth v⟩
    · exact clean_jsonFields depth fs part h

end

/-- **A JSON document** holds no control characters but line feeds. -/
theorem clean_json (v : Literal) : Clean v.json.toList := by
  rw [json, String.toList_ofList]
  exact clean_jsonAt 0 v

end Literal

end GrammarProject
