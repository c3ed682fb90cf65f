import GrammarProject.Proofs.Descriptor.Frame

/-!
# Fields in order

A reader handles elements by what they say (`handleAll_eq_handleFields`): the names of elements, and
elements that do not matter, leave no trace.
-/

namespace GrammarProject.Descriptor

open Markup (Document Element)

/-! ## What fields say -/

namespace Field

def textsOf (field : Field) (said : List (Field × List Char)) : List (List Char) :=
  (said.filter (·.1 = field)).map (·.2)

@[simp] theorem textsOf_cons_self (field : Field) (text : List Char)
    (said : List (Field × List Char)) :
    field.textsOf ((field, text) :: said) = text :: field.textsOf said := by
  simp [textsOf]

@[simp] theorem textsOf_cons_of_ne {field other : Field} (h : other ≠ field) (text : List Char)
    (said : List (Field × List Char)) :
    field.textsOf ((other, text) :: said) = field.textsOf said := by
  simp [textsOf, h]

theorem forall_textsOf_cons {p : List Char → Prop} {field other : Field} {text : List Char}
    {said : List (Field × List Char)} : (∀ x ∈ field.textsOf ((other, text) :: said), p x) ↔
      (other = field → p text) ∧ ∀ x ∈ field.textsOf said, p x := by
  by_cases h : other = field
  · subst h
    simp
  · simp [textsOf_cons_of_ne h, h]

theorem textsOf_said (field : Field) (es : List Element) :
    field.textsOf (said es) = field.texts es := by
  induction es with
  | nil => rfl
  | cons e es ih =>
    unfold textsOf said texts at *
    rw [List.filterMap_cons]
    cases h : ofElement? e with
    | none => simpa [h] using ih
    | some other => by_cases ho : other = field <;> simpa [h, ho] using ih

end Field

namespace Reader

variable [Platform]

/-- Fields with their texts in order, up to the first that cannot be handled. -/
def handleFields (t : FileTree) : Reader → List (Field × List Char) → Reader × Option Failure
  | r, [] => (r, none)
  | r, (field, text) :: said =>
    match r.handleField t field text with
    | (r, some f) => (r, some f)
    | (r, none) => handleFields t r said

variable {t : FileTree} {r r' : Reader} {said : List (Field × List Char)}

theorem handleAll_eq_handleFields (t : FileTree) (r : Reader) (es : List Element) :
    r.handleAll t es = r.handleFields t (Field.said es) := by
  induction es generalizing r with
  | nil => rfl
  | cons e es ih =>
    unfold Field.said at *
    rw [handleAll, handle, List.filterMap_cons]
    cases h : Field.ofElement? e with
    | none => exact ih r
    | some field =>
      dsimp only [Option.map_some]
      rw [handleFields]
      rcases r.handleField t field e.text with ⟨next, _ | f⟩
      · exact ih next
      · rfl

theorem handleFields_cons {field : Field} {text : List Char}
    (h : r.handleFields t ((field, text) :: said) = (r', none)) :
    ∃ next, r.handleField t field text = (next, none) ∧ next.handleFields t said = (r', none) := by
  rw [handleFields] at h
  rcases hr : r.handleField t field text with ⟨next, _ | f⟩ <;> rw [hr] at h
  · exact ⟨next, rfl, h⟩
  · cases h

theorem settings_handleFields (t : FileTree) (r : Reader) (said : List (Field × List Char)) :
    (r.handleFields t said).1.settings = r.settings := by
  induction said generalizing r with
  | nil => rfl
  | cons one said ih =>
    obtain ⟨field, text⟩ := one
    have hs := settings_handleField t r field text
    rw [handleFields]
    rcases hr : r.handleField t field text with ⟨next, _ | f⟩ <;> rw [hr] at hs
    · exact (ih next).trans hs
    · exact hs

theorem settings_of_handleFields {failure : Option Failure}
    (h : r.handleFields t said = (r', failure)) : r'.settings = r.settings := by
  rw [← settings_handleFields t r said, h]

/-- A descriptor without a fault is read by what its elements say. -/
theorem read_eq_handleFields {bytes : List UInt8} (hb : t.contentOf r.path.toString = .ok bytes)
    (hs : (Document.ofBytes bytes).stop = none) :
    r.read t = match r.handleFields t (Field.said (Document.ofBytes bytes).elements) with
      | (last, some f) => (last, .error f)
      | (last, none) => (last.count, last.reading) := by
  rcases hr : r.handleFields t (Field.said (Document.ofBytes bytes).elements) with
    ⟨last, _ | f⟩ <;> simp only [Reader.read, hb, readDocument, handleAll_eq_handleFields, hs, hr]

end Reader

end GrammarProject.Descriptor
