import GrammarProject.Descriptor.Changing

/-!
# Runs, handling by handling

A run of a reader is a list of handlings (`Reader.handlings`): an element, the reader that it is
handed to, and what is seen of the file tree meanwhile. What holds of a reader after some handlings
and is kept by one more holds at the end of the run (`run_induction`).
-/

namespace GrammarProject.Descriptor

open Markup (Element)

variable [Platform]

/-- An element that is handed to a reader, and what is seen of the file tree meanwhile. -/
structure Handling where
  before : Reader
  looks : Looks
  element : Element

def Handling.outcome (h : Handling) : Reader × Option Failure :=
  h.before.handleAmid h.looks h.element

namespace Reader

/-- The elements up to the first that cannot be handled, each with its reader. -/
def handlingsOf : (looks : Nat → Looks) → Reader → List Element → List Handling
  | _, _, [] => []
  | looks, r, e :: es =>
    ⟨r, looks 0, e⟩ :: match r.handleAmid (looks 0) e with
      | (_, some _) => []
      | (next, none) => handlingsOf (fun n => looks (n + 1)) next es

def handlingsIn (r : Reader) : Action → List Handling
  | .handle looks e => [⟨r, looks, e⟩]
  | .read (.error _) _ => []
  | .read (.ok bytes) looks => r.handlingsOf looks (Markup.Document.ofBytes bytes).elements

def handlings (r : Reader) : List Action → List Handling
  | [] => []
  | a :: actions => r.handlingsIn a ++ (r.act a).handlings actions

section
variable {P : List Handling → Reader → Prop}
  (hhandle : ∀ hs r l e, P hs r → P (hs ++ [⟨r, l, e⟩]) (r.handleAmid l e).1)

include hhandle

theorem handleAllAmid_induction {hs : List Handling} {r : Reader} (h : P hs r)
    (looks : Nat → Looks) (es : List Element) :
    P (hs ++ r.handlingsOf looks es) (r.handleAllAmid looks es).1 := by
  induction es generalizing hs r looks with
  | nil => simpa [handlingsOf, handleAllAmid] using h
  | cons e es ih =>
    have he := hhandle hs r (looks 0) e h
    rw [handleAllAmid, handlingsOf]
    rcases hr : r.handleAmid (looks 0) e with ⟨next, _ | f⟩ <;> rw [hr] at he
    · rw [List.append_cons]
      exact ih he _
    · exact he

variable (hcount : ∀ hs r, P hs r → P hs r.count)

include hcount

theorem act_induction {hs : List Handling} {r : Reader} (h : P hs r) (a : Action) :
    P (hs ++ r.handlingsIn a) (r.act a) := by
  cases a with
  | handle looks e => exact hhandle hs r looks e h
  | read opened looks =>
    cases opened with
    | error cause => simpa [handlingsIn, act, readAmid] using h
    | ok bytes =>
      have hd := handleAllAmid_induction hhandle h looks (Markup.Document.ofBytes bytes).elements
      unfold act readAmid readDocumentAmid handlingsIn
      dsimp only
      rcases hr : r.handleAllAmid looks (Markup.Document.ofBytes bytes).elements with
        ⟨last, _ | f⟩ <;> rw [hr] at hd
      · dsimp only
        split
        · exact hd
        · exact hcount _ _ hd
      · exact hd

theorem foldl_act_induction {hs : List Handling} {r : Reader} (h : P hs r) (actions : List Action) :
    P (hs ++ r.handlings actions) (r.run actions) := by
  induction actions generalizing hs r with
  | nil => simpa [handlings, run] using h
  | cons a actions ih =>
    rw [handlings, ← List.append_assoc]
    exact ih (act_induction hhandle hcount h a)

/-- **What each handling keeps, the run keeps**, whether elements and reads end in failures or not.
-/
theorem run_induction {r : Reader} (h : P [] r) (actions : List Action) :
    P (r.handlings actions) (r.run actions) :=
  foldl_act_induction hhandle hcount h actions

end

end Reader

end GrammarProject.Descriptor
