import GrammarProject.Platform.Standard
import GrammarProject.Proofs.Markup.Writing

/-!
# Texts of entities

A reference to an entity reads as if the text of the entity stood in its place. `Spells` says how a
text reads whose references lead to such texts again, and `Content.step_reference` that the `;` of a
reference adds just that to the innermost element. So a document may be known without reading each
character of its entities, whose texts grow with every level: `inFull_ladder` is a well-formed
document of 368 characters that the standard platform refuses.
-/

namespace GrammarProject.Markup

/-- How a text reads inside an element where at most `depth` entities are read in each other and
those of some names are being read: its characters, with those of the entities that it refers to. -/
inductive Spells (entities : List (List Char × Entity)) :
    Nat → List (List Char) → List Char → List Char → Prop
  | nil {depth : Nat} {expanding : List (List Char)} : Spells entities depth expanding [] []
  | char {depth : Nat} {expanding : List (List Char)} {x : Char} {text spelled : List Char} :
      x ∉ ['<', '&', ']', '\r'] → Spells entities depth expanding text spelled →
      Spells entities depth expanding (x :: text) (x :: spelled)
  | reference {depth : Nat} {expanding : List (List Char)} {name : Name}
      {inner text within spelled : List Char} :
      entities.lookup name.text = some (.internal inner) → predefined? name.text = none →
      name.text ∉ expanding → Spells entities depth (name.text :: expanding) inner within →
      Spells entities (depth + 1) expanding text spelled →
      Spells entities (depth + 1) expanding ('&' :: (name.text ++ ';' :: text)) (within ++ spelled)

namespace Spells

variable {entities : List (List Char × Entity)} {depth : Nat} {expanding : List (List Char)}
  {text text' spelled spelled' : List Char}

theorem append (h : Spells entities depth expanding text spelled)
    (h' : Spells entities depth expanding text' spelled') :
    Spells entities depth expanding (text ++ text') (spelled ++ spelled') := by
  induction h with
  | nil => exact h'
  | char hx _ ih => exact .char hx (ih h')
  | reference hlookup hname hfresh hinner _ _ ih =>
    rw [List.append_assoc, List.cons_append, List.append_assoc, List.cons_append]
    exact .reference hlookup hname hfresh hinner (ih h')

theorem times (h : Spells entities depth expanding text spelled) (n : Nat) :
    Spells entities depth expanding (List.replicate n text).flatten
      (List.replicate n spelled).flatten := by
  induction n with
  | zero => exact .nil
  | succ n ih => exact h.append ih

end Spells

/-! ## Inside an element -/

namespace Content

def pushText (c : Content) (text : List Char) : Content := text.foldl push c

/-- Between two characters of text at a place, where entities of some names are being read. -/
structure InText (entities : List (List Char × Entity)) (expanding : List (List Char))
    (place : Position) (c : Content) : Prop where
  entities_eq : c.definitions.entities = entities
  expanding_eq : c.expanding = expanding
  start_eq : c.start = place
  state_eq : c.state = .plain
  fault_eq : c.fault = none

variable {c : Content} {depth : Nat} {name : Name} {text spelled : List Char}
  {entities : List (List Char × Entity)} {expanding : List (List Char)} {place place' : Position}

theorem pushText_append (text text' : List Char) :
    c.pushText (text ++ text') = (c.pushText text).pushText text' := List.foldl_append

/-- Text changes nothing but the innermost element, whatever is being read. -/
theorem pushText_eq (c : Content) (text : List Char) :
    ∃ opened, opened.length = c.opened.length ∧ c.pushText text = { c with opened } ∧
      ∀ name, (c.enter name).pushText text = { c.enter name with opened } := by
  induction text generalizing c with
  | nil => exact ⟨c.opened, rfl, rfl, fun _ => rfl⟩
  | cons x text ih =>
    obtain ⟨opened, hlength, hpush, henter⟩ : ∃ opened, opened.length = c.opened.length ∧
        c.push x = { c with opened } ∧
        ∀ name, (c.enter name).push x = ({ c with opened } : Content).enter name := by
      obtain ⟨definitions, bindings, _ | ⟨e, es⟩, finished, expanding, floor, start, state, fault⟩ := c
      · exact ⟨[], rfl, rfl, fun _ => rfl⟩
      · exact ⟨e.push x :: es, rfl, rfl, fun _ => rfl⟩
    obtain ⟨opened', hlength', htext, henter'⟩ := ih { c with opened }
    refine ⟨opened', hlength'.trans hlength, (congrArg (pushText · text) hpush).trans htext,
      fun name => ((congrArg (pushText · text) (henter name)).trans (henter' name)).trans ?_⟩
    simp only [enter, hlength]

namespace InText

theorem goto_plain (h : c.InText entities expanding place) : c.goto .plain = c := by
  rw [goto, ← h.state_eq]

theorem pushText (h : c.InText entities expanding place) (text : List Char) :
    (c.pushText text).InText entities expanding place := by
  obtain ⟨opened, -, htext, -⟩ := pushText_eq c text
  rw [htext]
  exact ⟨h.entities_eq, h.expanding_eq, h.start_eq, h.state_eq, h.fault_eq⟩

theorem enter (h : c.InText entities expanding place) (name : List Char) :
    (c.enter name).InText entities (name :: expanding) place :=
  ⟨h.entities_eq, congrArg (name :: ·) h.expanding_eq, h.start_eq, h.state_eq, h.fault_eq⟩

/-- Text that is read in an entity is all that comes of it. -/
theorem leave_pushText (h : c.InText entities expanding place) (name text : List Char) :
    leave c ((c.enter name).pushText text) = c.pushText text := by
  obtain ⟨opened, hlength, htext, henter⟩ := pushText_eq c text
  rw [henter, htext]
  simp [leave, Content.enter, h.fault_eq, h.state_eq, ContentState.plain, hlength]

theorem step_char (h : c.InText entities expanding place) {x : Char}
    (hx : x ∉ ['<', '&', ']', '\r']) : c.step depth ⟨x, place'⟩ = c.push x := by
  simp only [List.mem_cons, List.not_mem_nil, or_false, not_or] at hx
  obtain ⟨h1, h2, h3, h4⟩ := hx
  have hbefore : c.stepBefore ⟨x, place'⟩ = .next ((c.goto .plain).push x) := by
    simp [stepBefore, h.state_eq, ContentState.plain, stepText, breaksLine, h1, h2, h3, h4]
  rw [step, hbefore, h.goto_plain]
  simp [h.fault_eq]

/-! ### References -/

theorem foldl_step_name (h : c.InText entities expanding place) {cs reversed : List Char}
    (hcs : ∀ x ∈ cs, isNameChar x = true) :
    cs.foldl (fun c x => c.step depth ⟨x, place⟩) (c.goto (.reference (.name reversed))) =
      c.goto (.reference (.name (cs.reverse ++ reversed))) := by
  induction cs generalizing reversed with
  | nil => rfl
  | cons x cs ih =>
    have hx := hcs x List.mem_cons_self
    have hend : x ≠ ';' := ne_of_isNameChar hx (by decide)
    have hstep : (c.goto (.reference (.name reversed))).step depth ⟨x, place⟩ =
        c.goto (.reference (.name (x :: reversed))) := by
      simp [step, stepBefore, goto, ReferenceState.step, h.fault_eq, hend, hx]
    rw [List.foldl_cons, hstep, ih fun y hy => hcs y (List.mem_cons_of_mem _ hy),
      List.reverse_cons, List.append_assoc, List.singleton_append]

theorem foldl_step_reference (h : c.InText entities expanding place) (name : Name) :
    ('&' :: name.text).foldl (fun c x => c.step depth ⟨x, place⟩) c =
      c.goto (.reference (.name name.text.reverse)) := by
  obtain ⟨x, xs, hname, hx⟩ := name.text_cons
  have hsign : x ≠ '#' := ne_of_isNameChar (isNameChar_of_isNameStart hx) (by decide)
  have hfirst : c.step depth ⟨'&', place⟩ = c.goto (.reference .start) := by
    simp [step, stepBefore, h.state_eq, ContentState.plain, stepText, starting, goto, h.fault_eq,
      ← h.start_eq]
  have hsecond : (c.goto (.reference .start)).step depth ⟨x, place⟩ =
      c.goto (.reference (.name [x])) := by
    simp [step, stepBefore, goto, ReferenceState.step, h.fault_eq, hsign, hx]
  have hrest : ∀ y ∈ xs, isNameChar y = true := fun y hy =>
    name.isNameChar_text y (hname ▸ List.mem_cons_of_mem _ hy)
  rw [hname, List.foldl_cons, List.foldl_cons, hfirst, hsecond, h.foldl_step_name hrest,
    List.reverse_cons]

theorem step_semicolon (h : c.InText entities expanding place)
    (hlookup : entities.lookup name.text = some (.internal text))
    (hname : predefined? name.text = none) (hfresh : name.text ∉ expanding) :
    (c.goto (.reference (.name name.text.reverse))).step (depth + 1) ⟨';', place'⟩ =
      leave c (text.foldl (fun c x => c.step depth ⟨x, place⟩) (c.enter name.text)) := by
  have hlookup : (c.goto (.reference (.name name.text.reverse))).definitions.entities.lookup
      name.text = some (.internal text) := by rw [goto, h.entities_eq, hlookup]
  have hfresh : (c.goto (.reference (.name name.text.reverse))).expanding.contains name.text =
      false := by simpa [goto, h.expanding_eq] using hfresh
  have hbefore : (c.goto (.reference (.name name.text.reverse))).stepBefore ⟨';', place'⟩ =
      .expand c name.text text := by
    simp only [stepBefore, show (c.goto (.reference (.name name.text.reverse))).state =
      .reference (.name name.text.reverse) from rfl, ReferenceState.step, if_true,
      List.reverse_reverse, reference, hname, entityReference, hlookup, hfresh]
    exact congrArg (ContentStep.expand · name.text text) h.goto_plain
  rw [step, hbefore]
  simp [goto, h.fault_eq, h.start_eq]

/-- **A text reads as what it spells**, however deep the entities in it are. -/
theorem foldl_step (hspells : Spells entities depth expanding text spelled)
    (h : c.InText entities expanding place) :
    text.foldl (fun c x => c.step depth ⟨x, place⟩) c = c.pushText spelled := by
  -- The text of an entity is read with one more name in `expanding`.
  induction hspells generalizing c with
  | nil => rfl
  | char hx _ ih =>
    rw [List.foldl_cons, h.step_char hx]
    exact ih (h.pushText [_])
  | @reference _ _ name inner _ within _ hlookup hname hfresh _ _ ihinner ih =>
    rw [← List.cons_append, List.foldl_append, h.foldl_step_reference, List.foldl_cons,
      h.step_semicolon hlookup hname hfresh, ihinner (h.enter name.text), h.leave_pushText,
      pushText_append]
    exact ih (h.pushText within)

/-- A reference to an entity adds what the text of the entity spells. -/
theorem step_reference (h : c.InText entities expanding place)
    (hlookup : entities.lookup name.text = some (.internal text))
    (hname : predefined? name.text = none) (hfresh : name.text ∉ expanding)
    (hspells : Spells entities depth (name.text :: expanding) text spelled) :
    (c.goto (.reference (.name name.text.reverse))).step (depth + 1) ⟨';', place'⟩ =
      c.pushText spelled := by
  rw [h.step_semicolon hlookup hname hfresh, (h.enter name.text).foldl_step hspells,
    h.leave_pushText]

end InText

theorem pushText_of_hasChild (h : c.opened.head?.map OpenElement.hasChild = some true)
    (text : List Char) : c.pushText text = c := by
  obtain ⟨definitions, bindings, _ | ⟨e, es⟩, finished, expanding, floor, start, state, fault⟩ := c
  · cases h
  · induction text with
    | nil => rfl
    | cons x text ih =>
      have hpush : e.push x = e := if_pos (Option.some.inj h)
      exact (congrArg (pushText · text) (by simp only [push, hpush])).trans ih

end Content

/-! ## In a document -/

namespace DocumentReader

variable [Platform] {r : DocumentReader} {c : Content} {depth : Nat} {name : Name}
  {text spelled : List Char}

/-- The reader behind a character with which the root element does not end. -/
def within (r : DocumentReader) (c : Content) (x : Char) : DocumentReader :=
  { r with
    scanner := { r.scanner with region := .content c }
    cursor := r.cursor.advance (some x)
    byteCursor := r.byteCursor.advance (some x) }

/-- The reader behind a reference that adds nothing. -/
def skipReference (r : DocumentReader) : DocumentReader :=
  match r.scanner.region with
  | .content c => r.within (c.goto .plain) ';'
  | _ => r

theorem step_within {b : UInt8} {x : Char} {c' : Content} (hstop : r.stop = none)
    (hdecode : r.decoder.step b = ([.char x], r.decoder)) (hb : Char.ofNat b.toNat = x)
    (hregion : r.scanner.region = .content c) (hencoding : r.scanner.encoding = none)
    (hscanner : r.scanner.fault = none) (hc : c.step c.depth ⟨x, r.cursor.position⟩ = c')
    (hfault : c'.fault = none) (hopened : c'.opened ≠ []) : r.step b = r.within c' x := by
  have hscan : r.scanner.step ⟨x, r.cursor.position⟩ =
      { r.scanner with region := .content c' } := by
    simp [Scanner.step, hscanner, hregion, Scanner.stepContent, hc, Scanner.ofContent, hfault,
      hopened]
  unfold step
  simp [hdecode, hb, symbol, hstop, hscan, declare, hencoding, heed, hscanner, within]

/-- A reference in a document adds what the text of the entity spells. -/
theorem step_reference (hstop : r.stop = none) (hdecoder : r.decoder = ⟨some .utf8, []⟩)
    (hregion : r.scanner.region = .content c) (hencoding : r.scanner.encoding = none)
    (hscanner : r.scanner.fault = none)
    (hstate : c.state = .reference (.name name.text.reverse)) (hfault : c.fault = none)
    (hopened : c.opened ≠ [])
    (hlookup : c.definitions.entities.lookup name.text = some (.internal text))
    (hname : predefined? name.text = none) (hfresh : name.text ∉ c.expanding)
    (hdepth : c.depth = depth + 1)
    (hspells : Spells c.definitions.entities depth (name.text :: c.expanding) text spelled) :
    r.step 0x3b = r.within ((c.goto .plain).pushText spelled) ';' := by
  have htext : (c.goto .plain).InText c.definitions.entities c.expanding c.start :=
    ⟨rfl, rfl, rfl, rfl, hfault⟩
  have hgoto : (c.goto .plain).goto (.reference (.name name.text.reverse)) = c := by
    rw [← hstate]
    rfl
  have hc : c.step c.depth ⟨';', r.cursor.position⟩ = (c.goto .plain).pushText spelled := by
    rw [hdepth, ← htext.step_reference hlookup hname hfresh hspells, hgoto]
  obtain ⟨opened, hlength, hpush, -⟩ := Content.pushText_eq (c.goto .plain) spelled
  have hne : opened ≠ [] := by
    rintro rfl
    exact hopened (List.length_eq_zero_iff.1 hlength.symm)
  refine step_within hstop (by rw [hdecoder]; rfl) rfl hregion hencoding hscanner hc ?_ ?_
  · exact (htext.pushText spelled).fault_eq
  · rw [hpush]
    exact hne

end DocumentReader

/-! ## A ladder of entities -/

/-- The declaration of an entity by a name of one letter. -/
def declaration (name : Char) (text : List Char) : List Char :=
  "<!ENTITY ".toList ++ name :: " \"".toList ++ text ++ "\">".toList

/-- As many references to such an entity. -/
def references (times : Nat) (name : Char) : List Char :=
  (List.replicate times ['&', name, ';']).flatten

example : references 2 'a' = "&a;&a;".toList := by decide +kernel

/-- Up to a reference to the highest of six entities, of which each but the lowest refers to the
next. -/
def ladderStart : List Char :=
  "<!DOCTYPE p [".toList ++ declaration 'a' (List.replicate 16 'x') ++
    declaration 'b' (references 16 'a') ++ declaration 'c' (references 16 'b') ++
    declaration 'd' (references 16 'c') ++ declaration 'e' (references 16 'd') ++
    declaration 'f' (references 7 'e') ++ "]><p><q/>&f".toList

def ladderEnd : List Char := "<entryPoint>x</entryPoint></p>".toList

def ladder : List Char := ladderStart ++ ';' :: ladderEnd

def rungs : List (List Char × Entity) :=
  [(['a'], .internal (List.replicate 16 'x')), (['b'], .internal (references 16 'a')),
    (['c'], .internal (references 16 'b')), (['d'], .internal (references 16 'c')),
    (['e'], .internal (references 16 'd')), (['f'], .internal (references 7 'e'))]

/-- A row of references to one of them. -/
theorem spells_references {entities : List (List Char × Entity)} {depth : Nat}
    {expanding : List (List Char)} {name : Char} {text spelled : List Char}
    (hname : isNameStart name = true) (hlookup : entities.lookup [name] = some (.internal text))
    (hplain : predefined? [name] = none) (hfresh : [name] ∉ expanding)
    (h : Spells entities depth ([name] :: expanding) text spelled) (times : Nat) :
    Spells entities (depth + 1) expanding (references times name)
      (List.replicate times spelled).flatten := by
  let n : Name := ⟨[name], by simpa [isName] using hname⟩
  have hone : Spells entities (depth + 1) expanding ('&' :: (n.text ++ [';'])) (spelled ++ []) :=
    .reference hlookup hplain hfresh h .nil
  rw [List.append_nil] at hone
  exact hone.times times

/-- What the highest of them stands for. -/
theorem spells_rungs : ∃ spelled, Spells rungs 5 [['f']] (references 7 'e') spelled := by
  have ha : Spells rungs 0 [['a'], ['b'], ['c'], ['d'], ['e'], ['f']] (List.replicate 16 'x')
      (List.replicate 16 'x') := (Spells.char (by decide) .nil).times 16
  have hb := spells_references (by decide) rfl rfl (by decide) ha 16
  have hc := spells_references (by decide) rfl rfl (by decide) hb 16
  have hd := spells_references (by decide) rfl rfl (by decide) hc 16
  have he := spells_references (by decide) rfl rfl (by decide) hd 16
  exact ⟨_, spells_references (by decide) rfl rfl (by decide) he 7⟩

section
open scoped Platform

theorem refusal?_ladder :
    Document.refusal? (Text.utf8Bytes ladder) = some (1, ⟨1, 335⟩) := by
  decide +kernel

/-- The parser before the reference, and what it makes of the rest if nothing stands for it. -/
theorem behind_ladderStart :
    (∃ c, (behind (Text.utf8Bytes ladderStart)).scanner.region = .content c ∧
      c.definitions.entities = rungs ∧ c.state = .reference (.name ['f']) ∧ c.fault = none ∧
      c.expanding = [] ∧ c.opened.head?.map OpenElement.hasChild = some true) ∧
    ((behind (Text.utf8Bytes ladderStart)).stop = none ∧
      (behind (Text.utf8Bytes ladderStart)).decoder = ⟨some .utf8, []⟩ ∧
      (behind (Text.utf8Bytes ladderStart)).scanner.encoding = none ∧
      (behind (Text.utf8Bytes ladderStart)).scanner.fault = none) ∧
    ((Text.utf8Bytes ladderEnd).foldl DocumentReader.step
      (behind (Text.utf8Bytes ladderStart)).skipReference).finish.stop = none ∧
    ((Text.utf8Bytes ladderEnd).foldl DocumentReader.step
      (behind (Text.utf8Bytes ladderStart)).skipReference).finish.elements =
        [⟨⟨none, ['q']⟩, []⟩, ⟨⟨none, "entryPoint".toList⟩, ['x']⟩, ⟨⟨none, ['p']⟩, []⟩] := by
  -- Stated as one, since most of the work is to read the same text.
  refine And.imp_left (a := (match (behind (Text.utf8Bytes ladderStart)).scanner.region with
      | .content c => decide (c.definitions.entities = rungs ∧ c.state = .reference (.name ['f']) ∧
          c.fault = none ∧ c.expanding = [] ∧ c.opened.head?.map OpenElement.hasChild = some true)
      | _ => false) = true) (fun h => ?_) (by decide +kernel)
  split at h
  case _ c hregion => exact ⟨c, hregion, of_decide_eq_true h⟩
  all_goals cases h

/-- The ladder is read without reading its entities. -/
theorem behind_ladder : behind (Text.utf8Bytes ladderStart ++ [0x3b]) =
    (behind (Text.utf8Bytes ladderStart)).skipReference := by
  obtain ⟨⟨c, hregion, hentities, hstate, hfault, hexpanding, hopened⟩,
    ⟨hstop, hdecoder, hencoding, hscanner⟩, -⟩ := behind_ladderStart
  obtain ⟨spelled, hspells⟩ := spells_rungs
  let f : Name := ⟨['f'], by decide⟩
  have hstate : c.state = .reference (.name f.text.reverse) := hstate
  have hne : c.opened ≠ [] := by
    intro hnil
    rw [hnil] at hopened
    cases hopened
  rw [behind_append, List.foldl_cons, List.foldl_nil, DocumentReader.skipReference, hregion,
    DocumentReader.step_reference hstop hdecoder hregion hencoding
      hscanner hstate hfault hne (by rw [hentities]; rfl) rfl (by rw [hexpanding]; decide)
      (by rw [Content.depth, hentities]; rfl) (by rw [hentities, hexpanding]; exact hspells),
    Content.pushText_of_hasChild (c := c.goto .plain) hopened]

theorem inFull_ladder : (Document.inFull (Text.utf8Bytes ladder)).stop = none ∧
    (Document.inFull (Text.utf8Bytes ladder)).elements =
      [⟨⟨none, ['q']⟩, []⟩, ⟨⟨none, "entryPoint".toList⟩, ['x']⟩, ⟨⟨none, ['p']⟩, []⟩] := by
  have hbytes : Text.utf8Bytes ladder =
      Text.utf8Bytes ladderStart ++ [0x3b] ++ Text.utf8Bytes ladderEnd := by
    simp only [ladder, Text.utf8Bytes, List.flatMap_append, List.flatMap_cons, List.append_assoc]
    rfl
  have hfull : Document.inFull (Text.utf8Bytes ladder) =
      ((Text.utf8Bytes ladderEnd).foldl DocumentReader.step
        (behind (Text.utf8Bytes ladderStart)).skipReference).finish := by
    rw [← behind_ladder, ← behind_append, ← hbytes]
    rfl
  rw [hfull]
  exact behind_ladderStart.2.2

end

end GrammarProject.Markup
