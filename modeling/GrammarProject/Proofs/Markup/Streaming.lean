import GrammarProject.Markup.Document

/-!
# What the start of a document shows

A document is read byte by byte, and the elements that have ended are never taken back: behind more
bytes there are the same elements and perhaps others (`endedIn_prefix`), and once something shows to
be wrong nothing is added (`behind_of_wrong`), so that it stops the document too
(`Document.stop_inFull`). The elements of a document are all that end in it
(`Document.elements_inFull`). The parser hands over the same, unless it gives up at an entity or
something shows to be wrong too late (`Document.handedOver_eq`).
-/

namespace GrammarProject.Markup

/-! ## Inside the root element -/

namespace Content

variable {c : Content} {l : Located}

@[simp] theorem finished_fail (reason : Reason) (place : Position) :
    (c.fail reason place).finished = c.finished := rfl

@[simp] theorem finished_refuse : (c.refuse l).finished = c.finished := rfl

@[simp] theorem finished_goto (state : ContentState) : (c.goto state).finished = c.finished := rfl

@[simp] theorem finished_starting (state : ContentState) :
    (c.starting l state).finished = c.finished := rfl

@[simp] theorem finished_push (x : Char) : (c.push x).finished = c.finished := by
  unfold push
  split <;> rfl

@[simp] theorem finished_beginElement (tag : StartTag) (name : ExpandedName) (inner : Bindings) :
    (c.beginElement tag name inner).finished = c.finished := rfl

theorem finished_endElement : c.finished <:+ c.endElement.finished := by
  unfold endElement
  split
  · exact List.suffix_refl _
  · exact List.suffix_cons _ _

theorem finished_startTag (r : ReadTag) : c.finished <:+ (c.startTag r).finished := by
  unfold startTag
  split
  · exact List.suffix_refl _
  · dsimp only
    split
    · exact finished_endElement (c := (c.goto .plain).beginElement _ _ _)
    · exact List.suffix_refl _

theorem finished_endTag (t : EndTag) : c.finished <:+ (c.endTag t).finished := by
  unfold endTag
  split
  · exact List.suffix_refl _
  · split
    · exact List.suffix_refl _
    · split
      · exact List.suffix_refl _
      · exact finished_endElement (c := c.goto .plain)

@[simp] theorem finished_stepText (brackets : Nat) (afterReturn : Bool) :
    (c.stepText brackets afterReturn l).finished = c.finished := by
  simp [stepText, apply_ite Content.finished]

@[simp] theorem finished_stepSectionOpen (reversed : List Located) :
    (c.stepSectionOpen reversed l).finished = c.finished := by
  unfold stepSectionOpen
  dsimp only
  split
  · rfl
  · split <;> rfl

@[simp] theorem finished_stepSection (brackets : List Position) (afterReturn : Option Position) :
    (c.stepSection brackets afterReturn l).finished = c.finished := by
  have hpush : (brackets.foldl (fun c _ => c.push ']') c).finished = c.finished := by
    induction brackets generalizing c with
    | nil => rfl
    | cons place brackets ih => exact (ih (c := c.push ']')).trans (finished_push _)
  unfold stepSection
  split
  · split <;> simp
  · split
    · rfl
    · dsimp only
      split
      · simp [hpush]
      · split <;> simp [hpush]

@[simp] theorem finished_stepMarkup : (c.stepMarkup l).finished = c.finished := by
  simp [stepMarkup, apply_ite Content.finished]

@[simp] theorem finished_stepBang : (c.stepBang l).finished = c.finished := by
  simp [stepBang, apply_ite Content.finished]

@[simp] theorem finished_behindAside (a : Aside) : (c.behindAside a).finished = c.finished := by
  cases a <;> rfl

end Content

def ContentStep.content : ContentStep → Content
  | next c => c
  | expand c _ _ => c

@[simp] theorem ContentStep.content_next (c : Content) : (ContentStep.next c).content = c := rfl

namespace Content

variable {c : Content}

@[simp] theorem finished_entityReference (name : List Char) :
    (c.entityReference name).content.finished = c.finished := by
  unfold entityReference
  split
  · rfl
  · split
    · rfl
    · split <;> rfl

@[simp] theorem finished_reference (ref : Reference) :
    (c.reference ref).content.finished = c.finished := by
  unfold reference
  split
  · simp
  · rfl
  · split
    · simp
    · simp

/-- A character ends elements or not, but takes none back. -/
theorem finished_stepBefore (c : Content) (l : Located) :
    c.finished <:+ (c.stepBefore l).content.finished := by
  unfold stepBefore
  split
  · simp
  · split <;> simp
  · simp
  · simp
  · simp
  · simp
  · split
    · simp
    · simp
    · exact finished_startTag _
  · split
    · simp
    · simp
    · exact finished_endTag _
  · split <;> simp

@[simp] theorem finished_enter (name : List Char) : (c.enter name).finished = c.finished := rfl

@[simp] theorem finished_leave (outer : Content) : (leave outer c).finished = c.finished := by
  unfold leave
  split
  · rfl
  · split
    · split <;> rfl
    · rfl
    · rfl

/-- The text of an entity is read character by character too. -/
theorem finished_step (depth : Nat) (c : Content) (l : Located) :
    c.finished <:+ (c.step depth l).finished := by
  induction depth generalizing c l with
  | zero =>
    have hbefore := finished_stepBefore c l
    unfold step
    split
    · exact List.suffix_refl _
    · split
      · rename_i h
        rwa [h] at hbefore
      · rename_i h
        rwa [h] at hbefore
  | succ depth ih =>
    have hbefore := finished_stepBefore c l
    have hfold (place : Position) (text : List Char) (c : Content) :
        c.finished <:+ (text.foldl (fun inner x => step depth inner ⟨x, place⟩) c).finished := by
      induction text generalizing c with
      | nil => exact List.suffix_refl _
      | cons x text ihText => exact (ih c ⟨x, place⟩).trans (ihText _)
    unfold step
    split
    · exact List.suffix_refl _
    · split
      · rename_i h
        rwa [h] at hbefore
      · rename_i next name text h
        rw [h] at hbefore
        rw [finished_leave]
        exact hbefore.trans (hfold next.start text (next.enter name))

end Content

/-! ## The scanner -/

namespace Scanner

/-- No element has ended before the root element is open. -/
def Unbegun (s : Scanner) : Prop := ∀ p reader, s.region = .prologue p reader → s.finished = []

/-- Elements have ended, perhaps, and none was taken back. -/
def Grows (s s' : Scanner) : Prop := s.Unbegun → s'.Unbegun ∧ s.elements <+: s'.elements

variable {s s' s'' : Scanner}

theorem Grows.refl (s : Scanner) : Grows s s := fun h => ⟨h, List.prefix_refl _⟩

theorem Grows.trans (h : Grows s s') (h' : Grows s' s'') : Grows s s'' := fun hs =>
  ⟨(h' (h hs).1).1, (h hs).2.trans (h' (h hs).1).2⟩

theorem grows_foldl {α : Type} {f : Scanner → α → Scanner} (hf : ∀ s a, Grows s (f s a))
    (as : List α) (s : Scanner) : Grows s (as.foldl f s) := by
  induction as generalizing s with
  | nil => exact .refl s
  | cons a as ih => exact (hf s a).trans (ih _)

theorem Grows.of_eq (hregion : ∀ p reader, s'.region = .prologue p reader →
    ∃ p reader, s.region = .prologue p reader) (hfinished : s'.finished = s.finished)
    (helements : s'.elements = s.elements) : Grows s s' := by
  refine fun hs => ⟨fun p reader h => ?_, helements ▸ List.prefix_refl _⟩
  obtain ⟨p', reader', h'⟩ := hregion p reader h
  exact hfinished.trans (hs p' reader' h')

theorem grows_fail (s : Scanner) (f : Fault) : Grows s (s.fail f) :=
  .of_eq (fun p reader h => ⟨p, reader, h⟩) rfl rfl

theorem grows_token (s : Scanner) (t : PlacedToken) : Grows s (s.token t) := by
  unfold token
  split
  · exact .refl s
  · split
    · rename_i p reader hregion
      have helements : s.elements = s.finished.reverse := by rw [elements, hregion]
      split
      · exact .of_eq (fun _ _ _ => ⟨p, reader, hregion⟩) rfl helements.symm
      · exact .of_eq (fun _ _ _ => ⟨p, reader, hregion⟩) rfl helements.symm
      · intro hs
        refine ⟨fun _ _ h => (by cases h), ?_⟩
        rw [helements, hs p reader hregion]
        exact List.prefix_refl _
      · exact grows_fail s _
    · exact .refl s
    · split
      · exact .refl s
      · exact grows_fail s _

theorem grows_stepContent {c : Content} (hregion : s.region = .content c) (l : Located) :
    Grows s (s.stepContent c l) := by
  have hprefix : s.elements <+: (c.step c.depth l).finished.reverse := by
    rw [elements, hregion]
    exact List.reverse_prefix.2 (c.finished_step c.depth l)
  refine fun _ => ⟨fun p reader h => ?_, ?_⟩
  · unfold stepContent ofContent at h
    split at h
    · cases h
    · split at h <;> cases h
  · unfold stepContent ofContent
    split
    · exact hprefix
    · split <;> exact hprefix

theorem grows_stepOutside (reader : TokenReader) (l : Located) :
    Grows s (s.stepOutside reader l) := by
  unfold stepOutside
  dsimp only
  have htokens := grows_foldl grows_token (reader.step l).1 s
  split
  · exact htokens
  · split
    · rename_i c hregion
      exact htokens.trans (grows_stepContent hregion l)
    · exact htokens.trans (grows_fail _ _)
    · rename_i p _ _ hregion _
      refine htokens.trans (.of_eq (fun _ _ _ => ⟨p, _, hregion⟩) rfl ?_)
      rw [elements, elements, hregion]
    · rename_i hregion _
      refine htokens.trans (.of_eq (fun _ _ h => by cases h) rfl ?_)
      rw [elements, elements, hregion]

theorem grows_step (s : Scanner) (l : Located) : Grows s (s.step l) := by
  unfold step
  split
  · exact .refl s
  · split
    · exact grows_stepOutside _ l
    · rename_i c hregion
      exact grows_stepContent hregion l
    · exact grows_stepOutside _ l

theorem grows_illegal (s : Scanner) (place : Position) : Grows s (s.illegal place) := by
  have houtside (reader : TokenReader) : Grows s
      (if (reader.completed.foldl token s).fault.isSome then reader.completed.foldl token s
        else (reader.completed.foldl token s).fail ⟨.invalidToken, place⟩) := by
    have htokens := grows_foldl grows_token reader.completed s
    split
    · exact htokens
    · exact htokens.trans (grows_fail _ _)
  unfold illegal
  dsimp only
  split
  · exact .refl s
  · split
    · exact houtside _
    · exact grows_fail s _
    · exact houtside _

end Scanner

/-! ## Byte by byte -/

namespace DocumentReader

open Scanner (Grows)

@[simp] theorem scanner_heed (r : DocumentReader) : r.heed.scanner = r.scanner := by
  unfold heed
  split <;> rfl

section
variable [Platform] {r : DocumentReader}

theorem grows_declare (r : DocumentReader) : Grows r.scanner r.declare.scanner := by
  unfold declare
  split
  · dsimp only
    split
    · exact .of_eq (fun p reader h => ⟨p, reader, h⟩) rfl rfl
    · exact .of_eq (fun p reader h => ⟨p, reader, h⟩) rfl rfl
  · exact .refl _

theorem elements_declare (r : DocumentReader) :
    r.declare.scanner.elements = r.scanner.elements := by
  unfold declare
  split
  · dsimp only
    split <;> rfl
  · rfl

def scanSymbol (s : Scanner) (k : Cursor) : Symbol → Scanner
  | .mark => s
  | .illegal => s.illegal k.position
  | .char c => s.step ⟨c, k.position⟩

theorem elements_symbol (h : r.stop = none) (s : Symbol) :
    (r.symbol s).scanner.elements = (scanSymbol r.scanner r.cursor s).elements := by
  cases s <;> simp [symbol, scanSymbol, h, elements_declare]

theorem grows_symbol (r : DocumentReader) (s : Symbol) :
    Grows r.scanner (r.symbol s).scanner := by
  unfold symbol
  split
  · exact .refl _
  · split
    · exact .refl _
    · rw [scanner_heed]
      exact Scanner.grows_illegal _ _
    · rw [scanner_heed]
      exact (Scanner.grows_step _ _).trans (grows_declare { r with scanner := _, cursor := _ })

theorem grows_symbols (symbols : List Symbol) (r : DocumentReader) :
    Grows r.scanner (symbols.foldl symbol r).scanner := by
  induction symbols generalizing r with
  | nil => exact .refl _
  | cons s symbols ih => exact (grows_symbol r s).trans (ih _)

theorem grows_step (r : DocumentReader) (b : UInt8) : Grows r.scanner (r.step b).scanner := by
  exact grows_symbols (r.decoder.step b).1 { r with
    decoder := (r.decoder.step b).2
    byteCursor := r.byteCursor.advance (some (Char.ofNat b.toNat)) }

theorem grows_foldl_step (bytes : List UInt8) (r : DocumentReader) :
    Grows r.scanner (bytes.foldl step r).scanner := by
  induction bytes generalizing r with
  | nil => exact .refl _
  | cons b bytes ih => exact (grows_step r b).trans (ih _)

theorem foldl_symbol_of_stop (h : r.stop.isSome = true) (symbols : List Symbol) :
    symbols.foldl symbol r = r := by
  induction symbols with
  | nil => rfl
  | cons s symbols ih =>
    have hs : r.symbol s = r := by
      unfold symbol
      exact if_pos h
    rw [List.foldl_cons, hs, ih]

theorem step_of_stop (h : r.stop.isSome = true) (b : UInt8) :
    (r.step b).scanner = r.scanner ∧ (r.step b).stop = r.stop := by
  have hstop : { r with
      decoder := (r.decoder.step b).2
      byteCursor := r.byteCursor.advance (some (Char.ofNat b.toNat)) }.stop.isSome = true := h
  unfold step
  dsimp only
  rw [foldl_symbol_of_stop hstop]
  exact ⟨rfl, rfl⟩

theorem foldl_step_of_stop (h : r.stop.isSome = true) (bytes : List UInt8) :
    (bytes.foldl step r).scanner = r.scanner ∧ (bytes.foldl step r).stop = r.stop := by
  induction bytes generalizing r with
  | nil => exact ⟨rfl, rfl⟩
  | cons b bytes ih =>
    obtain ⟨hscanner, hstop⟩ := step_of_stop h b
    have hrest := ih (r := r.step b) (hstop ▸ h)
    exact ⟨hrest.1.trans hscanner, hrest.2.trans hstop⟩

end

end DocumentReader

/-! ## The start of a document -/

section
variable [Platform]

/-- What is known behind some bytes from the start of a document. -/
def behind (bytes : List UInt8) : DocumentReader := bytes.foldl DocumentReader.step .first

/-- The elements whose end tags stand in some bytes from the start of a document. -/
def endedIn (bytes : List UInt8) : List Element := (behind bytes).scanner.elements

/-- What shows to be wrong in some bytes from the start of a document, whatever follows. -/
def wrongIn (bytes : List UInt8) : Option Stop := (behind bytes).stop

theorem behind_append (xs ys : List UInt8) :
    behind (xs ++ ys) = ys.foldl DocumentReader.step (behind xs) := List.foldl_append

/-- No element is taken back. -/
theorem endedIn_prefix (xs ys : List UInt8) : endedIn xs <+: endedIn (xs ++ ys) := by
  have hxs : (behind xs).scanner.Unbegun :=
    (DocumentReader.grows_foldl_step xs .first fun _ _ _ => rfl).1
  rw [endedIn, endedIn, behind_append]
  exact (DocumentReader.grows_foldl_step ys (behind xs) hxs).2

/-- Behind something wrong nothing is added. -/
theorem behind_of_wrong {xs : List UInt8} {stop : Stop} (h : wrongIn xs = some stop)
    (ys : List UInt8) : endedIn (xs ++ ys) = endedIn xs ∧ wrongIn (xs ++ ys) = some stop := by
  have hstop : (behind xs).stop.isSome = true := by
    rw [show (behind xs).stop = some stop from h]
    rfl
  obtain ⟨hscanner, hrest⟩ := DocumentReader.foldl_step_of_stop hstop ys
  rw [endedIn, wrongIn, behind_append, hscanner, hrest]
  exact ⟨rfl, h⟩

/-- What goes wrong does so at one byte. -/
theorem exists_first_wrong {bytes : List UInt8} {stop : Stop} (h : wrongIn bytes = some stop) :
    ∃ before b after, bytes = before ++ b :: after ∧ wrongIn before = none ∧
      wrongIn (before ++ [b]) = some stop := by
  have hfrom (xs ys : List UInt8) (hxs : wrongIn xs = none) (h : wrongIn (xs ++ ys) = some stop) :
      ∃ before b after, xs ++ ys = before ++ b :: after ∧ wrongIn before = none ∧
        wrongIn (before ++ [b]) = some stop := by
    induction ys generalizing xs with
    | nil =>
      rw [List.append_nil, hxs] at h
      cases h
    | cons b ys ih =>
      rw [List.append_cons] at h ⊢
      cases hb : wrongIn (xs ++ [b]) with
      | none => exact ih (xs ++ [b]) hb h
      | some stop' =>
        have hstop := (behind_of_wrong hb ys).2
        rw [h] at hstop
        exact ⟨xs, b, ys, by simp, hxs, hb.trans hstop.symm⟩
  exact hfrom [] bytes rfl h

end

/-! ## The charset -/

namespace Decoder

theorem charset_of_detect {bytes : List UInt8} {p : List Symbol × Decoder}
    (h : detect bytes = some p) : p.2.charset.isSome = true := by
  unfold detect at h
  repeat' split at h
  all_goals cases h <;> rfl

theorem charset_step {d : Decoder} (h : d.charset.isSome = true) (b : UInt8) :
    (d.step b).2.charset.isSome = true := by
  obtain ⟨cs, hcs⟩ := Option.isSome_iff_exists.1 h
  simp [step, hcs]

end Decoder

section
variable [Platform]

namespace DocumentReader

variable {r : DocumentReader}

theorem charset_symbol (h : r.decoder.charset.isSome = true) (s : Symbol) :
    (r.symbol s).decoder.charset.isSome = true := by
  have hheed (r : DocumentReader) : r.heed.decoder = r.decoder := by
    unfold heed
    split <;> rfl
  have hdeclare {r : DocumentReader} (h : r.decoder.charset.isSome = true) :
      r.declare.decoder.charset.isSome = true := by
    unfold declare
    split
    · dsimp only
      split
      · exact h
      · rfl
    · exact h
  unfold symbol
  split
  · exact h
  · split
    · exact h
    · rw [hheed]
      exact h
    · rw [hheed]
      exact hdeclare h

theorem charset_symbols (h : r.decoder.charset.isSome = true) (symbols : List Symbol) :
    (symbols.foldl symbol r).decoder.charset.isSome = true := by
  induction symbols generalizing r with
  | nil => exact h
  | cons s symbols ih => exact ih (charset_symbol h s)

/-- Unless the charset is known, nothing has been read but the bytes that are pending. -/
def Waits (bytes : List UInt8) (r : DocumentReader) : Prop :=
  r.decoder.charset = none → r.decoder.pending = bytes ∧ r.scanner = .first ∧ r.stop = none

theorem Waits.step {bytes : List UInt8} (h : Waits bytes r) (b : UInt8) :
    Waits (bytes ++ [b]) (r.step b) := by
  intro hnone
  have hbehind : (r.decoder.step b).2.charset = none := by
    cases hc : (r.decoder.step b).2.charset with
    | none => rfl
    | some cs =>
      have hknown := charset_symbols (r := { r with
        decoder := (r.decoder.step b).2
        byteCursor := r.byteCursor.advance (some (Char.ofNat b.toNat)) })
        (Option.isSome_iff_exists.2 ⟨cs, hc⟩) (r.decoder.step b).1
      exact absurd hnone (Option.isSome_iff_ne_none.1 hknown)
  have hbefore : r.decoder.charset = none := by
    cases hc : r.decoder.charset with
    | none => rfl
    | some cs =>
      have hknown := Decoder.charset_step (Option.isSome_iff_exists.2 ⟨cs, hc⟩) b
      exact absurd hbehind (Option.isSome_iff_ne_none.1 hknown)
  obtain ⟨hpending, hscanner, hstop⟩ := h hbefore
  have hstep : r.decoder.step b = ([], ⟨none, bytes ++ [b]⟩) := by
    have hdetect : r.decoder.step b =
        (Decoder.detect (bytes ++ [b])).getD ([], ⟨none, bytes ++ [b]⟩) := by
      rw [Decoder.step, hbefore, hpending]
    cases hd : Decoder.detect (bytes ++ [b]) with
    | none => rw [hdetect, hd, Option.getD_none]
    | some p =>
      rw [hdetect, hd, Option.getD_some] at hbehind
      exact absurd hbehind (Option.isSome_iff_ne_none.1 (Decoder.charset_of_detect hd))
  unfold DocumentReader.step
  rw [hstep]
  exact ⟨rfl, hscanner, hstop⟩

theorem Waits.foldl {bytes : List UInt8} (h : Waits bytes r) (more : List UInt8) :
    Waits (bytes ++ more) (more.foldl DocumentReader.step r) := by
  induction more generalizing bytes r with
  | nil => rwa [List.append_nil]
  | cons b more ih =>
    rw [List.append_cons]
    exact ih (h.step b)

end DocumentReader

theorem waits_behind (bytes : List UInt8) : (behind bytes).Waits bytes := by
  have hfirst : DocumentReader.Waits [] .first := fun _ => ⟨rfl, rfl, rfl⟩
  exact hfirst.foldl bytes

/-! ## Whole documents -/

theorem elements_single (b : UInt8) : (Document.inFull [b]).elements = [] := by
  have hnone : ∀ n < 256, ∀ s ∈ (Decoder.settle ⟨none, [UInt8.ofNat n]⟩).1,
      (DocumentReader.scanSymbol .first .first s).elements = [] := by decide +kernel
  have hone : ∀ n < 256, (Decoder.settle ⟨none, [UInt8.ofNat n]⟩).1.length ≤ 1 := by
    decide +kernel
  have hb := hnone b.toNat b.toNat_lt
  have hlength := hone b.toNat b.toNat_lt
  rw [UInt8.ofNat_toNat] at hb hlength
  have hfinish : (Document.inFull [b]).elements =
      ((Decoder.settle ⟨none, [b]⟩).1.foldl DocumentReader.symbol
        { DocumentReader.first with
          decoder := (Decoder.settle ⟨none, [b]⟩).2
          byteCursor := Cursor.first.advance (some (Char.ofNat b.toNat)) }).scanner.elements := rfl
  rw [hfinish]
  match hsymbols : (Decoder.settle ⟨none, [b]⟩).1 with
  | [] => rfl
  | [s] =>
    rw [hsymbols] at hb
    rw [List.foldl_cons, List.foldl_nil, DocumentReader.elements_symbol rfl]
    exact hb s (.head _)
  | _ :: _ :: _ =>
    rw [hsymbols] at hlength
    simp at hlength

/-- **The elements of a document are those that end in it.** -/
theorem Document.elements_inFull (bytes : List UInt8) :
    (Document.inFull bytes).elements = endedIn bytes := by
  have hfinish : (Document.inFull bytes).elements =
      ((behind bytes).decoder.settle.1.foldl DocumentReader.symbol
        { behind bytes with decoder := (behind bytes).decoder.settle.2 }).scanner.elements := rfl
  -- Only the one byte of a document may be decoded at its end.
  by_cases hone : (behind bytes).decoder.charset = none ∧ ∃ b, (behind bytes).decoder.pending = [b]
  · obtain ⟨hnone, b, hb⟩ := hone
    obtain ⟨hpending, hscanner, -⟩ := waits_behind bytes hnone
    obtain rfl : bytes = [b] := hpending.symm.trans hb
    rw [elements_single, endedIn, hscanner]
    rfl
  · have hsettle : (behind bytes).decoder.settle = ([], (behind bytes).decoder) := by
      unfold Decoder.settle
      split
      · rename_i b hnone hb
        exact absurd ⟨hnone, b, hb⟩ hone
      · rfl
    rw [hfinish, hsettle]
    rfl

/-- What shows to be wrong in the bytes of a document ends its reading. -/
theorem Document.stop_inFull {bytes : List UInt8} {stop : Stop} (h : wrongIn bytes = some stop) :
    (Document.inFull bytes).stop = some stop := by
  have hstop : { behind bytes with
      decoder := (behind bytes).decoder.settle.2 }.stop.isSome = true :=
    Option.isSome_iff_exists.2 ⟨stop, h⟩
  have hfinish : (Document.inFull bytes).stop =
      ((behind bytes).decoder.settle.1.foldl DocumentReader.symbol
        { behind bytes with decoder := (behind bytes).decoder.settle.2 }).ending := rfl
  rw [hfinish, DocumentReader.foldl_symbol_of_stop hstop, DocumentReader.ending]
  rw [show (behind bytes).stop = some stop from h]

/-! ## What is handed over -/

namespace Document

variable {bytes : List UInt8}

/-- The bytes that the parser puts off. -/
def putOff (bytes : List UInt8) : List UInt8 :=
  bytes.drop (bytes.length - Platform.putOff bytes)

theorem readAtOnce_append_putOff (bytes : List UInt8) :
    readAtOnce bytes ++ putOff bytes = bytes := List.take_append_drop _ _

theorem ofBytes_of_refused {n : Nat} {place : Position} (h : refusal? bytes = some (n, place)) :
    ofBytes bytes = ⟨(inFull bytes).elements.take n, some (.fault ⟨.overflow, place⟩)⟩ := by
  rw [ofBytes, h]

theorem ofBytes_of_not_refused (h : refusal? bytes = none) : ofBytes bytes = handedOver bytes := by
  rw [ofBytes, h]

/-- A document without entities is never refused. -/
theorem refusal?_eq_none (h : DocumentReader.first.meetsEntity bytes = false) :
    refusal? bytes = none := by
  rw [refusal?, h]
  rfl

/-- The document of which the bytes of `late` are read with its end: if something is wrong, the
elements that end in them get lost. -/
def inParts (early late : List UInt8) : Document :=
  match (inFull (early ++ late)).stop with
  | some stop => ⟨endedIn early, some stop⟩
  | none => ⟨endedIn (early ++ late), none⟩

theorem inParts_of_stop_eq_none {early late : List UInt8}
    (h : (inFull (early ++ late)).stop = none) :
    inParts early late = ⟨endedIn (early ++ late), none⟩ := by
  rw [inParts, h]

theorem inParts_of_stop {early late : List UInt8} {stop : Stop}
    (h : (inFull (early ++ late)).stop = some stop) :
    inParts early late = ⟨endedIn early, some stop⟩ := by
  rw [inParts, h]

theorem endedIn_prefix_inParts (early more late : List UInt8) :
    endedIn early <+: (inParts (early ++ more) late).elements := by
  unfold inParts
  split
  · exact endedIn_prefix early more
  · rw [List.append_assoc]
    exact endedIn_prefix early _

theorem handedOver_of_stop_eq_none (h : (inFull bytes).stop = none) :
    handedOver bytes = inFull bytes := by
  unfold handedOver
  dsimp only
  rw [h]
  rfl

/-- A document in which nothing is wrong is handed over in full, unless it is refused. -/
theorem ofBytes_eq_inFull (hnone : refusal? bytes = none) (h : (inFull bytes).stop = none) :
    ofBytes bytes = inFull bytes := by
  rw [ofBytes_of_not_refused hnone, handedOver_of_stop_eq_none h]

/-- What is handed over: all of a document in which nothing is wrong, and of another the elements
that end in the bytes that are not put off. -/
theorem handedOver_eq (bytes : List UInt8) :
    handedOver bytes = inParts (readAtOnce bytes) (putOff bytes) := by
  cases h : (inFull bytes).stop with
  | none =>
    rw [inParts_of_stop_eq_none (by rw [readAtOnce_append_putOff, h]), readAtOnce_append_putOff,
      handedOver_of_stop_eq_none h, ← elements_inFull, ← h]
  | some stop =>
    rw [inParts_of_stop (by rw [readAtOnce_append_putOff, h]), handedOver, h]
    rfl

/-- A document in which something is wrong is handed over as far as it is not put off, unless it is
refused. -/
theorem ofBytes_of_stop (hnone : refusal? bytes = none) {stop : Stop}
    (h : (inFull bytes).stop = some stop) :
    ofBytes bytes = ⟨endedIn (readAtOnce bytes), some stop⟩ := by
  rw [ofBytes_of_not_refused hnone, handedOver_eq,
    inParts_of_stop (by rw [readAtOnce_append_putOff, h])]

end Document

end

end GrammarProject.Markup
