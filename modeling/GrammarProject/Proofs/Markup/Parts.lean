import GrammarProject.Proofs.Markup.Expansion

/-!
# Documents in parts

The parser of the standard platform is given parts of 16384 bytes, and looks at a token that goes on
through a whole part only when there is twice as much of it. So the end of a document may be looked
at only when it is told that there is no more (`putOff_longComment`). Meanwhile a comment of any length
changes nothing but the place (`InComment.foldl_step`).
-/

namespace GrammarProject.Markup

open Platform.Standard (Parts Buffer openToken?)

namespace DocumentReader

/-- The reader so many columns further on. -/
def along (r : DocumentReader) (n : Nat) : DocumentReader :=
  { r with
    cursor := ⟨⟨r.cursor.position.line, r.cursor.position.column + n⟩, false⟩
    byteCursor := ⟨⟨r.byteCursor.position.line, r.byteCursor.position.column + n⟩, false⟩ }

/-- In a comment. -/
structure InComment (r : DocumentReader) (c : Content) : Prop where
  stop_eq : r.stop = none
  decoder_eq : r.decoder = ⟨some .utf8, []⟩
  region_eq : r.scanner.region = .content c
  encoding_eq : r.scanner.encoding = none
  fault_eq : r.scanner.fault = none
  state_eq : c.state = .aside .comment
  content_eq : c.fault = none
  opened_ne : c.opened ≠ []

def isInComment (r : DocumentReader) : Bool :=
  match r.scanner.region with
  | .content c => r.stop = none ∧ r.decoder = ⟨some .utf8, []⟩ ∧ r.scanner.encoding = none ∧
      r.scanner.fault = none ∧ c.state = .aside .comment ∧ c.fault = none ∧ c.opened ≠ []
  | _ => false

variable {r : DocumentReader} {c : Content}

theorem exists_inComment (h : r.isInComment = true) : ∃ c, r.InComment c := by
  unfold isInComment at h
  split at h
  case _ c hregion =>
    obtain ⟨hstop, hdecoder, hencoding, hscanner, hstate, hfault, hopened⟩ := of_decide_eq_true h
    exact ⟨c, hstop, hdecoder, hregion, hencoding, hscanner, hstate, hfault, hopened⟩
  case _ => cases h

theorem InComment.along (h : r.InComment c) (n : Nat) : (r.along n).InComment c :=
  ⟨h.stop_eq, h.decoder_eq, h.region_eq, h.encoding_eq, h.fault_eq, h.state_eq, h.content_eq,
    h.opened_ne⟩

theorem along_along (m n : Nat) : (r.along m).along n = r.along (m + n) := by
  simp only [along, Nat.add_assoc]

theorem InComment.step [Platform] (h : r.InComment c) : r.step 0x61 = r.along 1 := by
  have hc : c.step c.depth ⟨'a', r.cursor.position⟩ = c := by
    have hgoto : c.goto (.aside .comment) = c := by rw [Content.goto, ← h.state_eq]
    have hbefore : c.stepBefore ⟨'a', r.cursor.position⟩ = .next (c.goto (.aside .comment)) := by
      rw [Content.stepBefore, h.state_eq]
      rfl
    rw [Content.step.eq_def, hbefore, hgoto]
    simp [h.content_eq]
  rw [step_within (x := 'a') h.stop_eq (by rw [h.decoder_eq]; rfl) rfl h.region_eq h.encoding_eq
    h.fault_eq hc h.content_eq h.opened_ne, within, ← h.region_eq]
  rfl

/-- A comment of any length changes nothing but the place. -/
theorem InComment.foldl_step [Platform] (h : r.InComment c) (n : Nat) :
    (List.replicate (n + 1) 0x61).foldl DocumentReader.step r = r.along (n + 1) := by
  induction n generalizing r with
  | zero => exact h.step
  | succ n ih =>
    rw [List.replicate_succ, List.foldl_cons, h.step, ih (h.along 1), along_along, Nat.add_comm 1]

/-- No entity is declared in a comment. -/
theorem InComment.meetsEntity [Platform] (h : r.InComment c) (hc : c.definitions.entities = [])
    (n : Nat) : r.meetsEntity (List.replicate (n + 1) 0x61) = false := by
  have hknows {r : DocumentReader} (h : r.InComment c) : r.scanner.knowsEntity = false := by
    rw [Scanner.knowsEntity, h.region_eq]
    dsimp only
    rw [hc]
    rfl
  induction n generalizing r with
  | zero =>
    rw [List.replicate_one, DocumentReader.meetsEntity, h.step, DocumentReader.meetsEntity,
      hknows h, hknows (h.along 1)]
    rfl
  | succ n ih => rw [List.replicate_succ, DocumentReader.meetsEntity, h.step, hknows h,
      ih (h.along 1), Bool.or_false]

end DocumentReader

/-- The end of a part changes what the parser holds, and nothing that has been read. -/
theorem step_parts (y : Parts) (b : UInt8) :
    (y.step b).reader = @DocumentReader.step Platform.Standard.unlimited y.reader b ∧
      (y.step b).count = y.count + 1 := by
  unfold Parts.step
  dsimp only
  split <;> exact ⟨rfl, rfl⟩

/-- A comment does so for the parser of the standard platform, up to the end of a part. -/
theorem foldl_parts {y : Parts} {c : Content} (h : y.reader.InComment c) {n : Nat}
    (hn : y.count % 0x4000 + (n + 1) < 0x4000) :
    (List.replicate (n + 1) 0x61).foldl Parts.step y =
      { y with reader := y.reader.along (n + 1), count := y.count + (n + 1) } := by
  have hstep {y : Parts} (h : y.reader.InComment c) (hy : y.count % 0x4000 + 1 < 0x4000) :
      y.step 0x61 = { y with reader := y.reader.along 1, count := y.count + 1 } := by
    have hreader := @DocumentReader.InComment.step y.reader c Platform.Standard.unlimited h
    have htoken : openToken? (y.reader.along 1).scanner = openToken? y.reader.scanner := rfl
    unfold Parts.step
    rw [hreader]
    dsimp only
    rw [if_pos htoken, if_neg (by omega)]
  induction n generalizing y with
  | zero => exact hstep h hn
  | succ n ih =>
    rw [List.replicate_succ, List.foldl_cons, hstep h (by omega), ih (h.along 1) (by dsimp; omega)]
    simp only [DocumentReader.along_along, Nat.add_assoc, Nat.add_comm 1]

/-! ## A comment through two parts -/

def commentStart : List UInt8 := Text.utf8Bytes "<p><!--".toList

/-- Two parts of 16384 bytes with a comment of which only the last character is missing. -/
def longComment : List UInt8 :=
  commentStart ++ List.replicate 32759 0x61 ++ Text.utf8Bytes "--".toList

/-- The rest of a document, in which an element ends before something is wrong. -/
def mismatched : List UInt8 := Text.utf8Bytes "><entryPoint>x</entryPoint></wrong>".toList

section
open scoped Platform

theorem foldl_parts_longComment : ((longComment ++ mismatched).foldl Parts.step .first) =
    let y := commentStart.foldl Parts.step .first
    let y := Parts.step { y with reader := y.reader.along 16376, count := 16383 } 0x61
    let y := { y with reader := y.reader.along 16382, count := 32766 }
    (Text.utf8Bytes "--".toList ++ mismatched).foldl Parts.step y := by
  obtain ⟨c, hc⟩ := DocumentReader.exists_inComment
    (r := (commentStart.foldl Parts.step .first).reader) (by decide +kernel)
  have hcount : (commentStart.foldl Parts.step .first).count = 7 := by decide
  have hsplit : List.replicate 32759 (0x61 : UInt8) =
      List.replicate 16376 0x61 ++ 0x61 :: List.replicate 16382 0x61 := by
    rw [← List.replicate_succ, List.replicate_append_replicate]
  have hbytes : longComment ++ mismatched = commentStart ++ (List.replicate 16376 0x61 ++
      0x61 :: (List.replicate 16382 0x61 ++ (Text.utf8Bytes "--".toList ++ mismatched))) := by
    simp only [longComment, hsplit, List.append_assoc, List.cons_append]
  rw [hbytes, List.foldl_append, List.foldl_append, foldl_parts (n := 16375) hc (by omega),
    List.foldl_cons, List.foldl_append]
  generalize commentStart.foldl Parts.step .first = y at hc hcount
  rw [hcount]
  obtain ⟨hreader, hcount⟩ :=
    step_parts { y with reader := y.reader.along 16376, count := 16383 } 0x61
  have hc' : (Parts.step { y with reader := y.reader.along 16376, count := 16383 }
      0x61).reader.InComment c := by
    rw [hreader, @DocumentReader.InComment.step _ _ Platform.Standard.unlimited (hc.along 16376)]
    exact (hc.along 16376).along 1
  have hrest := foldl_parts (n := 16381) hc' (by rw [hcount]; simp)
  rw [hcount] at hrest
  exact congrArg (fun y => List.foldl Parts.step y (Text.utf8Bytes "--".toList ++ mismatched)) hrest

theorem putOff_longComment : Platform.putOff (longComment ++ mismatched) = mismatched.length := by
  have hlength : (longComment ++ mismatched).length = 32768 + mismatched.length := by
    simp only [longComment, List.length_append, List.length_replicate]
    decide
  change Platform.Standard.putOff _ = _
  unfold Platform.Standard.putOff
  rw [hlength, foldl_parts_longComment, if_neg (by omega)]
  decide +kernel

theorem inComment_commentStart :
    ∃ c, (behind commentStart).InComment c ∧ c.definitions.entities = [] := by
  obtain ⟨c, hc⟩ := DocumentReader.exists_inComment (r := behind commentStart) (by decide +kernel)
  have hknows : (behind commentStart).scanner.knowsEntity = false := by decide +kernel
  rw [Scanner.knowsEntity, hc.region_eq] at hknows
  exact ⟨c, hc, by simpa using hknows⟩

theorem foldl_longComment (bytes : List UInt8) :
    behind (longComment ++ bytes) =
      (Text.utf8Bytes "--".toList ++ bytes).foldl DocumentReader.step
        ((behind commentStart).along 32759) := by
  obtain ⟨c, hc, -⟩ := inComment_commentStart
  rw [longComment, List.append_assoc, behind_append, behind_append, hc.foldl_step 32758]

theorem refusal?_longComment : Document.refusal? (longComment ++ mismatched) = none := by
  obtain ⟨c, hc, hentities⟩ := inComment_commentStart
  have hstart : DocumentReader.first.meetsEntity commentStart = false := by decide +kernel
  have hrest : ((behind commentStart).along 32759).meetsEntity
      (Text.utf8Bytes "--".toList ++ mismatched) = false := by decide +kernel
  refine Document.refusal?_eq_none ?_
  rw [longComment, List.append_assoc, List.append_assoc, DocumentReader.meetsEntity_append, hstart,
    ← behind, DocumentReader.meetsEntity_append, hc.meetsEntity hentities 32758,
    hc.foldl_step 32758, hrest]
  rfl

/-- **What ends in a part that is put off** is not handed over if something is wrong behind it. -/
theorem ofBytes_longComment :
    (Document.inFull (longComment ++ mismatched)).elements =
        [⟨⟨none, "entryPoint".toList⟩, ['x']⟩] ∧
      (Document.inFull (longComment ++ mismatched)).stop =
        some (.fault ⟨.mismatchedTag, ⟨1, 32797⟩⟩) ∧
      Document.ofBytes (longComment ++ mismatched) =
        ⟨[], some (.fault ⟨.mismatchedTag, ⟨1, 32797⟩⟩)⟩ := by
  have hfull : Document.inFull (longComment ++ mismatched) =
      ((Text.utf8Bytes "--".toList ++ mismatched).foldl DocumentReader.step
        ((behind commentStart).along 32759)).finish := by
    rw [← foldl_longComment]
    rfl
  have hearly : Document.readAtOnce (longComment ++ mismatched) = longComment := by
    rw [Document.readAtOnce, putOff_longComment, List.length_append, Nat.add_sub_cancel,
      List.take_left]
  have hended : endedIn longComment = [] := by
    rw [endedIn, ← List.append_nil longComment, foldl_longComment]
    decide +kernel
  have hstop : (Document.inFull (longComment ++ mismatched)).stop =
      some (.fault ⟨.mismatchedTag, ⟨1, 32797⟩⟩) := by
    rw [hfull]
    decide +kernel
  refine ⟨by rw [hfull]; decide +kernel, hstop, ?_⟩
  rw [Document.ofBytes_of_stop refusal?_longComment hstop, hearly, hended]

end

end GrammarProject.Markup
