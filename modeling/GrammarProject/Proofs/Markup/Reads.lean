import GrammarProject.Markup.Document
import GrammarProject.Proofs.Text.Utf8

/-!
# Reading a document character by character

`Scanner.Reads Q cs s`: whatever places the characters `cs` have, a scanner that reads them from `s`
on finds no fault on the way, meets no declaration of an encoding or an entity and ends in a state
of `Q`. What a document says is stated with `Reads`; `Document.inFull_utf8` turns it into a
statement about the bytes of the document.
-/

namespace GrammarProject.Markup

/-! ## Characters -/

namespace Scanner

/-- Nothing is wrong so far, and neither an encoding nor an entity is declared. -/
def IsClear (s : Scanner) : Prop :=
  s.fault = none ∧ s.encoding = none ∧ s.knowsEntity = false

/-- Reading some characters ends in a state of `Q`. -/
def Reads (Q : Scanner → Prop) : List Char → Scanner → Prop
  | [], s => Q s
  | c :: cs, s => ∀ place, (s.step ⟨c, place⟩).IsClear ∧ Reads Q cs (s.step ⟨c, place⟩)

namespace Reads

variable {Q Q' : Scanner → Prop} {cs ds : List Char} {s : Scanner}

theorem bind (h : Reads Q cs s) (k : ∀ s', Q s' → Reads Q' ds s') : Reads Q' (cs ++ ds) s := by
  induction cs generalizing s with
  | nil => exact k s h
  | cons c cs ih => exact fun place => ⟨(h place).1, ih (h place).2⟩

/-- Characters of one class are read one by one; `P` knows those that are read already. -/
theorem each {P : List Char → Scanner → Prop} {p : Char → Prop}
    (hstep : ∀ {read s} c, p c → P read s → Reads (P (read ++ [c])) [c] s) {read : List Char}
    (hcs : ∀ c ∈ cs, p c) (h : P read s) : Reads (P (read ++ cs)) cs s := by
  induction cs generalizing read s with
  | nil =>
    rw [List.append_nil]
    exact h
  | cons c cs ih =>
    rw [List.append_cons]
    exact (hstep c (hcs c List.mem_cons_self) h).bind fun s' hs' =>
      ih (fun c hc => hcs c (List.mem_cons_of_mem _ hc)) hs'

end Reads

end Scanner

/-! ## Bytes of a character -/

theorem utf8Length_eq (b : UInt8) : utf8Length b =
    if b.toNat < 0x80 then 1 else if b.toNat < 0xc0 then 0 else if b.toNat < 0xe0 then 2
    else if b.toNat < 0xf0 then 3 else if b.toNat < 0xf5 then 4 else 0 := by
  simp only [utf8Length, UInt8.lt_iff_toNat_lt, UInt8.reduceToNat]

theorem utf8EncodeChar_cons (c : Char) :
    ∃ b bs, String.utf8EncodeChar c = b :: bs ∧ utf8Length b = bs.length + 1 := by
  have hv : c.toNat < 0xd800 ∨ 0xdfff < c.toNat ∧ c.toNat < 0x110000 := c.valid
  unfold String.utf8EncodeChar
  simp only [show c.val.toNat = c.toNat from rfl]
  generalize c.toNat = v at hv
  split
  · refine ⟨_, _, rfl, ?_⟩
    rw [utf8Length_eq, Text.Utf8State.toNat_byte (by omega), if_pos (by omega)]
    rfl
  · split
    · refine ⟨_, _, rfl, ?_⟩
      rw [utf8Length_eq, Text.Utf8State.toNat_byte (by omega), if_neg (by omega),
        if_neg (by omega), if_pos (by omega)]
      rfl
    · split
      · refine ⟨_, _, rfl, ?_⟩
        rw [utf8Length_eq, Text.Utf8State.toNat_byte (by omega), if_neg (by omega),
          if_neg (by omega), if_neg (by omega), if_pos (by omega)]
        rfl
      · refine ⟨_, _, rfl, ?_⟩
        rw [utf8Length_eq, Text.Utf8State.toNat_byte (by omega), if_neg (by omega),
          if_neg (by omega), if_neg (by omega), if_neg (by omega), if_pos (by omega)]
        rfl

theorem utf8Symbol_utf8EncodeChar (c : Char) :
    utf8Symbol (String.utf8EncodeChar c) = .ofChar c := by
  have hd : (Text.Encoding.utf8 false).decode (String.utf8EncodeChar c) = [c] := by
    have := Text.Utf8State.decode_utf8EncodeChar c []
    rwa [List.append_nil] at this
  unfold utf8Symbol
  rw [hd]
  dsimp only
  rw [if_neg]
  rintro ⟨rfl, h⟩
  exact h (by decide)

/-! ## Bytes of a document -/

namespace DocumentReader

variable {r : DocumentReader} {s : Scanner}

/-- A reader of UTF-8 whose scanner is in a state where nothing is wrong, behind some bytes of a
character. -/
structure Follows (pending : List UInt8) (s : Scanner) (r : DocumentReader) : Prop where
  decoder_eq : r.decoder = ⟨some .utf8, pending⟩
  scanner_eq : r.scanner = s
  stop_eq : r.stop = none

section
variable [Platform]

theorem meetsEntity_append (r : DocumentReader) (xs ys : List UInt8) :
    r.meetsEntity (xs ++ ys) = (r.meetsEntity xs || (xs.foldl step r).meetsEntity ys) := by
  induction xs generalizing r with
  | nil => cases ys <;> simp [meetsEntity]
  | cons x xs ih => simp [meetsEntity, ih, Bool.or_assoc]

theorem Follows.incomplete {pending xs : List UInt8} (h : Follows pending s r) {b x : UInt8}
    (hx : pending ++ [b] = x :: xs) (hl : xs.length + 1 < utf8Length x) :
    Follows (pending ++ [b]) s (r.step b) := by
  obtain ⟨hd, hs, hstop⟩ := h
  have hc : Charset.utf8.complete? (pending ++ [b]) = none := by
    rw [hx, Charset.complete?, if_neg (by omega), if_neg (by simp; omega)]
  have hstep : r.decoder.step b = ([], ⟨some .utf8, pending ++ [b]⟩) := by
    simp [hd, Decoder.step, Decoder.complete, hc]
  exact ⟨by simp [step, hstep], by simp [step, hstep, hs], by simp [step, hstep, hstop]⟩

theorem Follows.complete {pending xs : List UInt8} (h : Follows pending s r) {b x : UInt8}
    (hx : pending ++ [b] = x :: xs) (hl : utf8Length x = xs.length + 1) {c : Char}
    (hc : utf8Symbol (pending ++ [b]) = .char c)
    (hclear : ∀ place, (s.step ⟨c, place⟩).IsClear) :
    ∃ place, Follows [] (s.step ⟨c, place⟩) (r.step b) := by
  obtain ⟨hd, hs, hstop⟩ := h
  have hsymbol : Charset.utf8.complete? (pending ++ [b]) = some (.char c) := by
    rw [← hc, hx, Charset.complete?, if_neg (by omega), if_pos (by simp; omega)]
  have hstep : r.decoder.step b = ([.char c], ⟨some .utf8, []⟩) := by
    simp [hd, Decoder.step, Decoder.complete, hsymbol]
  obtain ⟨hfault, hencoding, -⟩ := hclear r.cursor.position
  refine ⟨r.cursor.position, ?_⟩
  constructor <;> simp [step, hstep, symbol, hstop, hs, declare, heed, hfault, hencoding]

theorem Follows.bytes {pending bs xs : List UInt8} (h : Follows pending s r) {x : UInt8}
    (hne : bs ≠ []) (hx : pending ++ bs = x :: xs) (hl : utf8Length x = xs.length + 1) {c : Char}
    (hc : utf8Symbol (pending ++ bs) = .char c) (hclear : ∀ place, (s.step ⟨c, place⟩).IsClear) :
    ∃ place, Follows [] (s.step ⟨c, place⟩) (bs.foldl step r) ∧
      (s.knowsEntity = false → r.meetsEntity bs = false) := by
  induction bs generalizing pending r with
  | nil => exact absurd rfl hne
  | cons b bs ih =>
    cases bs with
    | nil =>
      obtain ⟨place, hplace⟩ := h.complete hx hl hc hclear
      refine ⟨place, hplace, fun hs => ?_⟩
      rw [meetsEntity, meetsEntity, h.scanner_eq, hs, hplace.scanner_eq, (hclear place).2.2]
      rfl
    | cons b' bs =>
      have hx' : pending ++ [b] ++ b' :: bs = x :: xs := by simpa using hx
      obtain ⟨ys, hys⟩ : ∃ ys, pending ++ [b] = x :: ys := by
        cases pending with
        | nil => exact ⟨[], by simp_all⟩
        | cons y ys => exact ⟨ys ++ [b], by simp_all⟩
      have hlen : xs.length = ys.length + bs.length + 1 := by
        have := congrArg List.length hx'
        rw [hys] at this
        simp at this
        omega
      obtain ⟨place, hplace, hmeets⟩ :=
        ih (h.incomplete hys (by omega)) (by simp) hx' (by simpa using hc)
      refine ⟨place, hplace, fun hs => ?_⟩
      rw [meetsEntity, h.scanner_eq, hs, hmeets hs]
      rfl

/-- A legal character is read from its bytes. -/
theorem Follows.char (h : Follows [] s r) {c : Char} (hc : isLegal c = true)
    (hclear : ∀ place, (s.step ⟨c, place⟩).IsClear) :
    ∃ place, Follows [] (s.step ⟨c, place⟩) ((String.utf8EncodeChar c).foldl step r) ∧
      (s.knowsEntity = false → r.meetsEntity (String.utf8EncodeChar c) = false) := by
  obtain ⟨b, bs, hb, hl⟩ := utf8EncodeChar_cons c
  have hsymbol : utf8Symbol (b :: bs) = .char c := by
    rw [← hb, utf8Symbol_utf8EncodeChar, Symbol.ofChar, if_pos hc]
  rw [hb]
  exact h.bytes (List.cons_ne_nil b bs) rfl hl hsymbol hclear

/-- A text is read from its bytes. No entity is declared on the way. -/
theorem Follows.text {Q : Scanner → Prop} {cs : List Char} (h : Follows [] s r)
    (hc : ∀ c ∈ cs, isLegal c = true) (hq : s.Reads Q cs) :
    ∃ s', Q s' ∧ Follows [] s' ((Text.utf8Bytes cs).foldl step r) ∧
      (s.knowsEntity = false → r.meetsEntity (Text.utf8Bytes cs) = false) := by
  induction cs generalizing s r with
  | nil => exact ⟨s, hq, h, fun hs => (congrArg Scanner.knowsEntity h.scanner_eq).trans hs⟩
  | cons c cs ih =>
    rw [Text.utf8Bytes_cons, List.foldl_append]
    obtain ⟨place, hplace, hchar⟩ := h.char (hc c List.mem_cons_self) fun place => (hq place).1
    obtain ⟨s', hs', hfollows, hrest⟩ :=
      ih hplace (fun c' hc' => hc c' (List.mem_cons_of_mem _ hc')) (hq place).2
    refine ⟨s', hs', hfollows, fun hs => ?_⟩
    rw [meetsEntity_append, hchar hs, hrest (hq place).1.2.2]
    rfl

/-! ## The first bytes -/

def firstUtf8 : DocumentReader := { first with decoder := ⟨some .utf8, []⟩ }

end

theorem follows_firstUtf8 : Follows [] Scanner.first firstUtf8 := ⟨rfl, rfl, rfl⟩

/-- Behind `<` a byte that is not zero shows that the document is UTF-8. -/
theorem detect_markup {b : UInt8} (hb : b ≠ 0) :
    Decoder.detect [0x3c, b] = some (Decoder.decided .utf8 [0x3c, b]) := by
  -- A split of the cases would compare the bytes as numerals; there are only 256 of them.
  have h : ∀ n < 256, n ≠ 0 → Decoder.detect [0x3c, UInt8.ofNat n] =
      some (Decoder.decided .utf8 [0x3c, UInt8.ofNat n]) := by decide +kernel
  have hn : b.toNat ≠ 0 := fun h => hb (UInt8.toNat_inj.1 h)
  have hb := h b.toNat b.toNat_lt hn
  rwa [UInt8.ofNat_toNat] at hb

section
variable [Platform]

theorem step_step_firstUtf8 {b : UInt8} (hb : b ≠ 0) :
    step (step first 0x3c) b = step (step firstUtf8 0x3c) b := by
  have h1 : (step first 0x3c).decoder.step b = (.char '<' :: (Decoder.complete .utf8 [] [b]).1,
      ⟨some .utf8, (Decoder.complete .utf8 [] [b]).2⟩) := by
    have hd : (step first 0x3c).decoder.step b =
        (Decoder.detect [0x3c, b]).getD ([], ⟨none, [0x3c, b]⟩) := rfl
    rw [hd, detect_markup hb]
    rfl
  have h2 : (step firstUtf8 0x3c).decoder.step b =
      ((Decoder.complete .utf8 [] [b]).1, ⟨some .utf8, (Decoder.complete .utf8 [] [b]).2⟩) := rfl
  rw [step.eq_1 (step first 0x3c), step.eq_1 (step firstUtf8 0x3c), h1, h2]
  rfl

/-- A document that begins with `<` is read as UTF-8 unless a zero is behind. -/
theorem foldl_first {b : UInt8} (hb : b ≠ 0) (bs : List UInt8) :
    (0x3c :: b :: bs).foldl step first = (0x3c :: b :: bs).foldl step firstUtf8 := by
  simp only [List.foldl_cons, step_step_firstUtf8 hb]

theorem meetsEntity_first {b : UInt8} (hb : b ≠ 0) (bs : List UInt8) :
    first.meetsEntity (0x3c :: b :: bs) = firstUtf8.meetsEntity (0x3c :: b :: bs) := by
  rw [meetsEntity, meetsEntity, meetsEntity, meetsEntity, step_step_firstUtf8 hb]
  rfl

/-! ## The end -/

theorem Follows.finish (h : Follows [] s r) :
    ∃ place, r.finish = ⟨s.elements, (s.ending place).map .fault⟩ := by
  obtain ⟨hd, hs, hstop⟩ := h
  refine ⟨r.cursor.position, ?_⟩
  simp [DocumentReader.finish, DocumentReader.ending, Decoder.settle, Decoder.cutCharacter?, hd, hs,
    hstop]

end

end DocumentReader

theorem utf8EncodeChar_ne_zero {c : Char} (hc : isLegal c = true) {b : UInt8} {bs : List UInt8}
    (h : String.utf8EncodeChar c = b :: bs) : b ≠ 0 := by
  rintro rfl
  have hd := Text.Utf8State.decode_utf8EncodeChar c []
  rw [h] at hd
  obtain ⟨rfl, -⟩ := List.cons.inj hd
  exact absurd hc (by decide)

section
variable [Platform] {Q : Scanner → Prop} {c : Char} {cs : List Char}

/-- **A document in UTF-8 is read as its characters are.** No entity is declared on the way. -/
theorem DocumentReader.foldl_utf8 (hc : ∀ x ∈ '<' :: c :: cs, isLegal x = true)
    (h : Scanner.first.Reads Q ('<' :: c :: cs)) :
    ∃ s, Q s ∧ Follows [] s ((Text.utf8Bytes ('<' :: c :: cs)).foldl step first) ∧
      first.meetsEntity (Text.utf8Bytes ('<' :: c :: cs)) = false := by
  obtain ⟨s, hs, hfollows, hmeets⟩ := follows_firstUtf8.text hc h
  obtain ⟨b, bs, hb, -⟩ := utf8EncodeChar_cons c
  have hbytes : Text.utf8Bytes ('<' :: c :: cs) = 0x3c :: b :: (bs ++ Text.utf8Bytes cs) := by
    rw [Text.utf8Bytes_cons, Text.utf8Bytes_cons, hb]
    rfl
  have hb0 : b ≠ 0 := utf8EncodeChar_ne_zero (hc c (by simp)) hb
  refine ⟨s, hs, ?_, ?_⟩
  · rwa [hbytes, foldl_first hb0, ← hbytes]
  · rw [hbytes, meetsEntity_first hb0, ← hbytes]
    exact hmeets rfl

/-- A document in UTF-8 says what a scanner reads in its characters, which declare no entity. -/
theorem Document.inFull_utf8 (hc : ∀ x ∈ '<' :: c :: cs, isLegal x = true)
    (h : Scanner.first.Reads Q ('<' :: c :: cs)) :
    ∃ s place, Q s ∧
      Document.inFull (Text.utf8Bytes ('<' :: c :: cs)) =
        ⟨s.elements, (s.ending place).map .fault⟩ ∧
      DocumentReader.first.meetsEntity (Text.utf8Bytes ('<' :: c :: cs)) = false := by
  obtain ⟨s, hs, hfollows, hmeets⟩ := DocumentReader.foldl_utf8 hc h
  obtain ⟨place, hplace⟩ := hfollows.finish
  exact ⟨s, place, hs, hplace, hmeets⟩

end

end GrammarProject.Markup
