import GrammarProject.Proofs.Text.Lines
import GrammarProject.Proofs.Text.Utf8

/-!
# Plain encodings

In UTF-8, Latin-1 and ASCII a line feed and a carriage return are one byte each, and this byte is
part of no other character. So bytes are decoded line by line (`PlainEncoding.decode_append_break`):
whatever does not decode in a line, cut off in the middle of a character or not, stays in it
(`PlainEncoding.isLine_decode`). And what is written in one of these encodings is read back
(`PlainEncoding.decode_encode`).
-/

namespace GrammarProject.Text

theorem isLine_singleton_ofNat {n : Nat} (hn : n ≠ 10 ∧ n ≠ 13) : IsLine [Char.ofNat n] := by
  refine isLine_cons.2 ⟨⟨fun h => hn.1 ?_, fun h => hn.2 ?_⟩, isLine_nil⟩
  · exact eq_of_ofNat_eq (by decide) h
  · exact eq_of_ofNat_eq (by decide) h

theorem IsLine.append {cs ds : List Char} (h : IsLine cs) (h' : IsLine ds) : IsLine (cs ++ ds) :=
  fun c hc => (List.mem_append.1 hc).elim (h c) (h' c)

theorem isLine_replacement : IsLine [replacement] := by
  simp [replacement]

/-! ## UTF-8 -/

namespace Utf8State

variable {s : Utf8State} {b : UInt8}

/-- The states between the bytes of a text: inside a character, no ASCII character is due and none
comes of what is due. -/
def IsProper : Utf8State → Prop
  | idle => True
  | inside left value low high => 0x80 ≤ low ∧ high ≤ 0xbf ∧
      (2 ≤ value ∨ 2 ≤ left ∧ (1 ≤ value ∨ 0x90 ≤ low))

theorem isProper_idle : IsProper idle := trivial

theorem isProper_start (n : Nat) : (start n).2.IsProper := by
  unfold start
  split_ifs <;> simp only [IsProper] <;> omega

theorem isLine_start {n : Nat} (hn : n ≠ 10 ∧ n ≠ 13) : IsLine (start n).1 := by
  unfold start
  split_ifs
  · exact isLine_singleton_ofNat hn
  all_goals first | exact isLine_nil | exact isLine_replacement

theorem step_of_not_due {left value low high n : Nat} (h : ¬(low ≤ n ∧ n ≤ high)) :
    (inside left value low high).step n = (replacement :: (start n).1, (start n).2) := by
  rw [step, if_neg h]

theorem IsProper.step (h : s.IsProper) (n : Nat) : (s.step n).2.IsProper := by
  cases s with
  | idle => exact isProper_start n
  | inside left value low high =>
    by_cases hn : low ≤ n ∧ n ≤ high
    · rw [Utf8State.step, if_pos hn]
      simp only [IsProper] at h
      split_ifs <;> simp only [IsProper]
      omega
    · rw [step_of_not_due hn]
      exact isProper_start n

/-- A byte that ends no line adds none. -/
theorem IsProper.isLine_step (h : s.IsProper) {n : Nat} (hn : n ≠ 10 ∧ n ≠ 13) :
    IsLine (s.step n).1 := by
  cases s with
  | idle => exact isLine_start hn
  | inside left value low high =>
    by_cases hdue : low ≤ n ∧ n ≤ high
    · rw [Utf8State.step, if_pos hdue]
      simp only [IsProper] at h
      split_ifs
      · exact isLine_singleton_ofNat (by omega)
      · exact isLine_nil
    · rw [step_of_not_due hdue]
      exact isLine_replacement.append (isLine_start hn)

/-- An ASCII byte ends what stands before it, whether it is a character or not. -/
theorem IsProper.step_ascii (h : s.IsProper) {n : Nat} (hn : n < 0x80) :
    s.step n = (s.decode [] ++ [Char.ofNat n], idle) := by
  cases s with
  | idle => exact start_one hn
  | inside left value low high =>
    simp only [IsProper] at h
    rw [step_of_not_due (by omega), start_one hn]
    rfl

theorem IsProper.decode_append_ascii (h : s.IsProper) (u : List UInt8) (hb : b.toNat < 0x80)
    (v : List UInt8) :
    s.decode (u ++ b :: v) = s.decode u ++ Char.ofNat b.toNat :: idle.decode v := by
  induction u generalizing s with
  | nil =>
    rw [List.nil_append, decode, h.step_ascii hb]
    simp
  | cons a u ih =>
    rw [List.cons_append, decode, ih (h.step a.toNat), decode, List.append_assoc]

theorem IsProper.isLine_decode (h : s.IsProper) {u : List UInt8} (hu : ∀ b ∈ u, b ≠ 10 ∧ b ≠ 13) :
    IsLine (s.decode u) := by
  induction u generalizing s with
  | nil =>
    cases s with
    | idle => exact isLine_nil
    | inside => exact isLine_replacement
  | cons b u ih =>
    obtain ⟨hb, hu⟩ := List.forall_mem_cons.1 hu
    have hn : b.toNat ≠ 10 ∧ b.toNat ≠ 13 :=
      ⟨fun h => hb.1 (UInt8.toNat_inj.1 h), fun h => hb.2 (UInt8.toNat_inj.1 h)⟩
    rw [decode]
    exact (h.isLine_step hn).append (ih (h.step b.toNat) hu)

end Utf8State

/-! ## Single bytes -/

theorem isLine_byteChar {upper : List Char} (hupper : IsLine upper) {b : UInt8}
    (hb : b ≠ 10 ∧ b ≠ 13) : IsLine [byteChar upper b] := by
  unfold byteChar
  split
  · exact isLine_singleton_ofNat
      ⟨fun h => hb.1 (UInt8.toNat_inj.1 h), fun h => hb.2 (UInt8.toNat_inj.1 h)⟩
  · rw [List.getD_eq_getElem?_getD]
    cases hc : upper[b.toNat - 0x80]? with
    | none => exact isLine_replacement
    | some c => simpa using hupper c (List.mem_of_getElem? hc)

/-! ## The encodings -/

/-- An encoding in which the ends of lines are bytes of their own. -/
inductive PlainEncoding where
  | utf8
  | latin1
  | ascii
deriving DecidableEq, Repr

/-- A line end is the same in all plain encodings. -/
def LineEnd.bytes : LineEnd → List UInt8
  | lineFeed => [10]
  | carriageReturn => [13]
  | both => [13, 10]

namespace PlainEncoding

def name : PlainEncoding → String
  | utf8 => "utf-8"
  | latin1 => "latin-1"
  | ascii => "ascii"

def encoding : PlainEncoding → Encoding
  | utf8 => .utf8 false
  | latin1 => .latin1
  | ascii => .ascii

theorem named?_name (p : PlainEncoding) : Encoding.named? p.name = some p.encoding := by
  cases p <;> decide

def has : PlainEncoding → Char → Bool
  | utf8, _ => true
  | latin1, c => c.toNat < 0x100
  | ascii, c => c.toNat < 0x80

def CanWrite (p : PlainEncoding) (cs : List Char) : Prop := ∀ c ∈ cs, p.has c = true

instance (p : PlainEncoding) (cs : List Char) : Decidable (p.CanWrite cs) :=
  List.decidableBAll (p.has · = true) cs

def bytes : PlainEncoding → Char → List UInt8
  | utf8, c => String.utf8EncodeChar c
  | latin1, c => [UInt8.ofNat c.toNat]
  | ascii, c => [UInt8.ofNat c.toNat]

def encode (p : PlainEncoding) (cs : List Char) : List UInt8 := cs.flatMap p.bytes

variable (p : PlainEncoding)

@[simp] theorem decode_nil : p.encoding.decode [] = [] := by cases p <;> rfl

/-- **Bytes are decoded line by line.** -/
theorem decode_append_break (u : List UInt8) {b : UInt8} (hb : b = 10 ∨ b = 13) (v : List UInt8) :
    p.encoding.decode (u ++ b :: v) =
      p.encoding.decode u ++ Char.ofNat b.toNat :: p.encoding.decode v := by
  have hascii : b.toNat < 0x80 := by rcases hb with rfl | rfl <;> decide
  have hsingle (upper : List Char) : byteChar upper b = Char.ofNat b.toNat := if_pos hascii
  cases p with
  | utf8 => exact Utf8State.isProper_idle.decode_append_ascii u hascii v
  | latin1 | ascii =>
    simp only [encoding, Encoding.latin1, Encoding.ascii, Encoding.decode, List.map_append,
      List.map_cons, hsingle]

/-- Bytes behind a line end are decoded by themselves. -/
theorem decode_append_of_end {u : List UInt8} (h : ∃ b ∈ u.getLast?, b = 10 ∨ b = 13)
    (v : List UInt8) : p.encoding.decode (u ++ v) = p.encoding.decode u ++ p.encoding.decode v := by
  obtain ⟨b, hb, hbreak⟩ := h
  obtain ⟨u, rfl⟩ := List.getLast?_eq_some_iff.1 hb
  rw [List.append_assoc, List.singleton_append, p.decode_append_break u hbreak,
    p.decode_append_break u hbreak, decode_nil, List.append_assoc]
  rfl

theorem getLast?_decode {u : List UInt8} (h : ∃ b ∈ u.getLast?, b = 10 ∨ b = 13) :
    ∃ c ∈ (p.encoding.decode u).getLast?, c = '\n' ∨ c = '\r' := by
  obtain ⟨b, hb, hbreak⟩ := h
  obtain ⟨u, rfl⟩ := List.getLast?_eq_some_iff.1 hb
  rw [p.decode_append_break u hbreak, decode_nil]
  rcases hbreak with rfl | rfl <;> simp

/-- No line ends in what a line decodes to, whether all of it decodes or not. -/
theorem isLine_decode {u : List UInt8} (hu : ∀ b ∈ u, b ≠ 10 ∧ b ≠ 13) :
    IsLine (p.encoding.decode u) := by
  have hsingle {upper : List Char} (hupper : IsLine upper) : IsLine (u.map (byteChar upper)) := by
    intro c hc
    obtain ⟨b, hb, rfl⟩ := List.mem_map.1 hc
    exact isLine_byteChar hupper (hu b hb) _ (List.mem_singleton_self _)
  cases p with
  | utf8 => exact Utf8State.isProper_idle.isLine_decode hu
  | latin1 =>
    refine hsingle fun c hc => ?_
    obtain ⟨n, -, rfl⟩ := List.mem_map.1 hc
    exact isLine_singleton_ofNat (n := n + 128) (by omega) _ (List.mem_singleton_self _)
  | ascii =>
    refine hsingle fun c hc => ?_
    rw [List.eq_of_mem_replicate hc]
    decide

theorem decode_ended (u : List UInt8) (e : LineEnd) (v : List UInt8) :
    p.encoding.decode (u ++ e.bytes ++ v) =
      p.encoding.decode u ++ e.chars ++ p.encoding.decode v := by
  rw [List.append_assoc, List.append_assoc]
  cases e with
  | lineFeed => exact p.decode_append_break u (.inl rfl) v
  | carriageReturn => exact p.decode_append_break u (.inr rfl) v
  | both =>
    have hfeed := p.decode_append_break [] (.inl rfl) v
    rw [decode_nil] at hfeed
    rw [LineEnd.bytes, List.cons_append, p.decode_append_break u (.inr rfl)]
    exact congrArg _ (congrArg _ hfeed)

/-- Lines of bytes are decoded to lines with the same ends. -/
theorem decode_endedLines (ls : List (List UInt8 × LineEnd)) :
    p.encoding.decode (endedLines LineEnd.bytes ls) =
      endedLines LineEnd.chars (ls.map fun l => (p.encoding.decode l.1, l.2)) := by
  induction ls with
  | nil => exact p.decode_nil
  | cons l ls ih => rw [endedLines_cons, decode_ended, ih, List.map_cons, endedLines_cons]

theorem byteChar_ascii (upper : List Char) {c : Char} (h : c.toNat < 0x80) :
    byteChar upper (UInt8.ofNat c.toNat) = c := by
  rw [byteChar, Utf8State.toNat_byte (by omega), if_pos h, Char.ofNat_toNat]

theorem byteChar_latin1 {c : Char} (h : c.toNat < 0x100) :
    byteChar latin1Upper (UInt8.ofNat c.toNat) = c := by
  by_cases hascii : c.toNat < 0x80
  · exact byteChar_ascii _ hascii
  · have hindex : c.toNat - 0x80 < 128 := by omega
    rw [byteChar, Utf8State.toNat_byte h, if_neg hascii, latin1Upper, List.getD_eq_getElem?_getD,
      List.getElem?_map, List.getElem?_range hindex, Option.map_some, Option.getD_some,
      Nat.sub_add_cancel (by omega), Char.ofNat_toNat]

/-- **What is written is read back.** -/
theorem decode_encode {cs : List Char} (h : p.CanWrite cs) :
    p.encoding.decode (p.encode cs) = cs := by
  have hsingle {upper : List Char} (hbyte : ∀ c ∈ cs, byteChar upper (UInt8.ofNat c.toNat) = c) :
      (cs.flatMap fun c => [UInt8.ofNat c.toNat]).map (byteChar upper) = cs := by
    have hbytes : (cs.flatMap fun c => [UInt8.ofNat c.toNat]) =
        cs.map fun c => UInt8.ofNat c.toNat := List.flatMap_pure_eq_map _ cs
    rw [hbytes, List.map_map]
    exact (List.map_congr_left hbyte).trans (List.map_id cs)
  cases p with
  | utf8 => exact Utf8State.decode_utf8Bytes cs
  | latin1 => exact hsingle fun c hc => byteChar_latin1 (of_decide_eq_true (h c hc))
  | ascii => exact hsingle fun c hc => byteChar_ascii _ (of_decide_eq_true (h c hc))

theorem canWrite_endedLines {ls : List (List Char × LineEnd)} (h : ∀ l ∈ ls, p.CanWrite l.1) :
    p.CanWrite (endedLines LineEnd.chars ls) := by
  intro c hc
  obtain ⟨l, hl, hc⟩ := List.mem_flatMap.1 hc
  obtain hc | hc := List.mem_append.1 hc
  · exact h l hl c hc
  · have hend : c = '\n' ∨ c = '\r' := by
      generalize l.2 = e at hc
      cases e <;> simp_all [LineEnd.chars, or_comm]
    rcases hend with rfl | rfl <;> cases p <;> decide

end PlainEncoding

end GrammarProject.Text
