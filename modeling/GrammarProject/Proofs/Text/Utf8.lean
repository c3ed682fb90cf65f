import GrammarProject.Text.Encoding

/-!
# UTF-8

A character is decoded from its UTF-8 bytes whatever follows them (`decode_utf8EncodeChar`), so a
text is decoded from its bytes (`decode_utf8Bytes`).
-/

namespace GrammarProject.Text

def utf8Bytes (cs : List Char) : List UInt8 := cs.flatMap String.utf8EncodeChar

@[simp] theorem utf8Bytes_cons (c : Char) (cs : List Char) :
    utf8Bytes (c :: cs) = String.utf8EncodeChar c ++ utf8Bytes cs := rfl

theorem eq_of_ofNat_eq {n : Nat} {c : Char} (hc : c ≠ '\x00') (h : Char.ofNat n = c) :
    n = c.toNat := by
  by_cases hn : n.isValidChar
  · rw [Char.ofNat, dif_pos hn] at h
    exact congrArg Char.toNat h
  · rw [Char.ofNat, dif_neg hn] at h
    exact absurd h.symm hc

namespace Utf8State

/-! ## First bytes -/

theorem start_one {b : Nat} (h : b < 0x80) : start b = ([Char.ofNat b], idle) := by
  rw [start, if_pos h]

theorem start_two {b : Nat} (h : 0xc2 ≤ b) (h' : b ≤ 0xdf) :
    start b = ([], inside 1 (b - 0xc0) 0x80 0xbf) := by
  rw [start, if_neg (by omega), if_pos ⟨h, h'⟩]

theorem start_three {b : Nat} (h : 0xe0 ≤ b) (h' : b ≤ 0xef) :
    start b = ([], inside 2 (b - 0xe0) (if b = 0xe0 then 0xa0 else 0x80)
      (if b = 0xed then 0x9f else 0xbf)) := by
  rw [start, if_neg (by omega), if_neg (by omega)]
  by_cases h1 : b = 0xe0
  · subst h1
    rfl
  · rw [if_neg h1, if_neg h1]
    by_cases h2 : b = 0xed
    · subst h2
      rfl
    · rw [if_neg h2, if_neg h2, if_pos (by omega)]

theorem start_four {b : Nat} (h : 0xf0 ≤ b) (h' : b ≤ 0xf4) :
    start b = ([], inside 3 (b - 0xf0) (if b = 0xf0 then 0x90 else 0x80)
      (if b = 0xf4 then 0x8f else 0xbf)) := by
  rw [start, if_neg (by omega), if_neg (by omega), if_neg (by omega), if_neg (by omega),
    if_neg (by omega)]
  by_cases h1 : b = 0xf0
  · subst h1
    rfl
  · rw [if_neg h1, if_neg h1]
    by_cases h2 : b = 0xf4
    · subst h2
      rfl
    · rw [if_neg h2, if_neg h2, if_pos (by omega)]

/-! ## Bytes behind the first -/

/-- A byte that goes on with a character, and is not its last. -/
theorem decode_inside {left value low high : Nat} {b : UInt8} (hl : low ≤ b.toNat)
    (hh : b.toNat ≤ high) (hleft : 1 < left) (bs : List UInt8) :
    decode (inside left value low high) (b :: bs) =
      decode (inside (left - 1) (value * 64 + b.toNat % 64) 0x80 0xbf) bs := by
  rw [decode, step, if_pos ⟨hl, hh⟩]
  simp only [if_neg (show ¬left ≤ 1 by omega), List.nil_append]

theorem decode_last {value low high : Nat} {b : UInt8} (hl : low ≤ b.toNat) (hh : b.toNat ≤ high)
    (bs : List UInt8) : decode (inside 1 value low high) (b :: bs) =
      Char.ofNat (value * 64 + b.toNat % 64) :: decode idle bs := by
  rw [decode, step, if_pos ⟨hl, hh⟩]
  rfl

theorem decode_first {b : UInt8} {s : Utf8State} (h : start b.toNat = ([], s)) (bs : List UInt8) :
    decode idle (b :: bs) = decode s bs := by
  rw [decode, step, h]
  rfl

/-! ## Characters -/

theorem toNat_byte {n : Nat} (h : n < 256) : (UInt8.ofNat n).toNat = n := by
  rw [UInt8.toNat_ofNat']
  exact Nat.mod_eq_of_lt h

/-- A character is decoded from its bytes, whatever follows. -/
theorem decode_utf8EncodeChar (c : Char) (bs : List UInt8) :
    decode idle (String.utf8EncodeChar c ++ bs) = c :: decode idle bs := by
  have hv : c.toNat < 0xd800 ∨ 0xdfff < c.toNat ∧ c.toNat < 0x110000 := c.valid
  have hc := Char.ofNat_toNat c
  unfold String.utf8EncodeChar
  simp only [show c.val.toNat = c.toNat from rfl]
  generalize c.toNat = v at hv hc
  split
  · -- one byte
    rw [List.cons_append, List.nil_append, decode, step, toNat_byte (by omega),
      start_one (by omega), hc]
    rfl
  · split
    · -- two bytes
      have h1 := toNat_byte (n := v / 64 % 0x20 + 0xc0) (by omega)
      have h2 := toNat_byte (n := v % 0x40 + 0x80) (by omega)
      simp only [List.cons_append, List.nil_append]
      rw [decode_first (start_two (by omega) (by omega)), decode_last (by omega) (by omega), h1, h2,
        show (v / 64 % 0x20 + 0xc0 - 0xc0) * 64 + (v % 0x40 + 0x80) % 64 = v by omega, hc]
    · split
      · -- three bytes: the second is bounded behind 0xe0 and 0xed
        have h1 := toNat_byte (n := v / 4096 % 0x10 + 0xe0) (by omega)
        have h2 := toNat_byte (n := v / 64 % 0x40 + 0x80) (by omega)
        have h3 := toNat_byte (n := v % 0x40 + 0x80) (by omega)
        simp only [List.cons_append, List.nil_append]
        rw [decode_first (start_three (by omega) (by omega)),
          decode_inside (by split <;> omega) (by split <;> omega) (by omega),
          decode_last (by omega) (by omega), h1, h2, h3, ← hc]
        congr 2
        omega
      · -- four bytes: the second is bounded behind 0xf0 and 0xf4
        have h1 := toNat_byte (n := v / 262144 % 0x08 + 0xf0) (by omega)
        have h2 := toNat_byte (n := v / 4096 % 0x40 + 0x80) (by omega)
        have h3 := toNat_byte (n := v / 64 % 0x40 + 0x80) (by omega)
        have h4 := toNat_byte (n := v % 0x40 + 0x80) (by omega)
        simp only [List.cons_append, List.nil_append]
        rw [decode_first (start_four (by omega) (by omega)),
          decode_inside (by split <;> omega) (by split <;> omega) (by omega),
          decode_inside (by omega) (by omega) (by omega),
          decode_last (by omega) (by omega), h1, h2, h3, h4, ← hc]
        congr 2
        omega

/-- **A text is decoded from its bytes.** -/
theorem decode_utf8Bytes (cs : List Char) : decode idle (utf8Bytes cs) = cs := by
  induction cs with
  | nil => rfl
  | cons c cs ih => rw [utf8Bytes_cons, decode_utf8EncodeChar, ih]

end Utf8State

end GrammarProject.Text
