import Mathlib
import GlBridge.Text.Utf8

/-!
# Reading encoded text back

A text that is encoded as bytes is read back as it was, so that no two texts have the same bytes.
Only the first byte of a character says how many bytes it has.  `leadRule` is opened once for each
of the four lengths, on the range of numbers that first bytes of this length can be; the rest is
arithmetic on digits to the base 64.
-/

namespace GlBridge.Text

/-! ## First bytes -/

lemma toNat_toUInt8 {n : ℕ} (h : n < 256) : n.toUInt8.toNat = n := Nat.mod_eq_of_lt h

lemma leadRule_one {b : UInt8} (h : b.toNat < 0x80) : leadRule b = some (0, 0x80, 0xBF) := by
  simp only [leadRule, if_pos h]

lemma leadRule_two {b : UInt8} (hlow : 0xC2 ≤ b.toNat) (hhigh : b.toNat ≤ 0xDF) :
    leadRule b = some (1, 0x80, 0xBF) := by
  have h : ¬ b.toNat < 0x80 := by omega
  simp only [leadRule, if_neg h, hlow, hhigh, decide_true, Bool.and_self, if_true]

lemma leadRule_three {b : UInt8} (hlow : 0xE0 ≤ b.toNat) (hhigh : b.toNat ≤ 0xEF) :
    leadRule b = some (2, if b.toNat = 0xE0 then 0xA0 else 0x80,
      if b.toNat = 0xED then 0x9F else 0xBF) := by
  have h1 : ¬ b.toNat < 0x80 := by omega
  have h2 : ¬ b.toNat ≤ 0xDF := by omega
  have h3 : 0xC2 ≤ b.toNat := by omega
  simp only [leadRule, if_neg h1, h2, h3, decide_true, decide_false, Bool.and_false, beq_iff_eq]
  by_cases hE0 : b.toNat = 0xE0
  · simp [hE0]
  · by_cases hED : b.toNat = 0xED
    · simp [hED]
    · have h4 : 0xE1 ≤ b.toNat := by omega
      simp [hE0, hED, h4, hhigh]

lemma leadRule_four {b : UInt8} (hlow : 0xF0 ≤ b.toNat) (hhigh : b.toNat ≤ 0xF4) :
    leadRule b = some (3, if b.toNat = 0xF0 then 0x90 else 0x80,
      if b.toNat = 0xF4 then 0x8F else 0xBF) := by
  have hcases : b.toNat = 0xF0 ∨ b.toNat = 0xF1 ∨ b.toNat = 0xF2 ∨ b.toNat = 0xF3 ∨
      b.toNat = 0xF4 := by omega
  rcases hcases with h | h | h | h | h <;> simp [leadRule, h]

lemma leadBits_three (lead : UInt8) : leadBits 3 lead = lead.toNat % 8 := rfl

/-! ## Further bytes -/

lemma within_eq_true {low high : ℕ} {b : UInt8} :
    within low high b = true ↔ low ≤ b.toNat ∧ b.toNat ≤ high := by
  simp [within]

/-- A byte that fits is taken as the next digit. -/
lemma decodeTail_cons {owed value low high : ℕ} {b : UInt8} {bytes : Bytes}
    (hlow : low ≤ b.toNat) (hhigh : b.toNat ≤ high) :
    decodeTail (owed + 1) value low high (b :: bytes)
      = decodeTail owed (value * 64 + b.toNat % 64) 0x80 0xBF bytes := by
  rw [decodeTail, if_pos (within_eq_true.2 ⟨hlow, hhigh⟩)]

/-! ## Characters and texts -/

/-- The numbers of characters leave out the surrogates. -/
lemma toNat_cases (c : Char) : c.toNat < 0xD800 ∨ 0xDFFF < c.toNat ∧ c.toNat < 0x110000 :=
  c.valid

lemma decode_cons {lead : UInt8} {bytes rest : Bytes} {owed low high : ℕ} {c : Char}
    (hrule : leadRule lead = some (owed, low, high))
    (htail : decodeTail owed (leadBits owed lead) low high bytes = (c, rest)) :
    decode (lead :: bytes) = c :: decode rest := by
  rw [decode, hrule]
  simp only [htail]

/-- **A character is read back**, whatever follows it. -/
theorem decode_encodeChar (c : Char) (rest : Bytes) :
    decode (encodeChar c ++ rest) = c :: decode rest := by
  have hvalid := toNat_cases c
  have hback : Char.ofNat c.toNat = c := Char.ofNat_toNat c
  simp only [encodeChar]
  split_ifs with h1 h2 h3 <;> simp only [List.cons_append, List.nil_append]
  · have hlead : c.toNat.toUInt8.toNat = c.toNat := toNat_toUInt8 (by omega)
    refine decode_cons (leadRule_one (by omega)) ?_
    rw [decodeTail, leadBits, hlead, hback]
  · have hlead := toNat_toUInt8 (n := 0xC0 + c.toNat / 64) (by omega)
    have hlast := toNat_toUInt8 (n := 0x80 + c.toNat % 64) (by omega)
    refine decode_cons (leadRule_two (by omega) (by omega)) ?_
    rw [decodeTail_cons (by omega) (by omega), decodeTail,
      leadBits, hlead, hlast]
    have hvalue : (0xC0 + c.toNat / 64) % 32 * 64 + (0x80 + c.toNat % 64) % 64 = c.toNat := by
      omega
    rw [hvalue, hback]
  · have hlead := toNat_toUInt8 (n := 0xE0 + c.toNat / 4096) (by omega)
    have hmiddle := toNat_toUInt8 (n := 0x80 + c.toNat / 64 % 64) (by omega)
    have hlast := toNat_toUInt8 (n := 0x80 + c.toNat % 64) (by omega)
    refine decode_cons (leadRule_three (by omega) (by omega)) ?_
    rw [decodeTail_cons (by split_ifs <;> omega) (by split_ifs <;> omega),
      decodeTail_cons (by omega) (by omega), decodeTail, leadBits, hlead, hmiddle, hlast]
    have hvalue : ((0xE0 + c.toNat / 4096) % 16 * 64 + (0x80 + c.toNat / 64 % 64) % 64) * 64
        + (0x80 + c.toNat % 64) % 64 = c.toNat := by omega
    rw [hvalue, hback]
  · have hlead := toNat_toUInt8 (n := 0xF0 + c.toNat / 262144) (by omega)
    have hsecond := toNat_toUInt8 (n := 0x80 + c.toNat / 4096 % 64) (by omega)
    have hthird := toNat_toUInt8 (n := 0x80 + c.toNat / 64 % 64) (by omega)
    have hlast := toNat_toUInt8 (n := 0x80 + c.toNat % 64) (by omega)
    refine decode_cons (leadRule_four (by omega) (by omega)) ?_
    rw [decodeTail_cons (by split_ifs <;> omega) (by split_ifs <;> omega),
      decodeTail_cons (by omega) (by omega), decodeTail_cons (by omega) (by omega), decodeTail,
      leadBits_three, hlead, hsecond, hthird, hlast]
    have hvalue : (((0xF0 + c.toNat / 262144) % 8 * 64 + (0x80 + c.toNat / 4096 % 64) % 64) * 64
        + (0x80 + c.toNat / 64 % 64) % 64) * 64 + (0x80 + c.toNat % 64) % 64 = c.toNat := by
      omega
    rw [hvalue, hback]

/-- **An encoded text is read back as it was.** -/
theorem decode_encode (text : Text) : decode (encode text) = text := by
  induction text with
  | nil => rw [encode, List.flatMap_nil, decode]
  | cons c text ih =>
      have hcons : encode (c :: text) = encodeChar c ++ encode text := List.flatMap_cons ..
      rw [hcons, decode_encodeChar, ih]

/-- No two texts have the same bytes. -/
theorem encode_injective : Function.Injective encode :=
  Function.LeftInverse.injective decode_encode

end GlBridge.Text
