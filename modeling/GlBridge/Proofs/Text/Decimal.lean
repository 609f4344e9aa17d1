import Mathlib
import GlBridge.Glsl.Word

/-!
# Written numbers

Passes write numbers into texts: locations, bindings, process numbers, the numbers of fresh names.
What is written are digits, at least one, and no two numbers are written alike.

Written numbers are read back if they fit (`word32?_ofNat`).  What is read need not have been written
that way.  `decimal?_eq_some_iff_of_lt_ten` and
`signed32?_eq_some_iff_of_lt_ten` say how numbers of one figure may look: zeros may stand before the
figure, and before these a plus sign.
-/

namespace GlBridge.Text

open Glsl

/-- Different numbers are written differently. -/
lemma ofNat_injective : Function.Injective ofNat := by
  intro m n h
  have hdigits := congrArg (Nat.ofDigitChars 10 · 0) h
  simpa only [ofNat, Nat.ofDigitChars_ten_toDigits] using hdigits

lemma ofNat_ne_nil (n : ℕ) : ofNat n ≠ [] := Nat.toDigits_ne_nil

/-- Numbers are written in digits. -/
lemma ofNat_all_isDigit (n : ℕ) : (ofNat n).all isDigit = true := by
  rw [List.all_eq_true]
  intro c hc
  have hdigit := Nat.isDigit_of_mem_toDigits (by decide) (by decide) hc
  simpa [Char.isDigit, isDigit, Char.le_def] using hdigit

lemma ofNat_all_isWordChar (n : ℕ) : (ofNat n).all isWordChar = true := by
  have hdigit := List.all_eq_true.1 (ofNat_all_isDigit n)
  exact List.all_eq_true.2 fun c hc => by rw [isWordChar, hdigit c hc, Bool.or_true]

/-! ## Numbers of one figure -/

lemma isDigit_iff {c : Char} : isDigit c = true ↔ 48 ≤ c.toNat ∧ c.toNat ≤ 57 := by
  rw [isDigit, Bool.and_eq_true, decide_eq_true_iff, decide_eq_true_iff, Char.le_def, Char.le_def,
    UInt32.le_iff_toNat_le, UInt32.le_iff_toNat_le]
  rfl

/-- A digit is determined by its value. -/
lemma digitValue_inj {c d : Char} (hc : isDigit c = true) (hd : isDigit d = true)
    (h : digitValue c = digitValue d) : c = d := by
  rw [isDigit_iff] at hc hd
  rw [digitValue, digitValue] at h
  exact Char.toNat_inj.1 (by omega)

/-- The value of digits, read one after the other. -/
def digitsValue (digits : Text) : ℕ := digits.foldl (fun value c => 10 * value + digitValue c) 0

/-- A number is read as it is written. -/
lemma digitsValue_ofNat (n : ℕ) : digitsValue (ofNat n) = n := Nat.ofDigitChars_ten_toDigits

/-- **A written number is read back** if it fits. -/
theorem word32?_ofNat {n : ℕ} (hn : n < word32Limit) : word32? (ofNat n) = some n := by
  have hunsigned : dropPlus (ofNat n) = ofNat n := by
    rw [dropPlus.eq_def]
    split
    · next digits hdigits =>
        have hall := ofNat_all_isDigit n
        rw [hdigits, List.all_cons, Bool.and_eq_true] at hall
        exact absurd hall.1 (by decide)
    · rfl
  have hvalue := digitsValue_ofNat n
  rw [digitsValue] at hvalue
  rw [word32?, hunsigned, decimal?, if_pos ⟨ofNat_ne_nil n, ofNat_all_isDigit n⟩, hvalue]
  exact Option.filter_some_pos (by simpa using hn)

/-- A digit more counts ten times what was there before. -/
lemma digitsValue_concat (digits : Text) (c : Char) :
    digitsValue (digits ++ [c]) = 10 * digitsValue digits + digitValue c := by
  rw [digitsValue, List.foldl_concat, ← digitsValue]

/-- Zeros in front count nothing. -/
lemma digitsValue_zeros (zeros : ℕ) : digitsValue (List.replicate zeros '0') = 0 := by
  induction zeros with
  | zero => rfl
  | succ zeros ih =>
      rw [List.replicate_succ', digitsValue_concat, ih]
      rfl

/-- Digits that come to nothing are zeros. -/
lemma eq_zeros_of_digitsValue {digits : Text} (hall : digits.all isDigit = true)
    (h : digitsValue digits = 0) : digits = List.replicate digits.length '0' := by
  refine List.eq_replicate_iff.2 ⟨rfl, ?_⟩
  induction digits using List.reverseRecOn with
  | nil => exact fun c hc => absurd hc List.not_mem_nil
  | append_singleton digits c ih =>
      rw [List.all_append, Bool.and_eq_true, List.all_cons, List.all_nil, Bool.and_true] at hall
      rw [digitsValue_concat] at h
      intro d hd
      rcases List.mem_append.1 hd with hd | hd
      · exact ih hall.1 (by omega) d hd
      · rw [List.mem_singleton.1 hd]
        exact digitValue_inj hall.2 (by decide) (by rw [show digitValue c = 0 by omega]; rfl)

/-- A number below ten is written with one figure and any number of zeros before it. -/
theorem decimal?_eq_some_iff_of_lt_ten {digits : Text} {n : ℕ} (hn : n < 10) :
    decimal? digits = some n ↔ ∃ zeros c,
      digits = List.replicate zeros '0' ++ [c] ∧ isDigit c = true ∧ digitValue c = n := by
  constructor
  · intro h
    rw [decimal?] at h
    split_ifs at h with hdigits
    obtain ⟨hne, hall⟩ := hdigits
    have hvalue : digitsValue digits = n := Option.some.inj h
    obtain ⟨front, c, rfl⟩ := List.eq_nil_or_concat'  digits |>.resolve_left hne
    rw [List.all_append, Bool.and_eq_true, List.all_cons, List.all_nil, Bool.and_true] at hall
    rw [digitsValue_concat] at hvalue
    refine ⟨front.length, c, ?_, hall.2, by omega⟩
    rw [← eq_zeros_of_digitsValue hall.1 (by omega)]
  · rintro ⟨zeros, c, rfl, hc, rfl⟩
    have hall : (List.replicate zeros '0' ++ [c]).all isDigit = true := by
      refine List.all_eq_true.2 fun d hd => ?_
      rcases List.mem_append.1 hd with hd | hd
      · rw [List.eq_of_mem_replicate hd]
        decide
      · rwa [List.mem_singleton.1 hd]
    have hvalue := digitsValue_concat (List.replicate zeros '0') c
    rw [digitsValue_zeros, Nat.mul_zero, Nat.zero_add] at hvalue
    rw [decimal?, if_pos ⟨by simp, hall⟩]
    exact congrArg some hvalue

/-- Without a minus sign, the digits are all that counts. -/
lemma signed32?_eq_some_iff_of_unsigned {text : Text} {n : ℕ} (hn : n < 10)
    (h : ∀ digits, text ≠ '-' :: digits) :
    signed32? text = some (n : ℤ) ↔ decimal? (dropPlus text) = some n := by
  rw [signed32?.eq_def]
  split
  · exact absurd rfl (h _)
  · rw [Option.bind_eq_some_iff]
    constructor
    · rintro ⟨m, hm, hrange⟩
      split_ifs at hrange
      rwa [← Int.ofNat.inj (Option.some.inj hrange)]
    · intro h
      exact ⟨n, h, if_pos (by omega)⟩

/-- A positive number of one figure may have a plus sign before its zeros, and nothing else. -/
theorem signed32?_eq_some_iff_of_lt_ten {text : Text} {n : ℕ} (hpos : 0 < n) (hn : n < 10) :
    signed32? text = some (n : ℤ) ↔ ∃ sign zeros c, (sign = [] ∨ sign = ['+']) ∧
      text = sign ++ List.replicate zeros '0' ++ [c] ∧ isDigit c = true ∧ digitValue c = n := by
  constructor
  · intro h
    have hminus : ∀ digits, text ≠ '-' :: digits := by
      rintro digits rfl
      obtain ⟨m, -, hm⟩ := Option.bind_eq_some_iff.1 h
      split_ifs at hm
      have hnegative := Option.some.inj hm
      omega
    obtain ⟨zeros, c, hdigits, hc⟩ :=
      (decimal?_eq_some_iff_of_lt_ten hn).1 ((signed32?_eq_some_iff_of_unsigned hn hminus).1 h)
    rw [dropPlus.eq_def] at hdigits
    split at hdigits
    · exact ⟨['+'], zeros, c, Or.inr rfl, by rw [hdigits]; rfl, hc⟩
    · exact ⟨[], zeros, c, Or.inl rfl, by rw [hdigits]; rfl, hc⟩
  · rintro ⟨sign, zeros, c, hsign, rfl, hc, hvalue⟩
    have hdecimal : decimal? (List.replicate zeros '0' ++ [c]) = some n :=
      (decimal?_eq_some_iff_of_lt_ten hn).2 ⟨zeros, c, rfl, hc, hvalue⟩
    -- no digit is a sign
    have hhead (s : Char) (hs : isDigit s = false) (digits : Text) :
        List.replicate zeros '0' ++ [c] ≠ s :: digits := by
      intro h
      have hmem : s ∈ List.replicate zeros '0' ++ [c] := by
        rw [h]
        exact List.mem_cons_self
      rcases List.mem_append.1 hmem with hmem | hmem
      · rw [List.eq_of_mem_replicate hmem] at hs
        exact absurd hs (by decide)
      · rw [List.mem_singleton.1 hmem, hc] at hs
        exact Bool.noConfusion hs
    rcases hsign with rfl | rfl
    · refine (signed32?_eq_some_iff_of_unsigned hn (hhead '-' (by decide))).2 ?_
      rw [dropPlus.eq_def]
      split
      · next h => exact absurd h (hhead '+' (by decide) _)
      · exact hdecimal
    · exact (signed32?_eq_some_iff_of_unsigned hn (by simp)).2 hdecimal

end GlBridge.Text
