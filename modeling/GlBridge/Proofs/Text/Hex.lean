import Mathlib.Data.List.Basic
import GlBridge.Digest.Sha256

/-!
# Names in hexadecimal digits

Bytes are written with two hexadecimal digits each.  No two sequences of bytes are written the same,
and what is written is all digits, so that it can stand as the name of a file.

* `Bytes.toHex_injective` — the bytes can be told from the digits;
* `Bytes.isHexDigit_of_mem_toHex` — only digits are written;
* `Digest.toHex_injective`, `Digest.byteLength_toHex` — so digests have names of sixty-four bytes,
  each its own.
-/

namespace GlBridge

lemma Text.byteLength_eq_length {text : Text} (h : ∀ c ∈ text, c.utf8Size = 1) :
    Text.byteLength text = text.length := by
  have hsum : ∀ n, text.foldl (· + ·.utf8Size) n = n + text.length := by
    induction text with
    | nil => exact fun _ => rfl
    | cons c text ih =>
        intro n
        rw [List.foldl_cons, ih fun d hd => h d (List.mem_cons_of_mem c hd),
          h c List.mem_cons_self, List.length_cons]
        omega
  rw [Text.byteLength, hsum, Nat.zero_add]

/-- Said of the list as a whole, so that it can be decided by looking at the list. -/
lemma Text.utf8Size_of_mem {text : Text} (h : text.all (·.utf8Size == 1) = true) :
    ∀ c ∈ text, c.utf8Size = 1 := by
  simpa using h

namespace Bytes

/-! ## Digits -/

/-- The characters that are digits of base sixteen. -/
def hexDigits : List Char := "0123456789abcdef".toList

lemma utf8Size_of_mem_hexDigits : ∀ c ∈ hexDigits, c.utf8Size = 1 :=
  Text.utf8Size_of_mem (by decide)

lemma hexDigit_mem (n : ℕ) : hexDigit n ∈ hexDigits := by
  have h : ∀ m : Fin 16, hexDigit m ∈ hexDigits := by decide
  have hmod : hexDigit n = hexDigit (n % 16) := by rw [hexDigit, hexDigit, Nat.mod_mod]
  rw [hmod]
  exact h ⟨n % 16, Nat.mod_lt _ (by decide)⟩

/-- Different digits are written differently. -/
lemma hexDigit_inj {m n : ℕ} (hm : m < 16) (hn : n < 16) (h : hexDigit m = hexDigit n) : m = n := by
  have hall : ∀ i j : Fin 16, hexDigit i = hexDigit j → i = j := by decide
  exact congrArg Fin.val (hall ⟨m, hm⟩ ⟨n, hn⟩ h)

/-! ## Bytes -/

lemma toHex_cons (b : UInt8) (bytes : Bytes) :
    toHex (b :: bytes) = hexDigit (b.toNat / 16) :: hexDigit (b.toNat % 16) :: toHex bytes := rfl

/-- Every byte takes two digits. -/
lemma length_toHex (bytes : Bytes) : (toHex bytes).length = 2 * bytes.length := by
  induction bytes with
  | nil => rfl
  | cons b bytes ih =>
      rw [toHex_cons, List.length_cons, List.length_cons, List.length_cons, ih]
      omega

lemma isHexDigit_of_mem_toHex {c : Char} {bytes : Bytes} (h : c ∈ toHex bytes) : c ∈ hexDigits := by
  obtain ⟨b, -, hc⟩ := List.mem_flatMap.1 h
  rcases List.mem_pair.1 hc with rfl | rfl
  · exact hexDigit_mem _
  · exact hexDigit_mem _

/-- **The bytes can be told from their digits.** -/
theorem toHex_injective : Function.Injective toHex := by
  intro first
  induction first with
  | nil =>
      intro second h
      cases second with
      | nil => rfl
      | cons b second => exact absurd h (by simp [toHex])
  | cons b first ih =>
      intro second h
      cases second with
      | nil => exact absurd h (by simp [toHex])
      | cons d second =>
          rw [toHex_cons, toHex_cons, List.cons.injEq, List.cons.injEq] at h
          have hb := b.toNat_lt
          have hd := d.toNat_lt
          have hhigh := hexDigit_inj (by omega) (by omega) h.1
          have hlow := hexDigit_inj (by omega) (by omega) h.2.1
          have hbyte : b = d := UInt8.toNat_inj.1 (by omega)
          rw [hbyte, ih h.2.2]

end Bytes

namespace Digest

/-- **Digests have different names.** -/
theorem toHex_injective : Function.Injective toHex := by
  rintro ⟨first, hfirst⟩ ⟨second, hsecond⟩ h
  have hbytes : first = second := Bytes.toHex_injective h
  subst hbytes
  rfl

lemma length_toHex (key : Digest) : key.toHex.length = 64 := by
  rw [toHex, Bytes.length_toHex, key.length_bytes]

lemma byteLength_toHex (key : Digest) : Text.byteLength key.toHex = 64 := by
  have hname : ∀ c ∈ key.toHex, c.utf8Size = 1 := fun c hc =>
    Bytes.utf8Size_of_mem_hexDigits c (Bytes.isHexDigit_of_mem_toHex hc)
  rw [Text.byteLength_eq_length hname, key.length_toHex]

end Digest
end GlBridge
