import GlBridge.Text.Basic

/-!
# UTF-8

Sources arrive as bytes that need not be valid UTF-8, and leave as bytes that are.  Decoding never
fails: each maximal invalid prefix is read as one replacement character, so that a valid sequence
is read exactly and damage stays local.

* `Text.encode` — the bytes of a text;
* `Text.decode` — the text of any bytes, damage replaced.
-/

namespace GlBridge

/-- A sequence of bytes. -/
abbrev Bytes := List UInt8

namespace Text

/-- The bytes of one character. -/
def encodeChar (c : Char) : Bytes :=
  let n := c.toNat
  if n < 0x80 then [n.toUInt8]
  else if n < 0x800 then [(0xC0 + n / 64).toUInt8, (0x80 + n % 64).toUInt8]
  else if n < 0x10000 then
    [(0xE0 + n / 4096).toUInt8, (0x80 + n / 64 % 64).toUInt8, (0x80 + n % 64).toUInt8]
  else
    [(0xF0 + n / 262144).toUInt8, (0x80 + n / 4096 % 64).toUInt8,
      (0x80 + n / 64 % 64).toUInt8, (0x80 + n % 64).toUInt8]

/-- The bytes of a text. -/
def encode (text : Text) : Bytes := text.flatMap encodeChar

/-- The character put where bytes cannot be read. -/
def replacement : Char := '\uFFFD'

/-- Whether a byte lies in the given range. -/
def within (low high : Nat) (b : UInt8) : Bool := low ≤ b.toNat && b.toNat ≤ high

/-- What a character's first byte asks of its second one, and how many bytes follow the first:
`none` if no character starts with the byte. -/
def leadRule (lead : UInt8) : Option (Nat × Nat × Nat) :=
  let n := lead.toNat
  if n < 0x80 then some (0, 0x80, 0xBF)
  else if 0xC2 ≤ n && n ≤ 0xDF then some (1, 0x80, 0xBF)
  else if n == 0xE0 then some (2, 0xA0, 0xBF)
  else if n == 0xED then some (2, 0x80, 0x9F)
  else if 0xE1 ≤ n && n ≤ 0xEF then some (2, 0x80, 0xBF)
  else if n == 0xF0 then some (3, 0x90, 0xBF)
  else if 0xF1 ≤ n && n ≤ 0xF3 then some (3, 0x80, 0xBF)
  else if n == 0xF4 then some (3, 0x80, 0x8F)
  else none

/-- Reading the bytes after a character's first one.  `owed` is how many are still missing, `value`
what has been read, `low` and `high` bound the next byte.  The result is the character, or the
replacement if the bytes stop fitting, with the bytes not read. -/
def decodeTail : Nat → Nat → Nat → Nat → Bytes → Char × Bytes
  | 0, value, _, _, bytes => (Char.ofNat value, bytes)
  | _ + 1, _, _, _, [] => (replacement, [])
  | owed + 1, value, low, high, b :: bytes =>
    if within low high b then decodeTail owed (value * 64 + b.toNat % 64) 0x80 0xBF bytes
    else (replacement, b :: bytes)

theorem decodeTail_length (owed value low high : Nat) (bytes : Bytes) :
    (decodeTail owed value low high bytes).2.length ≤ bytes.length := by
  induction bytes generalizing owed value low high with
  | nil => cases owed <;> simp [decodeTail]
  | cons b bytes ih =>
    cases owed with
    | zero => simp [decodeTail]
    | succ owed =>
      simp only [decodeTail]
      split
      · exact Nat.le_succ_of_le (ih _ _ _ _)
      · exact Nat.le_refl _

/-- The bits of a first byte that belong to the character, when `owed` bytes follow. -/
def leadBits (owed : Nat) (lead : UInt8) : Nat :=
  match owed with
  | 0 => lead.toNat
  | 1 => lead.toNat % 32
  | 2 => lead.toNat % 16
  | _ => lead.toNat % 8

/-- The text that bytes write, with a replacement character for every maximal invalid prefix. -/
def decode : Bytes → Text
  | [] => []
  | lead :: bytes =>
    match leadRule lead with
    | none => replacement :: decode bytes
    | some (owed, low, high) =>
      let read := decodeTail owed (leadBits owed lead) low high bytes
      read.1 :: decode read.2
termination_by bytes => bytes.length
decreasing_by
  · simp
  · exact Nat.lt_succ_of_le (decodeTail_length _ _ _ _ _)

end Text

namespace Bytes

/-- A digit of base sixteen. -/
def hexDigit (n : Nat) : Char := (Nat.toDigits 16 (n % 16)).headD '0'

/-- Two lowercase hexadecimal digits for every byte. -/
def toHex (bytes : Bytes) : Text :=
  bytes.flatMap fun b => [hexDigit (b.toNat / 16), hexDigit (b.toNat % 16)]

/-- The four bytes of a 32-bit word, the low one first. -/
def ofWord32 (word : Nat) : Bytes :=
  [word.toUInt8, (word / 256).toUInt8, (word / 65536).toUInt8, (word / 16777216).toUInt8]

/-- The word that four bytes hold, the low one first. -/
def word32 (a b c d : UInt8) : Nat :=
  a.toNat + 256 * b.toNat + 65536 * c.toNat + 16777216 * d.toNat

end Bytes
end GlBridge
