import GlBridge.Text.Basic

/-!
# Reading decimal numbers

A number is an optional sign and at least one ASCII digit; leading zeros are allowed and nothing
may surround it.  A value outside the range asked for is no number.

* `Text.decimal?` — an unsigned number without bound;
* `Text.word32?` — an unsigned number of 32 bits, a plus sign allowed;
* `Text.signed32?` — a signed number of 32 bits, either sign allowed.
-/

namespace GlBridge

/-- The number of values a 32-bit word can hold. -/
def word32Limit : Nat := 4294967296

namespace Text

/-- Whether a character is an ASCII digit. -/
def isDigit (c : Char) : Bool := '0' ≤ c && c ≤ '9'

/-- The value of a digit. -/
def digitValue (c : Char) : Nat := c.toNat - 48

/-- The number that a nonempty list of digits writes. -/
def decimal? (text : Text) : Option Nat :=
  if text ≠ [] ∧ text.all isDigit then
    some (text.foldl (fun value c => 10 * value + digitValue c) 0)
  else none

/-- The digits after an optional plus sign. -/
def dropPlus : Text → Text
  | '+' :: digits => digits
  | text => text

/-- An unsigned number below `2 ^ 32`. -/
def word32? (text : Text) : Option Nat :=
  (decimal? (dropPlus text)).filter (· < word32Limit)

/-- A signed number from `-2 ^ 31` up to `2 ^ 31 - 1`. -/
def signed32? (text : Text) : Option Int :=
  match text with
  | '-' :: digits => (decimal? digits).bind fun n =>
      if n ≤ 2147483648 then some (-(n : Int)) else none
  | _ => (decimal? (dropPlus text)).bind fun n =>
      if n < 2147483648 then some (n : Int) else none

example : word32? "+007".toList = some 7 := by decide
example : word32? "4294967295".toList = some 4294967295 := by decide
example : word32? "4294967296".toList = none := by decide
example : word32? "-0".toList = none := by decide
example : signed32? "-2147483648".toList = some (-2147483648) := by decide

end Text
end GlBridge
