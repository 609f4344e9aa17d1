import GlBridge.Number.Single
import GlBridge.Text.Decimal

/-!
# Decimal texts of single precision

A literal of the shading language is read to the nearest number of single precision.  It is
written with the fewest digits that read back as the same number, of those the nearest to it:
positionally and with at least one place after the point, or with an exponent if it is below
`10 ^ -4` or not below `10 ^ 16`.

* `singleOfRatio` — the number nearest to a ratio;
* `shortestDigits` — the digits that stand for a positive finite number;
* `singleText` — a number in writing.
-/

namespace GlBridge

/-- The bits of the number of single precision nearest to `numerator / denominator`.  A remainder
below the last binary place that is kept only has to be noticed, so it is noted in that place. -/
def singleOfRatio (numerator denominator : Nat) : UInt32 :=
  let scaled := numerator * Nat.pow 2 1074
  let quotient := scaled / denominator
  let noticed := if scaled % denominator = 0 then quotient else quotient ||| 1
  (roundMagnitude noticed 0).toUInt32

/-- The significand and the exponent of two of a finite number. -/
def singleParts (bits : UInt32) : Nat × Int :=
  let field : Nat := bits.toNat % singleSign / singleUnit
  let fraction : Nat := bits.toNat % singleUnit
  if field = 0 then (fraction, -149) else (fraction + singleUnit, (field : Int) - 150)

/-- The numbers that read back as a given one: those from `low` to `high` in units of
`1 / denominator`, the ends included if `closed` says so. -/
structure ReadingInterval where
  value : Nat
  low : Nat
  high : Nat
  denominator : Nat
  closed : Bool
deriving Repr

/-- The interval around a positive finite number.  The neighbour below is nearer if the
significand is a power of two. -/
def ReadingInterval.of (bits : UInt32) : ReadingInterval :=
  let (significand, exponent) := singleParts bits
  let narrow := significand = singleUnit ∧ exponent > -149
  let scale := Nat.pow 2 exponent.toNat
  { value := 4 * significand * scale
    low := (4 * significand - if narrow then 1 else 2) * scale
    high := (4 * significand + 2) * scale
    denominator := 4 * Nat.pow 2 (-exponent).toNat
    closed := significand % 2 = 0 }

namespace ReadingInterval

/-- Whether `n * 10 ^ exponent` reads back as the number. -/
def contains (interval : ReadingInterval) (n : Nat) (exponent : Int) : Bool :=
  let left := n * Nat.pow 10 exponent.toNat * interval.denominator
  let unit := Nat.pow 10 (-exponent).toNat
  if interval.closed then interval.low * unit ≤ left && left ≤ interval.high * unit
  else interval.low * unit < left && left < interval.high * unit

/-- The number of digits before the point: the least `k ≥ -60` with the value below `10 ^ k`. -/
def magnitude (interval : ReadingInterval) : Int :=
  let below (k : Int) : Bool :=
    interval.value * Nat.pow 10 (-k).toNat < interval.denominator * Nat.pow 10 k.toNat
  (((List.range 120).map fun (i : Nat) => (i : Int) - 60).find? below).getD 60

/-- The multiples of `10 ^ exponent` on both sides of the value, the nearer one first. -/
def neighbours (interval : ReadingInterval) (exponent : Int) : List Nat :=
  let scaled := interval.value * Nat.pow 10 (-exponent).toNat
  let unit := interval.denominator * Nat.pow 10 exponent.toNat
  let quotient := scaled / unit
  if 2 * (scaled % unit) < unit ∨ (2 * (scaled % unit) = unit ∧ quotient % 2 = 0) then
    [quotient, quotient + 1]
  else [quotient + 1, quotient]

end ReadingInterval

/-- The fewest digits that read back as a positive finite number, with the place of the last one
as an exponent of ten. -/
def shortestDigits (bits : UInt32) : Nat × Int :=
  let interval := ReadingInterval.of bits
  let magnitude := interval.magnitude
  let found := (List.range 9).findSome? fun count =>
    let exponent := magnitude - (count + 1 : Nat)
    ((interval.neighbours exponent).find? (interval.contains · exponent)).map (·, exponent)
  found.getD (0, 0)

/-- A positive finite number in positional writing. -/
def positionalText (digits : Text) (exponent : Int) : Text :=
  if 0 ≤ exponent then digits ++ List.replicate exponent.toNat '0' ++ ".0".toList
  else
    let places := (-exponent).toNat
    let padded := List.replicate (places + 1 - digits.length) '0' ++ digits
    padded.take (padded.length - places) ++ '.' :: padded.drop (padded.length - places)

/-- A positive finite number in writing with an exponent. -/
def exponentText (digits : Text) (exponent : Int) : Text :=
  let point := exponent + (digits.length - 1 : Nat)
  digits.take 1 ++ (if digits.length > 1 then '.' :: digits.drop 1 else [])
    ++ 'e' :: Text.ofInt point

/-- Digits without the zeros at their end, which move into the exponent. -/
def trimZeros : Nat → Nat → Int → Nat × Int
  | 0, digits, exponent => (digits, exponent)
  | fuel + 1, digits, exponent =>
    if digits ≠ 0 ∧ digits % 10 = 0 then trimZeros fuel (digits / 10) (exponent + 1)
    else (digits, exponent)

/-- A number of single precision in writing. -/
def singleText (bits : UInt32) : Text :=
  let n := bits.toNat
  let sign : Text := if n / singleSign = 1 then ['-'] else []
  let magnitude := n % singleSign
  if magnitude > singleInfinity then "NaN".toList
  else if magnitude = singleInfinity then sign ++ "inf".toList
  else if magnitude = 0 then sign ++ "0.0".toList
  else
    let (value, exponent) := shortestDigits bits
    let (value, exponent) := trimZeros 10 value exponent
    let digits := Text.ofNat value
    let point := exponent + digits.length
    sign ++
      if -4 < point ∧ point ≤ 16 then positionalText digits exponent
      else exponentText digits exponent

end GlBridge
