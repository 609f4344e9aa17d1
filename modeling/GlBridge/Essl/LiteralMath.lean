import GlBridge.Essl.Syntax
import GlBridge.Text.Blank

/-!
# Arithmetic on literals

What operators and functions make of literals while a shader is compiled.  Whole numbers must not
leave their 32 bits, and numbers of single precision must not be infinite or none at all: then the
shader is wrong.  What the compiler does not know how to compute is left to the running shader.

* `Folded` — what comes of an operation on literals;
* `foldUnary`, `foldBinary` — operators;
* `convertLiteral` — a literal as another kind of scalar;
* `foldFunction` — functions.
-/

namespace GlBridge.Essl

/-- What comes of an operation on literals. -/
inductive Folded where
  | literal (value : Literal)
  /-- It is left to the running shader. -/
  | unknown
  /-- The value does not exist. -/
  | wrong
deriving DecidableEq, Repr

namespace Folded

/-- A value that may not exist. -/
def ofOption (value : Option Literal) : Folded := (value.map Folded.literal).getD .wrong

/-- A number of single precision, which has to be finite. -/
def ofSingle (x : Float32) : Folded :=
  if x.toBits.toNat % singleSign ≥ singleInfinity then .wrong else .literal (.float x.toBits)

end Folded

/-! ## Operators -/

/-- A number that fits into 32 bits with a sign. -/
def checkedInt? (n : Int) : Option Literal :=
  if -2147483648 ≤ n ∧ n < 2147483648 then some (.int n) else none

/-- A number that fits into 32 bits without a sign. -/
def checkedUint? (n : Int) : Option Literal :=
  if 0 ≤ n ∧ n < word32Limit then some (.uint n.toNat) else none

/-- The bits of a whole number of 32 bits. -/
def wordOf (n : Int) : Nat := (n % word32Limit).toNat

/-- The whole number with a sign that bits stand for. -/
def signedWord (n : Nat) : Literal := .int (Int.bmod n word32Limit)

/-- A comparison of numbers. -/
def compareOp? (op : BinaryOp) (less equal : Bool) : Option Bool :=
  match op with
  | .equal => some equal
  | .notEqual => some !equal
  | .less => some less
  | .lessEqual => some (less || equal)
  | .greater => some (!less && !equal)
  | .greaterEqual => some !less
  | _ => none

/-- An operator on the bits of whole numbers. -/
def bitsOp? (op : BinaryOp) (a b : Nat) : Option Nat :=
  match op with
  | .bitAnd => some (Nat.land a b)
  | .bitOr => some (Nat.lor a b)
  | .bitXor => some (Nat.xor a b)
  | _ => none

/-- Arithmetic on whole numbers; `make` makes a literal of a result that fits. -/
def foldWhole (make : Int → Option Literal) (op : BinaryOp) (a b : Int) : Folded :=
  match op with
  | .add => .ofOption (make (a + b))
  | .subtract => .ofOption (make (a - b))
  | .multiply => .ofOption (make (a * b))
  | .divide => if b = 0 then .wrong else .ofOption (make (a.tdiv b))
  | .modulo =>
    if b = 0 then .wrong
    else if (make (a.tdiv b)).isNone then .wrong
    else .ofOption (make (a.tmod b))
  | _ => .unknown

/-- Bits moved up or down, given the number that they stand for. -/
def foldShift (make : Int → Literal) (op : BinaryOp) (a : Int) (distance : Nat) : Folded :=
  if distance ≥ 32 then .wrong
  else
    match op with
    | .shiftLeft => .literal (make (a * Nat.pow 2 distance))
    | .shiftRight => .literal (make (a / Nat.pow 2 distance))
    | _ => .unknown

/-- The remainder of a division that is rounded toward zero. -/
def singleRemainder (a b : UInt32) : Folded :=
  let (significandA, exponentA) := singleParts a
  let (significandB, exponentB) := singleParts b
  let exponent := min exponentA exponentB
  let x := significandA * Nat.pow 2 (exponentA - exponent).toNat
  let y := significandB * Nat.pow 2 (exponentB - exponent).toNat
  if y = 0 then .wrong
  else
    let rest := singleOfRatio (x % y * Nat.pow 2 exponent.toNat) (Nat.pow 2 (-exponent).toNat)
    .literal (.float (rest ||| (a &&& 0x80000000)))

/-- Arithmetic on numbers of single precision. -/
def foldSingle (op : BinaryOp) (a b : UInt32) : Folded :=
  let x := Float32.ofBits a
  let y := Float32.ofBits b
  match compareOp? op (x < y) (x == y) with
  | some truth => .literal (.bool truth)
  | none =>
    match op with
    | .add => .ofSingle (x + y)
    | .subtract => .ofSingle (x - y)
    | .multiply => .ofSingle (x * y)
    | .divide => .ofSingle (x / y)
    | .modulo => singleRemainder a b
    | _ => .unknown

/-- An operator on two literals. -/
def foldBinary (op : BinaryOp) : Literal → Literal → Folded
  | .int a, .int b =>
    match compareOp? op (a < b) (a == b), bitsOp? op (wordOf a) (wordOf b) with
    | some truth, _ => .literal (.bool truth)
    | _, some bits => .literal (signedWord bits)
    | none, none => foldWhole checkedInt? op a b
  | .uint a, .uint b =>
    match compareOp? op (a < b) (a == b), bitsOp? op a b with
    | some truth, _ => .literal (.bool truth)
    | _, some bits => .literal (.uint bits)
    | none, none =>
      match op with
      | .shiftLeft => foldShift (fun n => .uint (wordOf n)) op a b
      | .shiftRight => foldShift (fun n => .uint (wordOf n)) op a b
      | _ => foldWhole checkedUint? op a b
  | .int a, .uint b => foldShift (fun n => signedWord (wordOf n)) op a b
  | .float a, .float b => foldSingle op a b
  | .bool a, .bool b =>
    match op with
    | .and => .literal (.bool (a && b))
    | .or => .literal (.bool (a || b))
    | .equal => .literal (.bool (a == b))
    | .notEqual => .literal (.bool (a != b))
    | _ => .unknown
  | _, _ => .unknown

/-- An operator on a literal. -/
def foldUnary : UnaryOp → Literal → Folded
  | .negate, .int n => .ofOption (checkedInt? (-n))
  | .negate, .float bits => .literal (.float (bits ^^^ 0x80000000))
  | .not, .bool b => .literal (.bool !b)
  | .complement, .int n => .literal (.int (-n - 1))
  | .complement, .uint n => .literal (.uint (word32Limit - 1 - n))
  | _, _ => .wrong

/-! ## Conversions -/

/-- The whole part of a number of single precision, kept within bounds. -/
def wholePart (bits : UInt32) (low high : Int) : Int :=
  if bits.toNat % singleSign > singleInfinity then 0
  else
    let (significand, exponent) := singleParts bits
    let magnitude : Int := significand * Nat.pow 2 exponent.toNat / Nat.pow 2 (-exponent).toNat
    max low (min high (if bits.toNat / singleSign = 1 then -magnitude else magnitude))

/-- A whole number as a number of single precision. -/
def floatOfInt (n : Int) : Literal :=
  .float (singleOfRatio n.natAbs 1 ||| if n < 0 then 0x80000000 else 0)

/-- A literal as another kind of scalar. -/
def convertLiteral (kind : Scalar) (literal : Literal) : Literal :=
  match kind, literal with
  | .float, .int n => floatOfInt n
  | .float, .uint n => floatOfInt n
  | .float, .bool b => if b then .one .float else .zero .float
  | .int, .float bits => .int (wholePart bits (-2147483648) 2147483647)
  | .int, .uint n => signedWord n
  | .int, .bool b => .int (if b then 1 else 0)
  | .uint, .float bits => .uint (wholePart bits 0 4294967295).toNat
  | .uint, .int n => .uint (wordOf n)
  | .uint, .bool b => .uint (if b then 1 else 0)
  | .bool, .float bits => .bool (bits.toNat % singleSign ≠ 0)
  | .bool, .int n => .bool (n ≠ 0)
  | .bool, .uint n => .bool (n ≠ 0)
  | _, literal => literal

/-! ## Functions -/

/-- A number with the sign of another one. -/
def withSignOf (x sign : Float32) : Float32 :=
  Float32.ofBits ((x.toBits &&& 0x7FFFFFFF) ||| (sign.toBits &&& 0x80000000))

/-- A number without its fraction. -/
def truncated (x : Float32) : Float32 := withSignOf x.abs.floor x

/-- The nearest whole number, and of two the even one. -/
def roundedEven (x : Float32) : Float32 :=
  let whole := truncated x
  if (x - whole).abs == 0.5 then
    let half := whole.abs / 2
    withSignOf (if half == half.floor then x.abs - 0.5 else x.abs + 0.5) x
  else x.round

/-- Functions on one number of single precision. -/
def singleFunction? (name : Text) : Option (Float32 → Float32) :=
  List.lookup name
    [("sin".toList, Float32.sin), ("cos".toList, Float32.cos), ("tan".toList, Float32.tan),
      ("asin".toList, Float32.asin), ("acos".toList, Float32.acos), ("atan".toList, Float32.atan),
      ("sinh".toList, Float32.sinh), ("cosh".toList, Float32.cosh), ("tanh".toList, Float32.tanh),
      ("asinh".toList, Float32.asinh), ("acosh".toList, Float32.acosh),
      ("atanh".toList, Float32.atanh), ("exp".toList, Float32.exp), ("exp2".toList, Float32.exp2),
      ("log".toList, Float32.log), ("log2".toList, Float32.log2), ("sqrt".toList, Float32.sqrt),
      ("inversesqrt".toList, fun x => 1 / x.sqrt), ("ceil".toList, Float32.ceil),
      ("floor".toList, Float32.floor), ("fract".toList, fun x => x - x.floor),
      ("trunc".toList, truncated), ("round".toList, roundedEven), ("roundEven".toList, roundedEven),
      ("radians".toList, fun x => x * Float32.ofBits 0x3C8EFA35),
      ("degrees".toList, fun x => x * Float32.ofBits 0x42652EE1), ("abs".toList, Float32.abs),
      ("sign".toList, fun x => if x == 0 then 0 else withSignOf 1 x)]

/-- Functions on more numbers of single precision. -/
def foldSingles (name : Text) (arguments : List Float32) : Folded :=
  match arguments with
  | [x] => (singleFunction? name).elim .unknown fun f => .ofSingle (f x)
  | [x, y] =>
    if name = "min".toList then .ofSingle (if y < x then y else x)
    else if name = "max".toList then .ofSingle (if x < y then y else x)
    else if name = "pow".toList then .ofSingle (x.pow y)
    else if name = "step".toList then .ofSingle (if x <= y then 1 else 0)
    else .unknown
  | [x, y, z] =>
    if name = "clamp".toList then
      if z < y then .wrong else .ofSingle (if x < y then y else if z < x then z else x)
    else if name = "fma".toList then .ofSingle (x.toFloat * y.toFloat + z.toFloat).toFloat32
    else .unknown
  | _ => .unknown

/-- The lowest bits of a number in the order turned round, `count` of them. -/
def reversedBits : Nat → Nat → Nat
  | 0, _ => 0
  | count + 1, n => n % 2 * Nat.pow 2 count + reversedBits count (n / 2)

/-- The number of ones among the lowest bits of a number, `count` of them. -/
def countedBits : Nat → Nat → Nat
  | 0, _ => 0
  | count + 1, n => n % 2 + countedBits count (n / 2)

/-- Functions on whole numbers.  `make` makes a literal of bits. -/
def foldWholes (make : Nat → Literal) (name : Text) (arguments : List Int) : Folded :=
  let result (n : Int) : Folded := .literal (make (wordOf n))
  match arguments with
  | [x] =>
    if name = "abs".toList then result x.natAbs
    else if name = "sign".toList then result x.sign
    else if name = "bitCount".toList then result (countedBits 32 (wordOf x))
    else if name = "bitfieldReverse".toList then result (reversedBits 32 (wordOf x))
    else .unknown
  | [x, y] =>
    if name = "min".toList then result (min x y)
    else if name = "max".toList then result (max x y)
    else .unknown
  | [x, y, z] =>
    if name = "clamp".toList then if z < y then .wrong else result (max y (min x z)) else .unknown
  | _ => .unknown

/-- A number of single precision. -/
def Literal.single? : Literal → Option Float32
  | .float bits => some (Float32.ofBits bits)
  | _ => none

/-- A whole number with a sign. -/
def Literal.int? : Literal → Option Int
  | .int n => some n
  | _ => none

/-- A whole number without a sign. -/
def Literal.uint? : Literal → Option Int
  | .uint n => some n
  | _ => none

/-- The functions that the compiler can compute, component by component. -/
def foldedFunctions : List Text :=
  Text.asciiWords (("abs sign min max clamp sin cos tan asin acos atan sinh cosh tanh asinh acosh "
    ++ "atanh radians degrees ceil floor round roundEven fract trunc exp exp2 log log2 pow fma "
    ++ "step sqrt inversesqrt bitCount bitfieldReverse").toList)

/-- A function on literals of one kind. -/
def foldFunction (name : Text) (arguments : List Literal) : Folded :=
  match arguments.mapM Literal.single?, arguments.mapM Literal.int?, arguments.mapM Literal.uint?
  with
  | some singles, _, _ => foldSingles name singles
  | _, some ints, _ => foldWholes signedWord name ints
  | _, _, some uints => foldWholes Literal.uint name uints
  | none, none, none => .wrong

example : foldBinary .modulo (.int (-7)) (.int 3) = .literal (.int (-1)) := by decide +kernel
example : foldBinary .shiftLeft (.uint 3) (.uint 32) = .wrong := by decide +kernel

end GlBridge.Essl
