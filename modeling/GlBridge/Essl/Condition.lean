import GlBridge.Essl.Parser.Basic

/-!
# Conditions of preprocessor lines

A condition is an expression of whole numbers, in which truth is any number but zero.  Names that
are left in it, those of no macro, count as zero.

* `ConditionOp.apply` — the operators;
* `conditionValue?` — the value of a condition.
-/

namespace GlBridge.Essl

/-- The operators of conditions. -/
inductive ConditionOp where
  | or
  | and
  | bitOr
  | bitXor
  | bitAnd
  | equal
  | notEqual
  | less
  | greater
  | lessEqual
  | greaterEqual
  | shiftLeft
  | shiftRight
  | add
  | subtract
  | multiply
  | divide
  | modulo
deriving DecidableEq, Repr

/-- The operators of each level, the weakest level first. -/
def conditionLevels : List (List (Text × ConditionOp)) :=
  [[("||".toList, .or)], [("&&".toList, .and)], [("|".toList, .bitOr)], [("^".toList, .bitXor)],
    [("&".toList, .bitAnd)], [("==".toList, .equal), ("!=".toList, .notEqual)],
    [("<".toList, .less), (">".toList, .greater), ("<=".toList, .lessEqual),
      (">=".toList, .greaterEqual)],
    [("<<".toList, .shiftLeft), (">>".toList, .shiftRight)],
    [("+".toList, .add), ("-".toList, .subtract)],
    [("*".toList, .multiply), ("/".toList, .divide), ("%".toList, .modulo)]]

/-- A truth value as a number. -/
def truthNumber (truth : Bool) : Int := if truth then 1 else 0

/-- The number that 64 bits hold, the highest of them a sign. -/
def wrapWhole (n : Int) : Int := Int.bmod n wholeLimit

/-- An operation on the bits of numbers of 64 bits. -/
def onBits (f : Nat → Nat → Nat) (a b : Int) : Int :=
  wrapWhole (f (a % wholeLimit).toNat (b % wholeLimit).toNat)

/-- The result of an operator; there is none for a division by zero. -/
def ConditionOp.apply (op : ConditionOp) (a b : Int) : Option Int :=
  match op with
  | or => some (truthNumber (a ≠ 0 ∨ b ≠ 0))
  | and => some (truthNumber (a ≠ 0 ∧ b ≠ 0))
  | bitOr => some (onBits Nat.lor a b)
  | bitXor => some (onBits Nat.xor a b)
  | bitAnd => some (onBits Nat.land a b)
  | equal => some (truthNumber (a = b))
  | notEqual => some (truthNumber (a ≠ b))
  | less => some (truthNumber (a < b))
  | greater => some (truthNumber (b < a))
  | lessEqual => some (truthNumber (a ≤ b))
  | greaterEqual => some (truthNumber (b ≤ a))
  | shiftLeft => some (wrapWhole (a * Nat.pow 2 (b % 64).toNat))
  | shiftRight => some (a / Nat.pow 2 (b % 64).toNat)
  | add => some (wrapWhole (a + b))
  | subtract => some (wrapWhole (a - b))
  | multiply => some (wrapWhole (a * b))
  | divide => if b = 0 then none else some (wrapWhole (a.tdiv b))
  | modulo => if b = 0 then none else some (a.tmod b)

namespace Parser

mutual

/-- A condition with operators of the given levels. -/
def condition : Nat → List (List (Text × ConditionOp)) → Parser Int
  | 0, _ => fail
  | fuel + 1, [] => conditionOperand fuel
  | fuel + 1, ops :: rest => do
    let left ← condition fuel rest
    leftToRight ops (condition fuel rest) (fun op a b => StateT.lift (op.apply a b)) fuel left

/-- An operand of a condition. -/
def conditionOperand : Nat → Parser Int
  | 0 => fail
  | fuel + 1 => do
    match ← next with
    | .whole value _ => return wrapWhole value
    | .name _ => return 0
    | .sign ['-'] => return wrapWhole (-(← conditionOperand fuel))
    | .sign ['+'] => conditionOperand fuel
    | .sign ['~'] => return -(← conditionOperand fuel) - 1
    | .sign ['!'] => return truthNumber ((← conditionOperand fuel) = 0)
    | .sign ['('] =>
      let value ← condition fuel conditionLevels
      sign ")"
      return value
    | _ => fail

end

end Parser

/-- The value of a condition, if it is one from end to end. -/
def conditionValue? (lexemes : List Lexeme) : Option Int := do
  let (value, remaining) ← (Parser.condition (16 * lexemes.length + 16) conditionLevels).run
    { lexemes }
  if remaining.lexemes = [] then some value else none

end GlBridge.Essl
