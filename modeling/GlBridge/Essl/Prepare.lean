import GlBridge.Essl.Expression

/-!
# Looking up types

Before an expression is turned into values, everything that it names is looked up, from left to
right: the types of constructors are mentioned, the lengths of arrays are computed, and the inputs
and outputs of the language become known.

* `typeNamed`, `arrayOf` — types by name, and arrays of them;
* `prepare` — an expression whose types have been looked up;
* `evaluate`, `evaluateLength` — the value of an expression, in a function or outside of one.
-/

namespace GlBridge.Essl

/-- The type that a name stands for. -/
def typeNamed (name : Text) : BuildM Ty := do
  match Ty.ofName? name with
  | some type => do
    mention type
    return type
  | none => return .structure (← require ((← get).shader.typeNames.lookup name))

/-- An array of elements of a type. -/
def arrayOf (element : Ty) (length : Option Nat) : BuildM Ty := do
  let structures ← structures
  if length = some 0 ∨ !isConstructible structures element then reject
  let type : Ty := .array element length (strideOf structures element)
  mention type
  return type

/-- The type of which a number of parts is given: an array without a length gets that number. -/
def withCount (type : Ty) (count : Nat) : BuildM Ty := do
  match type with
  | .array element none stride => do
    if count = 0 then reject
    mention (.array element (some count) stride)
    return .array element (some count) stride
  | type => return type

mutual

/-- An expression whose types have been looked up. -/
def prepare : Expr → BuildM Expr
  | .literal value => return .literal value
  | .name name => do
    declareBuiltin name
    return .name name
  | .call name arguments => do return .call name (← prepareAll arguments)
  | .construct name lengths arguments => do
    let type ← prepareLengths (← typeNamed name) lengths
    let arguments ← prepareAll arguments
    return .make (← withCount type arguments.length) arguments
  | .make type arguments => do return .make type (← prepareAll arguments)
  | .index base index => do
    let base ← prepare base
    return .index base (← prepare index)
  | .field base name => do return .field (← prepare base) name
  | .method base name arguments => do
    let base ← prepare base
    return .method base name (← prepareAll arguments)
  | .unary op operand => do return .unary op (← prepare operand)
  | .binary op left right => do
    let left ← prepare left
    return .binary op left (← prepare right)
  | .step op postfixed target => do return .step op postfixed (← prepare target)
  | .conditional condition accepted rejected => do
    let condition ← prepare condition
    let accepted ← prepare accepted
    return .conditional condition accepted (← prepare rejected)
  | .assign target value => do
    let target ← prepare target
    return .assign target (← prepare value)
  | .comma dropped value => do
    let dropped ← prepare dropped
    return .comma dropped (← prepare value)

/-- Expressions whose types have been looked up. -/
def prepareAll : List Expr → BuildM (List Expr)
  | [] => return []
  | expression :: rest => do
    let expression ← prepare expression
    return expression :: (← prepareAll rest)

/-- An array type, given the type of its elements and its lengths. -/
def prepareLengths : Ty → List (Option Expr) → BuildM Ty
  | type, [] => return type
  | type, none :: rest => do prepareLengths (← arrayOf type none) rest
  | type, some length :: rest => do
    let n ← numberOutside do
      let length ← prepare length
      needed (lower length .value)
    prepareLengths (← arrayOf type (some n)) rest

end

/-- The value of an expression by itself. -/
def evaluate (expression : Expr) : BuildM Nat := do
  needed (lower (← prepare expression) .value)

/-- An expression for what it does.  It may be without a value. -/
def carryOut (expression : Expr) : BuildM Unit := do
  let _ ← lower (← prepare expression) .value
  return ()

/-- A whole number that is written outside of functions and is not negative. -/
def evaluateNumber (expression : Expr) : BuildM Nat := numberOutside (evaluate expression)

end GlBridge.Essl
