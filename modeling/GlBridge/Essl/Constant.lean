import GlBridge.Essl.Draft
import GlBridge.Essl.LiteralMath

/-!
# Constants

Constants are computed as soon as they arise, so that a value with constant operands is a constant
itself whenever the compiler knows how to compute it.  A constant with a name is copied into the
function with all that it is made of before anything is computed from it.

* `evaluateUnary`, `evaluateBinary`, `evaluateFunction`, `evaluateConversion` — operations on
  constants, part by part;
* `add` — a new value, which is a constant if it can be;
* `addPart`, `addConversion` — parts and conversions;
* `lift` — a constant of a function put among the values outside of functions.
-/

namespace GlBridge.Essl

/-- A copy of a value outside of functions, with all that it is made of. -/
def copyFromPool (pool : List (Value Nat)) : Nat → Nat → BuildM Nat
  | 0, _ => reject
  | fuel + 1, index => do
    let value ← require pool[index]?
    match value.operation with
    | .compose parts => do
      append (.compose (← parts.mapM (copyFromPool pool fuel))) value.type
    | .splat part => do append (.splat (← copyFromPool pool fuel part)) value.type
    | operation => append operation value.type

/-- The value of the constant with a name that a value stands for, or else the value itself. -/
def throughName (value : Nat) : BuildM Nat := do
  match ← operationOf value with
  | .constant index =>
    let shader := (← get).shader
    let constant ← require shader.constants[index]?
    copyFromPool shader.pool shader.pool.length constant.value
  | _ => return value

/-- The parts that a constant vector is made of, vectors among them taken apart.  `fuel` bounds how
deep vectors are nested. -/
def flatParts : Nat → Nat → BuildM (List Nat)
  | 0, value => return [value]
  | fuel + 1, value => do
    match ← valueAt value with
    | { operation := .compose parts, type := .vector size _ } =>
      return ((← parts.mapM (flatParts fuel)).flatten).take size
    | { operation := .splat part, type := .vector size _ } => return List.replicate size part
    | _ => return [value]

/-- How deep vectors can be nested in a constant. -/
def nestingLimit : Nat := 4

/-- A literal, which must be a number. -/
def addLiteral (value : Literal) : BuildM Nat := do
  match value with
  | .float bits => if bits.toNat % singleSign ≥ singleInfinity then reject
  | _ => pure ()
  append (.literal value) (.scalar value.kind)

/-- A constant vector of equal parts as one whose parts are given one by one. -/
def spellOut (value : Nat) : BuildM Nat := do
  match ← valueAt value with
  | { operation := .splat part, type := .vector size kind } => do
    mention (.vector size kind)
    append (.compose (List.replicate size part)) (.vector size kind)
  | _ => return value

/-- The constant that an operation on literals results in, if the compiler knows how to compute
it. -/
def addFolded (folded : Folded) : BuildM (Option Nat) :=
  match folded with
  | .literal value => some <$> addLiteral value
  | .unknown => return none
  | .wrong => reject

/-- An operator on a constant. -/
def evaluateUnary (op : UnaryOp) : Nat → Nat → BuildM Nat
  | 0, _ => reject
  | fuel + 1, value => do
    let value ← spellOut value
    match ← valueAt value with
    | { operation := .literal literal, .. } => do require (← addFolded (foldUnary op literal))
    | { operation := .compose parts, type } => do
      let parts ← parts.mapM (evaluateUnary op fuel)
      append (.compose parts) type
    | _ => reject

/-- All values, if they are there. -/
def allOf (values : List (Option Nat)) : Option (List Nat) := values.mapM id

/-- The type of an operator's result on two vectors of constants. -/
def BinaryOp.vectorType? (op : BinaryOp) (size : Nat) (type : Ty) : Option Ty :=
  if op.isComparison then some (.vector size .bool)
  else if op = .and ∨ op = .or then none
  else some type

/-- An operator on two constants, if the compiler knows how to compute it. -/
def evaluateBinary (op : BinaryOp) : Nat → Nat → Nat → BuildM (Option Nat)
  | 0, _, _ => reject
  | fuel + 1, left, right => do
    let left ← spellOut left
    let right ← spellOut right
    match ← valueAt left, ← valueAt right with
    | { operation := .literal a, .. }, { operation := .literal b, .. } =>
      addFolded (foldBinary op a b)
    | { operation := .compose parts, type }, { operation := .literal _, .. } => do
      let parts ← parts.mapM fun part => evaluateBinary op fuel part right
      (allOf parts).mapM fun parts => append (.compose parts) type
    | { operation := .literal _, .. }, { operation := .compose parts, type } => do
      let parts ← parts.mapM fun part => evaluateBinary op fuel left part
      (allOf parts).mapM fun parts => append (.compose parts) type
    | { operation := .compose _, type := .vector size kind },
        { operation := .compose _, type := .vector size' _ } => do
      match op.vectorType? size (.vector size kind) with
      | none => return none
      | some type =>
        if size ≠ size' then return none
        let lefts ← flatParts nestingLimit left
        let rights ← flatParts nestingLimit right
        if op.isComparison then mention type
        let parts ← (lefts.zip rights).mapM fun (a, b) => evaluateBinary op fuel a b
        (allOf parts).mapM fun parts => append (.compose parts) type
    | _, _ => return none

/-- The literal that a constant is. -/
def literalOf (value : Nat) : BuildM Literal := do
  match ← operationOf value with
  | .literal literal => return literal
  | _ => reject

/-- A function on constants, if the compiler knows how to compute it. -/
def evaluateFunction (name : Text) (arguments : List Nat) : BuildM (Option Nat) := do
  if !foldedFunctions.contains name then return none
  let arguments ← arguments.mapM spellOut
  let first ← valueAt (← require arguments.head?)
  match first.operation with
  | .literal _ => do addFolded (foldFunction name (← arguments.mapM literalOf))
  | .compose _ => do
    let size ← require first.type.size?
    let types ← arguments.mapM typeOf
    if !types.all (· == first.type) then reject
    let parts ← arguments.mapM (flatParts nestingLimit)
    let results ← (List.range size).mapM fun index => do
      let literals ← parts.mapM fun part => do literalOf (← require part[index]?)
      addFolded (foldFunction name literals)
    (allOf results).mapM fun results => append (.compose results) first.type
  | _ => reject

/-- A constant as another kind of scalar. -/
def evaluateConversion (kind : Scalar) : Nat → Nat → BuildM Nat
  | 0, _ => reject
  | fuel + 1, value => do
    let value ← spellOut value
    match ← valueAt value with
    | { operation := .literal literal, .. } => addLiteral (convertLiteral kind literal)
    | { operation := .compose parts, type } => do
      if type.kind?.isNone then reject
      let parts ← parts.mapM (evaluateConversion kind fuel)
      mention (type.withKind kind)
      append (.compose parts) (type.withKind kind)
    | _ => reject

/-- A part of a constant. -/
def evaluatePart (value index : Nat) : BuildM Nat := do
  match ← valueAt value with
  | { operation := .splat part, type } => do
    if index < type.size?.getD 0 then return part else reject
  | { operation := .compose parts, type } => do
    let parts ← if type.size?.isSome then flatParts nestingLimit value else pure parts
    require parts[index]?
  | _ => reject

/-- Components of a constant vector. -/
def evaluateSwizzle (value : Nat) (components : List Nat) (type : Ty) : BuildM Nat := do
  match ← valueAt value with
  | { operation := .splat part, .. } => append (.splat part) type
  | { operation := .compose _, type := .vector _ _ } => do
    mention type
    let parts ← flatParts nestingLimit value
    append (.compose (← require (components.mapM (parts[·]?)))) type
  | _ => reject

/-- The index that a constant stands for, if it is one. -/
def literalIndex? : Literal → Option Nat
  | .int n => if n < 0 then none else some n.toNat
  | .uint n => some n
  | _ => none

/-- What an operation on constants results in, if the compiler knows how to compute it. -/
def evaluate? (operation : Operation Nat) (type : Ty) : BuildM (Option Nat) := do
  match operation with
  | .unary op operand => some <$> evaluateUnary op nestingLimit (← throughName operand)
  | .binary op left right =>
    evaluateBinary op nestingLimit (← throughName left) (← throughName right)
  | .convert operand kind false =>
    some <$> evaluateConversion kind nestingLimit (← throughName operand)
  | .part base index => some <$> evaluatePart (← throughName base) index
  | .access base index => do
    let base ← throughName base
    let index ← literalOf (← throughName index)
    some <$> evaluatePart base (← require (literalIndex? index))
  | .swizzle vector components =>
    some <$> evaluateSwizzle (← throughName vector) components type
  | .intrinsic name arguments => evaluateFunction name (← arguments.mapM throughName)
  | _ => return none

/-- A new value: a constant if its operands are constants and the compiler knows how to compute
it. -/
def add (operation : Operation Nat) (type : Ty) : BuildM Nat := do
  let function := (← get).function
  let operands := operation.references
  let fixed := operands ≠ [] && operands.all (function.constants.getD · false)
  match fixed, operation with
  | true, .compose parts => do append (.compose (← parts.mapM throughName)) type
  | true, .splat part => do append (.splat (← throughName part)) type
  | true, _ =>
    match ← evaluate? operation type with
    | some value => return value
    | none => append operation type
  | false, _ => append operation type

/-- The number of parts that a value is known to have. -/
def partCount (structures : Structures) : Ty → Option Nat
  | .vector size _ => some size
  | .matrix columns _ => some columns
  | .array _ length _ => length
  | .structure index => (structures[index]?).map fun s => s.members.length
  | _ => none

/-- A part of a value, or a pointer to a part of what a pointer points to. -/
def addPart (base index : Nat) : BuildM Nat := do
  let structures ← structures
  let type ← typeOf base
  if (partCount structures type.held).any (· ≤ index) then reject
  let part ← require (partType? structures type.held index)
  match type with
  | .pointer _ space => add (.part base index) (.pointer part space)
  | _ => add (.part base index) part

/-- A value as another kind of scalar. -/
def addConversion (value : Nat) (kind : Scalar) : BuildM Nat := do
  match ← typeOf value with
  | .scalar _ => add (.convert value kind false) (.scalar kind)
  | .vector size _ => add (.convert value kind false) (.vector size kind)
  | _ => reject

/-- A value as another kind of scalar, if it becomes one without being asked. -/
def convertTo (value : Nat) (kind : Scalar) : BuildM Nat := do
  match (← typeOf value).kind? with
  | some source => if source.widensTo kind then addConversion value kind else return value
  | none => return value

/-- A value as the kind of scalars that a type is made of, if it becomes one without being
asked. -/
def convertToKindOf (type : Ty) (value : Nat) : BuildM Nat :=
  type.kind?.elim (return value) (convertTo value)

/-- A value as another kind of scalar, if it is of a different one. -/
def convertAlways (value : Nat) (kind : Scalar) : BuildM Nat := do
  match (← typeOf value).kind? with
  | some source => if source = kind then return value else addConversion value kind
  | none => return value

/-! ## Values outside of functions -/

/-- Putting a value among those outside of functions: its index. -/
def addToPool (value : Value Nat) : BuildM Nat := do
  let index := (← get).shader.pool.length
  modifyShader fun shader => { shader with pool := shader.pool ++ [value] }
  return index

/-- Putting a constant of the function among the values outside of functions, with all that it is
made of: its index.  `fuel` bounds how deep it is nested. -/
def lift : Nat → Nat → BuildM Nat
  | 0, _ => reject
  | fuel + 1, value => do
    let entry ← valueAt (← throughName value)
    match entry.operation with
    | .literal _ => addToPool entry
    | .compose parts => do
      let parts ← parts.mapM (lift fuel)
      addToPool { entry with operation := .compose parts }
    | .splat part => do
      let part ← lift fuel part
      addToPool { entry with operation := .splat part }
    | _ => reject

/-- How deep constants can be nested. -/
def liftLimit : Nat := 64

end GlBridge.Essl
