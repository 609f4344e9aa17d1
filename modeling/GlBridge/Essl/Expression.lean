import GlBridge.Essl.Builtin
import GlBridge.Essl.Intrinsic.Call

/-!
# Expressions

An expression becomes values, in the order in which they are computed.  How depends on where it
stands: what is assigned to becomes a pointer, and of what is indexed only the part that is needed
is read.

* `Position` — where an expression stands;
* `lowerName`, `selectField`, `addAccess` — names and parts;
* `assign`, `addStep` — assignments;
* `passReference` — an argument that stands for a variable of the caller;
* `lower` — the value of an expression.
-/

namespace GlBridge.Essl

/-- Where an expression stands. -/
inductive Position where
  /-- Its value is needed. -/
  | value
  /-- It is assigned to. -/
  | target
  /-- A part of it is needed; `known` says that it is known which one. -/
  | whole (known : Bool)
deriving DecidableEq, Repr

/-- Where the base of an index stands. -/
def Position.base (known : Bool) : Position → Position
  | target => target
  | whole false => whole false
  | _ => whole known

/-! ## Names -/

/-- What a name stands for, at a position.  A constant can only be indexed where the index is
known; otherwise a variable is made of it. -/
def lowerName (name : Text) (position : Position) : BuildM Nat := do
  let reference ← require (← reference? name)
  match position with
  | .target => if reference.writable then return reference.value else reject
  | .value => if reference.isPlace then addLoad reference.value else return reference.value
  | .whole known =>
    match ← operationOf reference.value with
    | .constant _ =>
      if known then return reference.value
      else addVariable none (← typeOf reference.value) (some reference.value)
    | _ => return reference.value

/-! ## Parts -/

/-- The literal that an index is known to be. -/
def knownLiteral? (value : Nat) : BuildM (Option Literal) := do
  let operation ← match ← operationOf value with
    | .constant index => do
      let shader := (← get).shader
      let constant ← require shader.constants[index]?
      pure (← require shader.pool[constant.value]?).operation
    | operation => pure operation
  return match operation with
    | .literal literal => some literal
    | _ => none

/-- The index that a value stands for, if it is known. -/
def knownIndex? (value : Nat) : BuildM (Option Nat) := do
  return (← knownLiteral? value).bind literalIndex?

/-- Whether an index is sure to be outside of a value. -/
def isOutOfBounds (structures : Structures) (type : Ty) (index : Option Literal) : Bool :=
  match partCount structures type, index with
  | some count, some literal => (literalIndex? literal).all (count ≤ ·)
  | _, _ => false

/-- Whether a part of a value can only be had by an index that is known. -/
def Ty.wantsKnownIndex : Ty → Bool
  | .vector _ _ => false
  | .pointer _ _ => false
  | _ => true

/-- A part at a computed index, or a pointer to it. -/
def addAccess (base index : Nat) : BuildM Nat := do
  let indexType ← typeOf index
  if indexType ≠ .scalar .int ∧ indexType ≠ .scalar .uint then reject
  let structures ← structures
  let known ← knownLiteral? index
  let type ← typeOf base
  if isOutOfBounds structures type.held known ∨ (type.wantsKnownIndex ∧ known.isNone) then reject
  match type with
  | .pointer (.structure _) _ => reject
  | .pointer target space => do
    let part ← require (partType? structures target 0)
    add (.access base index) (.pointer part space)
  | .structure _ => reject
  | type => do add (.access base index) (← require (partType? structures type 0))

/-- What is left where a value is needed: not a pointer, but what it points to. -/
def settle (position : Position) (value : Nat) : BuildM Nat := do
  if position = .value ∧ (← typeOf value).isPointer then addLoad value else return value

/-- The letters that stand for components, in three alphabets. -/
def componentAlphabets : List Text := ["xyzw".toList, "rgba".toList, "stpq".toList]

/-- The components of a vector that a name stands for. -/
def components? (size : Nat) (name : Text) : Option (List Nat) :=
  componentAlphabets.findSome? fun alphabet =>
    name.mapM fun c => ((alphabet.take size).findIdx? (· == c))

/-- The components of a vector, given as a value or a pointer. -/
def addComponents (position : Position) (base : Nat) (components : List Nat) (kind : Scalar) :
    BuildM Nat := do
  if position = .target ∧ !components.Nodup then reject
  let (vector, picked) ← match ← operationOf base with
    | .swizzle vector pattern => pure (vector, components.map (pattern.getD · 0))
    | _ => pure (base, components)
  match picked with
  | [index] => do
    let pointed := position = .value ∧ (← typeOf vector).isPointer
    addPart (← if pointed then addLoad vector else pure vector) index
  | _ =>
    if picked.length > 4 then reject
    else
      let vector ← if (← typeOf vector).isPointer then addLoad vector else pure vector
      add (.swizzle vector picked) (.vector picked.length kind)

/-- A member of a structure, or components of a vector. -/
def selectField (position : Position) (base : Nat) (name : Text) : BuildM Nat := do
  let type ← typeOf base
  match type.held with
  | .structure index => do
    let entry ← require (← structures)[index]?
    let part ← addPart base (← require (entry.index? name))
    settle position part
  | .vector size kind => do
    let picked ← require (components? size name)
    addComponents position base picked kind
  | _ => reject

/-! ## Assignments -/

/-- Storing a value of the right type. -/
def storeInto (pointer value : Nat) : BuildM Unit := do
  match ← typeOf pointer with
  | .pointer target space =>
    if space.isWritable ∧ target = (← typeOf value) then push (.store pointer value) else reject
  | _ => reject

/-- Storing a value: in a variable, or in components of a vector one by one. -/
def addStore (target value : Nat) : BuildM Unit := do
  match ← operationOf target with
  | .swizzle vector components =>
    let vector ← match ← operationOf vector with
      | .load pointer => pure pointer
      | _ => pure vector
    components.zipIdx.forM fun (component, position) => do
      let place ← addPart vector component
      let part ← addPart value position
      storeInto place part
  | _ => storeInto target value

/-- Assigning a value. -/
def assign (target value : Nat) : BuildM Nat := do
  let value ← convertToKindOf (← typeOf target).held value
  addStore target value
  return value

/-- Adding or subtracting one. -/
def addStep (op : BinaryOp) (postfixed : Bool) (target : Nat) : BuildM Nat := do
  let old ← match ← operationOf target with
    | .swizzle _ _ => pure target
    | _ => addLoad target
  let ones ← addOnes (← typeOf old)
  let new ← addBinary op old ones
  addStore target new
  return if postfixed then old else new

/-! ## Calls -/

/-- A value that is written back to a variable after a call. -/
structure WriteBack where
  target : Nat
  /-- The variable that the function has been called with in its place. -/
  source : Nat
  /-- The kind of scalars of the target, if it is another one. -/
  kind : Option Scalar

/-- What is written back in place of an argument: the components one by one where only some of them
have been passed. -/
def writeBacks (original source : Nat) (kind : Option Scalar) : BuildM (List WriteBack) := do
  match ← operationOf original with
  | .swizzle vector components =>
    let vector ← match ← operationOf vector with
      | .load pointer => pure pointer
      | _ => pure vector
    components.zipIdx.mapM fun (component, position) => do
      let target ← addPart vector component
      let source ← addPart source position
      return { target, source, kind }
  | _ => return [{ target := original, source, kind }]

/-- The type of the variable that has to be passed in place of an argument, if the argument cannot be
passed itself. -/
def Ty.replaced? : Ty → Option Ty
  | .vector size kind => some (.vector size kind)
  | .pointer target space => if space = .function then none else some target
  | _ => none

/-- An argument that stands for a variable of the caller.  Only a variable of the function of the
right type is passed itself. -/
def passReference (parameter : FormalParameter) (type : Ty) (original : Nat) :
    BuildM (Nat × List WriteBack) := do
  let given ← typeOf original
  let replaced := given.replaced?
  replaced.forM mention
  let value ← if given.isPointer then addLoad original else pure original
  let differs : Bool := type ≠ parameter.type
  match if differs then some parameter.type else replaced with
  | none => return (original, [])
  | some type' =>
    let place ← addVariable none type' none
    if parameter.passing = .both then push (.store place value)
    let back ← writeBacks original place (if differs then type.kind? else none)
    return (place, back)

/-- Writing a value back after a call. -/
def WriteBack.run (back : WriteBack) : BuildM Unit := do
  let value ← addLoad back.source
  let value ← match back.kind with
    | some kind => addConversion value kind
    | none => pure value
  storeInto back.target value

/-- Whether an argument can be passed. -/
def suits (parameter : FormalParameter) (argument : Nat) : BuildM Bool := do
  let type ← typeOf argument
  return type == if parameter.passing.isReference then .pointer parameter.type .function
    else parameter.type

/-- A call, given the arguments. -/
def callWith (signature : Signature) (arguments : List Nat) (backs : List WriteBack) :
    BuildM (Option Nat) := do
  let fits ← (signature.parameters.zip arguments).mapM fun (parameter, argument) =>
    suits parameter argument
  if !fits.all id then reject
  match signature.callee with
  | .action action => some <$> perform action arguments
  | .routine index result => do
    let result ← result.mapM (append (.result index))
    push (.call index arguments result)
    backs.forM WriteBack.run
    return result

/-! ## Choices -/

/-- A choice between the results of two branches: a variable that is set in both. -/
def finishConditional (condition accepted : Nat) (acceptedSteps : List (Step Nat))
    (rejected : Nat) (rejectedSteps : List (Step Nat)) : BuildM Nat := do
  if (← typeOf condition) ≠ .scalar .bool then reject
  let convertedTo (value other : Nat) : BuildM Nat := do
    convertToKindOf (← typeOf other) value
  let (accepted, acceptedSteps) ← continueBranch acceptedSteps (convertedTo accepted rejected)
  let (rejected, rejectedSteps) ← continueBranch rejectedSteps (convertedTo rejected accepted)
  let type ← typeOf accepted
  if type.isPointer ∨ type.isHandle then reject
  mention type
  let place ← addVariable none type none
  let ((), acceptedSteps) ← continueBranch acceptedSteps (storeInto place accepted)
  let ((), rejectedSteps) ← continueBranch rejectedSteps (storeInto place rejected)
  push (.ifElse condition acceptedSteps rejectedSteps)
  addLoad place

/-! ## Methods -/

/-- The length of an array, given as a value or a pointer. -/
def addLength (array : Nat) : BuildM Nat := do
  match ← typeOf array with
  | .array _ (some length) _ => do convertAlways (← addLiteral (.uint length)) .int
  | .pointer (.array _ none _) _ => do
    addConversion (← add (.arrayLength array) (.scalar .uint)) .int
  | _ => reject

/-! ## Expressions -/

/-- A value that has to be there. -/
def needed (act : BuildM (Option Nat)) : BuildM Nat := act >>= require

mutual

/-- The value of an expression; only a call may be without one. -/
def lower : Expr → Position → BuildM (Option Nat)
  | .literal value, position => do
    if position = .target then reject
    some <$> addLiteral value
  | .name name, position => some <$> lowerName name position
  | .call name arguments, position => do
    if position = .target then reject
    let tried ← lowerAll arguments
    let types ← tried.mapM typeOf
    let signature ← signatureFor name types
    let (values, backs) ← lowerInto arguments signature.parameters types
    callWith signature values backs
  | .construct _ _ _, _ => reject
  | .make type arguments, position => do
    if position = .target then reject
    some <$> construct type (← lowerAll arguments)
  | .index base index, position => do
    let place ← needed (lower index .value)
    let known ← if position = .target then pure none else knownIndex? place
    let whole ← needed (lower base (position.base known.isSome))
    let part ← known.elim (addAccess whole place) (addPart whole)
    some <$> settle position part
  | .field base name, position => do
    let whole ← needed (lower base position)
    some <$> selectField position whole name
  | .method base name arguments, position => do
    if position = .target ∨ name ≠ "length".toList ∨ !arguments.isEmpty then reject
    let whole ← needed (lower base position)
    some <$> addLength whole
  | .unary op operand, position => do
    if position = .target then reject
    some <$> addUnary op (← needed (lower operand .value))
  | .binary op left right, position => do
    if position = .target then reject
    let left ← needed (lower left .value)
    let right ← needed (lower right .value)
    some <$> combine op left right
  | .step op postfixed target, position => do
    if position = .target then reject
    some <$> addStep op postfixed (← needed (lower target .target))
  | .conditional condition accepted rejected, position => do
    if position = .target then reject
    let condition ← needed (lower condition .value)
    let (accepted, acceptedSteps) ← inBranch (needed (lower accepted position))
    let (rejected, rejectedSteps) ← inBranch (needed (lower rejected position))
    some <$> finishConditional condition accepted acceptedSteps rejected rejectedSteps
  | .assign target value, position => do
    if position = .target then reject
    let target ← needed (lower target .target)
    let value ← needed (lower value .value)
    some <$> assign target value
  | .comma _ value, position => lower value position

/-- The values of expressions. -/
def lowerAll : List Expr → BuildM (List Nat)
  | [] => return []
  | expression :: rest => do
    let value ← needed (lower expression .value)
    return value :: (← lowerAll rest)

/-- The arguments of a call as the parameters want them, given the types that they have turned out to
be of, and what has to be written back afterwards. -/
def lowerInto : List Expr → List FormalParameter → List Ty → BuildM (List Nat × List WriteBack)
  | expression :: rest, parameter :: parameters, type :: types => do
    let (value, backs) ←
      if parameter.passing.isReference then do
        passReference parameter type (← needed (lower expression .target))
      else do
        let value ← needed (lower expression .value)
        pure (← convertToKindOf parameter.type value, [])
    let (values, more) ← lowerInto rest parameters types
    return (value :: values, backs ++ more)
  | _, _, _ => return ([], [])

end

end GlBridge.Essl
