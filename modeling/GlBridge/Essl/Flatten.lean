import GlBridge.Essl.Flat
import GlBridge.Essl.TableOrder

/-!
# Flattening

From a shader to its flat form.  A value becomes a node where it is computed, unless nothing refers
to it.  Pointers become nodes where they are used, one for each step from a variable to a part.
What the target language has no words for is spelled out.

* `rootsOf`, `usedGlobals` — the variables of the shader that a function uses;
* `flattenRoutine` — a function;
* `flatten` — a whole shader.
-/

namespace GlBridge.Essl

/-! ## Use of variables -/

/-- The variable of the shader that a value is a pointer into, or that it is. -/
def rootOf (values : Array (Value Nat)) : Nat → Nat → Option Nat
  | 0, _ => none
  | fuel + 1, index =>
    match (values[index]?).map Value.operation with
    | some (.global g) => some g
    | some (.part base _) => rootOf values fuel base
    | some (.access base _) => rootOf values fuel base
    | _ => none

/-- The references of an operation that are more than a step to a part. -/
def Operation.uses : Operation ρ → List ρ
  | .part _ _ => []
  | .access _ index => [index]
  | operation => operation.references

/-- The variables of the shader that a function uses, given those that the ones it calls use. -/
def usedGlobals (called : List (List Nat)) (routine : Routine Nat) : List Nat :=
  let values := routine.values.toArray
  let references := (routine.values.flatMap fun value => value.operation.uses)
    ++ stepsReferences routine.body
  references.filterMap (rootOf values values.size)
    ++ (stepsCalls routine.body).flatMap (called.getD · [])

/-- The variables that each function uses; functions come after those that they call. -/
def usedByAll (routines : List (Routine Nat)) : List (List Nat) :=
  routines.foldl (fun used routine => used ++ [usedGlobals used routine]) []

/-! ## Functions -/

/-- What is known of the function that is flattened. -/
structure FlatContext where
  values : Array (Value Nat)
  constants : Array Bool
  counts : Array Nat
  /-- The operands of the variables of the shader, by index. -/
  roots : List (Nat × Operand)
  /-- The operands of the function's own variables. -/
  slots : List Operand
  /-- The outputs, for the routine around the main function. -/
  outputs : List Channel := []

/-- The operands of the values that have been computed. -/
abbrev Computed := Array (Option Operand)

/-- Something done while a function is flattened. -/
abbrev FlattenM := ReaderT FlatContext (StateT Computed FlatM)

/-- Giving a value its operand. -/
def settleAs (value : Nat) (operand : Operand) : FlattenM Unit :=
  modify fun computed => computed.set! value (some operand)

/-- The operand of a value. -/
def operandOf (value : Nat) : FlattenM Operand := do
  demand ((← get).getD value none)

/-- A value of the function. -/
def valueOf (value : Nat) : FlattenM (Value Nat) := do
  demand (← read).values[value]?

/-- A step to a part: by a number, or by an operand. -/
inductive PathStep where
  | part (index : Nat)
  | access (index : Operand)

/-- The variable that a pointer starts from, and the steps from it. -/
def pathOf : Nat → Nat → FlattenM (Operand × List PathStep)
  | 0, _ => demand none
  | fuel + 1, pointer => do
    match (← valueOf pointer).operation with
    | .global index => return (← demand ((← read).roots.lookup index), [])
    | .slot index => return (← demand (← read).slots[index]?, [])
    | .argument _ => return (← operandOf pointer, [])
    | .part base index => do
      let (root, steps) ← pathOf fuel base
      return (root, steps ++ [.part index])
    | .access base index => do
      let (root, steps) ← pathOf fuel base
      return (root, steps ++ [.access (← operandOf index)])
    | _ => demand none

/-- The index that an operand stands for, if it is a constant. -/
def constantIndex? (operand : Operand) : FlatM (Option Nat) := do
  match operand with
  | .constant index =>
    match ((← get).constants[index]?).map PoolConstant.value with
    | some (.literal (.int n)) => return if n < 0 then none else some n.toNat
    | some (.literal (.uint n)) => return some n
    | _ => return none
  | _ => return none

/-- A pointer one step on.  Members of structures and columns of matrices are known by their number;
everything else is found by an operand, and every number is a constant in any case. -/
def addPathStep (pointer : Operand) (step : PathStep) : FlatM Operand := do
  match ← operandType pointer with
  | .pointer target space => do
    let index ← match step with
      | .part index => Operand.constant <$> addIndexConstant index
      | .access index => pure index
    let number ← constantIndex? index
    let place := number.getD 0
    let type := Ty.pointer (← demand (partType? (← get).structures target place)) space
    match target, number with
    | .structure _, some _ => addNode (.part pointer place) type
    | .matrix _ _, some _ => addNode (.part pointer place) type
    | _, _ => addNode (.access pointer index) type
  | _ => demand none

/-- The operand of a pointer, made where it is used. -/
def pointerOperand (pointer : Nat) : FlattenM Operand := do
  let (root, steps) ← pathOf (pointer + 1) pointer
  steps.foldlM (fun place step => addPathStep place step) root

/-! ## Operations -/

/-- Parts put together; equal components of a vector are given once for all. -/
def addComposed (type : Ty) (parts : List Operand) : FlatM Operand :=
  match type, parts with
  | .vector size _, first :: rest =>
    if parts.length = size ∧ rest.all (· == first) then addNode (.splat first) type
    else addNode (.compose parts) type
  | _, _ => addNode (.compose parts) type

/-- A sum or difference of matrices, column by column. -/
def addColumns (op : BinaryOp) (columns rows : Nat) (left right : Operand) : FlatM Operand := do
  let column := Ty.vector rows .float
  let parts ← (List.range columns).mapM fun index => do
    let a ← addNode (.part left index) column
    let b ← addNode (.part right index) column
    addNode (.binary op a b) column
  addNode (.compose parts) (.matrix columns rows)

/-- A product of a vector and a scalar.  Whole numbers are repeated. -/
def addScaled (size : Nat) (kind : Scalar) (vector scalar : Operand) : FlatM Operand := do
  let type := Ty.vector size kind
  if kind = .float then addNode (.binary .multiply vector scalar) type
  else
    let repeated ← addNode (.splat scalar) type
    addNode (.binary .multiply vector repeated) type

/-- An operator on operands. -/
def addOperator (op : BinaryOp) (type : Ty) (left right : Operand) : FlatM Operand := do
  match op, ← operandType left, ← operandType right with
  | .add, .matrix columns rows, _ => addColumns .add columns rows left right
  | .subtract, .matrix columns rows, _ => addColumns .subtract columns rows left right
  | .multiply, .vector size kind, .scalar _ => addScaled size kind left right
  | .multiply, .scalar _, .vector size kind => addScaled size kind right left
  | .multiply, .scalar _, .matrix _ _ => addNode (.binary .multiply right left) type
  | op, _, shift =>
    if op.isShift then
      let distance ← addNode (.convert right .uint true) (shift.withKind .uint)
      addNode (.binary op left distance) type
    else addNode (.binary op left right) type

/-- A value as another kind of scalar. -/
def addConverted (kind : Scalar) (operand : Operand) : FlatM Operand := do
  let type ← operandType operand
  let target := type.withKind kind
  match type.kind? with
  | none => demand none
  | some source =>
    if source = kind then return operand
    else if source = .bool then
      let one ← addUniform target (.one kind)
      let none ← addUniform target (.zero kind)
      addNode (.select operand (.constant one) (.constant none)) target
    else if kind = .bool then
      let none ← addUniform type (.zero source)
      addNode (.binary .notEqual operand (.constant none)) target
    else addNode (.convert operand kind (source ≠ .float && kind ≠ .float)) target

/-- The coordinates of a place in a texture.  A layer is put beside them and taken apart again. -/
def addCoordinates (dimension : Dimension) (coordinate : Operand) (layer : Option Operand) :
    FlatM (Operand × Option Operand) := do
  match layer with
  | none => return (coordinate, none)
  | some layer => do
    let size := dimension.coordinates
    let kind ← demand (← operandType coordinate).kind?
    let layer ← if kind = .float then addConverted .float layer else pure layer
    addType (.vector (size + 1) kind)
    let all ← addNode (.compose [coordinate, layer]) (.vector (size + 1) kind)
    let shape ← if size = 1 then addNode (.part all 0) (.scalar kind)
      else do
        let parts ← (List.range size).mapM fun index =>
          addNode (.part all index) (.scalar kind)
        addNode (.compose parts) (.vector size kind)
    let place ← addNode (.part all size) (.scalar kind)
    return (shape, some (← addNode (.convert place .int false) (.scalar .int)))

/-- A sample of a texture. -/
def addSample (sample : Sample Operand) (type : Ty) : FlatM Operand := do
  match ← operandType sample.image with
  | .image image => do
    let (coordinate, layer) ← addCoordinates image.dimension sample.coordinate sample.layer
    addNode (.sample { sample with coordinate, layer }) type
  | _ => demand none

/-- A texel by its place. -/
def addFetch (fetch : Fetch Operand) (type : Ty) : FlatM Operand := do
  match ← operandType fetch.image with
  | .image image => do
    let (coordinate, layer) ← addCoordinates image.dimension fetch.coordinate fetch.layer
    addNode (.fetch { fetch with coordinate, layer }) type
  | _ => demand none

/-- How many bits of a number a range of bits has at most, given where the range starts and how many
are asked for: where it starts, kept within the number, and how many there are. -/
def addBitRange (start count : Operand) : FlatM (Operand × Operand) := do
  let width ← Operand.constant <$> addLiteralConstant (.uint 32)
  let type : Ty := .scalar .uint
  let start ← addNode (.intrinsic "min".toList [start, width]) type
  let room ← addNode (.binary .subtract width start) type
  let count ← addNode (.intrinsic "min".toList [count, room]) type
  return (start, count)

/-- A call of a function of the language.  Whole numbers are kept within bounds one bound after the
other. -/
def addCall (function : Intrinsic) (arguments : List Operand) (type : Ty) : FlatM Operand := do
  match arguments with
  | [value, low, high] =>
    if function = "clamp".toList ∧ type.kind? ≠ some .float then
      let above ← addNode (.intrinsic "max".toList [value, low]) type
      addNode (.intrinsic "min".toList [above, high]) type
    else if function = "bitfieldExtract".toList then
      let (start, count) ← addBitRange low high
      addNode (.intrinsic function [value, start, count]) type
    else addNode (.intrinsic function arguments) type
  | [value, inserted, start, count] =>
    if function = "bitfieldInsert".toList then
      let (start, count) ← addBitRange start count
      addNode (.intrinsic function [value, inserted, start, count]) type
    else addNode (.intrinsic function arguments) type
  | _ => addNode (.intrinsic function arguments) type

/-- An operation on operands. -/
def addOperation (operation : Operation Operand) (type : Ty) : FlatM Operand :=
  match operation with
  | .compose parts => addComposed type parts
  | .binary op left right => addOperator op type left right
  | .convert operand kind false => addConverted kind operand
  | .sample sample => addSample sample type
  | .fetch fetch => addFetch fetch type
  | .imageLayers _ => demand none
  | .intrinsic function arguments => addCall function arguments type
  | operation => addNode operation type

/-! ## Statements -/

/-- Computing a value where its place is.  Constants are there already, pointers are made where they
are used, and what nothing refers to is left out. -/
def computeValue (index : Nat) : FlattenM (List (Step Operand)) := do
  let context ← read
  if context.constants.getD index false ∨ context.counts.getD index 0 = 0 then return []
  let value ← valueOf index
  addType value.type
  if value.type.isPointer then return []
  let first := (← getThe FlatDraft).nodes.size
  let operand ← match value.operation with
    | .load pointer => do addNode (.load (← pointerOperand pointer)) value.type
    | .arrayLength pointer => do
      match ← pathOf (pointer + 1) pointer with
      | (root, [.part index]) => do
        let place ← addNode (.part root index) (← valueOf pointer).type
        addNode (.arrayLength place) value.type
      | _ => demand none
    | operation => do
      let computed ← get
      let references := operation.references
      if references.all fun r => (computed.getD r none).isSome then
        addOperation (operation.map fun r => (computed.getD r none).getD (.node 0)) value.type
      else demand none
  settleAs index operand
  let last := (← getThe FlatDraft).nodes.size
  return (List.range' first (last - first)).map fun n => .compute (.node n)

/-- The nodes made by something, as steps ahead of it. -/
def withNodes (act : FlattenM α) : FlattenM (List (Step Operand) × α) := do
  let first := (← getThe FlatDraft).nodes.size
  let result ← act
  let last := (← getThe FlatDraft).nodes.size
  return ((List.range' first (last - first)).map fun n => .compute (.node n), result)

/-- Storing a value. -/
def storeValue (pointer value : Nat) : FlattenM (List (Step Operand)) := do
  let value ← operandOf value
  let (steps, place) ← withNodes (pointerOperand pointer)
  return steps ++ [.store place value]

/-- The operand of an argument.  Only whole variables are passed by reference. -/
def argumentOperand (value : Nat) : FlattenM Operand := do
  if (← valueOf value).type.isPointer then
    match ← pathOf (value + 1) value with
    | (root, []) => return root
    | _ => demand none
  else operandOf value

/-- Calling a function. -/
def callRoutine (routine : Nat) (arguments : List Nat) (result : Option Nat) :
    FlattenM (List (Step Operand)) := do
  let arguments ← arguments.mapM argumentOperand
  let operand ← result.mapM fun value => do
    let type := (← valueOf value).type
    let operand ← addNode (.result routine) type
    settleAs value operand
    return operand
  return [.call routine arguments operand]

/-- Storing a member of what the main function leaves behind.  A depth is kept within its
bounds. -/
def storeOutput (value : Operand) (index : Nat) (channel : Channel) :
    FlatM (List (Step Operand)) := do
  let part ← addNode (.part value index) channel.type
  let place := Operand.global channel.global
  let stored : List (Step Operand) := [.compute part, .store place part]
  if channel.binding.builtin? = some "gl_FragDepth".toList then
    let low ← addLiteralConstant (.zero .float)
    let high ← addLiteralConstant (.one .float)
    let old ← addNode (.load place) .float
    let new ← addNode (.intrinsic "clamp".toList [old, .constant low, .constant high]) .float
    return stored ++ [.compute old, .compute new, .store place new]
  else return stored

/-- Returning.  The routine around the main function stores the outputs instead. -/
def returnValue (value : Option Nat) : FlattenM (List (Step Operand)) := do
  let outputs := (← read).outputs
  match value with
  | none => return [.return none]
  | some value => do
    let operand ← operandOf value
    if outputs.isEmpty then return [.return (some operand)]
    else
      let steps ← outputs.zipIdx.mapM fun (channel, index) => storeOutput operand index channel
      return steps.flatten ++ [.return none]

/-- Statements, with one after them if their end can be reached. -/
def endWith (last : Step Operand) (steps : List (Step Operand)) : List (Step Operand) :=
  if steps.getLast?.any Step.isFinal then steps else steps ++ [last]

/-- What comes after the statements of a body. -/
inductive Ending where
  /-- The function returns. -/
  | returns
  /-- The loop goes on. -/
  | repeats
  /-- The choice is left. -/
  | leaves
  /-- Whatever comes after the body. -/
  | joins
deriving DecidableEq, Repr

/-- A case, with the steps that it has come to.  `shares` says that it has none of its own, and those
of the next case instead. -/
structure FlatCase where
  number : Option Literal
  shares : Bool
  steps : List (Step Operand)

/-- A literal as a number with a sign. -/
def signedNumber : Literal → Literal
  | .uint n => .int (if n < 2147483648 then n else (n : Int) - 4294967296)
  | literal => literal

/-- The cases that share steps.  Where the case for all other numbers is among them it has the steps,
and the others come to it. -/
def sharedCases (numbers : List (Option Literal)) (steps : List (Step Operand)) :
    List (Option Literal × List (Step Operand) × Bool) :=
  let literals := (numbers.filterMap id).map fun literal => some (signedNumber literal)
  let empty := literals.tail.map fun literal => (literal, ([] : List (Step Operand)), true)
  let isOpen := !steps.getLast?.any Step.isFinal
  match literals with
  | [] => []
  | first :: _ =>
    if numbers.contains none then empty ++ [(first, [], true)]
    else empty ++ [(first, steps, isOpen)]

/-- The cases of a choice, those that share steps side by side, and the case for all other numbers at
the end. -/
def arrangeCases : List (Option Literal) → List FlatCase →
    List (Option Literal × List (Step Operand) × Bool) × List (Step Operand)
  | _, [] => ([], [])
  | shared, current :: rest =>
    if current.shares then arrangeCases (shared ++ [current.number]) rest
    else
      let numbers := shared ++ [current.number]
      let (cases, last) := arrangeCases [] rest
      (sharedCases numbers current.steps ++ cases,
        if numbers.contains none then current.steps else last)

/-- The number that a choice goes by, which has a sign. -/
def addSelector (selector : Operand) : FlatM Operand := do
  if (← operandType selector) = .scalar .uint then
    addNode (.convert selector .int true) (.scalar .int)
  else return selector

mutual

/-- A statement, given what comes after the body it is in.  What comes after a block that nothing
gets out of is lost, which is only right where it makes no difference. -/
def flattenStep (ending : Ending) : Step Nat → FlattenM (List (Step Operand))
  | .compute value => computeValue value
  | .store pointer value => storeValue pointer value
  | .call routine arguments result => callRoutine routine arguments result
  | .block steps =>
    if ending ≠ .joins ∧ closesLast steps then demand none else flattenSteps .joins steps
  | .ifElse condition accepted rejected => do
    let condition ← operandOf condition
    let first ← flattenSteps .joins accepted
    let second ← flattenSteps .joins rejected
    if accepted.isEmpty ∧ rejected.isEmpty then return []
    else return [.ifElse condition first second]
  | .choice selector cases => do
    let selector ← operandOf selector
    let (steps, selector) ← withNodes (addSelector selector)
    let (numbered, last) := arrangeCases [] (← flattenCases cases)
    return steps ++ [.choice selector (Choices.ofList (numbered ++ [(none, last, false)]))]
  | .loop body continuing => do
    let steps ← flattenSteps .repeats body
    let between ← flattenSteps .joins continuing
    return [.loop (endWith .continue steps) between]
  | .return value => returnValue value
  | .break => return [.break]
  | .continue => return [.continue]
  | .discard => return [.discard]

/-- The cases of a choice. -/
def flattenCases : Choices Nat → FlattenM (List FlatCase)
  | .nil => return []
  | .cons number steps fallsThrough rest => do
    let flat ← flattenSteps (if fallsThrough then .joins else .leaves) steps
    let ended := if fallsThrough then flat else endWith .break flat
    let first : FlatCase := { number, shares := steps.isEmpty && fallsThrough, steps := ended }
    return first :: (← flattenCases rest)

/-- Statements. -/
def flattenSteps (ending : Ending) : List (Step Nat) → FlattenM (List (Step Operand))
  | [] => return []
  | step :: rest => do
    let first ← flattenStep ending step
    return first ++ (← flattenSteps ending rest)

end

/-! ## Whole functions -/

/-- Which values of a function are constants. -/
def constantFlags (values : List (Value Nat)) : Array Bool :=
  values.foldl (fun flags value => flags.push (value.operation.isConstant (flags.getD · false))) #[]

/-- What a constant value of a function stands for. -/
def constantOperand (shader : Shader) (computed : Computed) (value : Value Nat) :
    FlatM (Option Operand) := do
  match value.operation with
  | .literal literal => return some (.constant (← addLiteralConstant literal))
  | .constant index => do
    let named ← demand shader.constants[index]?
    return some (.constant (← demand (← get).pool[named.value]?))
  | .compose parts => do
    let parts ← demand (parts.mapM fun part => constantPart (computed.getD part none))
    return some (.constant (← addConstant value.type (.compose parts false)))
  | .splat part => do
    let part ← demand (constantPart (computed.getD part none))
    return some (.constant
      (← addRepeated (value.type.size?.getD 1) part (value.type.kind?.getD .float)))
  | _ => return none
where
  /-- The constant that a part is. -/
  constantPart : Option Operand → Option Nat
    | some (.constant index) => some index
    | _ => none

/-- The values that are there from the start: constants, and what stands for variables of the shader
and arguments.  Only what is referred to is listed. -/
def givenValues (shader : Shader) (values : List (Value Nat)) (flags : Array Bool)
    (counts : Array Nat) (arguments : List Operand) : FlatM Computed :=
  values.zipIdx.foldlM (fun computed (value, index) => do
    if counts.getD index 0 = 0 then return computed.push none
    else
      match value.operation with
      | .global g => do
        addType value.type
        return computed.push (if value.type.isPointer then none else some (.global g))
      | .argument a => do
        addType value.type
        return computed.push arguments[a]?
      | _ =>
        if flags.getD index false then
          addType value.type
          return computed.push (← constantOperand shader computed value)
        else return computed.push none) #[]

/-- The statements of a function, which return at their end if that can be reached: with a value of
zeros where there is a result. -/
def finishBody (result : Option Ty) (steps : List (Step Operand)) :
    FlatM (List (Step Operand)) := do
  if steps.getLast?.any Step.isFinal then return steps else
  let value ← result.mapM fun type => Operand.constant <$> addNull type
  return steps ++ [.return value]

/-- A function.  `inputs` and `outputs` are given for the routine around the main function, which
reads its arguments from variables. -/
def flattenRoutine (shader : Shader) (used : List Nat) (isEntry : Bool)
    (inputs outputs : List Channel) (routine : Routine Nat) : FlatM (Routine Operand) := do
  modify ({ · with nodes := #[] })
  let flags := constantFlags routine.values
  let counts := tally routine.values.length routine.references
  routine.arguments.forM fun argument => addType argument.type
  let arguments ← if isEntry then pure []
    else routine.arguments.zipIdx.mapM fun (argument, index) =>
      addNode (.argument index) argument.type
  let wrapped := shader.globals.zipIdx.filter fun (v, index) =>
    used.contains index && needsWrapper shader.structures v
  wrapped.forM fun (v, _) => do
    addType (.pointer v.type v.space)
    let _ ← addIndexConstant 0
  let placed := arguments.length + 2 * routine.locals.length
  let loads := (List.range inputs.length).map fun k => Operand.node (placed + k)
  let given ← givenValues shader routine.values flags counts (arguments ++ loads)
  let locals ← routine.locals.mapM fun v => do
    addType (.pointer v.type .function)
    let initial ← match v.initial with
      | some value => demand ((given.getD value none).bind fun
          | .constant index => some index
          | _ => none)
      | none => addOwnNull v.type
    return (({ name := v.name, type := v.type, initial := some (.constant initial) } :
      LocalVariable Operand), initial)
  let order := tableOrder locals.length
  let listed ← demand (order.mapM (locals[·]?))
  let nodes ← listed.zipIdx.mapM fun ((v, initial), index) => do
    let _ ← addNode (.constant initial) v.type
    addNode (.slot index) (.pointer v.type .function)
  let slots ← demand ((List.range locals.length).mapM fun index => (order.zip nodes).lookup index)
  let first := (← get).nodes.size
  inputs.forM fun channel => do
    let _ ← addNode (.load (.global channel.global)) channel.type
  let prelude ← wrapped.mapM fun (v, index) => do
    return (index, ← addNode (.part (.global index) 0) (.pointer v.type v.space))
  let last := (← get).nodes.size
  let roots := prelude ++ (List.range shader.globals.length).map fun g => (g, .global g)
  let context : FlatContext :=
    { values := routine.values.toArray, constants := flags, counts, roots, slots, outputs }
  let (steps, _) ← ((flattenSteps .returns routine.body).run context).run given
  let opening := (List.range' first (last - first)).map fun n => Step.compute (.node n)
  let result := if isEntry then none else routine.result
  let body ← finishBody result steps
  return {
    name := routine.name
    arguments := if isEntry then [] else routine.arguments
    result
    locals := listed.map Prod.fst
    values := (← get).nodes.toList
    body := opening ++ body }

/-- A shader in the flat form. -/
def flattenShader (shader : Shader) : FlatM FlatProgram := do
  shader.types.forM addType
  shader.pool.forM addPoolValue
  shader.constants.forM nameConstant
  shader.globals.forM addGlobalVariable
  let used := usedByAll shader.routines
  let routines ← (shader.routines.zip used).mapM fun (routine, used) =>
    flattenRoutine shader used false [] [] routine
  let inputs ← shader.inputs.mapM addChannelVariable
  let outputs ← shader.outputs.mapM addChannelVariable
  let entry ← flattenRoutine shader (usedGlobals used shader.entry) true inputs outputs shader.entry
  let draft ← get
  return {
    stage := shader.stage
    types := draft.types
    structures := draft.structures
    constants := draft.constants.toList
    globals := draft.globals.toList
    routines, entry, inputs, outputs
    groupSize := shader.groupSize
    earlyTests := shader.earlyTests }

/-- The flat form of a shader. -/
def flatten? (shader : Shader) : Option FlatProgram := do
  let (program, _) ← (flattenShader shader).run { structures := shader.structures }
  return program

end GlBridge.Essl
