import GlBridge.Essl.Shader

/-!
# The flat form

The second form of a program.  All constants are in one pool, where equal ones are one.  Resources
that are no structures are members of a structure made for them.  Types are listed as they come up,
and nothing is computed that is not needed.  A value is a node of its function, and each step to a
part of a variable is a node too, so the numbers of nodes say how a program came about.

* `Operand` — what values refer to in this form;
* `PoolConstant`, `FlatProgram` — constants, and programs;
* `FlatM` — something done to a program in the making;
* `addType`, `addConstant`, `addNull`, `addGlobalVariable` — what functions share.
-/

namespace GlBridge.Essl

/-- What a value in the flat form refers to. -/
inductive Operand where
  | global (index : Nat)
  | constant (index : Nat)
  | node (index : Nat)
deriving DecidableEq, Repr

namespace Operand

/-- The number of a node. -/
def node? : Operand → Option Nat
  | node index => some index
  | _ => none

end Operand

/-- What a constant is. -/
inductive PoolValue where
  | literal (value : Literal)
  /-- `repeated` says that the parts were given once for all. -/
  | compose (parts : List Nat) (repeated : Bool)
  /-- All zero.  One that is not shared stands for a variable of its own. -/
  | null (shared : Bool)
deriving DecidableEq, Repr

/-- A constant that functions share. -/
structure PoolConstant where
  type : Ty
  value : PoolValue
  name : Option Text := none
deriving DecidableEq, Repr

/-- A program in the flat form.  The inputs and outputs are kept in variables of their own, after
all others. -/
structure FlatProgram where
  stage : Stage
  types : List Ty
  structures : Structures
  constants : List PoolConstant
  globals : List Variable
  routines : List (Routine Operand)
  entry : Routine Operand
  inputs : List Channel
  outputs : List Channel
  groupSize : List (Text × Nat)
  earlyTests : Bool
deriving Repr

/-- A program in the making. -/
structure FlatDraft where
  types : List Ty := []
  structures : Structures
  constants : Array PoolConstant := #[]
  globals : Array Variable := #[]
  /-- The constants that stand for the values outside of functions. -/
  pool : Array Nat := #[]
  /-- The nodes of the function. -/
  nodes : Array (Value Operand) := #[]

/-- Something done to a program in the making. -/
abbrev FlatM := StateT FlatDraft Option

/-- The value, or else there is no program. -/
def demand (value : Option α) : FlatM α := fun draft => value.map (·, draft)

/-! ## Types and constants -/

/-- Listing a type. -/
def insertType (type : Ty) : FlatM Unit :=
  modify fun draft => { draft with types := insertNew draft.types type }

/-- A constant, added unless there is an equal one. -/
def addConstant (type : Ty) (value : PoolValue) : FlatM Nat := do
  let constants := (← get).constants
  match constants.findIdx? fun c => c.type == type && c.value == value with
  | some index => return index
  | none =>
    modify fun draft => { draft with constants := draft.constants.push { type, value } }
    return constants.size

/-- A literal as a constant. -/
def addLiteralConstant (value : Literal) : FlatM Nat := do
  insertType (.scalar value.kind)
  addConstant (.scalar value.kind) (.literal value)

/-- An index as a constant. -/
def addIndexConstant (index : Nat) : FlatM Nat := addLiteralConstant (.uint index)

/-- Listing a type after the types that it is made of. -/
def addType : Ty → FlatM Unit
  | .scalar kind => insertType (.scalar kind)
  | .vector size kind => do
    insertType (.scalar kind)
    insertType (.vector size kind)
  | .matrix columns rows => do
    insertType .float
    insertType (.vector rows .float)
    insertType (.matrix columns rows)
  | .array element length stride => do
    addType element
    length.forM fun n => do
      let _ ← addIndexConstant n
    insertType (.array element length stride)
  | .structure index => insertType (.structure index)
  | .image type => do
    insertType (.scalar type.kind)
    insertType (Ty.ofSize type.dimension.coordinates .float)
    insertType (.image type)
  | .sampler _ => insertType (.sampler false)
  | .pointer target space => do
    addType target
    if space ≠ .handle then insertType (.pointer target space)

/-- The constant zero of a type. -/
def addNull (type : Ty) : FlatM Nat := do
  addType type
  addConstant type (.null true)

/-- The constant zero of a type, for one variable alone. -/
def addOwnNull (type : Ty) : FlatM Nat := do
  addType type
  let index := (← get).constants.size
  modify fun draft =>
    { draft with constants := draft.constants.push { type, value := .null false } }
  return index

/-- A constant of equal components. -/
def addRepeated (size : Nat) (part : Nat) (kind : Scalar) : FlatM Nat := do
  addType (.vector size kind)
  addConstant (.vector size kind) (.compose (List.replicate size part) true)

/-- A constant that is a literal, or a vector of it. -/
def addUniform (type : Ty) (value : Literal) : FlatM Nat := do
  let part ← addLiteralConstant value
  match type with
  | .vector size _ => addRepeated size part value.kind
  | _ => return part

/-- Adding a value outside of functions. -/
def addPoolValue (value : Value Nat) : FlatM Unit := do
  addType value.type
  let pool := (← get).pool
  let index ← match value.operation with
    | .literal literal => addLiteralConstant literal
    | .compose parts => do
      addConstant value.type (.compose (← demand (parts.mapM (pool[·]?))) false)
    | .splat part => do
      addRepeated (value.type.size?.getD 1) (← demand pool[part]?) (value.type.kind?.getD .float)
    | _ => demand none
  modify fun draft => { draft with pool := draft.pool.push index }

/-- Giving a constant its name. -/
def nameConstant (constant : NamedConstant) : FlatM Unit := do
  let index ← demand (← get).pool[constant.value]?
  modify fun draft => { draft with
    constants := draft.constants.modify index ({ · with name := some constant.name }) }

/-! ## Variables -/

/-- Whether the application sets what is in the memory. -/
def Space.isResource : Space → Bool
  | uniform => true
  | storage _ _ => true
  | _ => false

/-- Whether a resource becomes the only member of a structure made for it. -/
def needsWrapper (structures : Structures) (v : Variable) : Bool :=
  v.space.isResource &&
    match v.type with
    | .structure index => !(structures[index]?).any Structure.endsUnsized
    | _ => true

/-- The structure with one member without a name. -/
def addWrapper (type : Ty) : FlatM Ty := do
  let structures := (← get).structures
  let span := roundUp (alignmentOf structures typeDepthLimit type) (sizeInMemory structures type)
  let entry : Structure := { name := none, members := [{ name := none, type }], span }
  match structures.findIdx? (· == entry) with
  | some index => return .structure index
  | none =>
    modify fun draft => { draft with structures := draft.structures ++ [entry] }
    return .structure structures.length

/-- Adding a variable of the shader. -/
def addGlobalVariable (v : Variable) : FlatM Unit := do
  let wraps := needsWrapper (← get).structures v
  let type ← if wraps then addWrapper v.type else pure v.type
  addType (.pointer type v.space)
  if v.space = .shader ∧ v.initial.isNone then
    let _ ← addNull type
  let pool := (← get).pool
  let initial ← v.initial.mapM fun index => demand pool[index]?
  modify fun draft => { draft with globals := draft.globals.push { v with type, initial } }

/-- Adding the variable of an input or an output. -/
def addChannelVariable (channel : Channel) : FlatM Channel := do
  let index := (← get).globals.size
  addType (.pointer channel.type .shader)
  let v : Variable := { name := some channel.name, space := .shader, type := channel.type }
  modify fun draft => { draft with globals := draft.globals.push v }
  return { channel with global := index }

/-! ## Nodes -/

/-- A new node of the function. -/
def addNode (operation : Operation Operand) (type : Ty) : FlatM Operand := do
  let index := (← get).nodes.size
  modify fun draft => { draft with nodes := draft.nodes.push { operation, type } }
  return .node index

/-- The type of an operand. -/
def operandType? (globals : Array Variable) (constants : Array PoolConstant)
    (nodes : Array (Value Operand)) : Operand → Option Ty
  | .global index => (globals[index]?).map fun v =>
      if v.space = .handle then v.type else .pointer v.type v.space
  | .constant index => (constants[index]?).map PoolConstant.type
  | .node index => (nodes[index]?).map Value.type

/-- The type of an operand. -/
def operandType (operand : Operand) : FlatM Ty := do
  let draft ← get
  demand (operandType? draft.globals draft.constants draft.nodes operand)

end GlBridge.Essl
