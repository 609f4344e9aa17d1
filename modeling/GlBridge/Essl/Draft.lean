import GlBridge.Essl.Program
import GlBridge.Essl.Intrinsic.Form
import GlBridge.Glsl.Stage

/-!
# Drafts of programs

A shader is turned into a program declaration by declaration, and a function value by value.  A
draft is what there is of it so far.  Values outside of functions are drafted like those of a
function of their own, in which all of them have to be constants.

* `Symbol`, `ShaderDraft`, `FunctionDraft` — what names stand for, and the drafts;
* `BuildM` — something done to the drafts, which may find the shader wrong;
* `append` — a new value of the function;
* `inBranch` — statements of their own;
* `enterFunction` — the start of a function.
-/

namespace GlBridge.Essl

/-- What a name stands for outside of functions. -/
inductive Symbol where
  /-- A variable of the shader. -/
  | global (index : Nat) (writable : Bool)
  /-- A member of a block without a name. -/
  | member (global index : Nat) (writable : Bool)
  | constant (index : Nat)
deriving DecidableEq, Repr

/-- What a name stands for in a function. -/
structure Reference where
  value : Nat
  /-- Whether the value is a pointer to what is meant. -/
  isPlace : Bool
  writable : Bool
deriving DecidableEq, Repr

/-- A constant with a name. -/
structure NamedConstant where
  name : Text
  type : Ty
  /-- The index of its value among those outside of functions. -/
  value : Nat
deriving DecidableEq, Repr

/-- What a function of the shader is called with. -/
structure FormalParameter where
  type : Ty
  passing : Passing := .input
deriving DecidableEq, Repr

/-- What a call leads to. -/
inductive Callee where
  /-- A function of the shader. -/
  | routine (index : Nat) (result : Option Ty)
  /-- A function of the language. -/
  | action (action : Action)
deriving DecidableEq, Repr

/-- A function that can be called with arguments of certain types. -/
structure Signature where
  name : Text
  parameters : List FormalParameter
  callee : Callee
  /-- Whether the shader has defined it. -/
  defined : Bool := false
deriving DecidableEq, Repr

/-- What there is of a shader. -/
structure ShaderDraft where
  stage : Stage
  /-- The types that are mentioned, each once. -/
  types : List Ty := []
  structures : Structures := []
  /-- The structures that names stand for, the last one first. -/
  typeNames : List (Text × Nat) := []
  /-- The values outside of functions, all of them constants.  Their references are indices. -/
  pool : List (Value Nat) := []
  globals : List Variable := []
  channels : List Channel := []
  constants : List NamedConstant := []
  names : List (Text × Symbol) := []
  signatures : List Signature := []
  routines : List (Routine Nat) := []
  /-- The names whose forms have become known, with the variations among them. -/
  variations : List (Text × Variation) := []
  /-- The size of a work group. -/
  groupSize : List (Text × Nat) := []
  /-- Whether fragments are tested before the shader is run for them. -/
  earlyTests : Bool := false

/-- What there is of a function. -/
structure FunctionDraft where
  values : Array (Value Nat) := #[]
  constants : Array Bool := #[]
  locals : List (LocalVariable Nat) := []
  /-- The statements of the innermost body, the last one first. -/
  steps : List (Step Nat) := []
  /-- The names that the function gives, scope by scope, the innermost first. -/
  scopes : List (List (Text × Reference)) := [[]]
  /-- The names that the shader gives. -/
  shaderNames : List (Text × Reference) := []
  /-- The samplers that textures are used with. -/
  samplers : List (Nat × Nat) := []
  /-- Whether the innermost body is inside a loop. -/
  inLoop : Bool := false
  /-- Whether the values stand outside of functions, so that all of them have to be constants. -/
  outside : Bool := false

/-- Both drafts. -/
structure Draft where
  shader : ShaderDraft
  function : FunctionDraft := {}

/-- Something done to the drafts. -/
abbrev BuildM := StateT Draft Option

/-- Finding the shader wrong. -/
def reject : BuildM α := fun _ => none

/-- The value, or else the shader is wrong. -/
def require (value : Option α) : BuildM α := fun draft => value.map (·, draft)

/-- Changing the draft of the shader. -/
def modifyShader (change : ShaderDraft → ShaderDraft) : BuildM Unit :=
  modify fun draft => { draft with shader := change draft.shader }

/-- Changing the draft of the function. -/
def modifyFunction (change : FunctionDraft → FunctionDraft) : BuildM Unit :=
  modify fun draft => { draft with function := change draft.function }

/-- A list with an element added unless it is there. -/
def insertNew [DecidableEq α] (elements : List α) (a : α) : List α :=
  if a ∈ elements then elements else elements ++ [a]

/-- Mentioning a type. -/
def mention (type : Ty) : BuildM Unit :=
  modifyShader fun shader => { shader with types := insertNew shader.types type }

/-- Mentioning types. -/
def mentionAll (types : List Ty) : BuildM Unit := types.forM mention

/-- The structures declared so far. -/
def structures : BuildM Structures := do return (← get).shader.structures

/-! ## Values -/

/-- A value of the function. -/
def valueAt (value : Nat) : BuildM (Value Nat) := do require (← get).function.values[value]?

/-- The type of a value. -/
def typeOf (value : Nat) : BuildM Ty := do return (← valueAt value).type

/-- The operation of a value. -/
def operationOf (value : Nat) : BuildM (Operation Nat) := do return (← valueAt value).operation

/-- Whether a value is a constant. -/
def isConstant (value : Nat) : BuildM Bool := do
  return (← get).function.constants.getD value false

mutual

/-- Whether nothing after a statement is reached for how it is written. -/
def closes : Step ρ → Bool
  | .block steps => closesLast steps
  | step => step.isFinal

/-- Whether nothing after statements is reached for how the last one is written. -/
def closesLast : List (Step ρ) → Bool
  | [] => false
  | [step] => closes step
  | _ :: rest => closesLast rest

end

/-- Ending the innermost body with a statement, unless the body cannot get there. -/
def push (step : Step Nat) : BuildM Unit :=
  modifyFunction fun function =>
    if function.steps.head?.any closes then function
    else { function with steps := step :: function.steps }

/-- A new value that is computed here, unless it is given from the start.  Outside of functions only
constants are computed. -/
def append (operation : Operation Nat) (type : Ty) : BuildM Nat := do
  let function := (← get).function
  let value := function.values.size
  let constant := operation.isConstant fun part => function.constants.getD part false
  if function.outside ∧ !constant ∧ !operation.isGiven then reject
  modifyFunction fun function => { function with
    values := function.values.push { operation, type }
    constants := function.constants.push constant }
  if !operation.isGiven then push (.compute value)
  return value

/-- The value that a variable holds. -/
def addLoad (pointer : Nat) : BuildM Nat := do
  match ← typeOf pointer with
  | .pointer target space =>
    if space.isReadable ∧ isSized (← structures) target then append (.load pointer) target
    else reject
  | _ => reject

/-! ## Statements -/

/-- Statements of their own. -/
def inBranch (act : BuildM α) : BuildM (α × List (Step Nat)) := do
  let outer := (← get).function
  modifyFunction ({ · with steps := [] })
  let result ← act
  let inner := (← get).function
  modifyFunction ({ · with steps := outer.steps, inLoop := outer.inLoop })
  return (result, inner.steps.reverse)

/-- More statements after those of a branch. -/
def continueBranch (steps : List (Step Nat)) (act : BuildM α) : BuildM (α × List (Step Nat)) := do
  let (result, more) ← inBranch act
  return (result, steps ++ more)

/-- A new variable of the function, and the value that points to it. -/
def addVariable (name : Option Text) (type : Ty) (initial : Option Nat) : BuildM Nat := do
  let index := (← get).function.locals.length
  modifyFunction fun function =>
    { function with locals := function.locals ++ [{ name, type, initial }] }
  append (.slot index) (.pointer type .function)

/-! ## Scopes -/

/-- Doing something in a scope of its own: names that are given in it are forgotten afterwards. -/
def inScope (act : BuildM α) : BuildM α := do
  modifyFunction fun function => { function with scopes := [] :: function.scopes }
  let result ← act
  modifyFunction fun function => { function with scopes := function.scopes.tail }
  return result

/-- Giving a name to something in the innermost scope. -/
def bind (name : Text) (reference : Reference) : BuildM Unit :=
  modifyFunction fun function => { function with
    scopes := ((name, reference) :: function.scopes.headD []) :: function.scopes.tail }

/-- Giving a name that the innermost scope has not given yet. -/
def bindNew (name : Text) (reference : Reference) : BuildM Unit := do
  let scope := (← get).function.scopes.headD []
  if (scope.lookup name).isSome then reject else bind name reference

end GlBridge.Essl
