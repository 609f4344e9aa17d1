import GlBridge.Essl.Constant

/-!
# Names

What a shader declares is known in all functions after it.  Every function starts with values for
all that is known so far, and what is declared inside of it comes ahead of that.

* `enterFunction` — the start of a function;
* `outside` — values outside of functions;
* `declareName`, `reference?` — names.
-/

namespace GlBridge.Essl

/-- The value that stands for a variable of the shader. -/
def addGlobal (index : Nat) : BuildM Nat := do
  let known ← require (← get).shader.globals[index]?
  append (.global index)
    (if known.space = .handle then known.type else .pointer known.type known.space)

/-- Making a name of the shader known to the function. -/
def enterName (name : Text) (symbol : Symbol) : BuildM Unit := do
  let reference ← match symbol with
    | .global index writable => do
      let value ← addGlobal index
      pure { value, isPlace := (← typeOf value).isPointer, writable : Reference }
    | .member index part writable => do
      let value ← addPart (← addGlobal index) part
      pure { value, isPlace := !(← typeOf value).held.isUnsized, writable }
    | .constant index => do
      let constant ← require (← get).shader.constants[index]?
      let value ← append (.constant index) constant.type
      pure { value, isPlace := false, writable := false }
  modifyFunction fun function =>
    { function with shaderNames := (name, reference) :: function.shaderNames }

/-- Starting a function: all names of the shader are known in it. -/
def enterFunction : BuildM Unit := do
  modify fun draft => { draft with function := {} }
  (← get).shader.names.forM fun (name, symbol) => enterName name symbol

/-- Making a name known to the shader. -/
def declareName (name : Text) (symbol : Symbol) : BuildM Unit :=
  modifyShader fun shader => { shader with names := shader.names ++ [(name, symbol)] }

/-- What a name stands for. -/
def reference? (name : Text) : BuildM (Option Reference) := do
  let function := (← get).function
  return (function.scopes.findSome? (·.lookup name)).orElse fun _ =>
    function.shaderNames.lookup name

/-- Doing something in a function of its own that is forgotten afterwards. -/
def aside (act : BuildM α) : BuildM α := do
  let outer := (← get).function
  enterFunction
  let result ← act
  modifyFunction fun _ => outer
  return result

/-- The constant that something computes, put among the values outside of functions with all
constants that are computed on the way: its index. -/
def outside (act : BuildM Nat) : BuildM Nat := aside do
  modifyFunction ({ · with outside := true })
  let value ← throughName (← act)
  if !(← isConstant value) then reject
  let function := (← get).function
  let kept : List Bool := (function.values.zipWith
    (fun entry constant => constant && !entry.operation.isNamed) function.constants).toList
  let offset := (← get).shader.pool.length
  let place (index : Nat) : Nat := offset + ((kept.take index).filter id).length
  let entries := (function.values.toList.zip kept).filterMap fun (entry, keep) =>
    if keep then some { entry with operation := entry.operation.map place } else none
  modifyShader fun shader => { shader with pool := shader.pool ++ entries }
  return place value

/-- The whole number that a value outside of functions is, which must not be negative. -/
def numberOutside (act : BuildM Nat) : BuildM Nat := do
  let index ← outside act
  let value ← require (← get).shader.pool[index]?
  match value.operation with
  | .literal literal => require (literalIndex? literal)
  | _ => reject

end GlBridge.Essl
