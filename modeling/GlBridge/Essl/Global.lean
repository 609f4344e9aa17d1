import GlBridge.Essl.Statement

/-!
# Declarations outside of functions

Variables, constants, blocks and functions.  What is said ahead of a type is used by the first
variable that is declared; the others of the same declaration have to do without it.

* `declareGlobals` — variables and constants;
* `declareBlock` — blocks;
* `declareFunction` — functions with their bodies;
* `declare` — any declaration.
-/

namespace GlBridge.Essl

/-! ## Variables -/

/-- A new variable of the shader: its index. -/
def addVariableOf (draft : Variable) : BuildM Nat := do
  let structures ← structures
  if !suitsSpace structures draft.space draft.type then reject
  let index := (← get).shader.globals.length
  modifyShader fun shader => { shader with globals := shader.globals ++ [draft] }
  return index

/-- The result of something if it succeeds.  Otherwise nothing is changed. -/
def attempt (act : BuildM α) : BuildM (Option α) := fun draft =>
  match act draft with
  | some (a, changed) => some (some a, changed)
  | none => some (none, draft)

/-- What a variable starts with: the index of a constant outside of functions.  What is not a constant
is left out. -/
def initialOf (type : Ty) (initial : Initializer) : BuildM (Option Nat) := aside do
  let value ← lowerInitializer type initial
  let index ← attempt (lift liftLimit value)
  if index.isSome ∧ (← typeOf value) ≠ type then reject
  return index

/-- The group and the binding that are asked for. -/
def resourceKey (marks : Marks) : BuildM ((Nat × Nat) × Marks) := do
  let (binding, marks) ← marks.number? "binding".toList
  let (group, marks) ← marks.number? "set".toList
  return ((group.getD 0, ← require binding), marks)

/-- What is the interpolation of an input or an output of a type if nothing is said. -/
def defaultInterpolation (type : Ty) : Option Interpolation :=
  type.kind?.map fun kind => if kind = .float then .smooth else .flat

/-- An input or an output: its index and what is left of the marks. -/
def addChannel (marks : Marks) (isInput : Bool) (name : Option Text) (type : Ty)
    (initial : Option Nat) : BuildM (Nat × Marks) := do
  let (location, marks) ← marks.number? "location".toList
  let interpolation := marks.interpolation.orElse fun _ => defaultInterpolation type
  let index ← addVariableOf { name, space := .shader, type, initial }
  let channel : Channel :=
    { name := name.getD [], global := index, type, isInput
      binding := .location (location.getD 0) interpolation marks.sampling }
  modifyShader fun shader => { shader with channels := shader.channels ++ [channel] }
  return (index, { marks with interpolation := none, sampling := none })

/-- The memory that a variable is in, and what is left of the marks. -/
def spaceOf (marks : Marks) (storage : Storage) (type : Ty) : BuildM (Space × Marks) := do
  match storage with
  | .plain => return (.shader, marks)
  | .shared => return (.workGroup, marks)
  | .uniform =>
    if type.isHandle then return (.handle, marks)
    else
      let (constant, marks) ← marks.flag "push_constant".toList
      if constant then reject else return (.uniform, marks)
  | .buffer =>
    return (.storage (!marks.writeOnly) (!marks.readOnly),
      { marks with readOnly := false, writeOnly := false })
  | _ => reject

/-- A variable of the shader that is no input and no output: its index and what is left of the
marks. -/
def addResource (marks : Marks) (storage : Storage) (name : Option Text) (type : Ty)
    (initial : Option Nat) : BuildM (Nat × Marks) := do
  let (space, marks) ← spaceOf marks storage type
  if initial.isSome ∧ space ≠ .shader then reject
  let (key, marks) ← if space = .shader ∨ space = .workGroup then pure (none, marks)
    else do
      let (key, marks) ← resourceKey marks
      pure (some key, marks)
  return (← addVariableOf { name, space, type, key, initial }, marks)

/-- Any variable of the shader that is not a constant.  Inputs cannot be changed; the memory of others
decides. -/
def addGlobalOf (marks : Marks) (storage : Storage) (name : Option Text) (type : Ty)
    (initial : Option Nat) : BuildM (Nat × Marks) := do
  let (index, marks) ←
    if storage = .input ∨ storage = .output then
      addChannel marks (storage = .input) name type initial
    else addResource marks storage name type initial
  name.forM fun name => declareName name (.global index (storage ≠ .input))
  marks.finish
  return (index, marks)

/-- A constant with a name. -/
def declareConstant (marks : Marks) (name : Text) (type : Ty) (initial : Option Initializer) :
    BuildM Unit := do
  let initial ← require initial
  let value ← outside (lowerInitializer type initial)
  let entry ← require (← get).shader.pool[value]?
  if entry.type ≠ type then reject
  let index := (← get).shader.constants.length
  modifyShader fun shader =>
    { shader with constants := shader.constants ++ [{ name, type, value }] }
  declareName name (.constant index)
  marks.finish

/-- Variables of one type, the lengths of each of which count for all after it. -/
def declareGlobals (marks : Marks) (storage : Storage) : Ty → List Declarator → BuildM Unit
  | _, [] => return ()
  | type, declarator :: rest => do
    let type ← prepareLengths type declarator.lengths
    let marks ←
      if storage = .const then do
        declareConstant marks declarator.name type declarator.initial
        pure marks
      else do
        let initial ← declarator.initial.mapM (initialOf type)
        let (_, marks) ← addGlobalOf marks storage (some declarator.name) type (initial.bind id)
        pure marks
    declareGlobals marks storage type rest

/-! ## Blocks -/

/-- A block: a structure and a variable of it.  The members are known by their own names too. -/
def declareBlock (q : Qualifiers) (name : Text) (members : Members) (instanceName : Option Text)
    (lengths : Lengths) : BuildM Unit := do
  let marks ← q.resolve
  let (layout, marks) := marks.blockLayout?
  let default : BlockLayout := if q.storage = .buffer then .std430 else .std140
  let drafted ← resolveMembers (layout.getD default) {} members
  let type ← prepareLengths (← drafted.finish name) lengths
  if q.storage = .const then reject
  let (index, _) ← addGlobalOf marks q.storage instanceName type none
  drafted.members.zipIdx.forM fun (m, position) =>
    m.name.forM fun name => declareName name (.member index position true)

/-! ## Functions -/

/-- A function with its body.  It takes the place of what was declared before without one. -/
def declareFunction (header : Header) (body : List Stmt) : BuildM Unit := do
  let heading ← enterHeader header
  inScope (lowerStatements body)
  let function := (← get).function
  let steps := closeBody function.steps.reverse
  let structures ← structures
  let returned ← (stepsReturns steps).mapM fun value => value.mapM typeOf
  if !returned.all (· == heading.result) ∨ !arePlaced false false steps then reject
  let routine : Routine Nat :=
    { name := some heading.name
      arguments := heading.arguments
      result := heading.result
      locals := function.locals
      values := function.values.toList
      body := steps }
  if !function.locals.all fun v => isConstructible structures v.type then reject
  learnForms heading.name (heading.parameters.map FormalParameter.type)
  let signatures := (← get).shader.signatures
  match signatureOf? signatures heading with
  | none => do addSignature heading (← addRoutine routine) true
  | some position => do
    let known ← require signatures[position]?
    if known.defined then reject
    let callee ← match known.callee with
      | .routine index result => do
        modifyShader fun shader => { shader with routines := shader.routines.set index routine }
        pure (.routine index (if result.isSome then heading.result else none))
      | .action _ => do pure (.routine (← addRoutine routine) heading.result)
    let now : Signature := { known with callee, parameters := heading.parameters, defined := true }
    modifyShader fun shader => { shader with signatures := signatures.set position now }

/-! ## Declarations -/

/-- The names of the sizes of a work group. -/
def groupSizeKeys : List Text :=
  ["local_size_x".toList, "local_size_y".toList, "local_size_z".toList]

/-- Layout arguments of the shader itself. -/
def declareLayout (q : Qualifiers) : BuildM Unit := do
  let marks ← q.resolve
  let (sizes, marks) ← groupSizeKeys.foldlM
    (fun ((sizes, marks) : List (Text × Nat) × Marks) key => do
      let (size, marks) ← marks.number? key
      return (sizes ++ (size.map (key, ·)).toList, marks)) ([], marks)
  let (early, marks) ← marks.flag "early_fragment_tests".toList
  marks.finish
  modifyShader fun shader => { shader with
    groupSize := shader.groupSize ++ sizes
    earlyTests := shader.earlyTests || early }

/-- Asking for a variable to be always computed in the same way.  Only positions heed it. -/
def declareInvariant (q : Qualifiers) (name : Text) : BuildM Unit := do
  let marks ← q.resolve
  if !marks.invariant then reject
  aside do
    if (builtins.lookup name).isSome then declareBuiltin name
  if ["gl_Position".toList, "gl_FragCoord".toList].contains name then
    modifyShader fun shader => { shader with
      channels := shader.channels.map fun channel =>
        if channel.binding.builtin? = some name then
          { channel with binding := .builtin name true }
        else channel }
  Marks.finish { marks with invariant := false }

/-- Whether a precision can be given for numbers of a type. -/
def hasPrecision (type : Ty) : Bool := type = .scalar .float || type = .scalar .int

/-- A declaration. -/
def declare : Decl → BuildM Unit
  | .globals declaration => do
    let marks ← declaration.qualifiers.resolve
    let type ← resolveForm declaration.type
    declareGlobals marks declaration.qualifiers.storage type declaration.declarators
  | .block q name members instanceName lengths => declareBlock q name members instanceName lengths
  | .prototype header => declarePrototype header
  | .function header body => declareFunction header body
  | .invariant q name => declareInvariant q name
  | .shader q => declareLayout q
  | .precision type => do if hasPrecision (← resolveForm type) then return () else reject
  | .nothing => return ()

end GlBridge.Essl
