import GlBridge.Essl.Arithmetic
import GlBridge.Essl.Intrinsic.Overload

/-!
# Calls of functions of the language

Most functions of the language are functions of the target language too.  Others become operators, or
are put together from several values.

* `functionResult?` — the type of a function's result;
* `sampleCall`, `sizeCall`, `fetchCall` — functions on textures;
* `perform` — a call, given what it comes to.
-/

namespace GlBridge.Essl

/-- The functions that result in one number for a vector. -/
def reducingFunctions : List Text :=
  ["length".toList, "distance".toList, "dot".toList, "determinant".toList]

/-- The functions that test numbers. -/
def testingFunctions : List Text := ["isnan".toList, "isinf".toList]

/-- The type of a function's result. -/
def functionResult? (name : Text) (types : List Ty) : Option Ty := do
  let type ← types.head?
  if reducingFunctions.contains name then return .float
  else if testingFunctions.contains name then return type.truth
  else if name = "any".toList ∨ name = "all".toList then return .scalar .bool
  else if name = "transpose".toList then
    match type with
    | .matrix columns rows => some (.matrix rows columns)
    | _ => none
  else if name = "outerProduct".toList then
    match types with
    | [.vector columns _, .vector rows _] => some (.matrix columns rows)
    | _ => none
  else if "unpack".toList.isPrefixOf name then
    return .vector (if "4x8".toList.isSuffixOf name then 4 else 2) .float
  else if (packings.lookup name).isSome then return .scalar .uint
  else return type

/-- A call of a function of the target language. -/
def functionCall (name : Text) (arguments : List Nat) : BuildM Nat := do
  add (.intrinsic name arguments) (← require (functionResult? name (← arguments.mapM typeOf)))

/-- Arguments, some of which are repeated where they are scalars. -/
def repeatAt (size : Nat) (positions : List Nat) (arguments : List Nat) : BuildM (List Nat) :=
  arguments.zipIdx.mapM fun (argument, position) =>
    if positions.contains position then splatTo size argument else return argument

/-- The value `x - floor (x / y) * y`. -/
def moduloCall (x y : Nat) : BuildM Nat := do
  let quotient ← addBinary .divide x y
  let whole ← functionCall "floor".toList [quotient]
  let product ← addBinary .multiply whole y
  addBinary .subtract x product

/-! ## Textures -/

/-- The type of a texture. -/
def imageOf (value : Nat) : BuildM ImageType := do
  match ← typeOf value with
  | .image type => return type
  | _ => reject

/-- Turning a texture into one whose samples are compared. -/
def toDepth (image : Nat) : BuildM Unit := do
  match ← valueAt image with
  | { operation := .global index, type := .image type } =>
    let depth : Ty := .image { type with content := .depth type.isMultisampled }
    mention depth
    modifyShader fun shader =>
      { shader with globals := shader.globals.modify index ({ · with type := depth }) }
    modifyFunction fun function =>
      { function with values := function.values.modify image ({ · with type := depth }) }
  | _ => reject

/-- A texture with its sampler. -/
def combineSampler (shadow : Bool) (image sampler : Nat) : BuildM Nat := do
  if shadow then toDepth image
  modifyFunction fun function =>
    { function with samplers := (image, sampler) :: function.samplers }
  return image

/-- A place in a texture. -/
structure Place where
  coordinate : Nat
  layer : Option Nat
  /-- The depth to compare with. -/
  reference : Option Nat

/-- A place in a texture, given by one vector.  `extra` is the depth to compare with where the vector
has no room for it. -/
def placeIn (image : ImageType) (vector : Nat) (extra : Option Nat) : BuildM Place := do
  let size := image.dimension.coordinates
  let coordinate ← match ← typeOf vector with
    | .vector given _ =>
      if size = 1 then addPart vector 0
      else if given ≠ size then resize size vector
      else pure vector
    | _ => pure vector
  let layer ← if image.arrayed then some <$> addPart vector size else pure none
  let position := size + if image.arrayed then 1 else 0
  let reference ←
    if !image.isDepth then pure none
    else if position = 4 then pure extra
    else some <$> addPart vector position
  return { coordinate, layer, reference }

/-- The coordinates of a place divided by the last one. -/
def projectPlace (vector : Nat) : BuildM Nat := do
  let size ← require (← typeOf vector).size?
  let divisor ← addPart vector (size - 1)
  if size = 2 then
    let coordinate ← addPart vector 0
    addBinary .divide coordinate divisor
  else
    let divisor ← addSplat (size - 1) divisor
    let coordinates ← resize (size - 1) vector
    addBinary .divide coordinates divisor

/-- The level of detail that is asked for, and the arguments that are left.  Depths are always
compared at the first level if one is asked for. -/
def requestedLevel (request : Sampling.Request) (arguments : List Nat) :
    BuildM (Level Nat × List Nat) :=
  match request.level, arguments with
  | .automatic, rest => return (.auto, rest)
  | .given, level :: rest => return (if request.shadow then .first else .exact level, rest)
  | .gradients, x :: y :: rest =>
    return (if request.shadow then .first else .gradient x y, rest)
  | _, _ => reject

/-- A sample of a texture. -/
def sampleCall (request : Sampling.Request) (image vector : Nat) (rest : List Nat) :
    BuildM Nat := do
  let type ← imageOf image
  let vector ← if request.projected then projectPlace vector else pure vector
  let place ← placeIn type vector rest.head?
  let spread := request.shadow ∧ request.isSpread type
  let (level, rest) ← requestedLevel request (if spread then rest.tail else rest)
  let (offset, rest) ←
    if request.moved then do
      let index ← lift liftLimit (← require rest.head?)
      pure (some index, rest.tail)
    else pure (none, rest)
  let level := match request.level, rest with
    | .automatic, [bias] => .bias bias
    | _, _ => level
  let sampler ← require ((← get).function.samplers.lookup image)
  let layer ← place.layer.mapM (addConversion · .int)
  add (.sample
      { image, sampler, coordinate := place.coordinate, layer, reference := place.reference
        level, offset })
    (if type.isDepth then .float else .vector 4 type.kind)

/-- The size of a texture, with the number of its layers after it. -/
def sizeCall (arrayed : Bool) (image : Nat) (level : Option Nat) : BuildM Nat := do
  let count := match (← imageOf image).dimension with
    | .line => 1
    | .volume => 3
    | _ => 2
  let size ← add (.imageSize image level) (Ty.ofSize count .uint)
  let whole ←
    if arrayed then do
      let parts ← if count = 1 then pure [size] else componentsOf count size
      let layers ← add (.imageLayers image) (.scalar .uint)
      mention (.vector (count + 1) .uint)
      addCompose (.vector (count + 1) .uint) (parts ++ [layers])
    else pure size
  addConversion whole .int

/-- A texel by its place. -/
def fetchCall (image vector : Nat) (level : Option Nat) : BuildM Nat := do
  let type ← imageOf image
  let place ← placeIn type vector none
  add (.fetch { image, coordinate := place.coordinate, layer := place.layer, level })
    (.vector 4 type.kind)

/-! ## Calls -/

/-- A call, given what it comes to. -/
def perform (action : Action) (arguments : List Nat) : BuildM Nat := do
  match action, arguments with
  | .function name, _ => functionCall name arguments
  | .repeated name size position, _ => do
    functionCall name (← repeatAt size [position] arguments)
  | .smoothstep size, _ => do
    functionCall "smoothstep".toList (← repeatAt size [0, 1] arguments)
  | .clamp size, _ => do
    functionCall "clamp".toList (← repeatAt size [1, 2] arguments)
  | .position name, [operand] => do
    addConversion (← functionCall name [operand]) .int
  | .extractBits, [number, offset, count] => do
    let offset ← addConversion offset .uint
    let count ← addConversion count .uint
    functionCall "bitfieldExtract".toList [number, offset, count]
  | .insertBits, [number, inserted, offset, count] => do
    let offset ← addConversion offset .uint
    let count ← addConversion count .uint
    functionCall "bitfieldInsert".toList [number, inserted, offset, count]
  | .unary op, [operand] => addUnary op operand
  | .binary op, [left, right] => addBinary op left right
  | .reinterpret kind, [operand] => do
    add (.convert operand kind true) ((← typeOf operand).withKind kind)
  | .derivative name, [operand] => do
    add (.derivative name operand) (← typeOf operand)
  | .modulo size, [x, y] => do moduloCall x (← splatTo size y)
  | .choose, [rejected, accepted, condition] => do
    add (.select condition accepted rejected) (← typeOf accepted)
  | .combineSampler shadow, [image, sampler] => combineSampler shadow image sampler
  | .sample request, image :: vector :: rest => sampleCall request image vector rest
  | .textureSize arrayed, image :: rest => sizeCall arrayed image rest.head?
  | .fetch _, image :: vector :: rest => fetchCall image vector rest.head?
  | _, _ => reject

end GlBridge.Essl
