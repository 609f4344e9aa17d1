import GlBridge.Essl.Syntax

/-!
# Forms of functions

A function that the language provides has many forms, one for each list of types that it takes.  The
forms of a function become known when its name is first used, and with them the types of their
parameters; a shader mentions these types whether it uses them or not.

* `Action` — what a call comes to;
* `Form` — a list of types and an action;
* `Variation` — the forms that have to be asked for, and who asks for them;
* `formsOf` — the forms of a function, apart from those on textures.
-/

namespace GlBridge.Essl

/-- Where the level of detail of a sample comes from. -/
inductive LevelSource where
  | automatic
  | given
  | gradients
deriving DecidableEq, Repr

/-- What is asked of a texture when it is sampled. -/
structure Sampling.Request where
  /-- Whether the coordinates are divided by the last one. -/
  projected : Bool := false
  /-- Whether the place is moved by a number of texels. -/
  moved : Bool := false
  /-- Whether depths are compared. -/
  shadow : Bool := false
  level : LevelSource := .automatic
deriving DecidableEq, Repr

/-- What a call of a function comes to. -/
inductive Action where
  /-- A call of a function of the target language. -/
  | function (name : Text)
  /-- The same, with a scalar among the arguments repeated. -/
  | repeated (name : Text) (size : Nat) (position : Nat)
  /-- The same, with the first two arguments repeated. -/
  | smoothstep (size : Nat)
  /-- The same, with the last two arguments repeated. -/
  | clamp (size : Nat)
  /-- A function on whole numbers without a sign that results in one with a sign. -/
  | position (name : Text)
  | extractBits
  | insertBits
  | unary (op : UnaryOp)
  | binary (op : BinaryOp)
  /-- The bits of a number as a number of another kind. -/
  | reinterpret (kind : Scalar)
  /-- A rate of change. -/
  | derivative (name : Text)
  /-- The remainder of a division that is rounded down. -/
  | modulo (size : Nat)
  | choose
  /-- Waiting for other invocations, which no shader may ask for. -/
  | barrier
  /-- A texture with its sampler. -/
  | combineSampler (shadow : Bool)
  | sample (request : Sampling.Request)
  | textureSize (arrayed : Bool)
  | fetch (multisampled : Bool)
deriving DecidableEq, Repr

/-- A form of a function. -/
structure Form where
  parameters : List Ty
  action : Action
deriving DecidableEq, Repr

/-- A part of the forms of a function.  Those for arrays of cubes, and those for arrays of textures
with several samples for each texel, are only known once an argument is such a texture. -/
inductive Variation where
  /-- The forms that every function comes with. -/
  | standard
  | cubeArray
  | multisampledArray
deriving DecidableEq, Repr

/-- The variation that a type asks for, if it is not one that every function knows. -/
def Variation.ofType? : Ty → Option Variation
  | .image { dimension := .cube, arrayed := true, .. } => some .cubeArray
  | .image { dimension := .plane, arrayed := true, content } =>
    match content with
    | .color _ true => some .multisampledArray
    | .depth true => some .multisampledArray
    | _ => none
  | _ => none

/-! ## Shapes -/

/-- The sizes of scalars and vectors. -/
def plainSizes : List Nat := [1, 2, 3, 4]

/-- The sizes of vectors. -/
def vectorSizes : List Nat := [2, 3, 4]

/-- The sizes of vectors, and that of scalars after them. -/
def vectorSizesFirst : List Nat := [2, 3, 4, 1]

/-- The kinds of numbers. -/
def numberKinds : List Scalar := [.float, .int, .uint]

/-- Forms on scalars and vectors of a kind, with a number of parameters of one type. -/
def alikeForms (kind : Scalar) (count : Nat) (action : Action) : List Form :=
  plainSizes.map fun size =>
    { parameters := List.replicate count (Ty.ofSize size kind), action }

/-- The sizes of two parameters, the second of which may be a scalar. -/
def pairedSizes : List (Nat × Nat) :=
  [(1, 1), (2, 1), (3, 1), (4, 1), (2, 2), (3, 3), (4, 4)]

/-- The sizes of columns and rows of matrices. -/
def matrixSizes : List (Nat × Nat) :=
  [(2, 2), (2, 3), (2, 4), (3, 2), (3, 3), (3, 4), (4, 2), (4, 3), (4, 4)]

/-! ## Tables -/

/-- Functions on scalars and vectors of floating point numbers, each with the number of its
parameters. -/
def floatFunctions : List (Text × Nat) :=
  let names (count : Nat) (text : String) : List (Text × Nat) :=
    (Text.asciiWords text.toList).map (·, count)
  names 1 ("sin exp exp2 sinh cos cosh tan tanh acos asin log log2 radians degrees asinh acosh "
      ++ "atanh ceil round roundEven floor fract trunc sqrt inversesqrt normalize length isinf "
      ++ "isnan")
    ++ names 2 "pow dot reflect distance"
    ++ names 3 "faceforward fma"

/-- Functions on the bits of numbers, with the kinds of the number and of the result. -/
def bitCasts : List (Text × Scalar × Scalar) :=
  [("floatBitsToInt".toList, .float, .int), ("floatBitsToUint".toList, .float, .uint),
    ("intBitsToFloat".toList, .int, .float), ("uintBitsToFloat".toList, .uint, .float)]

/-- Functions that compare vectors, each with its operator. -/
def comparisons : List (Text × BinaryOp) :=
  [("lessThan".toList, .less), ("lessThanEqual".toList, .lessEqual),
    ("greaterThan".toList, .greater), ("greaterThanEqual".toList, .greaterEqual),
    ("equal".toList, .equal), ("notEqual".toList, .notEqual)]

/-- Rates of change. -/
def derivatives : List Text :=
  ["dFdx".toList, "dFdy".toList, "fwidth".toList, "dFdxFine".toList, "dFdyFine".toList,
    "fwidthFine".toList, "dFdxCoarse".toList, "dFdyCoarse".toList, "fwidthCoarse".toList]

/-- Functions that make one number of several or several of one, with the type of the argument. -/
def packings : List (Text × Ty) :=
  [("packSnorm4x8".toList, .vector 4 .float), ("packUnorm4x8".toList, .vector 4 .float),
    ("packSnorm2x16".toList, .vector 2 .float), ("packUnorm2x16".toList, .vector 2 .float),
    ("packHalf2x16".toList, .vector 2 .float), ("unpackSnorm4x8".toList, .scalar .uint),
    ("unpackUnorm4x8".toList, .scalar .uint), ("unpackSnorm2x16".toList, .scalar .uint),
    ("unpackUnorm2x16".toList, .scalar .uint), ("unpackHalf2x16".toList, .scalar .uint)]

/-! ## Forms by name -/

/-- The action of a function on bits. -/
def bitAction (name : Text) (kind : Scalar) : Action :=
  if name = "bitfieldExtract".toList then .extractBits
  else if name = "bitfieldInsert".toList then .insertBits
  else if kind = .uint ∧ (name = "findLSB".toList ∨ name = "findMSB".toList) then .position name
  else .function name

/-- The forms of a function on bits. -/
def bitForms (name : Text) : List Form :=
  plainSizes.flatMap fun size => [Scalar.int, .uint].map fun kind =>
    let type := Ty.ofSize size kind
    let more : List Ty :=
      if name = "bitfieldExtract".toList then [.scalar .int, .scalar .int]
      else if name = "bitfieldInsert".toList then [type, .scalar .int, .scalar .int]
      else []
    { parameters := type :: more, action := bitAction name kind }

/-- The forms of functions that compare vectors. -/
def comparisonForms (op : BinaryOp) : List Form :=
  let kinds := if op = .equal ∨ op = .notEqual then numberKinds ++ [.bool] else numberKinds
  vectorSizes.flatMap fun size => kinds.map fun kind =>
    { parameters := [.vector size kind, .vector size kind], action := .binary op }

/-- The forms of a mixture: by choice for each component, or by weights. -/
def mixForms : List Form :=
  let form (kind weight : Scalar) (repeated : Bool) (size : Nat) : Form :=
    let type := Ty.ofSize size kind
    { parameters := [type, type, Ty.ofSize (if repeated then 1 else size) weight]
      action := if weight = .bool then .choose else .repeated "mix".toList size 2 }
  vectorSizesFirst.map (form .int .bool false) ++ vectorSizesFirst.map (form .uint .bool false)
    ++ vectorSizesFirst.map (form .float .bool false)
    ++ vectorSizesFirst.map (form .float .float false)
    ++ vectorSizesFirst.map (form .float .float true)

/-- The forms of keeping a number within bounds. -/
def clampForms : List Form :=
  let form (repeated : Bool) (size : Nat) (kind : Scalar) : Form :=
    let bound := Ty.ofSize (if repeated then 1 else size) kind
    { parameters := [Ty.ofSize size kind, bound, bound], action := .clamp size }
  (vectorSizesFirst.flatMap fun size => numberKinds.map (form false size))
    ++ vectorSizes.flatMap fun size => numberKinds.map (form true size)

/-- The forms of a smooth step. -/
def smoothstepForms : List Form :=
  plainSizes.flatMap fun size =>
    let type := Ty.ofSize size .float
    [{ parameters := [type, type, type], action := .smoothstep size },
      { parameters := [Ty.float, Ty.float, type], action := .smoothstep size }]

/-- The forms of functions on matrices. -/
def matrixForms? (name : Text) : Option (List Form) :=
  if name = "transpose".toList then
    some (matrixSizes.map fun (columns, rows) =>
      { parameters := [.matrix columns rows], action := .function name })
  else if name = "inverse".toList ∨ name = "determinant".toList then
    some (vectorSizes.map fun size =>
      { parameters := [.matrix size size], action := .function name })
  else if name = "outerProduct".toList then
    some (matrixSizes.map fun (columns, rows) =>
      { parameters := [.vector columns .float, .vector rows .float], action := .function name })
  else none

/-- The forms of functions on floating point numbers that are unlike those of others. -/
def specialForms? (name : Text) : Option (List Form) :=
  if name = "atan".toList then
    some (plainSizes.flatMap fun size =>
      [{ parameters := [Ty.ofSize size .float], action := .function name },
        { parameters := [Ty.ofSize size .float, Ty.ofSize size .float]
          action := .function name }])
  else if name = "mod".toList then
    some (pairedSizes.map fun (size, second) =>
      { parameters := [Ty.ofSize size .float, Ty.ofSize second .float], action := .modulo size })
  else if name = "step".toList then
    some (pairedSizes.map fun (size, first) =>
      { parameters := [Ty.ofSize first .float, Ty.ofSize size .float]
        action := .repeated name size 0 })
  else if name = "ldexp".toList then
    some (plainSizes.map fun size =>
      { parameters := [Ty.ofSize size .float, Ty.ofSize size .int], action := .function name })
  else if name = "refract".toList then
    some (plainSizes.map fun size =>
      let type := Ty.ofSize size .float
      { parameters := [type, type, Ty.float], action := .function name })
  else if name = "cross".toList then
    some [{ parameters := [.vector 3 .float, .vector 3 .float], action := .function name }]
  else if name = "smoothstep".toList then some smoothstepForms
  else none

/-- The forms of functions on numbers of any kind. -/
def numberForms? (name : Text) : Option (List Form) :=
  if name = "abs".toList ∨ name = "sign".toList then
    some (alikeForms .float 1 (.function name) ++ alikeForms .int 1 (.function name))
  else if name = "min".toList ∨ name = "max".toList then
    some (pairedSizes.flatMap fun (size, second) => numberKinds.map fun kind =>
      { parameters := [Ty.ofSize size kind, Ty.ofSize second kind]
        action := .repeated name size 1 })
  else if name = "clamp".toList then some clampForms
  else if name = "mix".toList then some mixForms
  else none

/-- The functions on bits. -/
def bitFunctions : List Text :=
  ["bitCount".toList, "bitfieldReverse".toList, "bitfieldExtract".toList,
    "bitfieldInsert".toList, "findLSB".toList, "findMSB".toList]

/-- The forms of a function, apart from those on textures, if it has any. -/
def formsOf? (name : Text) : Option (List Form) :=
  if let some count := floatFunctions.lookup name then
    some (alikeForms .float count (.function name))
  else if let some (source, target) := bitCasts.lookup name then
    some (alikeForms source 1 (.reinterpret target))
  else if let some op := comparisons.lookup name then some (comparisonForms op)
  else if let some type := packings.lookup name then
    some [{ parameters := [type], action := .function name }]
  else if derivatives.contains name then some (alikeForms .float 1 (.derivative name))
  else if bitFunctions.contains name then some (bitForms name)
  else if name = "any".toList ∨ name = "all".toList then
    some (vectorSizes.map fun size =>
      { parameters := [.vector size .bool], action := .function name })
  else if name = "not".toList then
    some (vectorSizes.map fun size =>
      { parameters := [.vector size .bool], action := .unary .not })
  else if name = "barrier".toList then some [{ parameters := [], action := .barrier }]
  else
    (numberForms? name).orElse fun _ => (specialForms? name).orElse fun _ => matrixForms? name

end GlBridge.Essl
