import GlBridge.Essl.Scope

/-!
# Inputs and outputs of the language

Some inputs and outputs are there without being declared.  They become variables of the shader when
they are first used, and are known by then in the function that uses them and in all functions
after it.

* `Builtin`, `builtins` — what is there, by name;
* `Builtin.suits` — the shaders that have it;
* `declareBuiltin` — making sure that a name stands for something.
-/

namespace GlBridge.Essl

/-- An input or an output that the language defines. -/
structure Builtin where
  type : Ty
  isInput : Bool
  /-- The stages that have it. -/
  stages : List Stage
deriving DecidableEq, Repr

/-- The inputs and outputs by name. -/
def builtins : List (Text × Builtin) :=
  let point : Ty := .vector 4 .float
  let group : Builtin := ⟨.vector 3 .uint, true, [.compute]⟩
  let index (stage : Stage) : Builtin := ⟨.scalar .uint, true, [stage]⟩
  [("gl_Position".toList, ⟨point, false, [.vertex]⟩),
    ("gl_PointSize".toList, ⟨.float, false, [.vertex]⟩),
    ("gl_FragDepth".toList, ⟨.float, false, [.fragment]⟩),
    ("gl_FragCoord".toList, ⟨point, true, [.fragment]⟩),
    ("gl_PointCoord".toList, ⟨.vector 2 .float, true, [.fragment]⟩),
    ("gl_FrontFacing".toList, ⟨.scalar .bool, true, [.fragment]⟩),
    ("gl_GlobalInvocationID".toList, group),
    ("gl_LocalInvocationID".toList, group),
    ("gl_WorkGroupID".toList, group),
    ("gl_WorkGroupSize".toList, group),
    ("gl_NumWorkGroups".toList, group),
    ("gl_LocalInvocationIndex".toList, index .compute),
    ("gl_VertexIndex".toList, index .vertex),
    ("gl_InstanceIndex".toList, index .vertex),
    ("gl_BaseVertex".toList, index .vertex),
    ("gl_BaseInstance".toList, index .vertex),
    ("gl_PrimitiveID".toList, index .fragment),
    ("gl_SampleID".toList, index .fragment)]

/-- Whether shaders of a stage have what a name stands for. -/
def isBuiltinOf (stage : Stage) (name : Text) : Bool :=
  (builtins.lookup name).any fun builtin => builtin.stages.contains stage

/-- Making an input or an output of the language known to the shader and the function. -/
def addBuiltin (name : Text) (builtin : Builtin) : BuildM Unit := do
  mention builtin.type
  let index := (← get).shader.globals.length
  let draft : Variable := { name := some name, space := .shader, type := builtin.type }
  let channel : Channel :=
    { name, global := index, type := builtin.type, isInput := builtin.isInput
      binding := .builtin name false }
  modifyShader fun shader => { shader with
    globals := shader.globals ++ [draft]
    channels := shader.channels ++ [channel] }
  let symbol := Symbol.global index (!builtin.isInput)
  declareName name symbol
  enterName name symbol

/-- Making sure that a name stands for something. -/
def declareBuiltin (name : Text) : BuildM Unit := do
  if (← reference? name).isNone then addBuiltin name (← require (builtins.lookup name))

end GlBridge.Essl
