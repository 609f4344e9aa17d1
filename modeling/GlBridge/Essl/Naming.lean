import GlBridge.Essl.Flatten
import GlBridge.Text.Blank

/-!
# Names in the target language

Everything in a program gets a name of its own.  It starts from the name in the source, if there was
one, made fit for the target language.  The first to ask for a name gets it as it is, and later ones
get it with a number.

* `cleanName` — a name made fit;
* `claimName` — a name that is not in use;
* `Names`, `nameAll` — the names of a program.
-/

namespace GlBridge.Essl

open Text Glsl

/-- The words that the target language keeps for itself. -/
def languageWords : List Text :=
  asciiWords (("attribute const uniform varying buffer shared coherent volatile restrict readonly "
    ++ "writeonly atomic_uint layout centroid flat smooth noperspective patch sample invariant "
    ++ "precise break continue do for while switch case default if else subroutine in out inout "
    ++ "int void bool true false float double discard return vec2 ivec2 bvec2 uint uvec2 vec3 "
    ++ "ivec3 bvec3 uvec3 vec4 ivec4 bvec4 uvec4 mat2 mat3 mat4 mat2x2 mat2x3 mat2x4 mat3x2 "
    ++ "mat3x3 mat3x4 mat4x2 mat4x3 mat4x4 dvec2 dvec3 dvec4 dmat2 dmat3 dmat4 dmat2x2 dmat2x3 "
    ++ "dmat2x4 dmat3x2 dmat3x3 dmat3x4 dmat4x2 dmat4x3 dmat4x4 lowp mediump highp precision "
    ++ "struct common partition active asm class union enum typedef template this resource goto "
    ++ "inline noinline public static extern external interface long short half fixed unsigned "
    ++ "superp input output hvec2 hvec3 hvec4 fvec2 fvec3 fvec4 filter sizeof cast namespace "
    ++ "using sampler3DRect sampler1D sampler1DShadow sampler1DArray sampler1DArrayShadow "
    ++ "isampler1D isampler1DArray usampler1D usampler1DArray sampler2D sampler2DShadow "
    ++ "sampler2DArray sampler2DArrayShadow isampler2D isampler2DArray usampler2D "
    ++ "usampler2DArray sampler2DRect sampler2DRectShadow isampler2DRect usampler2DRect "
    ++ "sampler2DMS isampler2DMS usampler2DMS sampler2DMSArray isampler2DMSArray "
    ++ "usampler2DMSArray sampler3D isampler3D usampler3D samplerCube samplerCubeShadow "
    ++ "isamplerCube usamplerCube samplerCubeArray samplerCubeArrayShadow isamplerCubeArray "
    ++ "usamplerCubeArray samplerBuffer isamplerBuffer usamplerBuffer image1D iimage1D uimage1D "
    ++ "image1DArray iimage1DArray uimage1DArray image2D iimage2D uimage2D image2DArray "
    ++ "iimage2DArray uimage2DArray image2DRect iimage2DRect uimage2DRect image2DMS iimage2DMS "
    ++ "uimage2DMS image2DMSArray iimage2DMSArray uimage2DMSArray image3D iimage3D uimage3D "
    ++ "imageCube iimageCube uimageCube imageCubeArray iimageCubeArray uimageCubeArray "
    ++ "imageBuffer iimageBuffer uimageBuffer texture1D texture1DArray itexture1D "
    ++ "itexture1DArray utexture1D utexture1DArray texture2D texture2DArray itexture2D "
    ++ "itexture2DArray utexture2D utexture2DArray texture2DRect itexture2DRect utexture2DRect "
    ++ "texture2DMS itexture2DMS utexture2DMS texture2DMSArray itexture2DMSArray "
    ++ "utexture2DMSArray texture3D itexture3D utexture3D textureCube itextureCube utextureCube "
    ++ "textureCubeArray itextureCubeArray utextureCubeArray textureBuffer itextureBuffer "
    ++ "utextureBuffer sampler samplerShadow subpassInput isubpassInput usubpassInput "
    ++ "subpassInputMS isubpassInputMS usubpassInputMS main").toList)

/-- The functions that are part of the target language. -/
def languageFunctions : List Text :=
  asciiWords (("abs acos acosh all any asin asinh atan atanh atomicAdd atomicAnd atomicCompSwap "
    ++ "atomicCounter atomicCounterDecrement atomicCounterIncrement atomicExchange atomicMax "
    ++ "atomicMin atomicOr atomicXor barrier bitCount bitfieldExtract bitfieldInsert "
    ++ "bitfieldReverse ceil clamp cos cosh cross degrees determinant dFdx dFdxCoarse dFdxFine "
    ++ "dFdy dFdyCoarse dFdyFine distance dot EmitStreamVertex EmitVertex EndPrimitive "
    ++ "EndStreamPrimitive equal exp exp2 faceforward findLSB findMSB floatBitsToInt "
    ++ "floatBitsToUint floor fma fract frexp fwidth fwidthCoarse fwidthFine greaterThan "
    ++ "greaterThanEqual groupMemoryBarrier imageAtomicAdd imageAtomicAnd imageAtomicCompSwap "
    ++ "imageAtomicExchange imageAtomicMax imageAtomicMin imageAtomicOr imageAtomicXor imageLoad "
    ++ "imageSamples imageSize imageStore imulExtended intBitsToFloat interpolateAtCentroid "
    ++ "interpolateAtOffset interpolateAtSample inverse inversesqrt isinf isnan ldexp length "
    ++ "lessThan lessThanEqual log log2 matrixCompMult max memoryBarrier "
    ++ "memoryBarrierAtomicCounter memoryBarrierBuffer memoryBarrierImage memoryBarrierShared "
    ++ "min mix mod modf noise noise1 noise2 noise3 noise4 normalize not notEqual outerProduct "
    ++ "packDouble2x32 packHalf2x16 packSnorm2x16 packSnorm4x8 packUnorm2x16 packUnorm4x8 pow "
    ++ "radians reflect refract round roundEven sign sin sinh smoothstep sqrt step tan tanh "
    ++ "texelFetch texelFetchOffset texture textureGather textureGatherOffset "
    ++ "textureGatherOffsets textureGrad textureGradOffset textureLod textureLodOffset "
    ++ "textureOffset textureProj textureProjGrad textureProjGradOffset textureProjLod "
    ++ "textureProjLodOffset textureProjOffset textureQueryLevels textureQueryLod textureSamples "
    ++ "textureSize transpose trunc uaddCarry uintBitsToFloat umulExtended unpackDouble2x32 "
    ++ "unpackHalf2x16 unpackSnorm2x16 unpackSnorm4x8 unpackUnorm2x16 unpackUnorm4x8 "
    ++ "usubBorrow").toList)

/-- Whether nothing can be called by a name. -/
def isTaken (name : Text) : Bool := languageWords.contains name || languageFunctions.contains name

/-- What the names that are made up for other purposes start with. -/
def reservedLeads : List Text :=
  ["gl_".toList, "_group".toList, "_push_constant_binding_".toList]

/-- A text without doubled underscores. -/
def singleUnderscores : Text → Text
  | '_' :: '_' :: rest => singleUnderscores ('_' :: rest)
  | c :: rest => c :: singleUnderscores rest
  | [] => []

/-- A name made fit: without digits in front, underscores behind, or anything else that names are
not made of. -/
def cleanName (label : Text) : Text :=
  let kept := (label.dropWhile isDigit).filter isWordChar
  let single := trimEndWhile (· == '_') (singleUnderscores kept)
  let base := if single = [] then "unnamed".toList else single
  if reservedLeads.any (·.isPrefixOf base) then "gen_".toList ++ base else base

/-- How often each clean name has been asked for after the first time. -/
abbrev Namer := List (Text × Nat)

/-- A name that is not in use. -/
def claimName (label : Text) : StateM Namer Text := do
  let base := cleanName label
  match (← get).lookup base with
  | some count =>
    modify fun namer => (base, count + 1) :: namer
    return base ++ '_' :: Text.ofNat (count + 1)
  | none =>
    modify fun namer => (base, 0) :: namer
    return if base.getLast?.any isDigit || isTaken base then base ++ ['_'] else base

/-- A name, or another one in its place. -/
def claimOr (name : Option Text) (otherwise : String) : StateM Namer Text :=
  claimName (name.getD otherwise.toList)

/-! ## The names of a program -/

/-- The names in a structure. -/
structure StructureNames where
  name : Text
  members : List Text
deriving DecidableEq, Repr

/-- The names in a function. -/
structure RoutineNames where
  name : Text
  arguments : List Text
  locals : List Text
deriving DecidableEq, Repr

/-- The names in a program. -/
structure Names where
  /-- The names of structures, by index. -/
  structures : List (Nat × StructureNames)
  /-- The names of the main function's inputs. -/
  inputs : List Text
  /-- The names of functions, by index; the routine around the main function comes last. -/
  routines : List (Nat × RoutineNames)
  globals : List Text
  /-- The names of constants that have one, by index. -/
  constants : List (Nat × Text)
deriving DecidableEq, Repr

/-- Naming a type, and its members if it is a structure. -/
def nameType (structures : Structures) (type : Ty) : StateM Namer (Option (Nat × StructureNames)) :=
  match type with
  | .structure index =>
    match structures[index]? with
    | some entry => do
      let name ← claimOr entry.name "type"
      let (members, _) := (entry.members.mapM fun m => claimOr m.name "member").run []
      return some (index, { name, members })
    | none => return none
  | _ => do
    let _ ← claimOr none "type"
    return none

/-- Naming a function, its arguments and its variables. -/
def nameRoutine (routine : Routine Operand) : StateM Namer RoutineNames := do
  let name ← claimOr routine.name "function"
  let arguments ← routine.arguments.mapM fun argument => claimOr argument.name "param"
  let locals ← routine.locals.mapM fun v => claimOr v.name "local"
  return { name, arguments, locals }

/-- Naming a program.  `order` gives the functions in the order in which they are written. -/
def nameAll (program : FlatProgram) (order : List Nat) : StateM Namer Names := do
  let structures ← program.types.mapM (nameType program.structures)
  let _ ← claimName "main".toList
  let inputs ← program.inputs.mapM fun channel => claimName channel.name
  let all := program.routines ++ [program.entry]
  let routines ← (order ++ [program.routines.length]).filterMapM fun index =>
    all[index]?.mapM fun routine => return (index, ← nameRoutine routine)
  let globals ← program.globals.mapM fun v => claimOr v.name "global"
  let constants ← program.constants.zipIdx.filterMapM fun (constant, index) =>
    constant.name.mapM fun name => return (index, ← claimName name)
  return {
    structures := structures.filterMap id
    inputs, routines, globals, constants }

/-! ## The order of functions -/

/-- The functions that are reached from some, those that are called ahead of those that call them.
`fuel` bounds how deep calls can be nested. -/
def callOrder (routines : List (Routine Operand)) : Nat → List Nat → List Nat → List Nat
  | 0, _, order => order
  | fuel + 1, pending, order =>
    pending.foldl (fun order index =>
      if order.contains index then order
      else
        let calls := (routines[index]?).elim [] fun routine => stepsCalls routine.body
        let order := callOrder routines fuel calls order
        if order.contains index then order else order ++ [index]) order

/-- The order in which functions are written. -/
def writingOrder (program : FlatProgram) : List Nat :=
  callOrder program.routines (program.routines.length + 1) (List.range program.routines.length) []

end GlBridge.Essl
