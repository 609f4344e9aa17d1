import GlBridge.Essl.Global
import GlBridge.Essl.Parser

/-!
# Whole shaders

Declaration by declaration a shader becomes a draft.  Inputs and outputs are variables of the shader
that a routine of its own fills and reads: it stores the inputs, calls the main function, and
returns the outputs, all of them in one structure.

* `channelParts` — the inputs and outputs that a variable stands for;
* `addEntry` — the routine around the main function;
* `suitsStage` — whether shaders of a stage can do what a shader does;
* `shaderOf?` — a shader from its source.
-/

namespace GlBridge.Essl

/-! ## Inputs and outputs -/

/-- An input or an output without parts, with a pointer to where it is kept. -/
structure ChannelPart where
  pointer : Nat
  name : Text
  type : Ty
  binding : Binding

/-- The elements of an array and the members of a structure, each with the location it has; anything
else is its own only part. -/
def channelParts : Nat → ChannelPart → BuildM (List ChannelPart)
  | 0, _ => reject
  | fuel + 1, whole => do
    match whole.type, whole.binding with
    | .array element (some length) _, .location first _ _ => do
      let parts ← (List.range length).mapM fun index => do
        channelParts fuel
          { whole with
            pointer := ← addPart whole.pointer index, type := element
            binding := .location (first + index) (defaultInterpolation element) none }
      return parts.flatten
    | .array _ (some _) _, .builtin _ _ => return []
    | .structure index, .location first _ _ => do
      let entry ← require (← structures)[index]?
      let parts ← entry.members.zipIdx.mapM fun (m, position) => do
        channelParts fuel
          { pointer := ← addPart whole.pointer position, name := m.name.getD [], type := m.type
            binding := .location (first + position) (defaultInterpolation m.type) none }
      return parts.flatten
    | .structure _, .builtin _ _ => return []
    | _, _ => return [whole]

/-- Whether values of an input or an output are interpolated between vertices. -/
def isInterpolated (stage : Stage) (isInput : Bool) : Bool :=
  if isInput then stage = .fragment else stage = .vertex

/-- Whether a part of an input or an output can be had in a stage.  Whole numbers are never
interpolated. -/
def ChannelPart.suits (part : ChannelPart) (stage : Stage) (isInput : Bool) : Bool :=
  match part.binding with
  | .builtin name _ => isBuiltinOf stage name
  | .location _ interpolation _ =>
    stage ≠ .compute && part.type.isNumeric && interpolation ≠ some .linear
      && (!isInterpolated stage isInput || part.type.kind? = some .float
        || interpolation = some .flat)

/-- The inputs or the outputs of the shader, each with a pointer to where it is kept. -/
def enterChannels (isInput : Bool) : BuildM (List (Nat × Channel)) := do
  let shader := (← get).shader
  let channels := shader.channels.filter (·.isInput == isInput)
  let parts ← channels.mapM fun channel => do
    let pointer ← addGlobal channel.global
    let whole : ChannelPart :=
      { pointer, name := channel.name, type := channel.type, binding := channel.binding }
    let parts ← channelParts typeDepthLimit whole
    if !parts.all (·.suits shader.stage isInput) then reject
    return parts.map fun part =>
      (part.pointer,
        { channel with name := part.name, type := part.type, binding := part.binding : Channel })
  let found := parts.flatten
  let locations : List Nat := found.filterMap fun (_, channel) => channel.binding.location?
  if locations.Nodup then return found else reject

/-- The members of a structure one right after the other. -/
def packMembers (structures : Structures) : Nat → List (Option Text × Ty) → List Member
  | _, [] => []
  | offset, (name, type) :: rest =>
    { name, type, offset } :: packMembers structures (offset + sizeInMemory structures type) rest

/-- The routine around the main function. -/
def addEntry : BuildM (Routine Nat × List Channel × List Channel) := do
  let main ← require ((← get).shader.signatures.find? fun s =>
    s.name == "main".toList && s.defined && s.parameters.isEmpty)
  let routine ← match main.callee with
    | .routine index none => pure index
    | _ => reject
  enterFunction
  let inputs ← enterChannels true
  inputs.zipIdx.forM fun ((pointer, channel), index) => do
    let argument ← append (.argument index) channel.type
    push (.store pointer argument)
  push (.call routine [] none)
  let outputs ← enterChannels false
  let parts ← outputs.mapM fun (pointer, _) => addLoad pointer
  let result ←
    if outputs.isEmpty then do
      push (.return none)
      pure none
    else do
      let members := packMembers (← structures) 0
        (outputs.map fun (_, channel) => (some channel.name, channel.type))
      let span := members.foldl (fun total m => total + sizeInMemory [] m.type) 0
      let type ← addStructure { name := none, members, span }
      push (.return (some (← addCompose type parts)))
      pure (some type)
  let function := (← get).function
  let arguments := inputs.map fun (_, channel) =>
    { name := some channel.name, type := channel.type : Argument }
  let entry : Routine Nat :=
    { name := none, arguments, result
      locals := function.locals
      values := function.values.toList
      body := function.steps.reverse }
  return (entry, inputs.map Prod.snd, outputs.map Prod.snd)

/-! ## Stages -/

/-- The greatest size of a work group in one direction. -/
def groupSizeLimit : Nat := 0x4000

/-- Whether a stage has room for a work group.  Only a compute shader has one. -/
def hasGroupSize (stage : Stage) (groupSize : List (Text × Nat)) : Bool :=
  let sizes := groupSizeKeys.filterMap fun key => groupSize.reverse.lookup key
  if stage = .compute then sizes.all fun size => 0 < size && size ≤ groupSizeLimit
  else sizes.all (· == 0)

/-- Whether an operation can be run in a stage.  What depends on neighbouring invocations can only be
had in fragment shaders. -/
def Operation.suitsStage (stage : Stage) : Operation ρ → Bool
  | .derivative _ _ => stage = .fragment
  | .sample { level := .auto, .. } => stage = .fragment
  | .sample { level := .bias _, .. } => stage = .fragment
  | _ => true

mutual

/-- Whether a statement can be run in a stage. -/
def Step.suitsStage (stage : Stage) : Step ρ → Bool
  | .discard => stage = .fragment
  | .block steps => stepsSuitStage stage steps
  | .ifElse _ accepted rejected => stepsSuitStage stage accepted && stepsSuitStage stage rejected
  | .choice _ cases => cases.suitsStage stage
  | .loop body continuing => stepsSuitStage stage body && stepsSuitStage stage continuing
  | _ => true

/-- The same for the cases of a choice. -/
def Choices.suitsStage (stage : Stage) : Choices ρ → Bool
  | .nil => true
  | .cons _ steps _ rest => stepsSuitStage stage steps && rest.suitsStage stage

/-- The same for statements. -/
def stepsSuitStage (stage : Stage) : List (Step ρ) → Bool
  | [] => true
  | step :: steps => step.suitsStage stage && stepsSuitStage stage steps

end

/-- Whether a function can be run in a stage, apart from the functions it calls. -/
def Routine.suitsStage (stage : Stage) (routine : Routine Nat) : Bool :=
  routine.values.all (fun value => value.operation.suitsStage stage)
    && stepsSuitStage stage routine.body

/-- The routines that are run by a routine, itself included.  Every routine comes after those that it
calls. -/
def reachedFrom (routines : List (Routine Nat)) (first : Nat) : List Nat :=
  ((List.range (first + 1)).reverse).foldl (fun reached index =>
    if reached.contains index then
      reached ++ (routines[index]?).elim [] fun routine => stepsCalls routine.body
    else reached) [first]

/-- Whether every routine comes after those that it calls. -/
def areInOrder (routines : List (Routine Nat)) : Bool :=
  routines.zipIdx.all fun (routine, index) => (stepsCalls routine.body).all (· < index)

/-- Whether a stage has what the routines of a shader do.  A vertex shader has to give a position. -/
def suitsStage (stage : Stage) (routines : List (Routine Nat)) (main : Nat)
    (outputs : List Channel) : Bool :=
  (reachedFrom routines main).all (fun index =>
      (routines[index]?).all (·.suitsStage stage))
    && (stage ≠ .vertex || outputs.any fun channel =>
      channel.binding.builtin? == some "gl_Position".toList)

/-! ## Shaders -/

/-- A shader with all of its functions. -/
structure Shader where
  stage : Stage
  types : List Ty
  structures : Structures
  pool : List (Value Nat)
  globals : List Variable
  constants : List NamedConstant
  routines : List (Routine Nat)
  entry : Routine Nat
  inputs : List Channel
  outputs : List Channel
  groupSize : List (Text × Nat)
  earlyTests : Bool
deriving Repr

/-- The draft of a shader's declarations, made whole. -/
def buildShader (declarations : List Decl) : BuildM Shader := do
  declarations.forM declare
  let (entry, inputs, outputs) ← addEntry
  let shader := (← get).shader
  let main := (stepsCalls entry.body).headD 0
  if !areInOrder shader.routines ∨ !hasGroupSize shader.stage shader.groupSize
      ∨ !suitsStage shader.stage shader.routines main outputs then reject
  return {
    stage := shader.stage
    types := shader.types
    structures := shader.structures
    pool := shader.pool
    globals := shader.globals
    constants := shader.constants
    routines := shader.routines
    entry, inputs, outputs
    groupSize := shader.groupSize
    earlyTests := shader.earlyTests }

/-- A shader, if there is nothing wrong with it. -/
def shaderOf? (stage : Stage) (source : Text) : Option Shader := do
  let declarations ← parseShader? source
  let (shader, _) ← (buildShader declarations).run { shader := { stage } }
  return shader

end GlBridge.Essl
