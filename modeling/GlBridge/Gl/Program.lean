import GlBridge.Gl.State
import GlBridge.Glsl.Source

/-!
# Shader and program calls

Shaders and programs are the driver's; the bridge keeps its records in step with them, translates
sources on their way in, and asks the program cache before the driver links.

* `programDriver` — the native side as the cache sees it;
* `shaderSource` — a new source, translated;
* `linkProgram` — linking by way of the cache;
* the other calls that make, change and delete shaders and programs.
-/

namespace GlBridge.Gl

open Enumerant

variable {σ : Type}

/-- Whether a program is linked. -/
def isLinked (driver : Driver σ) (program : Nat) : NativeM σ Bool := do
  let status : Int ← call driver (.getProgram program linkStatus)
  return status == 1

/-- The binary of a linked program, if the native side has one.  It has as many bytes as are said
to be written, of a buffer that was cleared before. -/
def programBinary? (driver : Driver σ) (program : Nat) : NativeM σ (Option ProgramBinary) := do
  let length : Int ← call driver (.getProgram program programBinaryLength)
  if length ≤ 0 then return none
  else
    let answer : Option (Int × Nat × Bytes) ← call driver (.getProgramBinary program length)
    match answer with
    | none => return none
    | some (written, format, bytes) =>
      if written ≤ 0 then return none
      else
        let buffer := bytes ++ List.replicate (length.toNat - bytes.length) 0
        return some { format := format.toUInt32, blob := buffer.take written.toNat }

/-- The most bytes a binary can have that is loaded into a program. -/
def binaryLimit : Nat := 2147483647

/-- Loading a binary into a program, and whether it is linked then. -/
def loadBinary (driver : Driver σ) (program : Nat) (binary : ProgramBinary) : NativeM σ Bool := do
  if binaryLimit < binary.blob.length then return false
  else
    call driver (.programBinary program binary.format.toNat binary.blob)
    isLinked driver program

/-- The native side as the program cache sees it. -/
def programDriver (driver : Driver σ) : ProgramDriver σ where
  binary? := programBinary? driver
  load := loadBinary driver

/-- Changing the records of objects. -/
def changeObjects (change : ShaderObjects → ShaderObjects) : EntryM σ Unit :=
  modify fun world =>
    { world with shaders := { world.shaders with objects := change world.shaders.objects } }

/-- A new shader, with a record of its stage if that is known. -/
def createShader (driver : Driver σ) (type : Nat) : EntryM σ Nat := do
  let shader : Nat ← runNative (call driver (.createShader type))
  if shader ≠ 0 then
    if let some stage := Stage.ofEnumerant? type then
      changeObjects (·.createShader shader stage)
  return shader

/-- A new source for a shader, translated on its way to the driver. -/
def shaderSource (driver : Driver σ) (compiler : Compiler) (shader : Nat) (source : Text) :
    EntryM σ Unit := do
  let (text, shaders) ← orOverflow ((← get).shaders.setSource compiler shader source)
  modify ({ · with shaders })
  runNative (call driver (.shaderSource shader 1 [text]))

/-- A new source for a shader as it is handed over.  A call without pieces goes to the driver as it
is. -/
def shaderSourceOf (driver : Driver σ) (compiler : Compiler) (shader : Nat)
    (arguments : Option Glsl.SourceArguments) (count : Int) : EntryM σ Unit :=
  match arguments with
  | some arguments =>
    if 0 < count then
      shaderSource driver compiler shader (Glsl.joinFragments arguments.fragments)
    else runNative (call driver (.shaderSource shader count []))
  | none => runNative (call driver (.shaderSource shader count []))

/-- A shader's end. -/
def deleteShader (driver : Driver σ) (shader : Nat) : EntryM σ Unit := do
  changeObjects (·.deleteShader shader)
  runNative (call driver (.deleteShader shader))

/-- A new program. -/
def createProgram (driver : Driver σ) : EntryM σ Nat := do
  let program : Nat ← runNative (call driver .createProgram)
  if program ≠ 0 then changeObjects (·.createProgram program)
  return program

/-- A program's end. -/
def deleteProgram (driver : Driver σ) (program : Nat) : EntryM σ Unit := do
  changeObjects (·.deleteProgram program)
  runNative (call driver (.deleteProgram program))

/-- Attaching a shader to a program. -/
def attachShader (driver : Driver σ) (program shader : Nat) : EntryM σ Unit := do
  changeObjects (·.attach program shader)
  runNative (call driver (.attachShader program shader))

/-- Detaching a shader from a program. -/
def detachShader (driver : Driver σ) (program shader : Nat) : EntryM σ Unit := do
  changeObjects (·.detach program shader)
  runNative (call driver (.detachShader program shader))

/-- Linking a program from the cache, and whether that succeeds. -/
def loadFromCache (driver : Driver σ) (program : Nat) : EntryM σ Bool := fun world =>
  let (loaded, files, native) :=
    world.shaders.loadProgram (programDriver driver) program world.files world.native
  .ok (loaded, { world with files, native })

/-- Storing a linked program in the cache. -/
def saveToCache (driver : Driver σ) (program : Nat) : EntryM σ Unit := fun world =>
  let (files, native) :=
    world.shaders.saveProgram (programDriver driver) program world.files world.native
  .ok ((), { world with files, native })

/-- Linking a program: from the cache, or else by the driver, with the result stored in the
cache. -/
def linkProgram (driver : Driver σ) (program : Nat) : EntryM σ Unit := do
  if !(← loadFromCache driver program) then
    runNative (call driver (.programParameter program programBinaryRetrievableHint 1))
    runNative (call driver (.linkProgram program))
    if ← runNative (isLinked driver program) then saveToCache driver program

end GlBridge.Gl
