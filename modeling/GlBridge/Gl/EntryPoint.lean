import GlBridge.Gl.DirectAccess
import GlBridge.Gl.Forward
import GlBridge.Gl.Program
import GlBridge.Gl.Query

/-!
# Entry points

The functions that applications can call, with what each does.  Applications find them by name,
and through the bridge the native side's functions too, but no window system functions that the
bridge does not have.

* `textureEntryPoints`, `bufferEntryPoints`, … — the entry points by subject;
* `entryPoints` — all of them;
* `ownerOf` — whose function a name stands for.
-/

namespace GlBridge.Gl

open EntryPoint Enumerant

/-! ## Textures -/

/-- Binding a texture, whose target is remembered. -/
def bindTexture (driver : Driver σ) (target texture : Nat) : EntryM σ Unit := do
  modify fun world => { world with textures := world.textures.record texture target }
  runNative (call driver (.bindTexture (esTarget target) texture))

/-- New textures that have a target from the start. -/
def createTextures (driver : Driver σ) (target : Nat) (count : Int) (stored : Bool) :
    EntryM σ (List Nat) := do
  let textures : List Nat ← runNative (call driver (.genTextures count stored))
  modify fun world => { world with textures := world.textures.recordAll textures target }
  return textures

/-- The end of textures, whose targets are forgotten. -/
def deleteTextures (driver : Driver σ) (count : Int) (textures : List Nat) : EntryM σ Unit := do
  modify fun world => { world with textures := world.textures.removeAll textures }
  runNative (call driver (.deleteTextures count (some textures)))

/-- An entry point that applies a texture function to a texture by name. -/
def namedTexture (name function : String) : EntryPoint :=
  stateful name fun driver a => do
    let targets := (← get).textures
    runNative (onNamedTexture driver targets (a.nat 0) function.toList (a.valuesFrom 1))
    return {}

/-- The entry points that deal with textures. -/
def textureEntryPoints : List EntryPoint :=
  [ stateful "glBindTexture" fun driver a => do
      bindTexture driver (a.nat 0) (a.nat 1)
      return {},
    native "glGenTextures" fun driver a => do
      let textures : List Nat ← call driver (.genTextures (a.int 0) (a.isStored 1))
      return .handles 1 textures,
    stateful "glCreateTextures" fun driver a => do
      return .handles 2 (← createTextures driver (a.nat 0) (a.int 1) (a.isStored 2)),
    stateful "glDeleteTextures" fun driver a => do
      if let some textures := a.nats? 1 (a.int 0) then deleteTextures driver (a.int 0) textures
      return {},
    stateful "glBindTextureUnit" fun driver a => do
      let targets := (← get).textures
      runNative (← orOverflow (bindTextureUnit driver targets (a.nat 0) (a.nat 1)))
      return {},
    namedTexture "glTextureParameteri" "TexParameteri",
    namedTexture "glTextureParameterf" "TexParameterf",
    namedTexture "glTextureParameteriv" "TexParameteriv",
    namedTexture "glTextureParameterfv" "TexParameterfv",
    namedTexture "glTextureStorage2D" "TexStorage2D",
    namedTexture "glTextureStorage3D" "TexStorage3D",
    namedTexture "glTextureSubImage2D" "TexSubImage2D",
    namedTexture "glGenerateTextureMipmap" "GenerateMipmap",
    silent "glTexImage1D" fun driver a =>
      call driver (.onTexture "TexImage2D".toList (esTarget (a.nat 0))
        [.int (a.int 1), .int (a.int 2), .int (a.int 3), .int 1, .int (a.int 4), .int (a.int 5),
          .int (a.int 6), a.value 7]) ]

/-! ## Buffers -/

/-- The entry points that deal with buffers. -/
def bufferEntryPoints : List EntryPoint :=
  [ native "glMapBuffer" fun driver a => return .mapped (← mapBuffer driver (a.nat 0) (a.nat 1)),
    native "glMapBufferRange" fun driver a =>
      return .mapped (← mapBufferRange driver (a.nat 0) (a.int 1) (a.int 2) (a.nat 3)),
    silent "glBufferStorage" fun driver a =>
      bufferStorage driver (a.nat 0) (a.int 1) (a.value 2) (a.nat 3),
    native "glGenBuffers" fun driver a => do
      let buffers : List Nat ← call driver (.genBuffers (a.int 0) (a.isStored 1))
      return .handles 1 buffers,
    native "glCreateBuffers" fun driver a =>
      return .handles 1 (← createBuffers driver (a.int 0) (a.isStored 1)),
    native "glGetBufferParameteriv" fun driver a => do
      let value : Int ← call driver (.getBufferParameter (a.nat 0) (a.nat 1))
      return .number 2 value,
    silent "glNamedBufferData" fun driver a =>
      namedBufferData driver (a.nat 0) (a.int 1) (a.value 2) (a.nat 3),
    silent "glNamedBufferSubData" fun driver a =>
      namedBufferSubData driver (a.nat 0) (a.int 1) (a.int 2) (a.value 3),
    silent "glNamedBufferStorage" fun driver a =>
      namedBufferStorage driver (a.nat 0) (a.int 1) (a.value 2) (a.nat 3),
    native "glMapNamedBufferRange" fun driver a =>
      return .mapped (← mapNamedBufferRange driver (a.nat 0) (a.int 1) (a.int 2) (a.nat 3)),
    native "glUnmapNamedBuffer" fun driver a => return .int (← unmapNamedBuffer driver (a.nat 0)),
    silent "glCopyNamedBufferSubData" fun driver a =>
      copyNamedBufferSubData driver (a.nat 0) (a.nat 1) (a.int 2) (a.int 3) (a.int 4),
    native "glGetBufferSubData" fun driver a => do
      match ← getBufferSubData driver (a.nat 0) (a.int 1) (a.int 2) with
      | none => return {}
      | some bytes => return { written := [(3, bytes.map fun b => b.toNat)] } ]

/-! ## Draw calls -/

/-- The entry points that draw in ways the driver does not know. -/
def drawEntryPoints : List EntryPoint :=
  [ silent "glMultiDrawArrays" fun driver a =>
      multiDrawArrays driver (a.nat 0) (a.ints 1) (a.ints? 2) (a.int 3),
    silent "glMultiDrawElements" fun driver a =>
      multiDrawElements driver (a.nat 0) (a.ints? 1) (a.nat 2) (a.addresses 3) (a.int 4),
    silent "glMultiDrawElementsBaseVertex" fun driver a =>
      multiDrawElementsBaseVertex driver (a.nat 0) (a.ints? 1) (a.nat 2) (a.addresses 3) (a.int 4)
        (a.ints 5),
    silent "glDrawElementsBaseVertex" fun driver a =>
      drawElementsBaseVertex driver (a.nat 0) (a.int 1) (a.nat 2) (a.value 3) (a.int 4),
    silent "glDrawElementsInstancedBaseVertex" fun driver a =>
      drawElementsInstancedBaseVertex driver (a.nat 0) (a.int 1) (a.nat 2) (a.value 3) (a.int 4)
        (a.int 5),
    silent "glDrawArraysInstancedBaseInstance" fun driver a =>
      drawArraysInstancedBaseInstance driver (a.nat 0) (a.int 1) (a.int 2) (a.int 3) (a.nat 4),
    silent "glDrawElementsInstancedBaseInstance" fun driver a =>
      drawElementsInstancedBaseInstance driver (a.nat 0) (a.int 1) (a.nat 2) (a.value 3)
        (a.int 4) (a.nat 5),
    silent "glDrawElementsInstancedBaseVertexBaseInstance" fun driver a =>
      drawElementsInstancedBaseVertexBaseInstance driver (a.nat 0) (a.int 1) (a.nat 2) (a.value 3)
        (a.int 4) (a.int 5) (a.nat 6) ]

/-! ## Shaders and programs -/

/-- The arguments of a source, unless there are no strings. -/
def sourceArguments (a : Arguments) : Option Glsl.SourceArguments :=
  (a.argument 2).cells?.map fun cells =>
    { count := a.int 1, strings := cells.map Cell.memory?, lengths := a.ints? 3 }

/-- The entry points that deal with shaders and programs. -/
def programEntryPoints : List EntryPoint :=
  [ stateful "glCreateShader" fun driver a => return .int (← createShader driver (a.nat 0)),
    { name := "glShaderSource".toList
      run := fun driver compiler a => do
        shaderSourceOf driver compiler (a.nat 0) (sourceArguments a) (a.int 1)
        return {} },
    stateful "glDeleteShader" fun driver a => do
      deleteShader driver (a.nat 0)
      return {},
    stateful "glCreateProgram" fun driver _ => return .int (← createProgram driver),
    stateful "glDeleteProgram" fun driver a => do
      deleteProgram driver (a.nat 0)
      return {},
    stateful "glAttachShader" fun driver a => do
      attachShader driver (a.nat 0) (a.nat 1)
      return {},
    stateful "glDetachShader" fun driver a => do
      detachShader driver (a.nat 0) (a.nat 1)
      return {},
    stateful "glLinkProgram" fun driver a => do
      linkProgram driver (a.nat 0)
      return {},
    native "glGetProgramiv" fun driver a => do
      let value : Int ← call driver (.getProgram (a.nat 0) (a.nat 1))
      return .number 2 value,
    native "glGetProgramBinary" fun driver a => do
      let answer : Option (Int × Nat × Bytes) ← call driver (.getProgramBinary (a.nat 0) (a.int 1))
      match answer with
      | none => return {}
      | some (written, format, bytes) =>
        return { written :=
          [(2, [written]), (3, [(format : Int)]), (4, bytes.map fun b => (b.toNat : Int))] },
    silent "glProgramBinary" fun driver a =>
      call driver (.programBinary (a.nat 0) (a.nat 1)
        (((a.nats? 2 (a.int 3)).getD []).map Nat.toUInt8)),
    native "glGetUniformLocation" fun driver a => do
      let location : Int ← call driver (.getUniformLocation (a.nat 0) ((a.text? 1).getD []))
      return .int location ]

/-! ## Questions and settings -/

/-- The entry points for questions and settings, and those that ask for what cannot be done. -/
def stateEntryPoints : List EntryPoint :=
  [ stateful "glGetString" fun driver a => return .text (← getText driver (a.nat 0)),
    native "glGetIntegerv" fun driver a => do
      let value ← getInteger driver (a.nat 0) (a.isStored 1)
      return .number 1 value,
    silent "glClearDepth" fun driver a => clearDepth driver (a.double 0),
    silent "glDepthRange" fun driver a => depthRange driver (a.double 0) (a.double 1),
    silent "glDrawBuffer" fun driver a => drawBuffer driver (a.nat 0),
    silent "glDrawBuffers" fun driver a =>
      call driver (.drawBuffers (a.int 0) (a.nats? 1 (a.int 0))),
    silent "glBeginConditionalRender" fun driver a =>
      beginConditionalRender driver (a.nat 0) (a.nat 1),
    silent "glEndConditionalRender" fun driver _ => endConditionalRender driver,
    native "glReadPixels" fun driver a => do
      let pixels : Bytes ← call driver (.readPixels (a.int 0) (a.int 1) (a.int 2) (a.int 3)
        (a.nat 4) (a.nat 5) (a.isMemory 6))
      return { written := [(6, pixels.map fun b => (b.toNat : Int))] },
    ignored "glLogicOp", ignored "glPolygonMode", ignored "glPointSize", ignored "glClampColor",
    ignored "glPrimitiveRestartIndex", ignored "glProvokingVertex", ignored "glGetTexImage",
    ignored "glTexImage2DMultisample" ]

/-- The entry points for drawing. -/
def drawingEntryPoints : List EntryPoint :=
  forwardedEntryPoints ++ programEntryPoints ++ textureEntryPoints ++ bufferEntryPoints
    ++ drawEntryPoints ++ stateEntryPoints

/-! ## The window system -/

/-- The code for success. -/
def success : Int := 0

/-- The code for an attribute that cannot be asked for. -/
def badAttribute : Int := 2

/-- The code for a missing context. -/
def badContext : Int := 5

/-- The version of the window system interface. -/
def windowVersion : Int × Int := (1, 4)

/-- Configurations for an application, with their number written where an argument points. -/
def configReply (index : Nat) (configs : List Window.Config) : Reply :=
  { result := if configs.isEmpty then .null else .nats configs
    written := [(index, [configs.length])] }

/-- The text that describes the window system interface to an application. -/
def clientText (driver : Driver σ) (display : Nat) (name : Int) : EntryM σ Reply :=
  if name = 1 then return .text (some "glxes".toList)
  else if name = 2 then return .text (some "1.4".toList)
  else if name = 3 then return .text (some (← queryExtensions driver display))
  else return {}

/-- The code for waiting so many frames between swaps. -/
def intervalReply (driver : Driver σ) (interval : Int) : EntryM σ Reply := do
  return .int (if ← swapInterval driver interval then success else badContext)

/-- The window system entry points, but for those that look up names. -/
def windowCalls : List EntryPoint :=
  [ stateful "glXChooseFBConfig" fun driver a =>
      return configReply 3 (← chooseConfigsFor driver (a.nat 0) (a.ints 2)),
    stateful "glXGetFBConfigs" fun driver a =>
      return configReply 2 (← allConfigs driver (a.nat 0)),
    stateful "glXGetFBConfigAttrib" fun driver a => do
      match a.handle? 1, a.isStored 3 with
      | some config, true =>
        match ← configAttribute driver (a.nat 0) config (a.int 2) with
        | some value => return { result := .int success, written := [(3, [value])] }
        | none => return .int badAttribute
      | _, _ => return .int badAttribute,
    stateful "glXGetVisualFromFBConfig" fun driver a =>
      return .visual (← visualOfConfig driver (a.nat 0) (a.handle? 1)),
    stateful "glXChooseVisual" fun driver a =>
      return .visual (← chooseVisual driver (a.nat 0) (a.int 1) (a.ints 2)),
    stateful "glXCreateContext" fun driver a =>
      return .handle (← createContextForVisual driver (a.nat 0) (a.number? 1) (a.handle? 2)),
    stateful "glXCreateNewContext" fun driver a =>
      return .handle (← createContext driver (a.nat 0) (a.handle? 1) (a.handle? 3)),
    stateful "glXCreateContextAttribsARB" fun driver a =>
      return .handle (← createContext driver (a.nat 0) (a.handle? 1) (a.handle? 2)),
    stateful "glXDestroyContext" fun driver a => do
      destroyContext driver (a.nat 0) (a.handle? 1)
      return {},
    stateful "glXMakeCurrent" fun driver a =>
      return .truth (← makeCurrent driver (a.nat 0) (a.handle? 1) (a.handle? 2)),
    stateful "glXMakeContextCurrent" fun driver a =>
      return .truth (← makeCurrent driver (a.nat 0) (a.handle? 1) (a.handle? 3)),
    stateful "glXSwapBuffers" fun driver a => do
      swapBuffers driver (a.nat 0) (a.nat 1)
      return {},
    stateful "glXQueryExtensionsString" fun driver a =>
      return .text (some (← queryExtensions driver (a.nat 0))),
    stateful "glXQueryExtension" fun _ _ =>
      return { result := .int 1, written := [(1, [0]), (2, [0])] },
    stateful "glXQueryVersion" fun _ _ =>
      return { result := .int 1, written := [(1, [windowVersion.1]), (2, [windowVersion.2])] },
    stateful "glXGetClientString" fun driver a => clientText driver (a.nat 0) (a.int 1),
    stateful "glXQueryServerString" fun driver a => clientText driver (a.nat 0) (a.int 2),
    stateful "glXIsDirect" fun _ _ => return .int 1,
    stateful "glXGetCurrentContext" fun _ _ => return .handle (← currentContext),
    stateful "glXGetCurrentDrawable" fun _ _ => return .int ((← currentDrawable).getD 0),
    stateful "glXGetCurrentDisplay" fun _ _ =>
      return .handle ((← currentDisplay).filter (· ≠ 0)),
    stateful "glXSwapIntervalEXT" fun driver a => do
      let _ ← swapInterval driver (a.int 2)
      return {},
    stateful "glXSwapIntervalMESA" fun driver a => intervalReply driver (min (a.int 0) sizeLimit),
    stateful "glXSwapIntervalSGI" fun driver a => intervalReply driver (a.int 0),
    silent "glXWaitGL" fun driver _ => call driver .finish,
    ignored "glXWaitX" ]

/-- The names of the entry points that look up names. -/
def lookupNames : List Text := ["glXGetProcAddress".toList, "glXGetProcAddressARB".toList]

/-- The names of the bridge's drawing functions. -/
def drawingNames : List Text := drawingEntryPoints.map EntryPoint.name

/-- The names of the bridge's window system functions. -/
def windowNames : List Text := windowCalls.map EntryPoint.name ++ lookupNames

/-- Whose function a name stands for. -/
inductive Owner where
  | bridge
  | driver
  | nobody
deriving DecidableEq, Repr

/-- Whose function a name stands for, given which names the native side knows.  Window system
functions are the bridge's or nobody's. -/
def ownerOf (knows : Text → Bool) (name : Text) : Owner :=
  if drawingNames.contains name || windowNames.contains name then .bridge
  else if "glX".toList.isPrefixOf name then .nobody
  else if knows name then .driver
  else .nobody

/-- The address of a function by name. -/
def findFunction (driver : Driver σ) (name : Option Text) : EntryM σ Reply := do
  let native := (← get).native
  match name with
  | none => return {}
  | some name =>
    return if ownerOf (driver.provides native) name = .nobody then {} else { result := .memory }

/-- The window system entry points. -/
def windowEntryPoints : List EntryPoint :=
  windowCalls ++ lookupNames.map fun name =>
    { name, run := fun driver _ a => findFunction driver (a.text? 0) }

/-- Every function that applications can call. -/
def entryPoints : List EntryPoint := drawingEntryPoints ++ windowEntryPoints

/-- Calling a function by name. -/
def invoke (driver : Driver σ) (compiler : Compiler) (name : Text)
    (arguments : Arguments) : EntryM σ (Option Reply) :=
  match entryPoints.find? (·.name == name) with
  | none => return none
  | some entryPoint => some <$> entryPoint.run driver compiler arguments

end GlBridge.Gl
