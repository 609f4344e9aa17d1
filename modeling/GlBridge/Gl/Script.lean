import GlBridge.Gl.EntryPoint
import GlBridge.Gl.Library
import GlBridge.Window.Script

/-!
# A native side by script

A stand-in for the native libraries and the display server.  Switches and tables say which calls
succeed and what they answer; handles of all kinds are numbered in order; frames are made up from a
counter.  Every call is written down.

* `NativeScript` — the switches and tables;
* `ScriptedNative` — the state of the stand-in;
* `ScriptedNative.driver` — the stand-in as a driver.
-/

namespace GlBridge.Gl

open Enumerant
open Window (Config Context Surface Signal WindowBehavior framePixels)

/-- The number that a value is, or zero. -/
def Value.number : Value → Int
  | .int n => n
  | _ => 0

/-- What a scripted native side answers. -/
structure NativeScript where
  ints : List (Nat × Int) := []
  create : Bool := true
  link : Bool := true
  accept : Bool := true
  binary : Option ProgramBinary := none
  binaryLength : Option Int := none
  /-- The length that is said to be written of a binary. -/
  written : Option Int := none
  uniforms : List (Text × Int) := []
  memory : Option Bytes := none
  bufferSize : Int := 0
  /-- What the driver says of itself. -/
  texts : List (Nat × Text) := []
  /-- The extensions of the window system. -/
  windowExtensions : Text := []
  /-- The functions there are of those that a driver may lack. -/
  extensions : List Text := []
  /-- The functions that are not there. -/
  missing : List Text := []
  returns : List (Text × Value) := []
  choose : Bool := true
  chooseAgain : Bool := true
  configs : List Config := []
  pbufferConfigs : List Config := []
  attributes : List (Int × Int) := []
  maxMinor : Int := 2
  window : WindowBehavior := .works
  pbuffer : Bool := true
  makeCurrent : Bool := true
  swap : Bool := true
  interval : Bool := true
  sizes : List (Nat × Int × Int) := []
  image : Bool := true
  visual : Bool := true
  display : Bool := true
  connects : Bool := true
  bindsApi : Bool := true

/-- A scripted native side and how far it has got. -/
structure ScriptedNative where
  script : NativeScript := {}
  /-- The next handle. -/
  next : Nat := 1
  /-- The programs that are linked. -/
  linked : List Nat := []
  /-- How many frames have been read. -/
  frame : Nat := 0
  calls : List Record := []

/-- The window system functions of the stand-in. -/
def windowFunctionNames : List Text :=
  requiredFunctions ++ ["eglSwapInterval".toList, "eglGetError".toList]

/-- The drawing functions that are not passed on but still used. -/
def usedNames : List Text :=
  [
    "glGetBufferParameteriv glGetProgramiv glGetProgramBinary glReadPixels glGenBuffers",
    "glDrawBuffers glProgramBinary glGetUniformLocation glCreateShader glShaderSource",
    "glDeleteShader glCreateProgram glDeleteProgram glAttachShader glDetachShader",
    "glLinkProgram glBindTexture glGenTextures glDeleteTextures glMapBufferRange glGetString",
    "glGetIntegerv glDrawElementsBaseVertex glDrawElementsInstancedBaseVertex"
  ].flatMap fun line => Text.asciiWords line.toList

/-- The functions that a driver may lack. -/
def optionalNames : List Text :=
  [OptionalFunction.bufferStorage, .mapBuffer, .beginConditionalRender,
    .endConditionalRender].map OptionalFunction.name

/-- The attributes of a platform list, up to its end mark. -/
def listAttributes : List Int → List (Int × Int)
  | name :: value :: rest =>
    if name = Window.ConfigRequest.endMark then [] else (name, value) :: listAttributes rest
  | _ => []

namespace NativeScript

/-- Whether there is a function of the name. -/
def provides (script : NativeScript) (name : Text) : Bool :=
  !script.missing.contains name
    && (windowFunctionNames.contains name
      || (forwardedEntryPoints.map EntryPoint.name).contains name
      || usedNames.contains name
      || (optionalNames.contains name && script.extensions.contains name))

/-- What a function that is only passed on returns. -/
def returned (script : NativeScript) (function : Text) : ResultKind → Value
  | .nothing => .null
  | .number => (script.returns.lookup function).getD (.int 0)
  | .address => (script.returns.lookup function).getD .null

/-- The texts that applications are given about the driver. -/
def givenTexts (script : NativeScript) : List (Nat × Text) :=
  [version, shadingLanguageVersion, renderer].filterMap fun name =>
    ((script.texts.lookup name).bind (desktopText? name)).map fun text => (name, text)

/-- The configurations that a list describes. -/
def configsFor (script : NativeScript) (attributes : List Int) : List Config :=
  match (listAttributes attributes).lookup Window.surfaceTypeAttribute with
  | none => script.configs ++ script.pbufferConfigs
  | some surfaceType =>
    if surfaceType % 8 ≥ 4 then script.configs else script.pbufferConfigs

/-- The length of a program's binary. -/
def lengthOfBinary (script : NativeScript) : Int :=
  script.binaryLength.getD ((script.binary.map fun b => b.blob.length).getD 0 : Nat)

/-- As much of a program's binary as fits a buffer. -/
def binaryFor (script : NativeScript) (size : Int) : Option (Int × Nat × Bytes) :=
  script.binary.map fun binary =>
    let copied := binary.blob.take size.toNat
    (script.written.getD copied.length, binary.format.toNat, copied)

end NativeScript

namespace ScriptedNative

/-- Writing down a call.  Asking for the last error is not worth it. -/
def note (state : ScriptedNative) (c : Call) : ScriptedNative :=
  match c with
  | .getError => state
  | _ => { state with calls := state.calls ++ [c.record] }

/-- New handles. -/
def allot (state : ScriptedNative) (count : Nat) : List Nat × ScriptedNative :=
  (List.range' state.next count, { state with next := state.next + count })

/-- A new handle if `works`. -/
def allotIf (state : ScriptedNative) (works : Bool) : Option Nat × ScriptedNative :=
  if works then (some state.next, { state with next := state.next + 1 }) else (none, state)

/-- Setting whether a program is linked. -/
def setLinked (state : ScriptedNative) (program : Nat) (linked : Bool) : ScriptedNative :=
  let others := state.linked.filter (· ≠ program)
  { state with linked := if linked then program :: others else others }

/-- A number that a program is asked for. -/
def programNumber (state : ScriptedNative) (program query : Nat) : Int :=
  if query = linkStatus then (if program ∈ state.linked then 1 else 0)
  else if query = programBinaryLength then state.script.lengthOfBinary
  else 0

/-- Answering a call that has been written down. -/
def reply : (c : Call) → ScriptedNative → c.Answer × ScriptedNative
  | .forward function _ kind, state => (state.script.returned function kind, state)
  | .getInteger query, state => ((state.script.ints.lookup query).getD 0, state)
  | .getText name, state => (state.script.texts.lookup name, state)
  | .genTextures count stored, state => state.allot (if stored then count.toNat else 0)
  | .genBuffers count stored, state => state.allot (if stored then count.toNat else 0)
  | .getBufferParameter _ _, state => (state.script.bufferSize, state)
  | .mapBuffer _ _, state => (state.script.memory, state)
  | .mapBufferRange _ _ _ _, state => (state.script.memory, state)
  | .unmapBuffer _, state =>
    ((state.script.returned "UnmapBuffer".toList .number).number, state)
  | .createShader _, state =>
    let (shader, state) := state.allotIf state.script.create
    (shader.getD 0, state)
  | .createProgram, state =>
    let (program, state) := state.allotIf state.script.create
    (program.getD 0, state)
  | .linkProgram program, state => ((), state.setLinked program state.script.link)
  | .programBinary program _ _, state => ((), state.setLinked program state.script.accept)
  | .getProgram program query, state => (state.programNumber program query, state)
  | .getProgramBinary _ size, state => (state.script.binaryFor size, state)
  | .getUniformLocation _ name, state => ((state.script.uniforms.lookup name).getD (-1), state)
  | .readPixels _ _ width height _ _ stored, state =>
    if stored then
      (framePixels (state.frame + 1) (width * height * 4).toNat,
        { state with frame := state.frame + 1 })
    else ([], state)
  | .getDisplay _, state => (state.script.display, state)
  | .connect, state => (state.script.connects, state)
  | .queryText _, state => (some state.script.windowExtensions, state)
  | .getError, state => ((0x3000 : Nat), state)
  | .bindApi _, state => (state.script.bindsApi, state)
  | .chooseConfig attributes size, state =>
    (if state.script.choose && (state.script.chooseAgain || size == 0) then
      some (state.script.configsFor attributes) else none, state)
  | .getConfigAttribute _ name, state => (state.script.attributes.lookup name, state)
  | .createContext _ _ attributes, state =>
    state.allotIf
      (((listAttributes attributes).lookup 0x30FB).getD 0 ≤ state.script.maxMinor)
  | .createWindowSurface _ _, state =>
    match state.script.window with
    | .raises signal => (.error signal, state)
    | .fails => (.ok none, state)
    | .works =>
      let (surface, state) := state.allotIf true
      (.ok surface, state)
  | .createPbufferSurface _ _, state => state.allotIf state.script.pbuffer
  | .makeCurrent _ context, state => (context.isNone || state.script.makeCurrent, state)
  | .swapBuffers _, state => (state.script.swap, state)
  | .swapInterval _, state => (state.script.interval, state)
  | .getWindowAttributes window, state =>
    ((state.script.sizes.lookup window).map fun (width, height) =>
      { width, height, depth := 24, visual := 0x77, screen := 0x55 }, state)
  | .createImage _ _ _ _ _, state => (state.script.image, state)
  | .defaultContext _, state => ((0x66 : Nat), state)
  | .screenNumber _, state => ((3 : Nat), state)
  | .defaultScreen, state => ((2 : Int), state)
  | .defaultVisual _, state => ((0x77 : Nat), state)
  | .visualIdOf _, state => ((0x21 : Nat), state)
  | .getVisual visualId screen, state =>
    (if state.script.visual then some { visualId, screen } else none, state)
  | .finish, state => ((), state)
  | .deleteTextures _ _, state => ((), state)
  | .activeTexture _, state => ((), state)
  | .bindTexture _ _, state => ((), state)
  | .onTexture _ _ _, state => ((), state)
  | .bindBuffer _ _, state => ((), state)
  | .bufferData _ _ _ _, state => ((), state)
  | .bufferSubData _ _ _ _, state => ((), state)
  | .bufferStorage _ _ _ _, state => ((), state)
  | .copyBufferSubData _ _ _ _ _, state => ((), state)
  | .shaderSource _ _ _, state => ((), state)
  | .deleteShader _, state => ((), state)
  | .deleteProgram _, state => ((), state)
  | .attachShader _ _, state => ((), state)
  | .detachShader _ _, state => ((), state)
  | .programParameter _ _ _, state => ((), state)
  | .uniform _ _, state => ((), state)
  | .draw _, state => ((), state)
  | .drawBuffers _ _, state => ((), state)
  | .clearDepth _, state => ((), state)
  | .depthRange _ _, state => ((), state)
  | .beginConditionalRender _ _, state => ((), state)
  | .endConditionalRender, state => ((), state)
  | .bindFramebuffer _ _, state => ((), state)
  | .destroyContext _, state => ((), state)
  | .destroySurface _, state => ((), state)
  | .putImage _ _ _ _, state => ((), state)
  | .flush, state => ((), state)
  | .free, state => ((), state)

/-- The native side that follows a script. -/
def driver : Driver ScriptedNative where
  answer c state := reply c (state.note c)
  provides state name := state.script.provides name

end ScriptedNative
end GlBridge.Gl
