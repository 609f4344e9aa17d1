import GlBridge.Program.Binary
import GlBridge.Window.Backend

/-!
# The native side

Below the bridge are the platform's own libraries: embedded drawing calls, the window system
interface, and the display server.  Here are the calls that the bridge makes, each with the type
of its answer and the form in which it is written down.

* `Value` — what is passed through calls;
* `Call`, `Call.Answer` — the calls and their answers;
* `Driver` — how calls are answered;
* `Call.record` — a call as function name and arguments.
-/

namespace GlBridge.Gl

open Window (Config Context Surface Signal)

/-- A value passed to or from a call. -/
inductive Value where
  | null
  /-- A number, or an address that is never looked at. -/
  | int (n : Int)
  /-- The bits of a number of single precision. -/
  | single (bits : UInt32)
  /-- The bits of a number of double precision. -/
  | double (bits : UInt64)
  /-- The address of some memory. -/
  | memory
  | text (content : Text)
  | bytes (content : Bytes)
  | list (elements : List Value)
  /-- A visual of the display server. -/
  | visual (visualId : Nat) (screen : Int)
deriving Repr

namespace Value

/-- A number that is not negative. -/
def nat (n : Nat) : Value := int n

/-- A handle, or nothing. -/
def handle : Option Nat → Value
  | none => null
  | some n => nat n

/-- Numbers in a list. -/
def ints (elements : List Int) : Value := list (elements.map int)

/-- Handles in a list. -/
def nats (elements : List Nat) : Value := list (elements.map nat)

end Value

/-- What a function that is only passed on returns. -/
inductive ResultKind where
  | nothing
  | number
  /-- An address or a text. -/
  | address
deriving DecidableEq, Repr

/-- A draw call: the kind of primitives, then what to draw. -/
inductive DrawCall where
  | arrays (mode : Nat) (first count : Int)
  | elements (mode : Nat) (count : Int) (type : Nat) (indices : Value)
  | elementsBaseVertex (mode : Nat) (count : Int) (type : Nat) (indices : Value)
      (baseVertex : Int)
  | arraysInstanced (mode : Nat) (first count instances : Int)
  | elementsInstanced (mode : Nat) (count : Int) (type : Nat) (indices : Value)
      (instances : Int)
  | elementsInstancedBaseVertex (mode : Nat) (count : Int) (type : Nat) (indices : Value)
      (instances baseVertex : Int)
deriving Repr

/-- What the display server tells of a window. -/
structure WindowAttributes where
  width : Int
  height : Int
  depth : Nat
  visual : Nat
  screen : Nat
deriving DecidableEq, Repr

/-- A visual that the display server has. -/
structure Visual where
  visualId : Nat
  screen : Int
deriving DecidableEq, Repr

/-- The drawing functions that a driver may lack. -/
inductive OptionalFunction where
  | bufferStorage
  | mapBuffer
  | beginConditionalRender
  | endConditionalRender
deriving DecidableEq, Repr

/-- The name of a function that a driver may lack. -/
def OptionalFunction.name : OptionalFunction → Text
  | bufferStorage => "glBufferStorageEXT".toList
  | mapBuffer => "glMapBufferOES".toList
  | beginConditionalRender => "glBeginConditionalRenderNV".toList
  | endConditionalRender => "glEndConditionalRenderNV".toList

/-- The calls to the native side. -/
inductive Call where
  /-- A drawing function that is only passed on. -/
  | forward (function : Text) (arguments : List Value) (kind : ResultKind)
  | getInteger (query : Nat)
  | getText (name : Nat)
  | finish
  /-- New textures; `stored` says whether there is a place for their names. -/
  | genTextures (count : Int) (stored : Bool)
  | deleteTextures (count : Int) (textures : Option (List Nat))
  | activeTexture (unit : Nat)
  | bindTexture (target texture : Nat)
  /-- A function that works on the texture bound to a target. -/
  | onTexture (function : Text) (target : Nat) (arguments : List Value)
  /-- New buffers; `stored` says whether there is a place for their names. -/
  | genBuffers (count : Int) (stored : Bool)
  | bindBuffer (target buffer : Nat)
  | bufferData (target : Nat) (size : Int) (data : Value) (usage : Nat)
  | bufferSubData (target : Nat) (offset size : Int) (data : Value)
  | bufferStorage (target : Nat) (size : Int) (data : Value) (flags : Nat)
  | copyBufferSubData (readTarget writeTarget : Nat) (readOffset writeOffset size : Int)
  | getBufferParameter (target query : Nat)
  | mapBuffer (target access : Nat)
  | mapBufferRange (target : Nat) (offset length : Int) (access : Nat)
  | unmapBuffer (target : Nat)
  | createShader (type : Nat)
  | shaderSource (shader : Nat) (count : Int) (sources : List Text)
  | deleteShader (shader : Nat)
  | createProgram
  | deleteProgram (program : Nat)
  | attachShader (program shader : Nat)
  | detachShader (program shader : Nat)
  | programParameter (program name : Nat) (value : Int)
  | linkProgram (program : Nat)
  | getProgram (program query : Nat)
  | getProgramBinary (program : Nat) (size : Int)
  | programBinary (program format : Nat) (binary : Bytes)
  | getUniformLocation (program : Nat) (name : Text)
  | uniform (location value : Int)
  | draw (call : DrawCall)
  | drawBuffers (count : Int) (buffers : Option (List Nat))
  | clearDepth (depth : UInt32)
  | depthRange (near far : UInt32)
  | beginConditionalRender (query mode : Nat)
  | endConditionalRender
  | bindFramebuffer (target framebuffer : Nat)
  /-- Reading pixels; `stored` says whether there is memory for them. -/
  | readPixels (x y width height : Int) (format type : Nat) (stored : Bool)
  /-- The window system's display for a server connection. -/
  | getDisplay (display : Nat)
  | connect
  | queryText (name : Nat)
  | getError
  | bindApi (api : Nat)
  /-- The configurations that a list describes, at most `size` of them stored. -/
  | chooseConfig (attributes : List Int) (size : Nat)
  | getConfigAttribute (config : Config) (name : Int)
  | createContext (config : Config) (share : Option Context) (attributes : List Int)
  | destroyContext (context : Context)
  | createWindowSurface (config : Config) (window : Nat)
  | createPbufferSurface (config : Config) (attributes : List Int)
  | destroySurface (surface : Surface)
  | makeCurrent (surface : Option Surface) (context : Option Context)
  | swapBuffers (surface : Surface)
  | swapInterval (interval : Int)
  | getWindowAttributes (window : Nat)
  | createImage (visual depth : Nat) (data : Bytes) (width height : Nat)
  | putImage (drawable context width height : Nat)
  | defaultContext (screen : Nat)
  | screenNumber (screen : Nat)
  | defaultScreen
  | defaultVisual (screen : Int)
  | visualIdOf (visual : Nat)
  | getVisual (visualId : Nat) (screen : Int)
  | flush
  | free
deriving Repr

namespace Call

/-- The type of the answer to a call. -/
def Answer : Call → Type
  | forward _ _ _ => Value
  | getInteger _ => Int
  | getText _ => Option Text
  | genTextures _ _ => List Nat
  | genBuffers _ _ => List Nat
  | getBufferParameter _ _ => Int
  | mapBuffer _ _ => Option Bytes
  | mapBufferRange _ _ _ _ => Option Bytes
  | unmapBuffer _ => Int
  | createShader _ => Nat
  | createProgram => Nat
  | getProgram _ _ => Int
  | getProgramBinary _ _ => Option (Int × Nat × Bytes)
  | getUniformLocation _ _ => Int
  | readPixels _ _ _ _ _ _ _ => Bytes
  | getDisplay _ => Bool
  | connect => Bool
  | queryText _ => Option Text
  | getError => Nat
  | bindApi _ => Bool
  | chooseConfig _ _ => Option (List Config)
  | getConfigAttribute _ _ => Option Int
  | createContext _ _ _ => Option Context
  | createWindowSurface _ _ => Except Signal (Option Surface)
  | createPbufferSurface _ _ => Option Surface
  | makeCurrent _ _ => Bool
  | swapBuffers _ => Bool
  | swapInterval _ => Bool
  | getWindowAttributes _ => Option WindowAttributes
  | createImage _ _ _ _ _ => Bool
  | defaultContext _ => Nat
  | screenNumber _ => Nat
  | defaultScreen => Int
  | defaultVisual _ => Nat
  | visualIdOf _ => Nat
  | getVisual _ _ => Option Visual
  | _ => Unit

end Call

/-- How calls are answered, from a state of type `σ`. -/
structure Driver (σ : Type) where
  answer : (call : Call) → σ → call.Answer × σ
  /-- Whether there is a function of the name. -/
  provides : σ → Text → Bool

/-- Whether a driver has a function that it may lack. -/
def Driver.has (driver : Driver σ) (state : σ) (function : OptionalFunction) : Bool :=
  driver.provides state function.name

/-! ## Calls in writing -/

/-- A call as it is written down. -/
structure Record where
  function : Text
  arguments : List Value
deriving Repr

/-- A draw call in writing. -/
def DrawCall.record : DrawCall → Record
  | arrays mode first count => ⟨"DrawArrays".toList, [.nat mode, .int first, .int count]⟩
  | elements mode count type indices =>
    ⟨"DrawElements".toList, [.nat mode, .int count, .nat type, indices]⟩
  | elementsBaseVertex mode count type indices baseVertex =>
    ⟨"DrawElementsBaseVertex".toList,
      [.nat mode, .int count, .nat type, indices, .int baseVertex]⟩
  | arraysInstanced mode first count instances =>
    ⟨"DrawArraysInstanced".toList, [.nat mode, .int first, .int count, .int instances]⟩
  | elementsInstanced mode count type indices instances =>
    ⟨"DrawElementsInstanced".toList,
      [.nat mode, .int count, .nat type, indices, .int instances]⟩
  | elementsInstancedBaseVertex mode count type indices instances baseVertex =>
    ⟨"DrawElementsInstancedBaseVertex".toList,
      [.nat mode, .int count, .nat type, indices, .int instances, .int baseVertex]⟩

/-- A list of handles, if there is one. -/
def handles (elements : Option (List Nat)) : Value := (elements.map Value.nats).getD .null

/-- A call in writing.  Attribute lists are written without their end mark, and the display and
places for results are left out. -/
def Call.record : Call → Record
  | forward function arguments _ => ⟨function, arguments⟩
  | getInteger query => ⟨"GetIntegerv".toList, [.nat query]⟩
  | getText name => ⟨"GetString".toList, [.nat name]⟩
  | finish => ⟨"Finish".toList, []⟩
  | genTextures count _ => ⟨"GenTextures".toList, [.int count]⟩
  | deleteTextures count textures => ⟨"DeleteTextures".toList, [.int count, handles textures]⟩
  | activeTexture unit => ⟨"ActiveTexture".toList, [.nat unit]⟩
  | bindTexture target texture => ⟨"BindTexture".toList, [.nat target, .nat texture]⟩
  | onTexture function target arguments => ⟨function, .nat target :: arguments⟩
  | genBuffers count _ => ⟨"GenBuffers".toList, [.int count]⟩
  | bindBuffer target buffer => ⟨"BindBuffer".toList, [.nat target, .nat buffer]⟩
  | bufferData target size data usage =>
    ⟨"BufferData".toList, [.nat target, .int size, data, .nat usage]⟩
  | bufferSubData target offset size data =>
    ⟨"BufferSubData".toList, [.nat target, .int offset, .int size, data]⟩
  | bufferStorage target size data flags =>
    ⟨"BufferStorageEXT".toList, [.nat target, .int size, data, .nat flags]⟩
  | copyBufferSubData readTarget writeTarget readOffset writeOffset size =>
    ⟨"CopyBufferSubData".toList,
      [.nat readTarget, .nat writeTarget, .int readOffset, .int writeOffset, .int size]⟩
  | getBufferParameter target query =>
    ⟨"GetBufferParameteriv".toList, [.nat target, .nat query]⟩
  | mapBuffer target access => ⟨"MapBufferOES".toList, [.nat target, .nat access]⟩
  | mapBufferRange target offset length access =>
    ⟨"MapBufferRange".toList, [.nat target, .int offset, .int length, .nat access]⟩
  | unmapBuffer target => ⟨"UnmapBuffer".toList, [.nat target]⟩
  | createShader type => ⟨"CreateShader".toList, [.nat type]⟩
  | shaderSource shader count sources =>
    ⟨"ShaderSource".toList, [.nat shader, .int count, .list (sources.map .text)]⟩
  | deleteShader shader => ⟨"DeleteShader".toList, [.nat shader]⟩
  | createProgram => ⟨"CreateProgram".toList, []⟩
  | deleteProgram program => ⟨"DeleteProgram".toList, [.nat program]⟩
  | attachShader program shader => ⟨"AttachShader".toList, [.nat program, .nat shader]⟩
  | detachShader program shader => ⟨"DetachShader".toList, [.nat program, .nat shader]⟩
  | programParameter program name value =>
    ⟨"ProgramParameteri".toList, [.nat program, .nat name, .int value]⟩
  | linkProgram program => ⟨"LinkProgram".toList, [.nat program]⟩
  | getProgram program query => ⟨"GetProgramiv".toList, [.nat program, .nat query]⟩
  | getProgramBinary program size => ⟨"GetProgramBinary".toList, [.nat program, .int size]⟩
  | programBinary program format binary =>
    ⟨"ProgramBinary".toList, [.nat program, .nat format, .bytes binary]⟩
  | getUniformLocation program name =>
    ⟨"GetUniformLocation".toList, [.nat program, .text name]⟩
  | uniform location value => ⟨"Uniform1i".toList, [.int location, .int value]⟩
  | draw call => call.record
  | drawBuffers count buffers => ⟨"DrawBuffers".toList, [.int count, handles buffers]⟩
  | clearDepth depth => ⟨"ClearDepthf".toList, [.single depth]⟩
  | depthRange near far => ⟨"DepthRangef".toList, [.single near, .single far]⟩
  | beginConditionalRender query mode =>
    ⟨"BeginConditionalRenderNV".toList, [.nat query, .nat mode]⟩
  | endConditionalRender => ⟨"EndConditionalRenderNV".toList, []⟩
  | bindFramebuffer target framebuffer =>
    ⟨"BindFramebuffer".toList, [.nat target, .nat framebuffer]⟩
  | readPixels x y width height format type _ =>
    ⟨"ReadPixels".toList,
      [.int x, .int y, .int width, .int height, .nat format, .nat type]⟩
  | getDisplay display =>
    ⟨"eglGetDisplay".toList, [if display = 0 then .null else .nat display]⟩
  | connect => ⟨"eglInitialize".toList, []⟩
  | queryText name => ⟨"eglQueryString".toList, [.nat name]⟩
  | getError => ⟨"eglGetError".toList, []⟩
  | bindApi api => ⟨"eglBindAPI".toList, [.nat api]⟩
  | chooseConfig attributes size =>
    ⟨"eglChooseConfig".toList, [.ints attributes.dropLast, .nat size]⟩
  | getConfigAttribute config name => ⟨"eglGetConfigAttrib".toList, [.nat config, .int name]⟩
  | createContext config share attributes =>
    ⟨"eglCreateContext".toList, [.nat config, .handle share, .ints attributes.dropLast]⟩
  | destroyContext context => ⟨"eglDestroyContext".toList, [.nat context]⟩
  | createWindowSurface config window =>
    ⟨"eglCreateWindowSurface".toList, [.nat config, .nat window]⟩
  | createPbufferSurface config attributes =>
    ⟨"eglCreatePbufferSurface".toList, [.nat config, .ints attributes.dropLast]⟩
  | destroySurface surface => ⟨"eglDestroySurface".toList, [.nat surface]⟩
  | makeCurrent surface context =>
    ⟨"eglMakeCurrent".toList, [.handle surface, .handle surface, .handle context]⟩
  | swapBuffers surface => ⟨"eglSwapBuffers".toList, [.nat surface]⟩
  | swapInterval interval => ⟨"eglSwapInterval".toList, [.int interval]⟩
  | getWindowAttributes window => ⟨"XGetWindowAttributes".toList, [.nat window]⟩
  | createImage visual depth data width height =>
    ⟨"XCreateImage".toList, [.nat visual, .nat depth, .int 2, .int 0, .bytes data, .nat width,
      .nat height, .int 32, .int 0]⟩
  | putImage drawable context width height =>
    ⟨"XPutImage".toList, [.nat drawable, .nat context, .int 0, .int 0, .int 0, .int 0,
      .nat width, .nat height]⟩
  | defaultContext screen => ⟨"XDefaultGC".toList, [.nat screen]⟩
  | screenNumber screen => ⟨"XScreenNumberOfScreen".toList, [.nat screen]⟩
  | defaultScreen => ⟨"XDefaultScreen".toList, []⟩
  | defaultVisual screen => ⟨"XDefaultVisual".toList, [.int screen]⟩
  | visualIdOf visual => ⟨"XVisualIDFromVisual".toList, [.nat visual]⟩
  | getVisual visualId screen =>
    ⟨"XGetVisualInfo".toList, [.int 3, .nat visualId, .int screen]⟩
  | flush => ⟨"XFlush".toList, []⟩
  | free => ⟨"XFree".toList, []⟩

end GlBridge.Gl
