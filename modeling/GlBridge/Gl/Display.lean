import GlBridge.Gl.State
import GlBridge.Window.Attributes
import GlBridge.Window.Extensions
import GlBridge.Window.Image

/-!
# Sessions on a display

The backend of a session on the native side, and the window system calls of applications, which go
through the session on the display they first name.

* `openDisplay` — connecting to a display, or why that fails;
* `nativeBackend` — the native side as a session's backend;
* the window system calls: configurations, visuals, contexts, and presenting frames.
-/

namespace GlBridge.Gl

open Enumerant Window

variable {σ : Type}

/-- Why a display cannot be used. -/
inductive DisplayError where
  | noDisplay
  | notInitialized (code : Nat)
  | notBound
deriving DecidableEq, Repr

namespace DisplayError

/-- The words for an error. -/
def message : DisplayError → Text
  | noDisplay => "eglGetDisplay failed".toList
  | notInitialized code => "eglInitialize failed: ".toList ++ Text.ofNatHex code
  | notBound => "eglBindAPI(EGL_OPENGL_ES_API) failed".toList

end DisplayError

/-- Connecting to a display. -/
def openDisplay (driver : Driver σ) (display : Nat) : NativeM σ (Except DisplayError Unit) := do
  let found : Bool ← call driver (.getDisplay display)
  if !found then return .error .noDisplay
  else
    let connected : Bool ← call driver .connect
    if !connected then return .error (.notInitialized (← call driver .getError))
    else
      let bound : Bool ← call driver (.bindApi glesApi)
      return if bound then .ok () else .error .notBound

/-! ## The backend -/

/-- The list that asks for a context of a version. -/
def contextList (major minor : Int) : List Int :=
  [0x3098, major, 0x30FB, minor, ConfigRequest.endMark]

/-- The list that asks for an off-screen surface of a size. -/
def pbufferList (width height : Nat) : List Int :=
  [0x3057, width, 0x3056, height, ConfigRequest.endMark]

/-- The largest size that a list can hold. -/
def sizeLimit : Nat := 2147483647

/-- The configurations that a list describes: first their number is asked for, then they are. -/
def chooseConfigs (driver : Driver σ) (attributes : List Int) : NativeM σ (List Config) := do
  let counted : Option (List Config) ← call driver (.chooseConfig attributes 0)
  match counted with
  | none => return []
  | some found =>
    let chosen : Option (List Config) ← call driver (.chooseConfig attributes found.length)
    return (chosen.getD []).take found.length

/-- The size of a drawable, if the server knows it and it is no less than nothing. -/
def drawableSize (driver : Driver σ) (drawable : Drawable) : NativeM σ (Option (Nat × Nat)) := do
  let attributes : Option WindowAttributes ← call driver (.getWindowAttributes drawable)
  return attributes.bind fun a =>
    if 0 ≤ a.width ∧ 0 ≤ a.height then some (a.width.toNat, a.height.toNat) else none

/-- Reading the bound surface's pixels.  What applications have bound for reading is put aside for
the time of the call. -/
def readFrame (driver : Driver σ) (width height : Nat) : NativeM σ Bytes := do
  let oldFramebuffer : Int ← call driver (.getInteger readFramebufferBinding)
  let oldBuffer : Int ← call driver (.getInteger pixelPackBufferBinding)
  call driver (.bindFramebuffer readFramebuffer 0)
  call driver (.bindBuffer pixelPackBuffer 0)
  let pixels : Bytes ← call driver (.readPixels 0 0 width height rgba unsignedByte true)
  call driver (.bindBuffer pixelPackBuffer (wordOf oldBuffer))
  call driver (.bindFramebuffer readFramebuffer (wordOf oldFramebuffer))
  return pixels

/-- Drawing an image on a window. -/
def putImage (driver : Driver σ) (drawable : Drawable) (attributes : WindowAttributes)
    (width height : Nat) (image : Bytes) : NativeM σ Bool := do
  let made : Bool ← call driver
    (.createImage attributes.visual attributes.depth image width height)
  if made then
    let screen : Nat ← call driver (.screenNumber attributes.screen)
    let context : Nat ← call driver (.defaultContext screen)
    call driver (.putImage drawable context width height)
    call driver .flush
    call driver .free
  return made

/-- Drawing a frame on a window.  There is nothing to draw if it has no pixels. -/
def putFrame (driver : Driver σ) (drawable : Drawable) (width height : Nat) (pixels : Bytes) :
    NativeM σ Bool := do
  let found : Option WindowAttributes ← call driver (.getWindowAttributes drawable)
  match found with
  | none => return false
  | some attributes =>
    if height = 0 then return true
    else
      match windowImage pixels width height with
      -- There are no columns: a session's frames are never too large for an image.
      | none => return true
      | some image => putImage driver drawable attributes width height image

/-- Making an off-screen surface, if its size can be asked for. -/
def createPbuffer (driver : Driver σ) (config : Config) (width height : Nat) :
    NativeM σ (Option Surface) :=
  if width ≤ sizeLimit ∧ height ≤ sizeLimit then
    call driver (.createPbufferSurface config (pbufferList width height))
  else return none

/-- The native side as a session's backend. -/
def nativeBackend (driver : Driver σ) : Backend σ where
  answer
    | .chooseConfigs attributes => chooseConfigs driver attributes
    | .configAttribute config name => call driver (.getConfigAttribute config name)
    | .createContext config share major minor =>
      call driver (.createContext config share (contextList major minor))
    | .destroyContext context => call driver (.destroyContext context)
    | .createWindowSurface config drawable => call driver (.createWindowSurface config drawable)
    | .createPbufferSurface config width height => createPbuffer driver config width height
    | .destroySurface surface => call driver (.destroySurface surface)
    | .makeCurrent surface context => call driver (.makeCurrent surface context)
    | .swapBuffers surface => call driver (.swapBuffers surface)
    | .swapInterval interval => call driver (.swapInterval interval)
    | .drawableSize drawable => drawableSize driver drawable
    | .readPixels width height _ => readFrame driver width height
    | .putPixels drawable width height pixels => putFrame driver drawable width height pixels

/-! ## The session of an application -/

/-- Making sure that there is a session: the first call that names a display connects to it. -/
def ensureSession (driver : Driver σ) (display : Nat) : EntryM σ Unit := do
  if (← get).display.isNone then
    let _ ← runNative (openDisplay driver display)
    modify ({ · with display := some { display, session := {} } })

/-- Something done by the session, if there is one.  The program may end in it. -/
def onSession (act : SessionM σ α) : EntryM σ (Option α) := fun world =>
  match world.display with
  | none => .ok (none, world)
  | some opened =>
    let ((result, session), native) := act opened.session world.native
    if session.ended then .error .overflow
    else .ok (some result, { world with display := some { opened with session }, native })

/-- Asking for configurations.  If there are none for windows, off-screen ones will do. -/
def findConfigs (driver : Driver σ) (request : ConfigRequest) : NativeM σ (List Config) := do
  let configs ← chooseConfigs driver request.platformList
  if configs.isEmpty then chooseConfigs driver request.pbufferOnly.platformList
  else return configs

/-- The configurations that fit a list of attributes. -/
def chooseConfigsFor (driver : Driver σ) (display : Nat) (list : List Int) :
    EntryM σ (List Config) := do
  ensureSession driver display
  runNative (findConfigs driver (.ofAttributes (readAttributes false list)))

/-- All configurations. -/
def allConfigs (driver : Driver σ) (display : Nat) : EntryM σ (List Config) := do
  ensureSession driver display
  runNative (chooseConfigs driver [ConfigRequest.endMark])

/-- The value of a configuration's attribute. -/
def configAttribute (driver : Driver σ) (display : Nat) (config : Config) (name : Int) :
    EntryM σ (Option Int) :=
  match ConfigAnswer.of? name with
  | none => return none
  | some (.fixed value) => return some value
  | some (.platform name) => do
    ensureSession driver display
    runNative (call driver (.getConfigAttribute config name))

/-- The number of addresses. -/
def addressLimit : Int := 18446744073709551616

/-- The attribute that holds the visual of a configuration. -/
def visualAttribute : Int := 12334

/-- The visual of a configuration; without one of its own it has the screen's default visual. -/
def findVisual (driver : Driver σ) (config : Config) (screen : Int) :
    NativeM σ (Option Visual) := do
  let own : Option Int ← call driver (.getConfigAttribute config visualAttribute)
  match own.filter (· ≠ 0) with
  | some visualId => call driver (.getVisual (visualId % addressLimit).toNat screen)
  | none =>
    let visual : Nat ← call driver (.defaultVisual screen)
    let visualId : Nat ← call driver (.visualIdOf visual)
    call driver (.getVisual visualId screen)

/-- The visual of a configuration, remembered with it. -/
def visualFor (driver : Driver σ) (config : Config) (screen : Int) :
    EntryM σ (Option Visual) := do
  let visual ← runNative (findVisual driver config screen)
  if let some found := visual then
    modify fun world =>
      { world with visuals :=
          (found.visualId, config) :: world.visuals.filter (·.1 ≠ found.visualId) }
  return visual

/-- The visual of a configuration on the default screen. -/
def visualOfConfig (driver : Driver σ) (display : Nat) (config : Option Config) :
    EntryM σ (Option Visual) := do
  match config with
  | none => return none
  | some config =>
    ensureSession driver display
    let screen : Int ← runNative (call driver .defaultScreen)
    visualFor driver config screen

/-- A visual that fits a list of attributes of the oldest kind. -/
def chooseVisual (driver : Driver σ) (display : Nat) (screen : Int) (list : List Int) :
    EntryM σ (Option Visual) := do
  ensureSession driver display
  match ← runNative (findConfigs driver (.ofAttributes (readAttributes true list))) with
  | [] => return none
  | config :: _ => visualFor driver config screen

/-- The configuration for a context: the given one, or the first of the default ones. -/
def contextConfig (driver : Driver σ) (config : Option Config) : EntryM σ (Option Config) :=
  match config with
  | some config => return some config
  | none => do return (← runNative (findConfigs driver {})).head?

/-- Making a context, with the first of the default configurations if none is given. -/
def createContext (driver : Driver σ) (display : Nat) (config : Option Config)
    (share : Option Context) : EntryM σ (Option Context) := do
  ensureSession driver display
  match ← contextConfig driver config with
  | none => return none
  | some config =>
    let made ← onSession (Session.createContext (nativeBackend driver) config share)
    return made.bind Except.toOption

/-- Making a context for a visual that was handed out before. -/
def createContextForVisual (driver : Driver σ) (display : Nat) (visual : Option Nat)
    (share : Option Context) : EntryM σ (Option Context) := do
  let visuals := (← get).visuals
  createContext driver display (visual.bind fun visualId => visuals.lookup visualId) share

/-- Destroying a context. -/
def destroyContext (driver : Driver σ) (display : Nat) (context : Option Context) :
    EntryM σ Unit := do
  match context with
  | none => return
  | some context =>
    ensureSession driver display
    let _ ← onSession (Session.destroyContext (nativeBackend driver) context)

/-- Making a context current on a drawable. -/
def makeCurrent (driver : Driver σ) (display : Nat) (drawable : Option Drawable)
    (context : Option Context) : EntryM σ Bool := do
  ensureSession driver display
  return (← onSession (Session.makeCurrent (nativeBackend driver) drawable context)).getD false

/-- Presenting a drawable's current frame. -/
def swapBuffers (driver : Driver σ) (display : Nat) (drawable : Drawable) : EntryM σ Unit := do
  ensureSession driver display
  let _ ← onSession (Session.swapBuffers (nativeBackend driver) drawable)

/-- How many frames to wait between swaps, and whether that is possible. -/
def swapInterval (driver : Driver σ) (interval : Int) : EntryM σ Bool := do
  return (← onSession (Session.swapInterval (nativeBackend driver) interval)).getD false

/-- The current context. -/
def currentContext : EntryM σ (Option Context) := do
  return (← get).display.bind (·.session.currentContext)

/-- The drawable of the current context. -/
def currentDrawable : EntryM σ (Option Drawable) := do
  return (← get).display.bind (·.session.currentDrawable)

/-- The display of the current context. -/
def currentDisplay : EntryM σ (Option Nat) := do
  return (← get).display.bind fun opened =>
    opened.session.currentContext.map fun _ => opened.display

end GlBridge.Gl
