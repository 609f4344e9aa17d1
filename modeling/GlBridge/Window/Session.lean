import GlBridge.Window.Backend

/-!
# Sessions

A session knows which context is current, on which drawable, and how frames reach the screen.  The
first time a drawable is made current a surface is made for it: the drawable's own, if the
configuration allows it and no earlier attempt has failed, and otherwise an off-screen buffer of
the drawable's size, whose pixels are copied over on every swap.  Another drawable means another
surface.  A drawable so large that its pixels take more bytes than a buffer can have ends the program.

* `Presentation`, `Session` — how frames reach the screen, and the state of a session;
* `pixelBuffer`, `Session.turnToBuffer` — buffers for pixels, and rendering into one;
* `Session.createContext`, `destroyContext`, `makeCurrent`, `swapBuffers`, `swapInterval` — what
  applications ask for.
-/

namespace GlBridge.Window

/-- How frames reach the screen. -/
inductive Presentation where
  /-- There is no surface yet. -/
  | uninitialized
  /-- Frames are rendered into the window. -/
  | nativeWindow
  /-- Frames are rendered off screen, read into `pixels`, and copied into the window. -/
  | pbufferCopy (width height : Nat) (pixels : Bytes)
deriving DecidableEq, Repr

/-- The state of a session. -/
structure Session where
  /-- The contexts that exist, each with the configuration it was made with. -/
  contexts : List (Context × Config) := []
  currentContext : Option Context := none
  drawable : Option Drawable := none
  surface : Option Surface := none
  mode : Presentation := .uninitialized
  /-- Whether making a window's own surface has failed before. -/
  nativeWindowFailed : Bool := false
  /-- Whether frames are always rendered off screen. -/
  forcePbuffer : Bool := false
  /-- The major version of every context. -/
  glesMajor : Int := 3
  /-- Whether the program has ended, for want of a buffer that is large enough. -/
  ended : Bool := false
deriving DecidableEq, Repr

/-- The highest minor version worth asking for. -/
def maxMinorVersion (major : Int) : Nat := if major = 3 then 2 else 0

/-- The number of bytes of a pixel. -/
def bytesPerPixel : Nat := 4

/-- A cleared buffer for pixels, unless it would be too large. -/
def pixelBuffer (width height : Nat) : Option Bytes :=
  if width * height * bytesPerPixel ≤ bufferLimit then
    some (List.replicate (width * height * bytesPerPixel) 0)
  else none

/-- Something a session does with a backend whose state is of type `τ`. -/
abbrev SessionM (τ : Type) := StateT Session (StateM τ)

namespace Session

variable {τ : Type}

/-- Asking the backend. -/
def ask (backend : Backend τ) (call : Call) : SessionM τ call.Answer := fun session state =>
  let (answer, state) := backend.answer call state
  ((answer, session), state)

/-- The drawable of the current context. -/
def currentDrawable (session : Session) : Option Drawable :=
  session.currentContext.bind fun _ => session.drawable

/-- The configuration that a context was made with. -/
def contextConfig? (session : Session) (context : Context) : Option Config :=
  session.contexts.lookup context

/-- The words for a context that cannot be made. -/
def contextError (major : Int) (config : Config) : Text :=
  "Couldn't create an OpenGL ES ".toList ++ Text.ofInt major
    ++ ".x context with config Config(".toList ++ Text.ofNat config ++ ")".toList

/-- Making a context of the first minor version that the backend accepts. -/
def createContextOf (backend : Backend τ) (config : Config) (share : Option Context) :
    List Nat → SessionM τ (Except Text Context)
  | [] => do return .error (contextError (← get).glesMajor config)
  | minor :: minors => do
    let major := (← get).glesMajor
    match ← ask backend (.createContext config share major minor) with
    | some context =>
      modify fun s =>
        { s with contexts := (context, config) :: s.contexts.filter (·.1 ≠ context) }
      return .ok context
    | none => createContextOf backend config share minors

/-- Making a context with the highest minor version that the backend accepts. -/
def createContext (backend : Backend τ) (config : Config) (share : Option Context) :
    SessionM τ (Except Text Context) := do
  let highest := maxMinorVersion (← get).glesMajor
  createContextOf backend config share (List.range (highest + 1)).reverse

/-- Destroying the surface.  It is released first if a context is current. -/
def teardownSurface (backend : Backend τ) : SessionM τ Unit := do
  let session ← get
  match session.surface with
  | some surface =>
    set { session with surface := none }
    if session.currentContext.isSome then
      let _ ← ask backend (.makeCurrent none none)
    ask backend (.destroySurface surface)
  | none => pure ()
  modify ({ · with mode := .uninitialized })

/-- Destroying a context, and the surface with it if it is current. -/
def destroyContext (backend : Backend τ) (context : Context) : SessionM τ Unit := do
  if (← get).currentContext = some context then
    let _ ← ask backend (.makeCurrent none none)
    modify ({ · with currentContext := none })
    teardownSurface backend
    modify ({ · with drawable := none })
  let session ← get
  if (session.contextConfig? context).isSome then
    set { session with contexts := session.contexts.filter (·.1 ≠ context) }
    ask backend (.destroyContext context)

/-- Whether a configuration claims to allow window surfaces. -/
def supportsWindow (backend : Backend τ) (config : Config) : SessionM τ Bool := do
  match ← ask backend (.configAttribute config surfaceTypeAttribute) with
  | some (surfaceType : Int) => return surfaceType % (2 * windowBit) ≥ windowBit
  | none => return false

/-- Making a window's own surface.  Once that has failed it is not tried again. -/
def tryNativeWindow (backend : Backend τ) (config : Config) (drawable : Drawable) :
    SessionM τ (Option Surface) := do
  let session ← get
  if session.forcePbuffer || session.nativeWindowFailed then return none
  if !(← supportsWindow backend config) then return none
  match ← ask backend (.createWindowSurface config drawable) with
  | .ok (some surface) => return some surface
  | _ =>
    modify ({ · with nativeWindowFailed := true })
    return none

/-- Rendering into a cleared buffer for pixels from now on, and whether there can be one.  If there
cannot, the program ends here. -/
def turnToBuffer (width height : Nat) : SessionM τ Bool := do
  match pixelBuffer width height with
  | some pixels =>
    modify ({ · with mode := .pbufferCopy width height pixels })
    return true
  | none =>
    modify ({ · with ended := true })
    return false

/-- Making a surface for a drawable, and whether that succeeds. -/
def initializeSurface (backend : Backend τ) (config : Config) (drawable : Drawable) :
    SessionM τ Bool := do
  match ← tryNativeWindow backend config drawable with
  | some surface =>
    modify ({ · with surface := some surface, mode := .nativeWindow })
    return true
  | none =>
    match ← ask backend (.drawableSize drawable) with
    | none => return false
    | some (width, height) =>
      match ← ask backend (.createPbufferSurface config width height) with
      | none => return false
      | some surface =>
        modify ({ · with surface := some surface })
        turnToBuffer width height

/-- Turning to a drawable.  Another one than before gives up the surface. -/
def selectDrawable (backend : Backend τ) (drawable : Drawable) : SessionM τ Unit := do
  if (← get).drawable ≠ some drawable then
    teardownSurface backend
    modify ({ · with drawable := some drawable })

/-- Making sure that there is a surface for a drawable, and whether there is. -/
def ensureSurface (backend : Backend τ) (config : Config) (drawable : Drawable) :
    SessionM τ Bool := do
  if (← get).mode = .uninitialized then initializeSurface backend config drawable
  else return true

/-- Making a context current on a drawable.  Without either of them the current context is
released. -/
def makeCurrent (backend : Backend τ) (drawable : Option Drawable) (context : Option Context) :
    SessionM τ Bool := do
  match drawable, context with
  | some drawable, some context =>
    match (← get).contextConfig? context with
    | none => return false
    | some config =>
      selectDrawable backend drawable
      if !(← ensureSurface backend config drawable) then return false
      let made : Bool ← ask backend (.makeCurrent (← get).surface (some context))
      if made then modify ({ · with currentContext := some context })
      return made
  | _, _ =>
    modify ({ · with currentContext := none })
    ask backend (.makeCurrent none none)

/-- Following a drawable's size with an off-screen buffer of the given size, and whether the program
goes on.  The old buffer is kept unless the new one can be bound. -/
def resizePbuffer (backend : Backend τ) (drawable : Drawable) (width height : Nat) :
    SessionM τ Bool := do
  match ← ask backend (.drawableSize drawable) with
  | none => return true
  | some ((newWidth, newHeight) : Nat × Nat) =>
    if newWidth = width ∧ newHeight = height then return true
    let session ← get
    match session.currentContext, session.currentContext.bind session.contextConfig? with
    | some context, some config =>
      match ← ask backend (.createPbufferSurface config newWidth newHeight) with
      | none => return true
      | some (surface : Surface) =>
        let bound : Bool ← ask backend (.makeCurrent (some surface) (some context))
        if bound then
          if let some old := session.surface then ask backend (.destroySurface old)
          modify ({ · with surface := some surface })
          turnToBuffer newWidth newHeight
        else
          ask backend (.destroySurface surface)
          return true
    | _, _ => return true

/-- Copying the off-screen buffer into a window. -/
def copyToWindow (backend : Backend τ) (drawable : Drawable) : SessionM τ Unit := do
  match (← get).mode with
  | .pbufferCopy width height pixels =>
    let read : Bytes ← ask backend (.readPixels width height pixels)
    modify ({ · with mode := .pbufferCopy width height read })
    let _ ← ask backend (.putPixels drawable width height read)
  | _ => return

/-- Presenting the current frame.  Only the session's drawable can be swapped. -/
def swapBuffers (backend : Backend τ) (drawable : Drawable) : SessionM τ Unit := do
  let session ← get
  if session.drawable = some drawable then
    match session.surface, session.mode with
    | none, _ => return
    | _, .uninitialized => return
    | some surface, .nativeWindow =>
      let _ ← ask backend (.swapBuffers surface)
    | some _, .pbufferCopy width height _ =>
      if ← resizePbuffer backend drawable width height then copyToWindow backend drawable

/-- How many frames to wait between swaps. -/
def swapInterval (backend : Backend τ) (interval : Int) : SessionM τ Bool :=
  ask backend (.swapInterval interval)

end Session
end GlBridge.Window
