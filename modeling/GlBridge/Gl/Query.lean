import GlBridge.Gl.Desktop
import GlBridge.Gl.Display
import GlBridge.Number.Single

/-!
# Questions and settings

The desktop's questions whose answers differ from the driver's, and its settings that the driver
knows under another name or in another precision.  Texts are made once and stay the same.

* `getText`, `getInteger` — versions and limits;
* `queryExtensions` — the window system's extensions;
* `clearDepth`, `depthRange`, `drawBuffer` — settings.
-/

namespace GlBridge.Gl

open Enumerant

variable {σ : Type}

/-- The text that applications are told in place of the driver's, made on the first call. -/
def desktopTextOf (driver : Driver σ) (name : Nat) : EntryM σ (Option Text) := do
  if (desktopText? name []).isNone then return none
  match (← get).texts.lookup name with
  | some text => return some text
  | none =>
    let driverText : Option Text ← runNative (call driver (.getText name))
    match driverText.bind (desktopText? name) with
    | none => return none
    | some text =>
      modify fun world => { world with texts := (name, text) :: world.texts }
      return some text

/-- The text of a name: the bridge's, or else the driver's. -/
def getText (driver : Driver σ) (name : Nat) : EntryM σ (Option Text) := do
  match ← desktopTextOf driver name with
  | some text => return some text
  | none => runNative (call driver (.getText name))

/-- The number that a query asks for: the bridge's, if there is a place for it, or else the
driver's. -/
def getInteger (driver : Driver σ) (query : Nat) (stored : Bool) : NativeM σ Int :=
  match desktopInteger? query with
  | some value => if stored then return value else call driver (.getInteger query)
  | none => call driver (.getInteger query)

/-- The window system's extensions with the bridge's own, made on the first call. -/
def queryExtensions (driver : Driver σ) (display : Nat) : EntryM σ Text := do
  match (← get).extensions with
  | some extensions => return extensions
  | none =>
    ensureSession driver display
    let platform : Option Text ← runNative (call driver (.queryText 12373))
    let extensions := Window.extensionsText (platform.getD [])
    modify ({ · with extensions := some extensions })
    return extensions

/-- Setting the depth that clearing leaves. -/
def clearDepth (driver : Driver σ) (depth : UInt64) : NativeM σ Unit :=
  call driver (.clearDepth (singleOfDouble depth))

/-- Setting the range of depths. -/
def depthRange (driver : Driver σ) (near far : UInt64) : NativeM σ Unit :=
  call driver (.depthRange (singleOfDouble near) (singleOfDouble far))

/-- Drawing to one color buffer. -/
def drawBuffer (driver : Driver σ) (buffer : Nat) : NativeM σ Unit :=
  call driver (.drawBuffers 1 (some [esDrawBuffer buffer]))

/-- Starting to render only if a query says so, where the driver can do that. -/
def beginConditionalRender (driver : Driver σ) (query mode : Nat) : NativeM σ Unit := do
  if driver.has (← get) .beginConditionalRender then
    call driver (.beginConditionalRender query mode)

/-- Ending conditional rendering, where the driver can do that. -/
def endConditionalRender (driver : Driver σ) : NativeM σ Unit := do
  if driver.has (← get) .endConditionalRender then call driver .endConditionalRender

end GlBridge.Gl
