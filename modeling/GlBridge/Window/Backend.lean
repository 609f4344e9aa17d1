import GlBridge.Text.Utf8
import GlBridge.Window.Fault

/-!
# Window system backends

What the bridge needs of the platform: choosing configurations, contexts and surfaces, and moving
pixels.  A backend is anything that answers these calls from a state of its own, which is how the
session can be run on a script as well as on a display.

* `bufferLimit` — how large a buffer for pixels can be;
* `Call`, `Call.Answer` — the calls, each with the type of its answer;
* `Backend` — how calls are answered.
-/

namespace GlBridge.Window

/-- A window, or anything else to draw on. -/
abbrev Drawable := Nat

/-- A framebuffer configuration. -/
abbrev Config := Nat

/-- A rendering context. -/
abbrev Context := Nat

/-- A rendering surface. -/
abbrev Surface := Nat

/-- The bit of a surface type that stands for windows. -/
def windowBit : Nat := 4

/-- The bit of a surface type that stands for off-screen buffers. -/
def pbufferBit : Nat := 1

/-- The largest number of bytes that a buffer can have. -/
def bufferLimit : Nat := 9223372036854775807

/-- The attribute that holds a configuration's surface type. -/
def surfaceTypeAttribute : Int := 12339

/-- What a backend is asked. -/
inductive Call where
  /-- The configurations that an attribute list describes, the best first. -/
  | chooseConfigs (attributes : List Int)
  | configAttribute (config : Config) (name : Int)
  /-- A context of exactly the given version. -/
  | createContext (config : Config) (share : Option Context) (major minor : Int)
  | destroyContext (context : Context)
  /-- The call that may crash. -/
  | createWindowSurface (config : Config) (drawable : Drawable)
  | createPbufferSurface (config : Config) (width height : Nat)
  | destroySurface (surface : Surface)
  /-- Binding a surface and a context, or releasing what is bound. -/
  | makeCurrent (surface : Option Surface) (context : Option Context)
  | swapBuffers (surface : Surface)
  | swapInterval (interval : Int)
  /-- The size of a drawable that still exists. -/
  | drawableSize (drawable : Drawable)
  /-- Reading the bound surface's pixels, the lowest row first, into a buffer. -/
  | readPixels (width height : Nat) (buffer : Bytes)
  /-- Drawing pixels, the lowest row first. -/
  | putPixels (drawable : Drawable) (width height : Nat) (pixels : Bytes)
deriving DecidableEq, Repr

/-- The type of the answer to a call. -/
def Call.Answer : Call → Type
  | chooseConfigs _ => List Config
  | configAttribute _ _ => Option Int
  | createContext _ _ _ _ => Option Context
  | destroyContext _ => Unit
  | createWindowSurface _ _ => Except Signal (Option Surface)
  | createPbufferSurface _ _ _ => Option Surface
  | destroySurface _ => Unit
  | makeCurrent _ _ => Bool
  | swapBuffers _ => Bool
  | swapInterval _ => Bool
  | drawableSize _ => Option (Nat × Nat)
  | readPixels _ _ _ => Bytes
  | putPixels _ _ _ _ => Bool

/-- How calls are answered, from a state of type `τ`. -/
structure Backend (τ : Type) where
  answer : (call : Call) → τ → call.Answer × τ

end GlBridge.Window
