import GlBridge.Gl.Draw
import GlBridge.Gl.Texture
import GlBridge.Program.Shaders
import GlBridge.Window.Session

/-!
# The state of the bridge

All that the bridge holds between calls: the targets of textures, the state of shaders, the window
system session once there is one, and the files and the native side that it works on.

* `World` — the state;
* `EntryM` — something an application's call does to it.
-/

namespace GlBridge.Gl

/-- A session on a display. -/
structure OpenDisplay where
  /-- The address of the application's connection to the display server. -/
  display : Nat
  session : Window.Session
deriving DecidableEq, Repr

/-- The state of the bridge, on a native side whose state is of type `σ`. -/
structure World (σ : Type) where
  textures : TextureTargets := []
  shaders : ShaderState
  display : Option OpenDisplay := none
  /-- The configurations behind the visuals that applications were given. -/
  visuals : List (Nat × Window.Config) := []
  /-- The texts that applications were given, by name.  They stay the same once given. -/
  texts : List (Nat × Text) := []
  /-- The list of extensions that applications were given. -/
  extensions : Option Text := none
  files : Files := {}
  native : σ

/-- Something an application's call does. -/
abbrev EntryM (σ : Type) := StateT (World σ) (Except Overflow)

variable {σ : Type}

/-- A sequence of native calls. -/
def runNative (act : NativeM σ α) : EntryM σ α := fun world =>
  let (result, native) := act world.native
  .ok (result, { world with native })

/-- A computation that may overflow. -/
def orOverflow (result : Except Overflow α) : EntryM σ α := fun world =>
  result.map fun value => (value, world)

end GlBridge.Gl
