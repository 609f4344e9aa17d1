import GlBridge.Gl.Desktop
import GlBridge.Gl.Draw
import GlBridge.Gl.Texture
import GlBridge.Layout.Slots

/-!
# Access to textures and buffers by name

Desktop calls work on a texture or buffer by its name, embedded ones on what is bound to a target.
So the object is bound for the time of the call, and what was bound before is bound again.

* `withTexture`, `withBuffer` — doing something while an object is bound;
* the desktop's calls on textures and buffers by name, and its ways of mapping buffers.
-/

namespace GlBridge.Gl

open Enumerant

variable {σ : Type}

/-- Doing something while a texture is bound to a target of the active unit. -/
def withTextureBound (driver : Driver σ) (target texture : Nat) (act : Nat → NativeM σ Unit) :
    NativeM σ Unit := do
  let old : Int ← call driver (.getInteger (bindingQuery target))
  call driver (.bindTexture (esTarget target) texture)
  act (esTarget target)
  call driver (.bindTexture (esTarget target) (wordOf old))

/-- Doing something while a texture is bound to its target.  Nothing is done for a texture whose
target is unknown. -/
def withTexture (driver : Driver σ) (targets : TextureTargets) (texture : Nat)
    (act : Nat → NativeM σ Unit) : NativeM σ Unit :=
  match targets.target? texture with
  | none => pure ()
  | some target => withTextureBound driver target texture act

/-- A texture function on a texture by name. -/
def onNamedTexture (driver : Driver σ) (targets : TextureTargets) (texture : Nat)
    (function : Text) (arguments : List Value) : NativeM σ Unit :=
  withTexture driver targets texture fun target =>
    call driver (.onTexture function target arguments)

/-- Binding a texture to a unit, whichever unit is active.  A texture whose target is unknown is
taken for a two-dimensional one.  The unit's enumerant has to fit 32 bits. -/
def bindTextureUnit (driver : Driver σ) (targets : TextureTargets) (unit texture : Nat) :
    Except Overflow (NativeM σ Unit) :=
  (Word32.add texture0 unit).map fun enumerant => do
    let old : Int ← call driver (.getInteger activeTexture)
    call driver (.activeTexture enumerant)
    call driver (.bindTexture (((targets.target? texture).map esTarget).getD texture2D) texture)
    call driver (.activeTexture (wordOf old))

/-! ## Buffers -/

/-- Doing something while a buffer is bound to the target that nothing else depends on. -/
def withBuffer (driver : Driver σ) (buffer : Nat) (act : Nat → NativeM σ α) : NativeM σ α := do
  let old : Int ← call driver (.getInteger copyWriteBuffer)
  call driver (.bindBuffer copyWriteBuffer buffer)
  let result ← act copyWriteBuffer
  call driver (.bindBuffer copyWriteBuffer (wordOf old))
  return result

/-- Whether immutable storage can be had. -/
def haveStorage (driver : Driver σ) : NativeM σ Bool := do
  return driver.has (← get) .bufferStorage

/-- Mapping a range of the buffer bound to a target. -/
def mapBufferRange (driver : Driver σ) (target : Nat) (offset length : Int) (access : Nat) :
    NativeM σ (Option Bytes) := do
  let access := stripPersistence access (← haveStorage driver)
  call driver (.mapBufferRange target offset length access)

/-- Mapping the buffer bound to a target: as the driver does it, or as a range that covers the
whole buffer. -/
def mapBuffer (driver : Driver σ) (target access : Nat) : NativeM σ (Option Bytes) := do
  if driver.has (← get) .mapBuffer then call driver (.mapBuffer target access)
  else
    let size : Int ← call driver (.getBufferParameter target bufferSize)
    call driver (.mapBufferRange target 0 size (mapAccessBits access))

/-- Giving the buffer bound to a target its storage, which is ordinary storage where there is no
immutable one. -/
def bufferStorage (driver : Driver σ) (target : Nat) (size : Int) (data : Value) (flags : Nat) :
    NativeM σ Unit := do
  if ← haveStorage driver then call driver (.bufferStorage target size data flags)
  else call driver (.bufferData target size data staticDraw)

/-- New buffers.  Binding a name once makes it a buffer. -/
def createBuffers (driver : Driver σ) (count : Int) (stored : Bool) : NativeM σ (List Nat) := do
  let buffers : List Nat ← call driver (.genBuffers count stored)
  buffers.forM fun buffer => withBuffer driver buffer fun _ => pure ()
  return buffers

/-- Filling a buffer. -/
def namedBufferData (driver : Driver σ) (buffer : Nat) (size : Int) (data : Value) (usage : Nat) :
    NativeM σ Unit :=
  withBuffer driver buffer fun target => call driver (.bufferData target size data usage)

/-- Filling a part of a buffer. -/
def namedBufferSubData (driver : Driver σ) (buffer : Nat) (offset size : Int) (data : Value) :
    NativeM σ Unit :=
  withBuffer driver buffer fun target => call driver (.bufferSubData target offset size data)

/-- Giving a buffer its storage. -/
def namedBufferStorage (driver : Driver σ) (buffer : Nat) (size : Int) (data : Value)
    (flags : Nat) : NativeM σ Unit :=
  withBuffer driver buffer fun target => bufferStorage driver target size data flags

/-- Mapping a range of a buffer. -/
def mapNamedBufferRange (driver : Driver σ) (buffer : Nat) (offset length : Int) (access : Nat) :
    NativeM σ (Option Bytes) :=
  withBuffer driver buffer fun target => mapBufferRange driver target offset length access

/-- Ending the mapping of a buffer. -/
def unmapNamedBuffer (driver : Driver σ) (buffer : Nat) : NativeM σ Int :=
  withBuffer driver buffer fun target => call driver (.unmapBuffer target)

/-- Copying a part of one buffer into another one. -/
def copyNamedBufferSubData (driver : Driver σ) (readBuffer writeBuffer : Nat)
    (readOffset writeOffset size : Int) : NativeM σ Unit := do
  let old : Int ← call driver (.getInteger copyReadBuffer)
  call driver (.bindBuffer copyReadBuffer readBuffer)
  withBuffer driver writeBuffer fun target =>
    call driver (.copyBufferSubData copyReadBuffer target readOffset writeOffset size)
  call driver (.bindBuffer copyReadBuffer (wordOf old))

/-- Reading a part of the buffer bound to a target, by way of a mapping.  There is nothing to read
if the size is negative or the buffer cannot be mapped. -/
def getBufferSubData (driver : Driver σ) (target : Nat) (offset size : Int) :
    NativeM σ (Option Bytes) := do
  if size < 0 then return none
  else
    let mapped : Option Bytes ← call driver (.mapBufferRange target offset size mapReadBit)
    match mapped with
    | none => return none
    | some memory =>
      let _ : Int ← call driver (.unmapBuffer target)
      return some (memory.take size.toNat)

end GlBridge.Gl
