import GlBridge.Gl.Enumerant
import GlBridge.Text.Basic

/-!
# Desktop answers

Where the desktop answer to a question differs from the driver's: versions, which are those of a
desktop core context, and the names of color buffers and mapping rights.
-/

namespace GlBridge.Gl

open Enumerant

/-- The desktop version that applications are told. -/
def desktopVersion : Nat × Nat := (4, 6)

/-- The desktop version in digits. -/
def desktopVersionText : Text := Text.ofNat desktopVersion.1 ++ '.' :: Text.ofNat desktopVersion.2

/-- The text that applications are told in place of the driver's. -/
def desktopText? (name : Nat) (driverText : Text) : Option Text :=
  if name = version then some (desktopVersionText ++ " Core Profile | ".toList ++ driverText)
  else if name = shadingLanguageVersion then
    some (desktopVersionText ++ "0 | ".toList ++ driverText)
  else if name = renderer then some ("glxes | ".toList ++ driverText)
  else none

/-- The number that applications are told in place of the driver's. -/
def desktopInteger? (query : Nat) : Option Int :=
  if query = majorVersion then some desktopVersion.1
  else if query = minorVersion then some desktopVersion.2
  else if query = contextProfileMask then some 1
  else none

/-- The desktop names of the window's color buffers: front, back, left, right, and combinations of
these. -/
def windowBuffers : List Nat := [0x0400, 0x0401, 0x0402, 0x0403, 0x0404, 0x0406, 0x0407, 0x0408]

/-- The embedded name of a color buffer.  A window has only one there. -/
def esDrawBuffer (buffer : Nat) : Nat := if buffer ∈ windowBuffers then back else buffer

/-- The mapping bits of a desktop access value. -/
def mapAccessBits (access : Nat) : Nat :=
  if access = readOnly then mapReadBit
  else if access = writeOnly then mapWriteBit
  else if access = readWrite then mapReadBit + mapWriteBit
  else 0

/-- Mapping bits without those of a persistent mapping, unless storage for one can be had. -/
def stripPersistence (access : Nat) (haveStorage : Bool) : Nat :=
  if haveStorage || access &&& mapPersistentBit == 0 then access
  else access - (access &&& (mapPersistentBit ||| mapCoherentBit))

end GlBridge.Gl
