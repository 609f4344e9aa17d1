import GlBridge.Window.Backend

/-!
# Window images

Frames are read with the lowest row first and the bytes of a pixel in the order red, green, blue,
alpha.  A window wants the highest row first and red and blue exchanged.  The memory for images is used
again from frame to frame.
-/

namespace GlBridge.Window

/-- The pixels of a row with red and blue exchanged; bytes that make up no whole pixel are left
out. -/
def swapColors : Bytes → Bytes
  | r :: g :: b :: a :: rest => b :: g :: r :: a :: swapColors rest
  | _ => []

/-- The first rows of a frame, at most `count`; bytes that make up no whole row are left out. -/
def rows (rowBytes : Nat) : Nat → Bytes → List Bytes
  | 0, _ => []
  | count + 1, bytes =>
    if bytes.length < rowBytes then []
    else bytes.take rowBytes :: rows rowBytes count (bytes.drop rowBytes)

/-- The largest number that a length can have. -/
def lengthLimit : Nat := 18446744073709551615

/-- Writing the image of a frame for a window into memory, which is cleared and then filled row by
row.  Rows must not be empty, and there must be room for the image; none of this depends on how long
the frame is. -/
def writeImage (memory frame : Bytes) (width height : Nat) : Option Bytes :=
  if width = 0 ∨ lengthLimit < width * 4 ∨ bufferLimit < width * 4 * height then none
  else
    some ((rows (width * 4) height frame).reverse.foldl (fun image row => image ++ swapColors row)
      (memory.take 0))

/-- The image of a frame for a window. -/
def windowImage (frame : Bytes) (width height : Nat) : Option Bytes :=
  writeImage [] frame width height

end GlBridge.Window
