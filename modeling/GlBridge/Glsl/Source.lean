import GlBridge.Text.Utf8

/-!
# Shader source arguments

An application hands a shader's source over in pieces: pointers to strings, each of which either
has a length or ends in a zero byte.  A null pointer is no piece at all.  What is read at a pointer
is the memory from it on, of which a piece is the beginning.

* `SourceArguments.fragments` — the pieces that the arguments stand for;
* `joinFragments` — the text that the pieces make up together.
-/

namespace GlBridge.Glsl

/-- The arguments that a source is handed over with. -/
structure SourceArguments where
  /-- How many pieces there are; none if it is negative. -/
  count : Int
  /-- The memory at every pointer, `none` for a null pointer. -/
  strings : List (Option Bytes)
  /-- The lengths of the pieces.  A piece with a negative length ends in a zero byte, and so do
  all if no lengths are given. -/
  lengths : Option (List Int)
deriving DecidableEq, Repr

/-- The piece at the start of some memory. -/
def fragment (memory : Bytes) (length : Int) : Bytes :=
  if 0 ≤ length then memory.take length.toNat else memory.takeWhile (· ≠ 0)

namespace SourceArguments

/-- The length given for the piece at an index. -/
def length (arguments : SourceArguments) (index : Nat) : Int :=
  match arguments.lengths with
  | none => -1
  | some lengths => lengths.getD index (-1)

/-- The pieces of a source. -/
def fragments (arguments : SourceArguments) : List Bytes :=
  (List.range arguments.count.toNat).filterMap fun index =>
    (arguments.strings[index]?.getD none).map (fragment · (arguments.length index))

end SourceArguments

/-- The text of the pieces.  Only the bytes of all pieces together are read as characters. -/
def joinFragments (fragments : List Bytes) : Text := Text.decode fragments.flatten

end GlBridge.Glsl
