import GlBridge.Text.Utf8

/-!
# Program binaries

A linked program can be taken from the driver as a blob of bytes in a format that only the driver
knows.  Where it is stored, the format comes first, as four bytes with the lowest in front.
-/

namespace GlBridge

/-- A linked program as the driver hands it out. -/
structure ProgramBinary where
  format : UInt32
  blob : Bytes
deriving DecidableEq, Repr

namespace ProgramBinary

/-- The bytes of a format word, the lowest first. -/
def formatBytes (format : UInt32) : Bytes :=
  [format.toUInt8, (format >>> 8).toUInt8, (format >>> 16).toUInt8, (format >>> 24).toUInt8]

/-- The word that four bytes make up, the lowest first. -/
def formatOfBytes (a b c d : UInt8) : UInt32 :=
  a.toUInt32 ||| b.toUInt32 <<< 8 ||| c.toUInt32 <<< 16 ||| d.toUInt32 <<< 24

/-- The stored form of a binary. -/
def encode (binary : ProgramBinary) : Bytes := formatBytes binary.format ++ binary.blob

/-- The binary that bytes store.  There is none if they are too short for a format. -/
def decode? : Bytes → Option ProgramBinary
  | a :: b :: c :: d :: blob => some { format := formatOfBytes a b c d, blob }
  | _ => none

end ProgramBinary

/-- The part of the driver that linked programs go through.  `σ` is the driver's state. -/
structure ProgramDriver (σ : Type) where
  /-- The binary of a linked program, if the driver has one. -/
  binary? : Nat → σ → Option ProgramBinary × σ
  /-- Loading a binary into a program, and whether the program is linked afterwards. -/
  load : Nat → ProgramBinary → σ → Bool × σ

end GlBridge
