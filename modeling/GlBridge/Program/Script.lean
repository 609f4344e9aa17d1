import GlBridge.Program.Binary

/-!
# A program driver by script

A stand-in for the driver that hands out one binary and accepts binaries by a fixed rule.  It
writes down what it is asked for, so that a run can be looked at afterwards.
-/

namespace GlBridge

/-- Which binaries a scripted driver accepts. -/
inductive Acceptance where
  /-- The one it hands out. -/
  | equal
  | all
  | none
deriving DecidableEq, Repr

/-- What a scripted driver does, and the calls made so far. -/
structure ProgramScript where
  binary : Option ProgramBinary := none
  accept : Acceptance := .equal
  calls : List Text := []
deriving DecidableEq, Repr

namespace ProgramScript

/-- Writing down a call. -/
def note (script : ProgramScript) (call : Text) : ProgramScript :=
  { script with calls := script.calls ++ [call] }

/-- Whether a binary is accepted. -/
def accepts (script : ProgramScript) (binary : ProgramBinary) : Bool :=
  match script.accept with
  | .equal => script.binary == some binary
  | .all => true
  | .none => false

/-- The text of a request for a program's binary. -/
def binaryCall (program : Nat) : Text := "program_binary ".toList ++ Text.ofNat program

/-- The text of a request to load a binary into a program. -/
def loadCall (program : Nat) (binary : ProgramBinary) : Text :=
  Text.join [' '] ["load_program_binary".toList, Text.ofNat program,
    Text.ofNat binary.format.toNat, binary.blob.toHex]

/-- The driver that follows a script. -/
def driver : ProgramDriver ProgramScript where
  binary? program script := (script.binary, script.note (binaryCall program))
  load program binary script := (script.accepts binary, script.note (loadCall program binary))

end ProgramScript
end GlBridge
