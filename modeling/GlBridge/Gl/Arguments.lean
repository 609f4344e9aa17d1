import GlBridge.Gl.State

/-!
# Arguments and replies of entry points

What an application passes to an entry point, and what it gets back.  A pointer is given together
with what it points to: elements to read, or places to write.

* `Argument`, `Arguments` — what is passed, and how it is read;
* `Reply` — the result, and what is written where an argument points;
* `EntryPoint` — a function that applications can call.
-/

namespace GlBridge.Gl

/-- An element that a pointer points to. -/
inductive Cell where
  | null
  | int (n : Int)
  /-- The address of bytes with a zero after them. -/
  | bytes (content : Bytes)
deriving Repr

/-- What an application passes. -/
inductive Argument where
  /-- A number, an address that is never looked at, or nothing. -/
  | plain (value : Value)
  /-- The address of elements. -/
  | array (cells : List Cell)
  /-- The address of a text with a zero after it. -/
  | text (content : Text)
  /-- The address of so many cleared elements that can be written. -/
  | output (length : Nat)
deriving Repr

namespace Argument

/-- What the native side sees of an argument that is passed on. -/
def passed : Argument → Value
  | plain value => value
  | _ => .memory

/-- The number that is passed. -/
def toInt : Argument → Int
  | plain (.int n) => n
  | _ => 0

/-- The elements that an argument points to, unless it points nowhere. -/
def cells? : Argument → Option (List Cell)
  | array cells => some cells
  | output length => some (List.replicate length (.int 0))
  | _ => none

end Argument

namespace Cell

/-- The number in an element. -/
def toInt : Cell → Int
  | int n => n
  | _ => 0

/-- The address in an element. -/
def toValue : Cell → Value
  | null => .null
  | int n => .int n
  | bytes _ => .memory

/-- The memory at the address in an element. -/
def memory? : Cell → Option Bytes
  | bytes content => some (content ++ [0])
  | _ => none

end Cell

/-- All that an application passes to an entry point. -/
abbrev Arguments := List Argument

namespace Arguments

/-- The argument at an index. -/
def argument (a : Arguments) (i : Nat) : Argument := a.getD i (.plain .null)

/-- A number with a sign. -/
def int (a : Arguments) (i : Nat) : Int := (a.argument i).toInt

/-- A number without a sign. -/
def nat (a : Arguments) (i : Nat) : Nat := (a.int i).toNat

/-- A handle; zero is none. -/
def handle? (a : Arguments) (i : Nat) : Option Nat := if a.nat i = 0 then none else some (a.nat i)

/-- A value that is passed on. -/
def value (a : Arguments) (i : Nat) : Value := (a.argument i).passed

/-- All values from an index on, passed on. -/
def valuesFrom (a : Arguments) (i : Nat) : List Value := (a.drop i).map Argument.passed

/-- The bits of a number of double precision. -/
def double (a : Arguments) (i : Nat) : UInt64 :=
  match a.argument i with
  | .plain (.double bits) => bits
  | _ => 0

/-- Whether an argument points somewhere. -/
def isStored (a : Arguments) (i : Nat) : Bool :=
  match a.argument i with
  | .plain .null => false
  | _ => true

/-- Whether an argument points to memory that can be looked at. -/
def isMemory (a : Arguments) (i : Nat) : Bool :=
  match a.argument i with
  | .plain _ => false
  | _ => true

/-- The numbers that an argument points to. -/
def ints? (a : Arguments) (i : Nat) : Option (List Int) :=
  (a.argument i).cells?.map fun cells => cells.map Cell.toInt

/-- The numbers that an argument points to, if any. -/
def ints (a : Arguments) (i : Nat) : List Int := (a.ints? i).getD []

/-- The first numbers without a sign that an argument points to. -/
def nats? (a : Arguments) (i : Nat) (count : Int) : Option (List Nat) :=
  (a.ints? i).map fun elements => (elements.take count.toNat).map Int.toNat

/-- The addresses that an argument points to. -/
def addresses (a : Arguments) (i : Nat) : List Value :=
  ((a.argument i).cells?.getD []).map Cell.toValue

/-- The text that an argument points to. -/
def text? (a : Arguments) (i : Nat) : Option Text :=
  match a.argument i with
  | .text content => some content
  | _ => none

/-- A visual's number, or nothing. -/
def number? (a : Arguments) (i : Nat) : Option Nat :=
  match a.argument i with
  | .plain (.int n) => some n.toNat
  | _ => none

end Arguments

/-- What an application gets back. -/
structure Reply where
  result : Value := .null
  /-- What is written where the argument of an index points. -/
  written : List (Nat × List Int) := []
deriving Repr

namespace Reply

/-- A reply that is only a number. -/
def int (n : Int) : Reply := { result := .int n }

/-- A reply that is a handle, or nothing. -/
def handle (h : Option Nat) : Reply := { result := .handle h }

/-- A reply that is a text, or nothing. -/
def text (t : Option Text) : Reply := { result := (t.map Value.text).getD .null }

/-- A reply that is the address of some memory, or nothing. -/
def mapped (memory : Option Bytes) : Reply := { result := if memory.isSome then .memory else .null }

/-- A reply that is a truth value. -/
def truth (value : Bool) : Reply := int (if value then 1 else 0)

/-- A reply that is a visual, or nothing. -/
def visual (found : Option Visual) : Reply :=
  { result := (found.map fun v => Value.visual v.visualId v.screen).getD .null }

/-- A reply that writes handles. -/
def handles (index : Nat) (handles : List Nat) : Reply :=
  { written := [(index, handles.map Int.ofNat)] }

/-- A reply that writes one number. -/
def number (index : Nat) (n : Int) : Reply := { written := [(index, [n])] }

end Reply

/-- What is found in the end where an argument pointed: what was written, then the zeros of
before. -/
def outputs (arguments : Arguments) (reply : Reply) : List (List Int) :=
  arguments.zipIdx.filterMap fun (argument, index) =>
    match argument with
    | .output length =>
      let written := (reply.written.lookup index).getD []
      some (written.take length ++ List.replicate (length - written.length) 0)
    | _ => none

/-- A function that applications can call. -/
structure EntryPoint : Type 1 where
  name : Text
  run : {σ : Type} → Driver σ → Compiler → Arguments → EntryM σ Reply

namespace EntryPoint

/-- An entry point that is a sequence of native calls. -/
def native (name : String) (act : {σ : Type} → Driver σ → Arguments → NativeM σ Reply) :
    EntryPoint where
  name := name.toList
  run driver _ arguments := runNative (act driver arguments)

/-- An entry point that is a sequence of native calls without a reply. -/
def silent (name : String) (act : {σ : Type} → Driver σ → Arguments → NativeM σ Unit) :
    EntryPoint :=
  native name fun driver arguments => do
    act driver arguments
    return {}

/-- An entry point that does nothing. -/
def ignored (name : String) : EntryPoint := silent name fun _ _ => pure ()

/-- An entry point that works on the state of the bridge. -/
def stateful (name : String) (act : {σ : Type} → Driver σ → Arguments → EntryM σ Reply) :
    EntryPoint where
  name := name.toList
  run driver _ arguments := act driver arguments

/-- An entry point that the native side has under the same name, without the lead `gl`. -/
def forwarded (kind : ResultKind) (name : Text) : EntryPoint where
  name := name
  run driver _ arguments := do
    let result : Value ←
      runNative (call driver (.forward (name.drop 2) (arguments.map Argument.passed) kind))
    return { result }

end EntryPoint
end GlBridge.Gl
