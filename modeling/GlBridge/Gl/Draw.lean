import GlBridge.Gl.Enumerant
import GlBridge.Gl.Native
import GlBridge.Glsl.DrawParameter

/-!
# Draw calls

Draw calls that the embedded language lacks are made from those it has.  A multi-draw becomes one
draw after the other, and the uniforms that stand in for the draw parameters are set for each draw
and cleared in the end.

* `call` — one call to the native side;
* `parameterLocation`, `setParameter` — the uniform of a draw parameter in the current program;
* `multiDraw` — the draws of a multi-draw;
* the desktop's draw calls.
-/

namespace GlBridge.Gl

open Enumerant

/-- A sequence of calls to a native side whose state is of type `σ`. -/
abbrev NativeM (σ : Type) := StateM σ

variable {σ : Type}

/-- One call to the native side. -/
def call (driver : Driver σ) (c : Call) : NativeM σ c.Answer := driver.answer c

/-- A number that is read as a word of 32 bits without sign. -/
def wordOf (n : Int) : Nat := (n % word32Limit).toNat

/-- A word of 32 bits that is read as a number with a sign. -/
def signedOf (n : Nat) : Int := Int.bmod n word32Limit

/-- The location of the uniform that stands in for a draw parameter, if the current program uses
it. -/
def parameterLocation (driver : Driver σ) (parameter : DrawParameter) :
    NativeM σ (Option Int) := do
  let program : Int ← call driver (.getInteger currentProgram)
  if program = 0 then return none
  else
    let location : Int ← call driver (.getUniformLocation (wordOf program) parameter.uniform)
    return if 0 ≤ location then some location else none

/-- Setting a uniform, if there is one. -/
def setParameter (driver : Driver σ) (location : Option Int) (value : Int) : NativeM σ Unit :=
  match location with
  | none => pure ()
  | some location => call driver (.uniform location value)

/-- The draws from an index on, each with the draw index set.  Those without vertices are left
out. -/
def drawEach (driver : Driver σ) (location : Option Int) (draw : Nat → Int → NativeM σ Unit) :
    Nat → List Int → NativeM σ Unit
  | _, [] => pure ()
  | index, count :: counts => do
    if 0 < count then
      setParameter driver location (signedOf index)
      draw index count
    drawEach driver location draw (index + 1) counts

/-- A multi-draw: one draw for each count, given its index and its count.  Without counts nothing
is drawn. -/
def multiDraw (driver : Driver σ) (drawCount : Int) (counts : Option (List Int))
    (draw : Nat → Int → NativeM σ Unit) : NativeM σ Unit :=
  match counts with
  | none => pure ()
  | some counts => do
    let location ← parameterLocation driver .drawId
    drawEach driver location draw 0 (counts.take drawCount.toNat)
    setParameter driver location 0

/-- Several draws of arrays. -/
def multiDrawArrays (driver : Driver σ) (mode : Nat) (firsts : List Int)
    (counts : Option (List Int)) (drawCount : Int) : NativeM σ Unit :=
  multiDraw driver drawCount counts fun index count =>
    call driver (.draw (.arrays mode (firsts.getD index 0) count))

/-- Several draws of indexed vertices. -/
def multiDrawElements (driver : Driver σ) (mode : Nat) (counts : Option (List Int)) (type : Nat)
    (indices : List Value) (drawCount : Int) : NativeM σ Unit :=
  multiDraw driver drawCount counts fun index count =>
    call driver (.draw (.elements mode count type (indices.getD index .null)))

/-- Several draws of indexed vertices, each with a base vertex. -/
def multiDrawElementsBaseVertex (driver : Driver σ) (mode : Nat) (counts : Option (List Int))
    (type : Nat) (indices : List Value) (drawCount : Int) (baseVertices : List Int) :
    NativeM σ Unit := do
  let location ← parameterLocation driver .baseVertex
  multiDraw driver drawCount counts fun index count => do
    let baseVertex := baseVertices.getD index 0
    setParameter driver location baseVertex
    call driver (.draw (.elementsBaseVertex mode count type (indices.getD index .null) baseVertex))
  setParameter driver location 0

/-- One draw with a draw parameter set. -/
def drawWith (driver : Driver σ) (parameter : DrawParameter) (value : Int) (draw : DrawCall) :
    NativeM σ Unit := do
  let location ← parameterLocation driver parameter
  setParameter driver location value
  call driver (.draw draw)
  setParameter driver location 0

/-- A draw of indexed vertices with a base vertex. -/
def drawElementsBaseVertex (driver : Driver σ) (mode : Nat) (count : Int) (type : Nat)
    (indices : Value) (baseVertex : Int) : NativeM σ Unit :=
  drawWith driver .baseVertex baseVertex (.elementsBaseVertex mode count type indices baseVertex)

/-- Instances of indexed vertices with a base vertex. -/
def drawElementsInstancedBaseVertex (driver : Driver σ) (mode : Nat) (count : Int) (type : Nat)
    (indices : Value) (instances baseVertex : Int) : NativeM σ Unit :=
  drawWith driver .baseVertex baseVertex
    (.elementsInstancedBaseVertex mode count type indices instances baseVertex)

/-- Instances of arrays with a base instance, which only the shader sees. -/
def drawArraysInstancedBaseInstance (driver : Driver σ) (mode : Nat)
    (first count instances : Int) (baseInstance : Nat) : NativeM σ Unit :=
  drawWith driver .baseInstance (signedOf baseInstance)
    (.arraysInstanced mode first count instances)

/-- Instances of indexed vertices with a base instance, which only the shader sees. -/
def drawElementsInstancedBaseInstance (driver : Driver σ) (mode : Nat) (count : Int) (type : Nat)
    (indices : Value) (instances : Int) (baseInstance : Nat) : NativeM σ Unit :=
  drawWith driver .baseInstance (signedOf baseInstance)
    (.elementsInstanced mode count type indices instances)

/-- Instances of indexed vertices with a base vertex and a base instance. -/
def drawElementsInstancedBaseVertexBaseInstance (driver : Driver σ) (mode : Nat) (count : Int)
    (type : Nat) (indices : Value) (instances baseVertex : Int) (baseInstance : Nat) :
    NativeM σ Unit := do
  let vertexLocation ← parameterLocation driver .baseVertex
  let instanceLocation ← parameterLocation driver .baseInstance
  setParameter driver vertexLocation baseVertex
  setParameter driver instanceLocation (signedOf baseInstance)
  call driver (.draw (.elementsInstancedBaseVertex mode count type indices instances baseVertex))
  setParameter driver vertexLocation 0
  setParameter driver instanceLocation 0

end GlBridge.Gl
