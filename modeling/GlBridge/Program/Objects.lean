import GlBridge.Digest.Sha256
import GlBridge.Glsl.Stage

/-!
# Shader and program objects

What is known of the application's objects: a shader's stage and its source as the application
wrote it, and the shaders attached to a program in the order they were attached.  A record lives
as long as its object, so that a handle used again starts afresh.

* `ShaderObjects` — the records, with one operation for each call that changes them;
* `ShaderObjects.programKey?` — the digest that names a program in the cache.
-/

namespace GlBridge

/-- What is known of a shader. -/
structure ShaderObject where
  stage : Option Stage := none
  source : Option Text := none
deriving DecidableEq, Repr

/-- The records of shaders and programs, by handle. -/
structure ShaderObjects where
  shaders : List (Nat × ShaderObject) := []
  programs : List (Nat × List Nat) := []
deriving DecidableEq, Repr

namespace ShaderObjects

/-- The records with one put in place of an earlier one of the same handle. -/
def record (records : List (Nat × α)) (handle : Nat) (value : α) : List (Nat × α) :=
  (handle, value) :: records.filter (·.1 ≠ handle)

/-- What is known of a shader. -/
def shader? (objects : ShaderObjects) (shader : Nat) : Option ShaderObject :=
  objects.shaders.lookup shader

/-- The shaders attached to a program. -/
def attached (objects : ShaderObjects) (program : Nat) : List Nat :=
  (objects.programs.lookup program).getD []

/-- A new shader. -/
def createShader (objects : ShaderObjects) (shader : Nat) (stage : Stage) : ShaderObjects :=
  { objects with shaders := record objects.shaders shader { stage := some stage } }

/-- A new source for a shader.  One whose making was not seen has no stage. -/
def setSource (objects : ShaderObjects) (shader : Nat) (source : Text) : ShaderObjects :=
  let object := (objects.shader? shader).getD {}
  { objects with shaders := record objects.shaders shader { object with source := some source } }

/-- The stage of a shader, if known. -/
def stage? (objects : ShaderObjects) (shader : Nat) : Option Stage :=
  (objects.shader? shader).bind ShaderObject.stage

/-- A shader's end. -/
def deleteShader (objects : ShaderObjects) (shader : Nat) : ShaderObjects :=
  { objects with shaders := objects.shaders.filter (·.1 ≠ shader) }

/-- A new program. -/
def createProgram (objects : ShaderObjects) (program : Nat) : ShaderObjects :=
  { objects with programs := record objects.programs program [] }

/-- Attaching a shader, unless it is attached already. -/
def attach (objects : ShaderObjects) (program shader : Nat) : ShaderObjects :=
  let attached := objects.attached program
  { objects with
    programs := record objects.programs program
      (if shader ∈ attached then attached else attached ++ [shader]) }

/-- Detaching a shader. -/
def detach (objects : ShaderObjects) (program shader : Nat) : ShaderObjects :=
  match objects.programs.lookup program with
  | none => objects
  | some attached =>
    { objects with programs := record objects.programs program (attached.filter (· ≠ shader)) }

/-- A program's end. -/
def deleteProgram (objects : ShaderObjects) (program : Nat) : ShaderObjects :=
  { objects with programs := objects.programs.filter (·.1 ≠ program) }

/-- The source of a shader, if known. -/
def source? (objects : ShaderObjects) (shader : Nat) : Option Text :=
  (objects.shader? shader).bind ShaderObject.source

/-- The digest of the sources of a program's shaders in the order they are attached.  There is
none if no shader is attached, or one whose source is unknown. -/
def programKey? (objects : ShaderObjects) (program : Nat) : Option Digest :=
  let attached := objects.attached program
  if attached = [] then none
  else (attached.mapM objects.source?).map fun sources => Digest.ofParts (sources.map Text.encode)

end ShaderObjects
end GlBridge
