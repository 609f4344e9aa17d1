import GlBridge.Text.Basic

/-!
# Shader stages

The six stages a shader can be made for, with the enumerant that stands for each in driver calls
and the words that stand for it in messages.
-/

namespace GlBridge

/-- The stage of the pipeline that a shader is for. -/
inductive Stage where
  | vertex
  | fragment
  | geometry
  | tessControl
  | tessEvaluation
  | compute
deriving DecidableEq, Repr

namespace Stage

/-- The enumerant of a stage. -/
def enumerant : Stage → Nat
  | vertex => 0x8B31
  | fragment => 0x8B30
  | geometry => 0x8DD9
  | tessControl => 0x8E88
  | tessEvaluation => 0x8E87
  | compute => 0x91B9

/-- Every stage. -/
def all : List Stage := [vertex, fragment, geometry, tessControl, tessEvaluation, compute]

/-- The stage of an enumerant. -/
def ofEnumerant? (value : Nat) : Option Stage := all.find? (·.enumerant == value)

/-- The words for a stage in messages. -/
def name : Stage → Text
  | vertex => "vertex".toList
  | fragment => "fragment".toList
  | geometry => "geometry".toList
  | tessControl => "tessellation control".toList
  | tessEvaluation => "tessellation evaluation".toList
  | compute => "compute".toList

theorem ofEnumerant?_enumerant (stage : Stage) : ofEnumerant? stage.enumerant = some stage := by
  cases stage <;> decide

end Stage
end GlBridge
