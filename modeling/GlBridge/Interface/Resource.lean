import GlBridge.Glsl.Word
import GlBridge.Text.Decimal

/-!
# Resources and generated names

The shader compiler names a resource after its group and binding, `_group_1_binding_0_fs`, and a
vertex input or fragment output after its location, `_p2vs_location0`.  A resource is also known
by what the application wrote: its name, how it was declared, and the members of its type.

* `Resource`, `Resources` — what is known of the resources of a shader;
* `resourceKey?`, `generatedLocation?` — reading the generated names.
-/

namespace GlBridge.Interface

open Text

/-- What a shader's source says of a resource. -/
structure Resource where
  /-- Its name.  A block without an instance name has none. -/
  name : Option Text := none
  /-- Whether it was declared as a plain uniform, outside any block. -/
  loose : Bool := false
  /-- The names of its members, if its type is a structure. -/
  members : List Text := []
deriving DecidableEq, Repr

/-- The group and the binding of a resource. -/
abbrev ResourceKey := Nat × Nat

/-- The resources of a shader. -/
abbrev Resources := List (ResourceKey × Resource)

namespace Resources

/-- The resources with one added, in place of an earlier one of the same group and binding. -/
def insert (resources : Resources) (key : ResourceKey) (resource : Resource) : Resources :=
  resources.filter (·.1 ≠ key) ++ [(key, resource)]

end Resources

/-- Whether a name is one that the language itself gives meaning to. -/
def isReserved (name : Text) : Bool := "gl_".toList.isPrefixOf name

/-- The words that name a stage at the end of a generated resource name. -/
def stageSuffixes : List Text := ["vs".toList, "fs".toList, "cs".toList]

/-- The group and binding in a generated resource name. -/
def resourceKey? (name : Text) : Option ResourceKey := do
  let rest ← dropPrefix? "_group_".toList name
  let (group, rest) ← splitAtFirst? "_binding_".toList rest
  let (binding, stage) ← splitAtFirst? "_".toList rest
  if stageSuffixes.contains stage then
    return (← word32? group, ← word32? binding)
  else none

/-- The location in a generated name of the interface that `lead` stands for. -/
def generatedLocation? (lead name : Text) : Option Nat := do
  let rest ← dropPrefix? lead name
  let digits ← dropPrefix? "_location".toList rest
  word32? digits

/-- What the generated names of vertex inputs start with. -/
def vertexInputLead : Text := "_p2vs".toList

/-- What the generated names of fragment outputs start with. -/
def fragmentOutputLead : Text := "_fs2p".toList

end GlBridge.Interface
