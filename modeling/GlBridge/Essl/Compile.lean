import GlBridge.Essl.Printer
import GlBridge.Translator

/-!
# The compiler

From a prepared source to a text of the embedded language.  Resources lose their names on the way;
what the source says of them is kept aside, so that they can be given back.

* `resourcesOf` — what a shader says of its resources;
* `bindingPointsOf` — the binding points of the resources;
* `compile` — the compiler.
-/

namespace GlBridge.Essl

open Interface

/-- What is kept of a resource.  A sampler is part of the textures that it is used with. -/
def resourceOf? (structures : Structures) (v : Variable) : Option (ResourceKey × Resource) := do
  let key ← v.key
  if v.type.isSampler then none
  else
    match v.type with
    | .structure index =>
      let members := (structures[index]?).elim [] Structure.members
      return (key,
        { name := v.name, loose := false, members := members.map fun m => m.name.getD [] })
    | _ => return (key, { name := v.name, loose := v.space == .uniform, members := [] })

/-- What a shader says of its resources. -/
def resourcesOf (shader : Shader) : Resources :=
  (shader.globals.filterMap (resourceOf? shader.structures)).foldl
    (fun resources (key, resource) => resources.insert key resource) []

/-- The kind of binding points that a variable takes one of. -/
def categoryOf? (v : Variable) : Option BindingCategory :=
  match v.space with
  | .handle => if v.type.isSampler then none else some .textureUnit
  | .uniform => some .uniformBlock
  | .storage _ _ => some .storageBlock
  | _ => none

/-- The binding points of the resources of a program. -/
def bindingPointsOf (globals : List Variable) : BindingPoints :=
  assignBindingPoints (globals.filterMap fun v => do
    return { key := ← v.key, category := ← categoryOf? v })

/-- The compiler. -/
def compile : Compiler := fun stage source => do
  let shader ← shaderOf? stage source
  let program ← flatten? shader
  return (programText (bindingPointsOf program.globals) program, resourcesOf shader)

end GlBridge.Essl
