import GlBridge.Glsl.Version
import GlBridge.Glsl.Word

/-!
# Draw parameters

Three built-in variables of the desktop language tell a shader about the draw call it runs for.
The embedded language has none of them, so each is replaced by a uniform that the draw calls set.

* `DrawParameter` — the three built-ins, with the uniform for each;
* `polyfillBuiltins` — a source with the built-ins replaced and the uniforms declared.
-/

namespace GlBridge

/-- A built-in variable about the current draw call. -/
inductive DrawParameter where
  /-- The index of the draw in a multi-draw. -/
  | drawId
  /-- The first instance of the draw. -/
  | baseInstance
  /-- The number added to every vertex index. -/
  | baseVertex
deriving DecidableEq, Repr

namespace DrawParameter

/-- The draw parameters in the order in which their uniforms are declared. -/
def all : List DrawParameter := [drawId, baseInstance, baseVertex]

/-- The name of the built-in variable. -/
def builtin : DrawParameter → Text
  | drawId => "gl_DrawID".toList
  | baseInstance => "gl_BaseInstance".toList
  | baseVertex => "gl_BaseVertex".toList

/-- The name of the uniform that stands in for it. -/
def uniform : DrawParameter → Text
  | drawId => "glxes_DrawID".toList
  | baseInstance => "glxes_BaseInstance".toList
  | baseVertex => "glxes_BaseVertex".toList

/-- The declaration of the uniform. -/
def declaration (parameter : DrawParameter) : Text :=
  "uniform int ".toList ++ parameter.uniform ++ ";".toList

/-- The draw parameter whose built-in variable has the name. -/
def ofBuiltin? (name : Text) : Option DrawParameter := all.find? (·.builtin == name)

end DrawParameter

namespace Glsl

/-- The source with every draw parameter replaced by its uniform, and the uniforms of those that
occur declared after the version directive. -/
def polyfillBuiltins (source : Text) : Text :=
  match DrawParameter.all.filter fun p => containsIdentifier p.builtin source with
  | [] => source
  | found =>
    let replaced := renameIdentifiers
      (fun name => (DrawParameter.ofBuiltin? name).map DrawParameter.uniform) source
    insertAfterVersion replaced (found.flatMap fun p => p.declaration ++ ['\n'])

end Glsl
end GlBridge
