import GlBridge.Gl.Enumerant

/-!
# Texture targets

Desktop calls name a texture alone where the embedded ones want it bound to its target, for which
the driver cannot be asked.  So the target that each texture was made or bound with is remembered.
One-dimensional textures do not exist in the embedded language; two-dimensional ones stand in for
them.

* `TextureTargets` — the targets of textures;
* `esTarget`, `bindingQuery` — what a target becomes, and what asks for the texture bound to it.
-/

namespace GlBridge.Gl

/-- The targets of textures, the latest first. -/
abbrev TextureTargets := List (Nat × Nat)

namespace TextureTargets

/-- The target of a texture. -/
def target? (targets : TextureTargets) (texture : Nat) : Option Nat := targets.lookup texture

/-- Forgetting a texture. -/
def remove (targets : TextureTargets) (texture : Nat) : TextureTargets :=
  targets.filter (·.1 ≠ texture)

/-- Remembering a texture's target.  Texture 0 belongs to every target and is not remembered. -/
def record (targets : TextureTargets) (texture target : Nat) : TextureTargets :=
  if texture = 0 then targets else (texture, target) :: targets.remove texture

/-- Remembering one target for several textures. -/
def recordAll (targets : TextureTargets) (textures : List Nat) (target : Nat) : TextureTargets :=
  textures.foldl (fun targets texture => targets.record texture target) targets

/-- Forgetting several textures. -/
def removeAll (targets : TextureTargets) (textures : List Nat) : TextureTargets :=
  textures.foldl remove targets

end TextureTargets

open Enumerant

/-- The embedded target for a desktop one. -/
def esTarget (target : Nat) : Nat := if target = texture1D then texture2D else target

/-- The queries for what is bound to each target. -/
def bindingQueries : List (Nat × Nat) :=
  [(texture1D, textureBinding2D), (texture2D, textureBinding2D),
    (texture2DMultisample, textureBinding2DMultisample),
    (texture2DArray, textureBinding2DArray),
    (texture2DMultisampleArray, textureBinding2DMultisampleArray),
    (texture3D, textureBinding3D), (textureCubeMap, textureBindingCubeMap),
    (textureCubeMapArray, textureBindingCubeMapArray), (textureBuffer, textureBindingBuffer)]

/-- What asks for the texture bound to a target; an unknown target is taken for a two-dimensional
one. -/
def bindingQuery (target : Nat) : Nat := (bindingQueries.lookup target).getD textureBinding2D

end GlBridge.Gl
