import GlBridge.Glsl.Declaration
import GlBridge.Layout.Edit

/-!
# Separate samplers

The shader compiler knows textures and samplers, but no combination of the two.  Every global
combined sampler `uniform sampler2D tex;` is therefore declared as a texture of the same name and
a sampler, and wherever the name is used the two are combined again.  Arrays of samplers are left
alone.

* `SamplerSplit` — a declaration to be split, with the names it declares;
* `separateSamplers` — the source with all of them split.
-/

namespace GlBridge.Layout

open Text Glsl

/-- What the name of an added sampler starts with. -/
def samplerPrefix : Text := "glxes_sampler_".toList

/-- A declaration of combined samplers. -/
structure SamplerSplit where
  /-- The combined sampler type. -/
  combined : Text
  /-- The names declared. -/
  names : List Text
  /-- The declaration's replacement. -/
  edit : Edit
deriving DecidableEq, Repr

namespace SamplerSplit

/-- The two declarations that replace one combined sampler, without the last semicolon.  `head` is
what stands before the type. -/
def declare (head texture sampler name : Text) : Text :=
  head ++ texture ++ " ".toList ++ name ++ "; uniform ".toList ++ sampler ++ " ".toList
    ++ samplerPrefix ++ name

/-- The split of a statement, if it declares combined samplers and no array of them. -/
def ofTokens? (source : Text) (tokens : List Token) : Option SamplerSplit :=
  match tokens, Declaration.parse? tokens with
  | first :: _, some declaration =>
    if declaration.storage ≠ .uniform ∨ declaration.isBlock then none
    else
      let type := declaration.typeToken tokens
      match splitSamplerType? type.text with
      | none => none
      | some (texture, sampler) =>
        let declared := declaration.declarators tokens
        if declared = [] ∨ declared.any (fun d => d.span.stop ≠ d.span.start + d.name.length) then
          none
        else
          let head := source.slice first.start type.start
          some {
            combined := type.text
            names := declared.map Declarator.name
            edit := {
              span := { start := first.start, stop := (tokens.getLastD first).stop }
              text := join "; ".toList
                (declared.map fun d => declare head texture sampler d.name) } }
  | _, _ => none

end SamplerSplit

/-- The combined sampler types by name; a name declared twice has the type it was last declared
with. -/
def samplerTypes (splits : List SamplerSplit) : List (Text × Text) :=
  (splits.flatMap fun split => split.names.map fun name => (name, split.combined)).reverse

/-- The use of a separated sampler: the texture and the sampler combined. -/
def combineUses (types : List (Text × Text)) (text : Text) : Text :=
  renameUses
    (fun name afterDot =>
      if afterDot then none
      else (types.lookup name).map fun combined =>
        combined ++ "(".toList ++ name ++ ", ".toList ++ samplerPrefix ++ name ++ ")".toList)
    text

/-- The source with every combined sampler at global scope split, and combined where it is
used. -/
def separateSamplers (source : Text) : Text :=
  match (globalDeclarations source).filterMap (SamplerSplit.ofTokens? source) with
  | [] => source
  | splits =>
    Edit.applyFrom (combineUses (samplerTypes splits)) source 0 (splits.map SamplerSplit.edit)

end GlBridge.Layout
