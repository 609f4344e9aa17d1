import GlBridge.Interface.Block
import GlBridge.Layout.Assign

/-!
# Restoring the application's names

Applications find uniforms, attributes and fragment outputs by name, so the generated names of
these are undone on the compiled text.  Names that the text already uses for something else make
room first.  Varyings between stages keep their generated names: they match by location.

* `freshName` — the first free name of the form `name_1`, `name_2`, …;
* `renameClashes` — a text in which none of the restored names is taken;
* `restoreNames` — a compiled text with the application's names.
-/

namespace GlBridge.Interface

open Text Glsl Layout

/-- The `n`-th candidate for a new name. -/
def candidate (name : Text) (n : Nat) : Text := name ++ '_' :: ofNat n

/-- The first candidate that is not taken.  Among one more candidates than there are taken names
one is free. -/
def freshName (taken : List Text) (name : Text) : Text :=
  (((List.range' 1 (taken.length + 1)).map (candidate name)).find? (!taken.contains ·)).getD name

/-- New names for the restored names that occur in a text, in order.  A new name neither occurs in
the text nor is restored nor given already. -/
def clashRenames (occurring restored : List Text) : List (Text × Text) → List Text →
    List (Text × Text)
  | renames, [] => renames
  | renames, name :: rest =>
    if name ∈ renames.map Prod.fst ∨ name ∉ occurring then
      clashRenames occurring restored renames rest
    else
      let fresh := freshName (occurring ++ restored ++ renames.map Prod.snd) name
      clashRenames occurring restored (renames ++ [(name, fresh)]) rest

/-- The text with a fresh name for every identifier that is called like a restored name.  Members
are renamed along with the name, swizzles are not. -/
def renameClashes (restored : List Text) (text : Text) : Text :=
  let renames := clashRenames (identifiers text) restored [] restored
  renameUses
    (fun name afterDot => if afterDot && isSwizzle name then none else renames.lookup name) text

/-- The names of locations in the order of the locations. -/
def namesInOrder (names : LocationNames) : List Text :=
  (names.mergeSort (fun a b => a.1 ≤ b.1)).map Prod.snd

/-- The names that are put back into a shader's text. -/
def restoredNames (stage : Stage) (names : InterfaceNames) (resources : Resources) : List Text :=
  (resources.filterMap fun (_, resource) => resource.name.filter (!isReserved ·))
    ++ match stage with
      | .vertex => namesInOrder names.inputs
      | .fragment => namesInOrder names.outputs
      | _ => []

/-- The name that replaces a generated one. -/
def restoredName? (stage : Stage) (names : InterfaceNames) (resources : Resources) (name : Text) :
    Option Text :=
  match resourceKey? name with
  | some key => ((resources.lookup key).bind Resource.name).filter (!isReserved ·)
  | none =>
    match stage with
    | .vertex => (generatedLocation? vertexInputLead name).bind (names.inputs.lookup ·)
    | .fragment => (generatedLocation? fragmentOutputLead name).bind (names.outputs.lookup ·)
    | _ => none

/-- The text with the blocks that the lines declare flattened, where that is possible. -/
def flattenBlocks (resources : Resources) (blockLines : List Text) (text : Text) : Text :=
  blockLines.foldl (fun text line => (flattenBlock resources line text).getD text) text

/-- The compiled text of a shader with the application's names put back. -/
def restoreNames (stage : Stage) (names : InterfaceNames) (resources : Resources) (text : Text) :
    Text :=
  let text := renameClashes (restoredNames stage names resources) text
  let blockLines := (lines text).filter fun line => (BlockLine.parse? line).isSome
  renameIdentifiers (restoredName? stage names resources) (flattenBlocks resources blockLines text)

end GlBridge.Interface
