import GlBridge.Interface.Resource
import GlBridge.Text.Lines

/-!
# Generated interface blocks

The shader compiler writes every uniform as a block with one member, whose type is a structure if
the uniform was one, or a structure of one member that wraps it.  Flattening such a block gives
back what the application declared: a plain uniform, or a block with the structure's members.

* `BlockLine.parse?` — a line that declares a generated block;
* `declaredName?` — the name that a member line declares;
* `flattenBlock` — a shader text with one block flattened.
-/

namespace GlBridge.Interface

open Text Glsl

/-- A line such as `layout(std140) uniform T_block_0Fragment { T _group_1_binding_0_fs; };`. -/
structure BlockLine where
  /-- All up to the word `uniform` or `buffer`. -/
  qualifiers : Text
  memberType : Text
  instanceName : Text
deriving DecidableEq, Repr

namespace BlockLine

/-- Whether a text ends with the word of a block's storage. -/
def endsInStorage (text : Text) : Bool :=
  "uniform".toList.isSuffixOf text || "buffer".toList.isSuffixOf text

/-- The generated block that a line declares. -/
def parse? (line : Text) : Option BlockLine := do
  let body ← dropSuffix? ['}', ';'] (trim line)
  let (head, inner) ← splitAtFirst? ['{'] body
  let member ← dropSuffix? [';'] (trim inner)
  match words member with
  | [memberType, instanceName] =>
    let (qualifiers, blockName) ← splitAtLast? ' ' (trimEnd head)
    if endsInStorage qualifiers ∧ (splitAtFirst? "_block_".toList blockName).isSome then
      some { qualifiers, memberType, instanceName }
    else none
  | _ => none

end BlockLine

/-- The name that a member line like `highp vec4 colors[2];` declares. -/
def declaredName? (line : Text) : Option Text :=
  let declaration := trimEndWhile (· == ';') (trim line)
  (words ((splitOn '[' declaration).headD [])).getLast?

/-- A block's declaration as the application wrote it, and what an access to a member becomes. -/
structure Flattening where
  declaration : Text
  access : Text → Text

/-- The name of the member that stands at an index of a structure with `count` members: the
application's, if it named as many, or else the one it has. -/
def applicationName (resource : Resource) (count index : Nat) (emitted : Text) : Text :=
  match resource.members[index]? with
  | some name => if name ≠ [] ∧ count = resource.members.length then name else emitted
  | none => emitted

namespace Flattening

/-- A structure with one member that wraps a plain uniform. -/
def ofWrapper (resource : Resource) (memberLine : Text) : Option Flattening := do
  let name ← resource.name
  let member ← declaredName? memberLine
  let declaration := replaceIdentifier member name (trimEndWhile (· == ';') memberLine)
  return { declaration := "uniform ".toList ++ declaration ++ [';'], access := fun _ => name }

/-- The names in a structure's member lines, each with the name it is given. -/
def memberNames (resource : Resource) (count : Nat) :
    Nat → List Text → Option (List (Text × Text))
  | _, [] => some []
  | index, line :: lines => do
    let emitted ← declaredName? line
    return (emitted, applicationName resource count index emitted)
      :: (← memberNames resource count (index + 1) lines)

/-- A structure that was the application's block. -/
def ofStructure (block : BlockLine) (resource : Resource) (memberLines : List Text) :
    Option Flattening := do
  let names ← memberNames resource memberLines.length 0 memberLines
  let members := (memberLines.zip names).map fun (line, emitted, given) =>
    "    ".toList ++ replaceIdentifier emitted given line
  let renames := names.reverse
  return {
    declaration :=
      block.qualifiers ++ [' '] ++ block.memberType ++ [' ', '{', '\n'] ++ join ['\n'] members
        ++ ['\n', '}'] ++ (resource.name.map (' ' :: ·)).getD [] ++ [';']
    access := fun member =>
      (resource.name.map (· ++ ['.'])).getD [] ++ (renames.lookup member).getD member }

/-- What the members of a block's structure are turned into. -/
def ofMembers (block : BlockLine) (resource : Resource) (memberLines : List Text) :
    Option Flattening :=
  match resource.loose, memberLines with
  | true, [line] => ofWrapper resource line
  | _, _ => ofStructure block resource memberLines

end Flattening

/-- The text with the block that `blockLine` declares flattened.  There is none if the line is no
generated block of a known resource, or if its type is used for something else too. -/
def flattenBlock (resources : Resources) (blockLine text : Text) : Option Text := do
  let block ← BlockLine.parse? blockLine
  let resource ← resources.lookup (← resourceKey? block.instanceName)
  let lines := lines text
  let place ← lines.findIdx? (· == blockLine)
  let terminated := text.getLast? = some '\n'
  let header := "struct ".toList ++ block.memberType ++ [' ', '{']
  match lines.findIdx? (trim · == header) with
  | none =>
    if resource.loose then
      let plain := "uniform ".toList ++ block.memberType ++ [' '] ++ block.instanceName ++ [';']
      return ofLines (lines.set place plain) terminated
    else none
  | some start =>
    let length ← (lines.drop start).findIdx? (trim · == ['}', ';'])
    if countIdentifier block.memberType text ≠ 2 then none
    else
      let memberLines := (((lines.drop (start + 1)).take (length - 1)).map trim).filter (· ≠ [])
      let flattening ← Flattening.ofMembers block resource memberLines
      let edited := lines.set place flattening.declaration
      let kept := edited.take start ++ edited.drop (start + length + 1)
      return replaceMembers block.instanceName flattening.access (ofLines kept terminated)

end GlBridge.Interface
