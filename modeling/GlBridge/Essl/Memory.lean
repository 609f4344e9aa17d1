import GlBridge.Essl.Prepare

/-!
# Layout in memory

The members of a structure get their places in memory when the structure is defined, and new ones
when it becomes part of a block with a layout of its own.  A structure that is laid out anew is a
structure of its own; it is the old one if nothing changes.

* `BlockLayout`, `place` — where the parts of a value go;
* `layoutAlignment?` — whether a type can be shared with the application as it is laid out;
* `isShareable`, `suitsSpace` — what kinds of memory a type suits.
-/

namespace GlBridge.Essl

/-! ## Structures -/

/-- A structure of the shader: its type.  Structures that are alike are one. -/
def addStructure (entry : Structure) : BuildM Ty := do
  let known := (← structures).findIdx? (· == entry)
  let index := known.getD (← structures).length
  if known.isNone then
    modifyShader fun shader => { shader with structures := shader.structures ++ [entry] }
  mention (.structure index)
  return .structure index

/-- The rules by which values are laid out. -/
inductive BlockLayout where
  | std140
  | std430
deriving DecidableEq, Repr

/-- What the addresses of arrays and matrices are multiples of under the stricter rules. -/
def blockAlignment : Nat := 16

/-- The alignment of an array or a matrix, given that of its parts. -/
def BlockLayout.widen (layout : BlockLayout) (alignment : Nat) : Nat :=
  match layout with
  | .std140 => max alignment blockAlignment
  | .std430 => alignment

/-- A value in memory. -/
structure Placed where
  /-- The type with its parts laid out. -/
  type : Ty
  alignment : Nat
  span : Nat

/-- The members of a structure one after the other, given how each of them is laid out. -/
def placeMembers (placeOne : Ty → BuildM Placed) (members : List Member) :
    BuildM (List Member × Nat × Nat) := do
  let (placed, alignment, ending) ← members.foldlM
    (fun ((placed, alignment, ending) : List Member × Nat × Nat) m => do
      let part ← placeOne m.type
      let offset := roundUp part.alignment ending
      return (placed ++ [{ m with type := part.type, offset }], max alignment part.alignment,
        offset + part.span))
    ([], 1, 0)
  return (placed, alignment, roundUp alignment ending)

/-- A value laid out by rules.  Matrices with columns of two rows have no place under the stricter
ones. -/
def place (layout : BlockLayout) : Nat → Ty → BuildM Placed
  | _, .scalar kind => return { type := .scalar kind, alignment := kind.width, span := kind.width }
  | _, .vector size kind =>
    return { type := .vector size kind, alignment := vectorAlignment size kind
             span := size * kind.width }
  | _, .matrix columns rows => do
    if layout = .std140 ∧ rows = 2 then reject
    let alignment := layout.widen (vectorAlignment rows .float)
    return { type := .matrix columns rows, alignment, span := alignment * columns }
  | fuel + 1, .array element length _ => do
    let part ← place layout fuel element
    let alignment := layout.widen part.alignment
    let stride := roundUp alignment part.span
    let type : Ty := .array part.type length stride
    mention type
    return { type, alignment, span := length.getD 1 * stride }
  | fuel + 1, .structure index => do
    let entry ← require (← structures)[index]?
    let (members, alignment, span) ← placeMembers (place layout fuel) entry.members
    let type ← addStructure { entry with members, span }
    return { type, alignment, span }
  | _, _ => reject

/-! ## What types suit -/

/-- Which alignment a shared value has, with the greatest ones of arrays and structures; nothing if
it is laid out in a way that cannot be had.  `least` is the least alignment of arrays and
structures. -/
def layoutAlignment? (structures : Structures) (least : Nat) : Nat → Ty → Option Nat
  | _, .scalar kind => some kind.width
  | _, .vector size kind => some (vectorAlignment size kind)
  | _, .matrix _ rows => some (vectorAlignment rows .float)
  | fuel + 1, .array element _ stride => do
    let alignment := max (max (← layoutAlignment? structures least fuel element)
      (alignmentOf structures typeDepthLimit element)) least
    if stride % alignment = 0 then some alignment else none
  | fuel + 1, .structure index => do
    let entry ← structures[index]?
    let alignments ← entry.members.mapM fun m => do
      let alignment ← layoutAlignment? structures least fuel m.type
      if m.offset % alignment = 0 then some alignment else none
    let own := alignmentOf structures typeDepthLimit (.structure index)
    if entry.span % own = 0 then some (alignments.foldl max least) else none
  | _, _ => none

/-- Whether there is room after every member that is a structure itself. -/
def hasRoomAfterStructures (structures : Structures) (members : List Member) : Bool :=
  (members.zip members.tail).all fun (before, after) =>
    match before.type with
    | .structure _ =>
      before.offset + roundUp blockAlignment (sizeInMemory structures before.type) ≤ after.offset
    | _ => true

/-- The same for all structures that a type is made of. -/
def hasRoom (structures : Structures) : Nat → Ty → Bool
  | fuel + 1, .array element _ _ => hasRoom structures fuel element
  | fuel + 1, .structure index =>
    (structures[index]?).all fun entry =>
      hasRoomAfterStructures structures entry.members
        && entry.members.all fun m => hasRoom structures fuel m.type
  | _, _ => true

/-- Whether values of a type have bits that the application can set. -/
def isShareable (structures : Structures) : Nat → Ty → Bool
  | _, .scalar kind => kind ≠ .bool
  | _, .vector _ kind => kind ≠ .bool
  | _, .matrix _ _ => true
  | 0, _ => false
  | fuel + 1, .array element _ _ => isShareable structures fuel element
  | fuel + 1, .structure index =>
    (structures[index]?).any fun s => s.members.all fun m => isShareable structures fuel m.type
  | _, _ => false

/-- Whether a type can be that of variables in a kind of memory. -/
def suitsSpace (structures : Structures) (space : Space) (type : Ty) : Bool :=
  match space with
  | .handle => type.isHandle
  | .uniform =>
    isConstructible structures type && isShareable structures typeDepthLimit type
      && (layoutAlignment? structures blockAlignment typeDepthLimit type).isSome
      && hasRoom structures typeDepthLimit type
  | .storage _ _ =>
    isData structures typeDepthLimit type && isShareable structures typeDepthLimit type
      && (layoutAlignment? structures 1 typeDepthLimit type).isSome
  | _ => isConstructible structures type

end GlBridge.Essl
