import GlBridge.Glsl.Declaration
import GlBridge.Layout.Edit
import GlBridge.Layout.Slots

/-!
# Assigning locations and bindings

The shader compiler wants a location on every interface variable and a binding on every resource.
Declarations that say them keep them; the others are given them here.  A first pass collects what
the source pins down, a second one goes through the declarations in order and adds layout
arguments.  Bindings added are in set 1, so that set 0 is left to the ones the source wrote.

* `InterfaceNames` — the names of a shader's inputs and outputs by location;
* `pinned` — the slots and names that a source pins down;
* `Placement` — a variable with the location it is given;
* `assignLayouts` — the source with all layout arguments added.
-/

namespace GlBridge.Layout

open Text Glsl

/-- The descriptor set of the bindings that are added. -/
def automaticSet : Nat := 1

/-- Names by location; a location may have been named more than once, the latest name counts. -/
abbrev LocationNames := List (Nat × Text)

namespace LocationNames

/-- Naming a location, in place of an earlier name. -/
def record (names : LocationNames) (location : Nat) (name : Text) : LocationNames :=
  (location, name) :: names.filter (·.1 ≠ location)

end LocationNames

/-- The names of a shader's inputs and outputs by location. -/
structure InterfaceNames where
  inputs : LocationNames := []
  outputs : LocationNames := []
deriving DecidableEq, Repr

namespace InterfaceNames

/-- Naming a location of one of the two interfaces. -/
def record (names : InterfaceNames) (space : LocationSpace) (location : Nat) (name : Text) :
    InterfaceNames :=
  match space with
  | .inputs => { names with inputs := names.inputs.record location name }
  | .outputs => { names with outputs := names.outputs.record location name }

end InterfaceNames

/-- What a shader has used so far. -/
structure Usage where
  inputs : UsedSlots := []
  outputs : UsedSlots := []
  bindings : UsedSlots := []
  names : InterfaceNames := {}
deriving DecidableEq, Repr

namespace Usage

/-- The slots in use of one of the two interfaces with locations. -/
def slots (usage : Usage) : LocationSpace → UsedSlots
  | .inputs => usage.inputs
  | .outputs => usage.outputs

/-- Taking slots of one of the two interfaces. -/
def claim (usage : Usage) (space : LocationSpace) (start slots : Nat) : Except Overflow Usage := do
  let used ← (usage.slots space).claim start slots
  return match space with
    | .inputs => { usage with inputs := used }
    | .outputs => { usage with outputs := used }

/-- Taking a binding. -/
def claimBinding (usage : Usage) (binding : Nat) : Except Overflow Usage := do
  return { usage with bindings := ← usage.bindings.claim binding 1 }

/-- Naming a location. -/
def record (usage : Usage) (space : LocationSpace) (location : Nat) (name : Text) : Usage :=
  { usage with names := usage.names.record space location name }

end Usage

/-- A statement with its tokens, read as a declaration of the interface. -/
structure InterfaceDeclaration where
  tokens : List Token
  declaration : Declaration
deriving DecidableEq, Repr

namespace InterfaceDeclaration

/-- The declarations of a source's interface, in order. -/
def all (source : Text) : List InterfaceDeclaration :=
  (globalDeclarations source).filterMap fun tokens =>
    (Declaration.parse? tokens).map fun declaration => { tokens, declaration }

/-- The type or block name. -/
def typeToken (d : InterfaceDeclaration) : Token := d.declaration.typeToken d.tokens

/-- The declarators. -/
def declarators (d : InterfaceDeclaration) : List Declarator := d.declaration.declarators d.tokens

/-- The number of slots a declarator takes. -/
def slotsOf (d : InterfaceDeclaration) (declarator : Declarator) : Except Overflow Nat :=
  Word32.mul (locationSlots d.typeToken.text) declarator.arrayLength

/-- The positions from the first to the last token. -/
def span (d : InterfaceDeclaration) : Span :=
  match d.tokens with
  | [] => { start := 0, stop := 0 }
  | first :: _ => { start := first.start, stop := (d.tokens.getLastD first).stop }

end InterfaceDeclaration

/-! ## What the source pins down -/

/-- Naming the declarators of a declaration from a location on, each after the slots of the ones
before it.  The result also says how many slots all of them take. -/
def pinDeclarators (d : InterfaceDeclaration) (space : LocationSpace) (location : Nat) :
    Nat → Usage → List Declarator → Except Overflow (Nat × Usage)
  | slots, usage, [] => .ok (slots, usage)
  | slots, usage, declarator :: rest => do
    let place ← Word32.add location slots
    let width ← d.slotsOf declarator
    let slots ← Word32.add slots width
    pinDeclarators d space location slots (usage.record space place declarator.name) rest

/-- Taking what one declaration pins down: the binding of a resource, or the locations of an input
or output. -/
def pin (stage : Stage) (usage : Usage) (d : InterfaceDeclaration) : Except Overflow Usage :=
  if d.declaration.storage.isResource then
    match d.declaration.layoutValue "binding" with
    | some (some binding) => usage.claimBinding binding
    | _ => .ok usage
  else
    match locationSpace? stage d.declaration.storage, d.declaration.layoutValue "location" with
    | some (space, _), some (some location) => do
      let (slots, usage) ← pinDeclarators d space location 0 usage d.declarators
      usage.claim space location (max slots 1)
    | _, _ => .ok usage

/-- What the declarations of a source pin down. -/
def pinned (stage : Stage) (declarations : List InterfaceDeclaration) : Except Overflow Usage :=
  declarations.foldlM (pin stage) {}

/-! ## Layout arguments -/

/-- The layout argument for a binding. -/
def bindingArgument (binding : Nat) : Text :=
  "set = ".toList ++ ofNat automaticSet ++ ", binding = ".toList ++ ofNat binding

/-- The layout argument for a location. -/
def locationArgument (location : Nat) : Text := "location = ".toList ++ ofNat location

/-- Adding a layout argument to a declaration as a whole: in front of the arguments it has, or in
a layout qualifier of its own. -/
def argumentEdit (d : InterfaceDeclaration) (argument : Text) : Edit :=
  match d.declaration.layoutOpen.bind (d.tokens[·]?) with
  | some opening =>
    { span := { start := opening.stop, stop := opening.stop }, text := argument ++ ", ".toList }
  | none =>
    { span := { start := d.span.start, stop := d.span.start }
      text := "layout(".toList ++ argument ++ ") ".toList }

/-- The qualifiers and type of a declaration with a layout argument added. -/
def headWith (source : Text) (d : InterfaceDeclaration) (argument : Text) : Text :=
  match d.declaration.layoutOpen.bind (d.tokens[·]?) with
  | some opening =>
    source.slice d.span.start opening.stop ++ argument ++ ", ".toList
      ++ source.slice opening.stop d.typeToken.stop
  | none =>
    "layout(".toList ++ argument ++ ") ".toList ++ source.slice d.span.start d.typeToken.stop

/-- Giving every declarator a layout argument of its own.  A single declarator only needs the
argument added; several are written as one declaration each. -/
def splitEdit (source : Text) (d : InterfaceDeclaration) : List (Text × Declarator) → Edit
  | [(argument, _)] => argumentEdit d argument
  | parts =>
    { span := d.span
      text := join "; ".toList (parts.map fun (argument, declarator) =>
        headWith source d argument ++ " ".toList ++ declarator.span.textIn source) }

/-! ## The second pass -/

/-- An input or output that is to be given a location. -/
structure Variable where
  space : LocationSpace
  declarator : Declarator
  /-- How many locations it takes. -/
  slots : Nat
deriving DecidableEq, Repr

/-- A variable with the first of the locations it is given. -/
structure Placement extends Variable where
  location : Nat
deriving DecidableEq, Repr

/-- The layout argument of a placement, for its declarator. -/
def Placement.part (placement : Placement) : Text × Declarator :=
  (locationArgument placement.location, placement.declarator)

/-- What the second pass carries along. -/
structure Progress where
  usage : Usage
  varyings : VaryingLocations
  /-- The locations given so far, in order. -/
  placements : List Placement := []
  /-- The number from which the next binding is looked for. -/
  nextBinding : Nat := 0
  /-- The edits so far, in order. -/
  edits : List Edit := []

namespace Progress

/-- One more edit. -/
def edit (progress : Progress) (edit : Edit) : Progress :=
  { progress with edits := progress.edits ++ [edit] }

/-- Taking the next free binding. -/
def takeBinding (progress : Progress) : Except Overflow (Nat × Progress) := do
  let binding ← progress.usage.bindings.firstFree progress.nextBinding 1
  let usage ← progress.usage.claimBinding binding
  let next ← Word32.add binding 1
  return (binding, { progress with usage := usage, nextBinding := next })

/-- Taking a binding for each of the declarators. -/
def takeBindings :
    Progress → List Declarator → Except Overflow (List (Text × Declarator) × Progress)
  | progress, [] => .ok ([], progress)
  | progress, declarator :: rest => do
    let (binding, progress) ← progress.takeBinding
    let (parts, progress) ← progress.takeBindings rest
    return ((bindingArgument binding, declarator) :: parts, progress)

/-- The location for a declarator: a shared one is the varying's, any other the first free one. -/
def chooseLocation (progress : Progress) (space : LocationSpace) (shared : Bool) (name : Text)
    (slots : Nat) : Except Overflow (Nat × Progress) := do
  let used := progress.usage.slots space
  if shared then
    let (location, varyings) ← progress.varyings.locate name slots used
    return (location, { progress with varyings := varyings })
  else
    return (← used.firstFree 0 slots, progress)

/-- Giving a variable its location. -/
def place (progress : Progress) (shared : Bool) (wanted : Variable) :
    Except Overflow (Placement × Progress) := do
  let name := wanted.declarator.name
  let (location, progress) ← progress.chooseLocation wanted.space shared name wanted.slots
  let usage ← progress.usage.claim wanted.space location wanted.slots
  let placement := { wanted with location }
  return (placement, { progress with
    usage := usage.record wanted.space location name
    placements := progress.placements ++ [placement] })

/-- Giving the declarators their locations, built-in ones left out. -/
def takeLocations (d : InterfaceDeclaration) (space : LocationSpace) (shared : Bool) :
    Progress → List Declarator → Except Overflow (List Placement × Progress)
  | progress, [] => .ok ([], progress)
  | progress, declarator :: rest => do
    if "gl_".toList.isPrefixOf declarator.name then
      takeLocations d space shared progress rest
    else
      let slots ← d.slotsOf declarator
      let (placement, progress) ← progress.place shared { space, declarator, slots }
      let (placements, progress) ← takeLocations d space shared progress rest
      return (placement :: placements, progress)

/-- Laying out a resource that has no binding. -/
def layOutResource (source : Text) (progress : Progress) (d : InterfaceDeclaration) :
    Except Overflow Progress := do
  if d.declaration.isBlock then
    let (binding, progress) ← progress.takeBinding
    return progress.edit (argumentEdit d (bindingArgument binding))
  else
    let (parts, progress) ← progress.takeBindings d.declarators
    return progress.edit (splitEdit source d parts)

/-- Laying out the inputs or outputs of a declaration that has no location. -/
def layOutVariables (source : Text) (progress : Progress) (d : InterfaceDeclaration)
    (space : LocationSpace) (shared : Bool) : Except Overflow Progress := do
  let (placements, progress) ← takeLocations d space shared progress d.declarators
  return if placements.isEmpty then progress
    else progress.edit (splitEdit source d (placements.map Placement.part))

/-- Laying out one declaration.  Built-in types and blocks, and what is laid out already, are left
alone. -/
def layOut (stage : Stage) (source : Text) (progress : Progress) (d : InterfaceDeclaration) :
    Except Overflow Progress :=
  if "gl_".toList.isPrefixOf d.typeToken.text then .ok progress
  else if d.declaration.storage.isResource then
    if (d.declaration.layoutValue "binding").isSome then .ok progress
    else layOutResource source progress d
  else
    match locationSpace? stage d.declaration.storage with
    | none => .ok progress
    | some (space, shared) =>
      if d.declaration.isBlock ∨ (d.declaration.layoutValue "location").isSome then .ok progress
      else layOutVariables source progress d space shared

end Progress

/-- What laying out a source results in. -/
structure LaidOut where
  text : Text
  names : InterfaceNames
  varyings : VaryingLocations
  /-- The locations given, in order. -/
  placements : List Placement
deriving DecidableEq, Repr

/-- The source with a location on every interface variable and a binding on every resource. -/
def assignLayouts (stage : Stage) (source : Text) (varyings : VaryingLocations) :
    Except Overflow LaidOut := do
  let declarations := InterfaceDeclaration.all source
  let usage ← pinned stage declarations
  let progress ← declarations.foldlM (Progress.layOut stage source) { usage, varyings }
  return {
    text := Edit.applyAll source progress.edits
    names := progress.usage.names
    varyings := progress.varyings
    placements := progress.placements }

end GlBridge.Layout
