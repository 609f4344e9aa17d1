import GlBridge.Essl.Memory

/-!
# Parts of declarations

What declarations have in common, inside of functions and outside of them: types in writing, what is
said of a declaration ahead of its type, initial values, and functions without their bodies.

* `resolveForm` — a type in writing, with the structures that it defines;
* `Marks` — what is said ahead of the type; everything has to be used by what is declared;
* `lowerInitializer` — an initial value;
* `enterHeader`, `declarePrototype` — functions without their bodies.
-/

namespace GlBridge.Essl

/-! ## Types in writing -/

/-- The members of a structure so far. -/
structure MemberDraft where
  members : List Member := []
  alignment : Nat := 1
  /-- Where the last one ends. -/
  ending : Nat := 0

/-- Another member of a structure. -/
def MemberDraft.add (layout : BlockLayout) (draft : MemberDraft) (name : Text) (type : Ty) :
    BuildM MemberDraft := do
  let placed ← place layout typeDepthLimit type
  let offset := roundUp placed.alignment draft.ending
  return {
    members := draft.members ++ [{ name := some name, type := placed.type, offset }]
    alignment := max draft.alignment placed.alignment
    ending := offset + placed.span }

/-- More members of one type, each with lengths of its own. -/
def addMembers (layout : BlockLayout) (type : Ty) (draft : MemberDraft)
    (names : List (Text × Lengths)) : BuildM MemberDraft :=
  names.foldlM (fun draft (name, lengths) => do
    draft.add layout name (← prepareLengths type lengths)) draft

/-- A structure of members that have been laid out: its type. -/
def MemberDraft.finish (draft : MemberDraft) (name : Text) : BuildM Ty := do
  let structures ← structures
  if draft.members.isEmpty
      ∨ !draft.members.dropLast.all (fun m => isSized structures m.type)
      ∨ !draft.members.all (fun m => isSized structures m.type || m.type.isUnsized) then reject
  addStructure
    { name := some name, members := draft.members
      span := roundUp draft.alignment draft.ending }

mutual

/-- A type in writing.  A structure that it defines becomes known by its name. -/
def resolveForm : TypeForm → BuildM Ty
  | .named name lengths => do prepareLengths (← typeNamed name) lengths
  | .structure name members lengths => do
    let type ← (← resolveMembers .std140 {} members).finish name
    match type with
    | .structure index =>
      modifyShader fun shader => { shader with typeNames := (name, index) :: shader.typeNames }
    | _ => reject
    prepareLengths type lengths

/-- The members in the definition of a structure or a block. -/
def resolveMembers (layout : BlockLayout) : MemberDraft → Members → BuildM MemberDraft
  | draft, .nil => return draft
  | draft, .cons type names rest => do
    let type ← resolveForm type
    resolveMembers layout (← addMembers layout type draft names) rest

end

/-! ## Marks -/

/-- What is said of a declaration ahead of its type, as far as nothing has used it yet. -/
structure Marks where
  /-- Layout arguments by name, with the numbers that they are given. -/
  layout : List (Text × Option Nat) := []
  interpolation : Option Interpolation := none
  sampling : Option Sampling := none
  invariant : Bool := false
  readOnly : Bool := false
  writeOnly : Bool := false
deriving DecidableEq, Repr

namespace Marks

/-- Whether nothing is left to be used. -/
def isSpent (marks : Marks) : Bool := marks == {}

/-- A layout argument that is a number. -/
def number? (marks : Marks) (key : Text) : BuildM (Option Nat × Marks) :=
  let rest := { marks with layout := marks.layout.filter (·.1 != key) }
  match marks.layout.lookup key with
  | none => return (none, rest)
  | some none => reject
  | some (some n) => return (some n, rest)

/-- A layout argument that is not a number. -/
def flag (marks : Marks) (key : Text) : BuildM (Bool × Marks) :=
  let rest := { marks with layout := marks.layout.filter (·.1 != key) }
  match marks.layout.lookup key with
  | none => return (false, rest)
  | some none => return (true, rest)
  | some (some _) => reject

/-- The rules by which a block is laid out. -/
def blockLayout? (marks : Marks) : Option BlockLayout × Marks :=
  let isRule (key : Text) : Bool := key = "std140".toList || key = "std430".toList
  let rules := (marks.layout.map Prod.fst).filter isRule
  (rules.getLast?.map fun key => if key = "std140".toList then .std140 else .std430,
    { marks with layout := marks.layout.filter fun (key, _) => !isRule key })

/-- Nothing may be left to be used. -/
def finish (marks : Marks) : BuildM Unit := if marks.isSpent then return () else reject

end Marks

/-- What is said of a declaration, with its numbers computed.  The last one of several numbers for a
layout argument counts. -/
def Qualifiers.resolve (q : Qualifiers) : BuildM Marks := do
  let layout ← q.layout.foldlM
    (fun (known : List (Text × Option Nat)) (key, number) => do
      let number ← number.mapM evaluateNumber
      return known.filter (·.1 != key) ++ [(key, number)]) []
  return {
    layout, interpolation := q.interpolation, sampling := q.sampling, invariant := q.invariant
    readOnly := q.readOnly, writeOnly := q.writeOnly }

/-! ## Initial values -/

/-- The type of a part in an initial value that is given in braces. -/
def initialPartType (type : Ty) (position : Nat) : BuildM Ty := do
  match type with
  | .vector _ kind => do
    mention (.scalar kind)
    return .scalar kind
  | .matrix _ rows => do
    mention (.vector rows .float)
    return .vector rows .float
  | .array element _ _ => return element
  | .structure index => do
    let entry ← require (← structures)[index]?
    return (entry.members[position]?).elim type Member.type
  | type => return type

mutual

/-- An initial value of a type. -/
def lowerInitializer (type : Ty) : Initializer → BuildM Nat
  | .value value => do convertToKindOf type (← evaluate value)
  | .parts parts => do addCompose type (← lowerInitializers type 0 parts)

/-- The parts of an initial value of a type. -/
def lowerInitializers (type : Ty) (position : Nat) : List Initializer → BuildM (List Nat)
  | [] => return []
  | part :: rest => do
    let value ← lowerInitializer (← initialPartType type position) part
    return value :: (← lowerInitializers type (position + 1) rest)

end

/-! ## Functions -/

/-- What is known of a function before its body. -/
structure Heading where
  name : Text
  result : Option Ty
  parameters : List FormalParameter
  arguments : List Argument

/-- A parameter of a function.  What is not passed out again and can be changed is copied into a
variable of the function. -/
def declareParameter (index : Nat) (parameter : Parameter) :
    BuildM (FormalParameter × Argument) := do
  let type ← prepareLengths (← resolveForm parameter.type) parameter.lengths
  let passing := parameter.passing
  if !(isConstructible (← structures) type || (type.isHandle && !passing.isReference)) then reject
  let passed : Ty := if passing.isReference then .pointer type .function else type
  if passing.isReference then mention passed
  parameter.name.forM fun name => do
    let argument ← append (.argument index) passed
    if passing.isReference then
      bind name { value := argument, isPlace := true, writable := true }
    else if passing = .const ∨ type.isHandle then
      bind name { value := argument, isPlace := false, writable := false }
    else
      let place ← addVariable (some name) type none
      push (.store place argument)
      bind name { value := place, isPlace := true, writable := true }
  return ({ type, passing }, { name := parameter.name, type := passed })

/-- The start of a function with its parameters. -/
def enterHeader (header : Header) : BuildM Heading := do
  let result ← header.result.mapM resolveForm
  let structures ← structures
  if !result.all (isConstructible structures) then reject
  enterFunction
  let parameters ← header.parameters.zipIdx.mapM fun (parameter, index) =>
    declareParameter index parameter
  return {
    name := header.name
    result
    parameters := parameters.map Prod.fst
    arguments := parameters.map Prod.snd }

/-- The position of a function among all that can be called, found by its name and the types of its
parameters. -/
def signatureOf? (signatures : List Signature) (heading : Heading) : Option Nat :=
  signatures.findIdx? fun s =>
    s.name == heading.name
      && s.parameters.map FormalParameter.type == heading.parameters.map FormalParameter.type

/-- A new routine of the shader: its index. -/
def addRoutine (routine : Routine Nat) : BuildM Nat := do
  let index := (← get).shader.routines.length
  modifyShader fun shader => { shader with routines := shader.routines ++ [routine] }
  return index

/-- Making a function known that can be called from then on. -/
def addSignature (heading : Heading) (routine : Nat) (defined : Bool) : BuildM Unit :=
  modifyShader fun shader => { shader with
    signatures := shader.signatures ++
      [{ name := heading.name, parameters := heading.parameters
         callee := .routine routine heading.result, defined }] }

/-- A function that is declared without its body.  It remains without a body unless it is defined
later. -/
def declarePrototype (header : Header) : BuildM Unit := do
  let outer := (← get).function
  let heading ← enterHeader header
  modifyFunction fun _ => outer
  learnForms heading.name (heading.parameters.map FormalParameter.type)
  if (signatureOf? (← get).shader.signatures heading).isSome then reject
  let routine ← addRoutine
    { name := some heading.name, arguments := heading.arguments, result := heading.result }
  addSignature heading routine false

end GlBridge.Essl
