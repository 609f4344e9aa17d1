import GlBridge.Glsl.Stage
import GlBridge.Glsl.Statement

/-!
# Interface declarations

A declaration of a shader's interface is a list of qualifiers, among them one of the storage
qualifiers `in`, `out`, `uniform` and `buffer`, and a type or block name with what is declared.

* `Declaration.parse?` — the qualifiers of a statement;
* `Declarator.parse` — the declared names with their array lengths;
* `locationSlots` — how many consecutive locations a type takes;
* `splitSamplerType?` — the two types a combined sampler type is made of.
-/

namespace GlBridge.Glsl

open Text

/-- The storage qualifiers of interface declarations. -/
inductive Storage where
  | input
  | output
  | uniform
  | buffer
deriving DecidableEq, Repr

namespace Storage

/-- The storage qualifier that a token is. -/
def ofToken? (token : Token) : Option Storage :=
  if token.is "in" then some input
  else if token.is "out" then some output
  else if token.is "uniform" then some uniform
  else if token.is "buffer" then some buffer
  else none

/-- Whether declarations with the qualifier are resources, which have bindings. -/
def isResource : Storage → Bool
  | uniform | buffer => true
  | input | output => false

end Storage

/-- The qualifiers that may stand beside a storage qualifier. -/
def auxiliaryQualifiers : List Text :=
  ["flat".toList, "smooth".toList, "noperspective".toList, "centroid".toList, "sample".toList,
    "patch".toList, "invariant".toList, "precise".toList, "highp".toList, "mediump".toList,
    "lowp".toList, "readonly".toList, "writeonly".toList, "coherent".toList, "volatile".toList,
    "restrict".toList, "const".toList]

/-- An argument of a layout qualifier, and the number it is set to, if it is one. -/
structure LayoutArgument where
  name : Text
  value : Option Nat := none
deriving DecidableEq, Repr

/-- The qualifiers of a declaration. -/
structure Declaration where
  storage : Storage
  /-- The index of the token that opens the last layout qualifier. -/
  layoutOpen : Option Nat
  /-- The arguments of all layout qualifiers. -/
  layoutArguments : List LayoutArgument
  /-- The index of the first token after the qualifiers: the type, or the block name. -/
  typeIndex : Nat
  /-- Whether the declaration has a brace. -/
  isBlock : Bool
deriving DecidableEq, Repr

/-- Where the reading of qualifiers stands. -/
inductive QualifierState where
  /-- Before a qualifier, or after the last one. -/
  | between
  /-- After the word `layout`. -/
  | layoutWord
  /-- Inside a layout qualifier, with the argument being read, and whether an equals sign has been
  read since the last comma. -/
  | arguments (pending : Option LayoutArgument) (afterEquals : Bool)
deriving DecidableEq, Repr

/-- The qualifiers read so far. -/
structure Qualifiers where
  storage : Option Storage := none
  layoutOpen : Option Nat := none
  arguments : List LayoutArgument := []
deriving DecidableEq, Repr

namespace Qualifiers

/-- The qualifiers once the pending argument of a layout qualifier is complete. -/
def complete (qualifiers : Qualifiers) (pending : Option LayoutArgument) : Qualifiers :=
  { qualifiers with arguments := qualifiers.arguments ++ pending.toList }

/-- Reading qualifiers from tokens, the first of which has the given index.  The result is the
qualifiers with the index of the first token after them; a layout qualifier that is not complete
has none. -/
def read (state : QualifierState) (qualifiers : Qualifiers) (index : Nat) :
    List Token → Option (Qualifiers × Nat)
  | [] => if state = .between then some (qualifiers, index) else none
  | token :: rest =>
    match state with
    | .between =>
      if token.is "layout" then read .layoutWord qualifiers (index + 1) rest
      else
        match Storage.ofToken? token with
        | some storage =>
          read .between { qualifiers with storage := some storage } (index + 1) rest
        | none =>
          if token.text ∈ auxiliaryQualifiers then read .between qualifiers (index + 1) rest
          else some (qualifiers, index)
    | .layoutWord =>
      if token.is "(" then
        read (.arguments none false) { qualifiers with layoutOpen := some index } (index + 1) rest
      else none
    | .arguments pending afterEquals =>
      if token.is ")" then read .between (qualifiers.complete pending) (index + 1) rest
      else if token.is "," then
        read (.arguments none false) (qualifiers.complete pending) (index + 1) rest
      else if token.is "=" then read (.arguments pending true) qualifiers (index + 1) rest
      else if afterEquals then
        let valued := pending.map fun argument => { argument with value := word32? token.text }
        read (.arguments valued true) qualifiers (index + 1) rest
      else read (.arguments (some { name := token.text }) false) qualifiers (index + 1) rest

end Qualifiers

namespace Declaration

/-- The qualifiers of a statement, if it has a storage qualifier and declares something. -/
def parse? (tokens : List Token) : Option Declaration :=
  (Qualifiers.read .between {} 0 tokens).bind fun (qualifiers, index) =>
    qualifiers.storage.bind fun storage =>
      if index < tokens.length then
        some {
          storage := storage
          layoutOpen := qualifiers.layoutOpen
          layoutArguments := qualifiers.arguments
          typeIndex := index
          isBlock := tokens.any (·.is "\x7b") }
      else none

/-- What a layout argument is set to: `none` if it is not given, `some none` if it is given but is
no number. -/
def layoutValue (declaration : Declaration) (name : String) : Option (Option Nat) :=
  (declaration.layoutArguments.find? (·.name == name.toList)).map LayoutArgument.value

end Declaration

/-- One of the names a declaration declares. -/
structure Declarator where
  name : Text
  /-- The length of the array it is, 1 if it is none or its length is no number. -/
  arrayLength : Nat
  /-- The span from the name to the end of the declarator. -/
  span : Span
deriving DecidableEq, Repr

namespace Declarator

/-- How much deeper brackets nest after a token. -/
def nestingStep (token : Token) : Int :=
  if token.is "(" || token.is "[" then 1 else if token.is ")" || token.is "]" then -1 else 0

/-- The groups of tokens between the commas outside all brackets. -/
def groups (nesting : Int) (group : List Token) : List Token → List (List Token)
  | [] => [group.reverse]
  | token :: rest =>
    let nesting := nesting + nestingStep token
    if nesting = 0 ∧ token.is "," then group.reverse :: groups nesting [] rest
    else groups nesting (token :: group) rest

/-- The length in the brackets directly after a name, if they hold a single token. -/
def lengthIn (afterName : List Token) : Nat :=
  match afterName with
  | opening :: length :: closing :: _ =>
    if opening.is "[" && closing.is "]" then (word32? length.text).getD 1 else 1
  | _ => 1

/-- The declarator that a group of tokens writes. -/
def ofGroup? : List Token → Option Declarator
  | [] => none
  | name :: afterName =>
    some {
      name := name.text
      arrayLength := lengthIn afterName
      span := { start := name.start, stop := ((name :: afterName).getLast (by simp)).stop } }

/-- The declarators that tokens write. -/
def parse (tokens : List Token) : List Declarator := (groups 0 [] tokens).filterMap ofGroup?

end Declarator

namespace Declaration

/-- The token of a declaration's type or block name. -/
def typeToken (declaration : Declaration) (tokens : List Token) : Token :=
  tokens.getD declaration.typeIndex { text := [], start := 0 }

/-- What a declaration declares after its type. -/
def declarators (declaration : Declaration) (tokens : List Token) : List Declarator :=
  Declarator.parse (tokens.drop (declaration.typeIndex + 1))

end Declaration

/-- The number of consecutive locations a value of a type takes: one for each column. -/
def locationSlots (typeName : Text) : Nat :=
  let dimensions := (dropPrefix? "dmat".toList typeName).or (dropPrefix? "mat".toList typeName)
  match dimensions.bind List.head? with
  | some '2' => 2
  | some '3' => 3
  | some '4' => 4
  | _ => 1

/-- The interface whose locations a storage qualifier uses in a stage, and whether they are
matched between stages by name. -/
inductive LocationSpace where
  | inputs
  | outputs
deriving DecidableEq, Repr

/-- Which interfaces get locations: those of vertex and fragment shaders.  The ones between the
two stages are shared. -/
def locationSpace? (stage : Stage) (storage : Storage) : Option (LocationSpace × Bool) :=
  match stage, storage with
  | .vertex, .input => some (.inputs, false)
  | .vertex, .output => some (.outputs, true)
  | .fragment, .input => some (.inputs, true)
  | .fragment, .output => some (.outputs, false)
  | _, _ => none

/-- The dimensions of textures that samplers exist for. -/
def textureDimensions : List Text :=
  ["1D".toList, "2D".toList, "3D".toList, "Cube".toList, "1DArray".toList, "2DArray".toList,
    "CubeArray".toList, "2DMS".toList, "2DMSArray".toList]

/-- The texture dimensions that have no sampler with a depth comparison. -/
def unshadowedDimensions : List Text := ["3D".toList, "2DMS".toList, "2DMSArray".toList]

/-- The letter that says what a sampler's texture holds, and the rest after the word `sampler`. -/
def samplerKind? (combined : Text) : Option (Text × Text) :=
  [[], ['i'], ['u']].findSome? fun kind =>
    (dropPrefix? (kind ++ "sampler".toList) combined).map fun rest => (kind, rest)

/-- The texture type and the sampler type that a combined sampler type is made of. -/
def splitSamplerType? (combined : Text) : Option (Text × Text) :=
  (samplerKind? combined).bind fun (kind, rest) =>
    let unshadowed := dropSuffix? "Shadow".toList rest
    let dimensions := unshadowed.getD rest
    if dimensions ∉ textureDimensions then none
    else if unshadowed.isSome && (kind ≠ [] || dimensions ∈ unshadowedDimensions) then none
    else
      some (kind ++ "texture".toList ++ dimensions,
        if unshadowed.isSome then "samplerShadow".toList else "sampler".toList)

end GlBridge.Glsl
