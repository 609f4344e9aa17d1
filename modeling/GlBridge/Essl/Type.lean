import GlBridge.Number.Shortest

/-!
# Types of the shading language

The compiler knows scalars, vectors, matrices, arrays, structures, textures and samplers, and
pointers into the kinds of memory that a shader has.  A structure is an index into a table, so
that a type is a plain term.

* `Scalar`, `ImageType`, `Space`, `Ty` — the types;
* `Structure` — an entry of the table of structures;
* `Literal` — the values of scalars.
-/

namespace GlBridge.Essl

/-- The kinds of scalars. -/
inductive Scalar where
  | float
  | int
  | uint
  | bool
deriving DecidableEq, Repr

namespace Scalar

/-- The name of a scalar type. -/
def name : Scalar → Text
  | float => "float".toList
  | int => "int".toList
  | uint => "uint".toList
  | bool => "bool".toList

/-- What the names of vectors and samplers of a kind start with. -/
def lead : Scalar → Text
  | float => []
  | int => ['i']
  | uint => ['u']
  | bool => ['b']

/-- The place of a kind among those that are converted into each other without being asked. -/
def rank? : Scalar → Option Nat
  | int => some 0
  | uint => some 1
  | float => some 2
  | bool => none

/-- Whether a value of the first kind becomes one of the second without being asked. -/
def widensTo (source target : Scalar) : Bool :=
  match source.rank?, target.rank? with
  | some a, some b => a < b
  | _, _ => false

end Scalar

/-- The shapes of textures. -/
inductive Dimension where
  | line
  | plane
  | volume
  | cube
deriving DecidableEq, Repr

/-- The number of coordinates of a point in a texture. -/
def Dimension.coordinates : Dimension → Nat
  | line => 1
  | plane => 2
  | volume => 3
  | cube => 3

/-- What a texture holds. -/
inductive ImageContent where
  | color (kind : Scalar) (multisampled : Bool)
  /-- Depths, which samples are compared with. -/
  | depth (multisampled : Bool)
deriving DecidableEq, Repr

/-- The type of a texture. -/
structure ImageType where
  dimension : Dimension
  arrayed : Bool := false
  content : ImageContent := .color .float false
deriving DecidableEq, Repr

namespace ImageType

/-- The kind of scalars that are read from a texture. -/
def kind (type : ImageType) : Scalar :=
  match type.content with
  | .color kind _ => kind
  | .depth _ => .float

/-- Whether a texture holds depths. -/
def isDepth (type : ImageType) : Bool :=
  match type.content with
  | .depth _ => true
  | _ => false

/-- Whether there is more than one sample for each texel. -/
def isMultisampled (type : ImageType) : Bool :=
  match type.content with
  | .color _ multisampled => multisampled
  | .depth multisampled => multisampled

end ImageType

/-- The kinds of memory that a pointer can point into. -/
inductive Space where
  /-- The variables of a function. -/
  | function
  /-- The variables of the shader. -/
  | shader
  | uniform
  /-- Memory of the application. -/
  | storage (readable writable : Bool)
  /-- The memory of a work group. -/
  | workGroup
  /-- Textures and samplers. -/
  | handle
deriving DecidableEq, Repr

namespace Space

/-- Whether values are read from the memory. -/
def isReadable : Space → Bool
  | storage readable _ => readable
  | _ => true

/-- Whether values are stored in the memory. -/
def isWritable : Space → Bool
  | storage _ writable => writable
  | uniform => false
  | handle => false
  | _ => true

end Space

/-- A type. -/
inductive Ty where
  | scalar (kind : Scalar)
  | vector (size : Nat) (kind : Scalar)
  | matrix (columns rows : Nat)
  /-- An array, with the distance between its elements in memory; without a length it goes on as
  far as its memory does. -/
  | array (element : Ty) (length : Option Nat) (stride : Nat)
  | structure (index : Nat)
  | image (type : ImageType)
  | sampler (comparison : Bool)
  | pointer (target : Ty) (space : Space)
deriving DecidableEq, Repr, Inhabited

namespace Ty

/-- The kind of the scalars that make up a value. -/
def kind? : Ty → Option Scalar
  | scalar kind => some kind
  | vector _ kind => some kind
  | matrix _ _ => some .float
  | _ => none

/-- The type with another kind of scalars. -/
def withKind (kind : Scalar) : Ty → Ty
  | scalar _ => scalar kind
  | vector size _ => vector size kind
  | type => type

/-- The number of components of a vector. -/
def size? : Ty → Option Nat
  | vector size _ => some size
  | _ => none

/-- What a pointer points to. -/
def target? : Ty → Option (Ty × Space)
  | pointer target space => some (target, space)
  | _ => none

/-- Whether values of the type are pointers. -/
def isPointer (type : Ty) : Bool := type.target?.isSome

/-- The type of what a value or a variable holds. -/
def held : Ty → Ty
  | pointer target _ => target
  | type => type

/-- Whether the type is a texture or a sampler. -/
def isHandle : Ty → Bool
  | image _ => true
  | sampler _ => true
  | _ => false

/-- Whether the type is a sampler. -/
def isSampler : Ty → Bool
  | sampler _ => true
  | _ => false

/-- Whether the type is an array without a length. -/
def isUnsized : Ty → Bool
  | array _ none _ => true
  | _ => false

/-- A vector, or a scalar in place of a vector of one component. -/
def ofSize (size : Nat) (kind : Scalar) : Ty :=
  if size = 1 then scalar kind else vector size kind

/-- A floating point scalar. -/
def float : Ty := scalar .float

end Ty

/-! ## Types by name -/

/-- A word without a lead that stands for a kind of scalars. -/
def splitKind (word : Text) : Scalar × Text :=
  match word with
  | 'i' :: rest => (.int, rest)
  | 'u' :: rest => (.uint, rest)
  | 'b' :: rest => (.bool, rest)
  | _ => (.float, word)

/-- A size of vectors or matrices in writing. -/
def sizeOf? : Char → Option Nat
  | '2' => some 2
  | '3' => some 3
  | '4' => some 4
  | _ => none

/-- The shapes of textures in names. -/
def shapeNames : List (Text × Dimension × Bool) :=
  [("1D".toList, .line, false), ("1DArray".toList, .line, true), ("2D".toList, .plane, false),
    ("2DArray".toList, .plane, true), ("3D".toList, .volume, false),
    ("Cube".toList, .cube, false), ("CubeArray".toList, .cube, true)]

/-- The shapes of textures with more than one sample for each texel. -/
def multisampledShapeNames : List (Text × Dimension × Bool) :=
  [("2DMS".toList, .plane, false), ("2DMSArray".toList, .plane, true)]

/-- The texture type that a lead for its kind and the name of its shape stand for. -/
def textureShaped? (sampled : Scalar) (shape : Text) : Option ImageType :=
  match shapeNames.lookup shape, multisampledShapeNames.lookup shape with
  | some (dimension, arrayed), _ =>
    some { dimension, arrayed, content := .color sampled false }
  | none, some (dimension, arrayed) =>
    some { dimension, arrayed, content := .color sampled true }
  | none, none => none

/-- The texture type whose name is a lead, a word and a shape. -/
def textureNamed? (name : Text) : Option ImageType := do
  let (sampled, rest) := if "texture".toList.isPrefixOf name then (Scalar.float, name)
    else splitKind name
  let shape ← Text.dropPrefix? "texture".toList rest
  if sampled = .bool then none else textureShaped? sampled shape

/-- The type that a name of the language stands for. -/
def Ty.ofName? (name : Text) : Option Ty :=
  match name with
  | ['f', 'l', 'o', 'a', 't'] => some (.scalar .float)
  | ['i', 'n', 't'] => some (.scalar .int)
  | ['u', 'i', 'n', 't'] => some (.scalar .uint)
  | ['b', 'o', 'o', 'l'] => some (.scalar .bool)
  | ['m', 'a', 't', c] => (sizeOf? c).map fun size => .matrix size size
  | ['m', 'a', 't', c, 'x', r] => do return .matrix (← sizeOf? c) (← sizeOf? r)
  | _ =>
    if name = "sampler".toList then some (.sampler false)
    else if name = "samplerShadow".toList then some (.sampler true)
    else
      match splitKind name with
      | (kind, ['v', 'e', 'c', c]) => (sizeOf? c).map fun size => .vector size kind
      | _ => (textureNamed? name).map .image

/-- Whether a name is that of a type of double precision. -/
def isDoubleName : Text → Bool
  | ['d', 'v', 'e', 'c', c] => (sizeOf? c).isSome
  | ['d', 'm', 'a', 't', c] => (sizeOf? c).isSome
  | ['d', 'm', 'a', 't', c, 'x', r] => (sizeOf? c).isSome && (sizeOf? r).isSome
  | name => name = "double".toList

/-- Whether a name is that of a type of images whose texels are read and written one by one. -/
def isImageName (name : Text) : Bool :=
  let (kind, rest) := if "image".toList.isPrefixOf name then (Scalar.float, name)
    else splitKind name
  kind ≠ .bool &&
    match Text.dropPrefix? "image".toList rest with
    | some shape =>
      (shapeNames.lookup shape).isSome || (multisampledShapeNames.lookup shape).isSome
    | none => false

/-- Whether a name is that of a type which cannot be had in the target language. -/
def isForeignType (name : Text) : Bool := isDoubleName name || isImageName name

/-- A member of a structure. -/
structure Member where
  name : Option Text
  type : Ty
  /-- Where it starts. -/
  offset : Nat := 0
deriving DecidableEq, Repr

/-- A structure. -/
structure Structure where
  name : Option Text
  members : List Member
  /-- How much memory it takes. -/
  span : Nat := 0
deriving DecidableEq, Repr

namespace Structure

/-- Whether the last member is an array without a length. -/
def endsUnsized (s : Structure) : Bool := s.members.getLast?.any fun member => member.type.isUnsized

/-- The index of a member by name. -/
def index? (s : Structure) (name : Text) : Option Nat :=
  s.members.findIdx? fun member => member.name == some name

end Structure

/-- The structures of a shader. -/
abbrev Structures := List Structure

/-- The type of a part of a value by index. -/
def partType? (structures : Structures) (type : Ty) (index : Nat) : Option Ty :=
  match type with
  | .vector _ kind => some (.scalar kind)
  | .matrix _ rows => some (.vector rows .float)
  | .array element _ _ => some element
  | .structure s => (structures[s]?.bind (·.members[index]?)).map Member.type
  | _ => none

/-! ## Memory -/

/-- The next multiple of a number. -/
def roundUp (multiple n : Nat) : Nat :=
  if n % multiple = 0 then n else n + (multiple - n % multiple)

/-- How many bytes a scalar takes. -/
def Scalar.width : Scalar → Nat
  | bool => 1
  | _ => 4

/-- What the address of a vector is a multiple of. -/
def vectorAlignment (size : Nat) (kind : Scalar) : Nat :=
  (if size = 2 then 2 else 4) * kind.width

/-- How deep types can be nested. -/
def typeDepthLimit : Nat := 32

/-- What the address of a value is a multiple of.  `fuel` bounds how deep the type is nested. -/
def alignmentOf (structures : Structures) : Nat → Ty → Nat
  | _, .scalar kind => kind.width
  | _, .vector size kind => vectorAlignment size kind
  | _, .matrix _ rows => vectorAlignment rows .float
  | fuel + 1, .array element _ _ => alignmentOf structures fuel element
  | fuel + 1, .structure index =>
    ((structures[index]?).elim [] Structure.members).foldl
      (fun most m => max most (alignmentOf structures fuel m.type)) 1
  | _, _ => 1

/-- How many bytes a value takes. -/
def sizeInMemory (structures : Structures) : Ty → Nat
  | .scalar kind => kind.width
  | .vector size kind => size * kind.width
  | .matrix columns rows => columns * vectorAlignment rows .float
  | .array _ length stride => (length.getD 1) * stride
  | .structure index => (structures[index]?).elim 0 Structure.span
  | .pointer _ _ => 4
  | _ => 0

/-- The distance between two values of a type in an array of them. -/
def strideOf (structures : Structures) (type : Ty) : Nat :=
  roundUp (alignmentOf structures typeDepthLimit type) (sizeInMemory structures type)

/-- Whether it is known how much memory a value takes. -/
def isSized (structures : Structures) : Ty → Bool
  | .array _ none _ => false
  | .structure index => (structures[index]?).any fun s => !s.endsUnsized
  | _ => true

/-- Whether a type is made of numbers and truth values, with arrays without a length nowhere but at
the end of a structure. -/
def isData (structures : Structures) : Nat → Ty → Bool
  | _, .scalar _ => true
  | _, .vector _ _ => true
  | _, .matrix _ _ => true
  | fuel + 1, .array element _ _ =>
    isData structures fuel element && isSized structures element
  | fuel + 1, .structure index =>
    (structures[index]?).any fun s =>
      s.members.all (fun m => isData structures fuel m.type)
        && s.members.dropLast.all (fun m => isSized structures m.type)
        && s.members.getLast?.all fun m => isSized structures m.type || m.type.isUnsized
  | _, _ => false

/-- Whether variables that belong to the shader can be of a type. -/
def isConstructible (structures : Structures) (type : Ty) : Bool :=
  isData structures typeDepthLimit type && isSized structures type

/-! ## Literals -/

/-- A value of a scalar type. -/
inductive Literal where
  /-- A number of single precision, given by its bits. -/
  | float (bits : UInt32)
  | int (value : Int)
  | uint (value : Nat)
  | bool (value : Bool)
deriving DecidableEq, Repr

namespace Literal

/-- The kind of a value. -/
def kind : Literal → Scalar
  | float _ => .float
  | int _ => .int
  | uint _ => .uint
  | bool _ => .bool

/-- The value zero of a kind. -/
def zero : Scalar → Literal
  | .float => float 0
  | .int => int 0
  | .uint => uint 0
  | .bool => bool false

/-- The value one of a kind. -/
def one : Scalar → Literal
  | .float => float 0x3F800000
  | .int => int 1
  | .uint => uint 1
  | .bool => bool true

/-- A value in writing. -/
def text : Literal → Text
  | float bits => singleText bits
  | int value => Text.ofInt value
  | uint value => Text.ofNat value ++ ['u']
  | bool value => if value then "true".toList else "false".toList

end Literal

end GlBridge.Essl
