import GlBridge.Essl.Syntax

/-!
# Programs

What the compiler works on once names are resolved: every value has a type and is computed by an
instruction of its own, and statements say in which order.  Operands are references to other
values.  What a reference is depends on the form of the program: a number in the list of a
function's values before flattening, and also a shared constant or variable after it.

* `Operation`, `Value` — how a value is computed, and its type;
* `Step` — the statements of a program;
* `Variable`, `Binding`, `Routine`, `Program` — variables, functions and whole shaders.
-/

namespace GlBridge.Essl

/-- The functions that are part of the target language. -/
abbrev Intrinsic := Text

/-- Where a sample is taken from, as far as the level of detail goes. -/
inductive Level (ρ : Type) where
  | auto
  /-- The first level. -/
  | first
  | bias (value : ρ)
  | exact (value : ρ)
  | gradient (x y : ρ)
deriving DecidableEq, Repr

namespace Level

/-- Whether the level follows from the coordinates alone. -/
def isAutomatic : Level ρ → Bool
  | auto => true
  | _ => false

/-- Whether it is the first level. -/
def isFirst : Level ρ → Bool
  | first => true
  | _ => false

/-- The references of a level. -/
def references : Level ρ → List ρ
  | auto => []
  | first => []
  | bias value => [value]
  | exact value => [value]
  | gradient x y => [x, y]

/-- The level with other references. -/
def map (f : ρ → τ) : Level ρ → Level τ
  | auto => .auto
  | first => .first
  | bias value => .bias (f value)
  | exact value => .exact (f value)
  | gradient x y => .gradient (f x) (f y)

end Level

/-- A texture sample. -/
structure Sample (ρ : Type) where
  image : ρ
  sampler : ρ
  coordinate : ρ
  layer : Option ρ := none
  reference : Option ρ := none
  level : Level ρ := .auto
  /-- By how many texels the place is moved: the index of a constant outside of functions. -/
  offset : Option Nat := none
deriving DecidableEq, Repr

namespace Sample

/-- The references of a sample. -/
def references (s : Sample ρ) : List ρ :=
  [s.image, s.sampler, s.coordinate] ++ s.layer.toList ++ s.reference.toList ++ s.level.references

/-- The sample with other references. -/
def map (f : ρ → τ) (s : Sample ρ) : Sample τ where
  image := f s.image
  sampler := f s.sampler
  coordinate := f s.coordinate
  layer := s.layer.map f
  reference := s.reference.map f
  level := s.level.map f
  offset := s.offset

end Sample

/-- A texel that is read by its place. -/
structure Fetch (ρ : Type) where
  image : ρ
  coordinate : ρ
  layer : Option ρ := none
  /-- The level of detail, or the number of the sample. -/
  level : Option ρ := none
deriving DecidableEq, Repr

namespace Fetch

/-- The references of a texel. -/
def references (f : Fetch ρ) : List ρ :=
  [f.image, f.coordinate] ++ f.layer.toList ++ f.level.toList

/-- The texel with other references. -/
def map (g : ρ → τ) (f : Fetch ρ) : Fetch τ where
  image := g f.image
  coordinate := g f.coordinate
  layer := f.layer.map g
  level := f.level.map g

end Fetch

/-- How a value is computed. -/
inductive Operation (ρ : Type) where
  | literal (value : Literal)
  /-- A shared constant. -/
  | constant (index : Nat)
  /-- A variable of the shader: a pointer, or a texture or sampler itself. -/
  | global (index : Nat)
  /-- A variable of the function: a pointer. -/
  | slot (index : Nat)
  | argument (index : Nat)
  | load (pointer : ρ)
  | compose (parts : List ρ)
  /-- A vector of equal components. -/
  | splat (value : ρ)
  | swizzle (vector : ρ) (components : List Nat)
  /-- A part, or a pointer to a part, by a number. -/
  | part (base : ρ) (index : Nat)
  /-- A part, or a pointer to a part, by a computed index. -/
  | access (base index : ρ)
  | unary (op : UnaryOp) (operand : ρ)
  | binary (op : BinaryOp) (left right : ρ)
  | select (condition accepted rejected : ρ)
  /-- The same number as another kind of scalar; `bits` keeps the bits instead. -/
  | convert (operand : ρ) (kind : Scalar) (bits : Bool)
  | intrinsic (function : Intrinsic) (arguments : List ρ)
  /-- A rate of change, which depends on neighbouring invocations. -/
  | derivative (function : Intrinsic) (operand : ρ)
  | sample (sample : Sample ρ)
  | fetch (fetch : Fetch ρ)
  /-- The size of a texture at a level of detail. -/
  | imageSize (image : ρ) (level : Option ρ)
  | imageLayers (image : ρ)
  /-- The length of an array that goes on as far as its memory does. -/
  | arrayLength (pointer : ρ)
  /-- What the call before has returned. -/
  | result (routine : Nat)
deriving DecidableEq, Repr

namespace Operation

/-- The references of an operation. -/
def references : Operation ρ → List ρ
  | literal _ => []
  | constant _ => []
  | global _ => []
  | slot _ => []
  | argument _ => []
  | load pointer => [pointer]
  | compose parts => parts
  | splat value => [value]
  | swizzle vector _ => [vector]
  | part base _ => [base]
  | access base index => [base, index]
  | unary _ operand => [operand]
  | binary _ left right => [left, right]
  | select condition accepted rejected => [condition, accepted, rejected]
  | convert operand _ _ => [operand]
  | intrinsic _ arguments => arguments
  | derivative _ operand => [operand]
  | sample s => s.references
  | fetch f => f.references
  | imageSize image level => image :: level.toList
  | imageLayers image => [image]
  | arrayLength pointer => [pointer]
  | result _ => []

/-- The operation with other references. -/
def map (f : ρ → τ) : Operation ρ → Operation τ
  | literal value => .literal value
  | constant index => .constant index
  | global index => .global index
  | slot index => .slot index
  | argument index => .argument index
  | load pointer => .load (f pointer)
  | compose parts => .compose (parts.map f)
  | splat value => .splat (f value)
  | swizzle vector components => .swizzle (f vector) components
  | part base index => .part (f base) index
  | access base index => .access (f base) (f index)
  | unary op operand => .unary op (f operand)
  | binary op left right => .binary op (f left) (f right)
  | select condition accepted rejected => .select (f condition) (f accepted) (f rejected)
  | convert operand kind bits => .convert (f operand) kind bits
  | intrinsic function arguments => .intrinsic function (arguments.map f)
  | derivative function operand => .derivative function (f operand)
  | sample s => .sample (s.map f)
  | fetch g => .fetch (g.map f)
  | imageSize image level => .imageSize (f image) (level.map f)
  | imageLayers image => .imageLayers (f image)
  | arrayLength pointer => .arrayLength (f pointer)
  | result routine => .result routine

/-- The references of an operation with other references. -/
theorem references_map (f : ρ → τ) (operation : Operation ρ) :
    (operation.map f).references = operation.references.map f := by
  cases operation with
  | sample s =>
    obtain ⟨image, sampler, coordinate, layer, reference, level, offset⟩ := s
    cases layer <;> cases reference <;> cases level <;> cases offset <;> rfl
  | fetch g =>
    obtain ⟨image, coordinate, layer, level⟩ := g
    cases layer <;> cases level <;> rfl
  | imageSize image level => cases level <;> rfl
  | _ => rfl

end Operation

/-- A value of a function. -/
structure Value (ρ : Type) where
  operation : Operation ρ
  type : Ty
deriving Repr

/-- Whether an operation is a constant, given which of its references are. -/
def Operation.isConstant (isConstant : ρ → Bool) : Operation ρ → Bool
  | .literal _ => true
  | .constant _ => true
  | .compose parts => parts.all isConstant
  | .splat value => isConstant value
  | _ => false

/-- Whether an operation stands for something that is there from the start, so that it needs no
place where it is computed. -/
def Operation.isGiven : Operation ρ → Bool
  | .literal _ => true
  | .constant _ => true
  | .global _ => true
  | .slot _ => true
  | .argument _ => true
  | .result _ => true
  | _ => false

/-- Whether an operation stands for a constant with a name. -/
def Operation.isNamed : Operation ρ → Bool
  | .constant _ => true
  | _ => false

mutual

/-- A statement. -/
inductive Step (ρ : Type) where
  /-- The place where a value is computed. -/
  | compute (value : ρ)
  | store (pointer value : ρ)
  | call (routine : Nat) (arguments : List ρ) (result : Option ρ)
  /-- Statements that belong together. -/
  | block (steps : List (Step ρ))
  | ifElse (condition : ρ) (accepted rejected : List (Step ρ))
  /-- A choice by number. -/
  | choice (selector : ρ) (cases : Choices ρ)
  /-- A loop: `continuing` is run between two rounds. -/
  | loop (body continuing : List (Step ρ))
  | return (value : Option ρ)
  | break
  | continue
  | discard

/-- The cases of a choice. -/
inductive Choices (ρ : Type) where
  | nil
  /-- A case with its number, or for all numbers that are left.  `fallsThrough` says that the next
  case comes after it. -/
  | cons (number : Option Literal) (steps : List (Step ρ)) (fallsThrough : Bool)
      (rest : Choices ρ)

end

deriving instance Repr for Step
deriving instance Repr for Choices

instance : Inhabited (Step ρ) := ⟨.discard⟩

/-- The cases of a choice one by one. -/
def Choices.toList : Choices ρ → List (Option Literal × List (Step ρ) × Bool)
  | nil => []
  | cons number steps fallsThrough rest => (number, steps, fallsThrough) :: rest.toList

/-- Cases put together. -/
def Choices.ofList : List (Option Literal × List (Step ρ) × Bool) → Choices ρ
  | [] => .nil
  | (number, steps, fallsThrough) :: rest => .cons number steps fallsThrough (ofList rest)

/-- Whether nothing after a statement is reached. -/
def Step.isFinal : Step ρ → Bool
  | .return _ => true
  | .break => true
  | .continue => true
  | .discard => true
  | _ => false

mutual

/-- The references of a statement. -/
def Step.references : Step ρ → List ρ
  | .compute _ => []
  | .store pointer value => [pointer, value]
  | .call _ arguments _ => arguments
  | .block steps => stepsReferences steps
  | .ifElse condition accepted rejected =>
    condition :: (stepsReferences accepted ++ stepsReferences rejected)
  | .choice selector cases => selector :: cases.references
  | .loop body continuing => stepsReferences body ++ stepsReferences continuing
  | .return value => value.toList
  | .break => []
  | .continue => []
  | .discard => []

/-- The references of the cases of a choice. -/
def Choices.references : Choices ρ → List ρ
  | .nil => []
  | .cons _ steps _ rest => stepsReferences steps ++ rest.references

/-- The references of statements. -/
def stepsReferences : List (Step ρ) → List ρ
  | [] => []
  | step :: steps => step.references ++ stepsReferences steps

end

mutual

/-- The routines that a statement calls. -/
def Step.calls : Step ρ → List Nat
  | .call routine _ _ => [routine]
  | .block steps => stepsCalls steps
  | .ifElse _ accepted rejected => stepsCalls accepted ++ stepsCalls rejected
  | .choice _ cases => cases.calls
  | .loop body continuing => stepsCalls body ++ stepsCalls continuing
  | _ => []

/-- The routines that the cases of a choice call. -/
def Choices.calls : Choices ρ → List Nat
  | .nil => []
  | .cons _ steps _ rest => stepsCalls steps ++ rest.calls

/-- The routines that statements call. -/
def stepsCalls : List (Step ρ) → List Nat
  | [] => []
  | step :: steps => step.calls ++ stepsCalls steps

end

/-- What connects a variable or an argument with the outside. -/
inductive Binding where
  | location (location : Nat) (interpolation : Option Interpolation)
      (sampling : Option Sampling)
  /-- An input or output that the language defines.  It may be asked that it is always computed in
  the same way. -/
  | builtin (name : Text) (invariant : Bool)
deriving DecidableEq, Repr

/-- The name of what the language defines. -/
def Binding.builtin? : Binding → Option Text
  | .builtin name _ => some name
  | .location _ _ _ => none

/-- The location of what the application connects. -/
def Binding.location? : Binding → Option Nat
  | .location n _ _ => some n
  | .builtin _ _ => none

/-- A variable of a shader. -/
structure Variable where
  name : Option Text
  space : Space
  type : Ty
  /-- The group and the binding of a resource. -/
  key : Option (Nat × Nat) := none
  /-- The index of the initial value among the values outside of functions. -/
  initial : Option Nat := none
deriving DecidableEq, Repr

/-- A variable of a function. -/
structure LocalVariable (ρ : Type) where
  name : Option Text
  type : Ty
  initial : Option ρ
deriving Repr

/-- A parameter of a function. -/
structure Argument where
  name : Option Text
  type : Ty
deriving DecidableEq, Repr

/-- A function. -/
structure Routine (ρ : Type) where
  name : Option Text
  arguments : List Argument := []
  result : Option Ty := none
  locals : List (LocalVariable ρ) := []
  values : List (Value ρ) := []
  body : List (Step ρ) := []
deriving Repr

/-- Everything that is referred to in a function: by its values, whether they are computed or not,
by the initial values of its variables, and by its statements. -/
def Routine.references (routine : Routine ρ) : List ρ :=
  (routine.values.flatMap fun value => value.operation.references)
    ++ routine.locals.filterMap LocalVariable.initial ++ stepsReferences routine.body

/-- How often each number below a bound is in a list. -/
def tally (bound : Nat) (numbers : List Nat) : Array Nat :=
  numbers.foldl (fun counts n => counts.modify n (· + 1)) (Array.replicate bound 0)

/-- An input or an output of a shader, kept in a variable. -/
structure Channel where
  name : Text
  /-- The index of the variable. -/
  global : Nat
  type : Ty
  isInput : Bool
  binding : Binding
deriving DecidableEq, Repr

end GlBridge.Essl
