import GlBridge.Essl.Preprocessor

/-!
# Syntax of shaders

A shader as it is written: expressions, statements and declarations.  Names are not resolved and
nothing has a type yet, apart from the constructors of types that have been looked up.

* `UnaryOp`, `BinaryOp`, `Expr` — expressions; an assignment with an operator is an assignment of
  the operator's result;
* `TypeForm`, `Declarator`, `Stmt` — types and statements;
* `Qualifiers`, `Decl` — declarations.
-/

namespace GlBridge.Essl

/-- The operators on one operand. -/
inductive UnaryOp where
  | negate
  | not
  | complement
deriving DecidableEq, Repr

/-- The operators on two operands. -/
inductive BinaryOp where
  | add
  | subtract
  | multiply
  | divide
  | modulo
  | equal
  | notEqual
  | less
  | lessEqual
  | greater
  | greaterEqual
  | bitAnd
  | bitXor
  | bitOr
  | and
  | or
  | shiftLeft
  | shiftRight
deriving DecidableEq, Repr

namespace BinaryOp

/-- An operator in writing. -/
def sign : BinaryOp → Text
  | add => "+".toList
  | subtract => "-".toList
  | multiply => "*".toList
  | divide => "/".toList
  | modulo => "%".toList
  | equal => "==".toList
  | notEqual => "!=".toList
  | less => "<".toList
  | lessEqual => "<=".toList
  | greater => ">".toList
  | greaterEqual => ">=".toList
  | bitAnd => "&".toList
  | bitXor => "^".toList
  | bitOr => "|".toList
  | and => "&&".toList
  | or => "||".toList
  | shiftLeft => "<<".toList
  | shiftRight => ">>".toList

/-- Whether the result is a truth value. -/
def isComparison : BinaryOp → Bool
  | equal => true
  | notEqual => true
  | less => true
  | lessEqual => true
  | greater => true
  | greaterEqual => true
  | _ => false

end BinaryOp

/-- An expression. -/
inductive Expr where
  | literal (value : Literal)
  | name (name : Text)
  /-- A call of a function. -/
  | call (function : Text) (arguments : List Expr)
  /-- A call of a type's constructor.  Of an array type the lengths are given, as far as they are
  written. -/
  | construct (type : Text) (lengths : List (Option Expr)) (arguments : List Expr)
  /-- The same, once it is known which type the name and the lengths stand for. -/
  | make (type : Ty) (arguments : List Expr)
  | index (base index : Expr)
  | field (base : Expr) (name : Text)
  /-- A call of a function that belongs to a value. -/
  | method (base : Expr) (name : Text) (arguments : List Expr)
  | unary (op : UnaryOp) (operand : Expr)
  | binary (op : BinaryOp) (left right : Expr)
  /-- Adding or subtracting one.  `postfixed` says that the value is that of before. -/
  | step (op : BinaryOp) (postfixed : Bool) (target : Expr)
  | conditional (condition accepted rejected : Expr)
  | assign (target value : Expr)
  /-- Two expressions with a comma between them, of which only the second one counts. -/
  | comma (dropped value : Expr)
deriving Repr, Inhabited

/-- The lengths of an array type as they are written, from left to right. -/
abbrev Lengths := List (Option Expr)

mutual

/-- A type in writing: a name or the definition of a structure, with lengths. -/
inductive TypeForm where
  | named (name : Text) (lengths : Lengths)
  | structure (name : Text) (members : Members) (lengths : Lengths)

/-- The members in the definition of a structure or a block. -/
inductive Members where
  | nil
  /-- Members of one type, each with lengths of its own, and more members. -/
  | cons (type : TypeForm) (names : List (Text × Lengths)) (rest : Members)

end

deriving instance Repr for TypeForm
deriving instance Repr for Members

instance : Inhabited TypeForm := ⟨.named [] []⟩

/-- What a variable starts with. -/
inductive Initializer where
  | value (value : Expr)
  /-- The values of the parts, in braces. -/
  | parts (parts : List Initializer)
deriving Repr, Inhabited

/-- A variable in a declaration. -/
structure Declarator where
  name : Text
  lengths : Lengths := []
  initial : Option Initializer := none
deriving Repr, Inhabited

/-- What a variable is for. -/
inductive Storage where
  | plain
  | const
  | input
  | output
  | uniform
  | buffer
  | shared
deriving DecidableEq, Repr

/-- How an input is interpolated. -/
inductive Interpolation where
  | smooth
  | linear
  | flat
deriving DecidableEq, Repr

/-- Where within a pixel an input is interpolated. -/
inductive Sampling where
  | centroid
  | sample
deriving DecidableEq, Repr

/-- What is said of a declaration ahead of its type. -/
structure Qualifiers where
  storage : Storage := .plain
  /-- Layout arguments by name. -/
  layout : List (Text × Option Expr) := []
  interpolation : Option Interpolation := none
  sampling : Option Sampling := none
  /-- Whether it is said how precise numbers are. -/
  precise : Bool := false
  invariant : Bool := false
  readOnly : Bool := false
  writeOnly : Bool := false
deriving Repr, Inhabited

/-- How an argument is passed. -/
inductive Passing where
  | input
  /-- It is never changed. -/
  | const
  | output
  | both
deriving DecidableEq, Repr, Inhabited

/-- Whether a parameter stands for a variable of the caller. -/
def Passing.isReference : Passing → Bool
  | output => true
  | both => true
  | _ => false

/-- A parameter of a function. -/
structure Parameter where
  passing : Passing
  type : TypeForm
  name : Option Text
  lengths : Lengths := []
deriving Repr, Inhabited

/-- A function without its body. -/
structure Header where
  result : Option TypeForm
  name : Text
  parameters : List Parameter
deriving Repr, Inhabited

/-- A declaration of variables.  Without a type it is one of nothing. -/
structure Declaration where
  qualifiers : Qualifiers
  type : TypeForm
  declarators : List Declarator
deriving Repr, Inhabited

/-- The condition of a loop. -/
inductive LoopCondition where
  | always
  | holds (condition : Expr)
  /-- A variable is made and set in each round. -/
  | variable (qualifiers : Qualifiers) (type : TypeForm) (name : Text) (value : Initializer)
deriving Repr

mutual

/-- A statement. -/
inductive Stmt where
  | declare (declaration : Declaration)
  | prototype (header : Header)
  | expression (value : Expr)
  | nothing
  | block (statements : List Stmt)
  | ifElse (condition : Expr) (accepted : Stmt) (rejected : Option Stmt)
  /-- A choice by number. -/
  | choice (selector : Expr) (cases : Cases)
  | loop (start : Option Stmt) (condition : LoopCondition) (step : Option Expr) (body : Stmt)
  | loopUntil (body : Stmt) (condition : Expr)
  | return (value : Option Expr)
  | break
  | continue
  | discard

/-- The cases of a choice; one without a number takes what is left. -/
inductive Cases where
  | nil
  | cons (number : Option Expr) (statements : List Stmt) (rest : Cases)

end

deriving instance Repr for Stmt
deriving instance Repr for Cases

instance : Inhabited Stmt := ⟨.nothing⟩

/-- A declaration outside of functions. -/
inductive Decl where
  | globals (declaration : Declaration)
  | block (qualifiers : Qualifiers) (name : Text) (members : Members)
      (instanceName : Option Text) (lengths : Lengths)
  | prototype (header : Header)
  | function (header : Header) (body : List Stmt)
  /-- A variable that is always computed in the same way. -/
  | invariant (qualifiers : Qualifiers) (name : Text)
  /-- Layout arguments of the shader itself. -/
  | shader (qualifiers : Qualifiers)
  /-- How precise numbers of a type are. -/
  | precision (type : TypeForm)
  | nothing
deriving Repr, Inhabited

end GlBridge.Essl
