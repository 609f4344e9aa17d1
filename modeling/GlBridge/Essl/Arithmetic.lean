import GlBridge.Essl.Scope

/-!
# Operators and constructors

Operators work on operands of one kind.  Where an application mixes kinds, the weaker operand is
converted, and where it mixes a vector or a matrix with a scalar, the scalar is repeated; only
products of vectors and scalars are left to the target language, which knows them.  Constructors
take their arguments apart into components.

* `BinaryOp.resultType?` — which operands an operator accepts, and what it results in;
* `combine` — an operator on two values of any kinds;
* `isComposed`, `addCompose` — what a value of parts can be made of;
* `construct` — a call of a type's constructor.
-/

namespace GlBridge.Essl

/-! ## Operators -/

/-- Whether an operator works on each component by itself. -/
def BinaryOp.isArithmetic : BinaryOp → Bool
  | .add => true
  | .subtract => true
  | .multiply => true
  | .divide => true
  | .modulo => true
  | _ => false

/-- Whether an operator works on the bits of whole numbers. -/
def BinaryOp.isBitwise : BinaryOp → Bool
  | .bitAnd => true
  | .bitXor => true
  | .bitOr => true
  | _ => false

/-- Whether an operator moves bits. -/
def BinaryOp.isShift : BinaryOp → Bool
  | .shiftLeft => true
  | .shiftRight => true
  | _ => false

/-- Whether the values of a type are scalars or vectors. -/
def Ty.isPlain : Ty → Bool
  | .scalar _ => true
  | .vector _ _ => true
  | _ => false

/-- Whether the values of a type are scalars or vectors of numbers. -/
def Ty.isNumeric (type : Ty) : Bool := type.isPlain && type.kind? ≠ some .bool

/-- Whether the values of a type are scalars or vectors of whole numbers. -/
def Ty.isWhole (type : Ty) : Bool := type.isNumeric && type.kind? ≠ some .float

/-- The type of truth values for each component. -/
def Ty.truth : Ty → Ty
  | .vector size _ => .vector size .bool
  | _ => .scalar .bool

/-- The type of a product. -/
def productType? (left right : Ty) : Option Ty :=
  match left, right with
  | .scalar a, .vector size b => if a = b ∧ a ≠ .bool then some (.vector size b) else none
  | .vector size a, .scalar b => if a = b ∧ a ≠ .bool then some (.vector size a) else none
  | .scalar .float, .matrix columns rows => some (.matrix columns rows)
  | .matrix columns rows, .scalar .float => some (.matrix columns rows)
  | .matrix columns rows, .vector size .float =>
    if columns = size then some (.vector rows .float) else none
  | .vector size .float, .matrix columns rows =>
    if size = rows then some (.vector columns .float) else none
  | .matrix columns rows, .matrix columns' rows' =>
    if columns = rows' then some (.matrix columns' rows) else none
  | _, _ => if left = right ∧ left.isNumeric then some left else none

/-- The type of the result of an operator, if it accepts operands of the given types. -/
def BinaryOp.resultType? (op : BinaryOp) (left right : Ty) : Option Ty :=
  let whenAlike (fits : Bool) (type : Ty) : Option Ty :=
    if left = right ∧ fits then some type else none
  match op with
  | .multiply => productType? left right
  | .add => whenAlike (left.isNumeric || !left.isPlain && left.kind?.isSome) left
  | .subtract => whenAlike (left.isNumeric || !left.isPlain && left.kind?.isSome) left
  | .divide => whenAlike left.isNumeric left
  | .modulo => whenAlike left.isNumeric left
  | .and => whenAlike (left.isPlain && left.kind? = some .bool) left
  | .or => whenAlike (left.isPlain && left.kind? = some .bool) left
  | .equal => whenAlike left.isPlain left.truth
  | .notEqual => whenAlike left.isPlain left.truth
  | .bitAnd => whenAlike (left.isPlain && left.kind? ≠ some .float) left
  | .bitOr => whenAlike (left.isPlain && left.kind? ≠ some .float) left
  | .bitXor => whenAlike left.isWhole left
  | .shiftLeft => if left.isWhole ∧ right = left.withKind .uint then some left else none
  | .shiftRight => if left.isWhole ∧ right = left.withKind .uint then some left else none
  | _ => whenAlike left.isNumeric left.truth

/-- An operator on operands of the right types. -/
def addBinary (op : BinaryOp) (left right : Nat) : BuildM Nat := do
  let type ← require (op.resultType? (← typeOf left) (← typeOf right))
  add (.binary op left right) type

/-- A scalar as a vector of equal components. -/
def addSplat (size value : Nat) : BuildM Nat := do
  match ← typeOf value with
  | .scalar kind => add (.splat value) (.vector size kind)
  | _ => reject

/-- A scalar as a vector if others are vectors of a size. -/
def splatTo (size : Nat) (value : Nat) : BuildM Nat := do
  match ← typeOf value with
  | .scalar _ => if size = 1 then return value else addSplat size value
  | _ => return value

/-- Whether parts of given types make up a value of a type. -/
def isComposed (structures : Structures) (type : Ty) (parts : List Ty) : Bool :=
  match type with
  | .vector size kind =>
    parts.all (fun part => part.isPlain && part.kind? = some kind)
      && parts.foldl (fun count part => count + part.size?.getD 1) 0 == size
  | .matrix columns rows => parts == List.replicate columns (.vector rows .float)
  | .array element (some length) _ => parts == List.replicate length element
  | .structure index =>
    (structures[index]?).any fun s => parts == s.members.map Member.type
  | _ => false

/-- A value of parts. -/
def addCompose (type : Ty) (parts : List Nat) : BuildM Nat := do
  if isComposed (← structures) type (← parts.mapM typeOf) then add (.compose parts) type
  else reject

/-- A matrix computed column by column from the columns with given numbers. -/
def columnwise (columns rows : Nat) (column : Nat → BuildM Nat) : BuildM Nat := do
  let parts ← (List.range columns).mapM column
  mention (.matrix columns rows)
  addCompose (.matrix columns rows) parts

/-- A comparison of two vectors as a whole. -/
def compareVectors (op : BinaryOp) (left right : Nat) : BuildM Nat := do
  let each ← addBinary op left right
  let function := if op = .equal then "all".toList else "any".toList
  add (.intrinsic function [each]) (.scalar .bool)

/-- A comparison of two matrices: of their columns, one after the other. -/
def compareMatrices (op : BinaryOp) (columns : Nat) (left right : Nat) : BuildM Nat := do
  let column (index : Nat) : BuildM Nat := do
    let a ← addPart left index
    let b ← addPart right index
    compareVectors op a b
  let first ← column 0
  (List.range' 1 (columns - 1)).foldlM (fun whole index => do
    addBinary (if op = .equal then .and else .or) (← column index) whole) first

/-- Whether an operator is left to the target language where one operand is a vector and the other
a scalar. -/
def BinaryOp.keepsScalar (op : BinaryOp) : Bool :=
  !(op = .add || op = .subtract || op = .divide || op.isBitwise || op.isShift)

/-- Whether an operator on a matrix and a scalar works on each component by itself. -/
def BinaryOp.worksOnColumns (op : BinaryOp) : Bool :=
  op = .add || op = .subtract || op = .divide

/-- An operator on two values of the same kind of scalars. -/
def combineAlike (op : BinaryOp) (left right : Nat) : BuildM Nat := do
  match ← typeOf left, ← typeOf right with
  | .matrix columns rows, .matrix columns' rows' =>
    if op = .multiply then addBinary op left right
    else if columns ≠ columns' ∨ rows ≠ rows' then reject
    else if op = .divide then
      columnwise columns rows fun index => do
        let a ← addPart left index
        let b ← addPart right index
        addBinary .divide a b
    else if op = .equal ∨ op = .notEqual then compareMatrices op columns left right
    else addBinary op left right
  | .vector _ _, .vector _ _ =>
    if op = .equal ∨ op = .notEqual then compareVectors op left right
    else addBinary op left right
  | .vector size _, .scalar _ =>
    if op.keepsScalar then addBinary op left right
    else
      let right ← addSplat size right
      addBinary op left right
  | .scalar _, .vector size _ =>
    if op.keepsScalar ∨ op.isShift then addBinary op left right
    else
      let left ← addSplat size left
      addBinary op left right
  | .scalar _, .matrix columns rows =>
    if op.worksOnColumns then
      let left ← addSplat rows left
      columnwise columns rows fun index => do addBinary op left (← addPart right index)
    else addBinary op left right
  | .matrix columns rows, .scalar _ =>
    if op.worksOnColumns then
      let right ← addSplat rows right
      columnwise columns rows fun index => do addBinary op (← addPart left index) right
    else addBinary op left right
  | _, _ => addBinary op left right

/-- An operator on two values, the weaker of which is converted. -/
def combine (op : BinaryOp) (left right : Nat) : BuildM Nat := do
  if op.isShift then combineAlike op left (← convertTo right .uint)
  else
    match (← typeOf left).kind?, (← typeOf right).kind? with
    | some a, some b =>
      if a.widensTo b then combineAlike op (← addConversion left b) right
      else if b.widensTo a then combineAlike op left (← addConversion right a)
      else combineAlike op left right
    | _, _ => combineAlike op left right

/-- An operator on one value. -/
def addUnary (op : UnaryOp) (operand : Nat) : BuildM Nat := do
  let type ← typeOf operand
  let fits : Bool := match op with
    | .negate => type.kind? = some .float || type.kind? = some .int
    | .not => type.kind? = some .bool
    | .complement => type.kind? = some .int || type.kind? = some .uint
  if fits then add (.unary op operand) type else reject

/-- The value one, as a scalar, a vector or a matrix. -/
def addOnes (type : Ty) : BuildM Nat := do
  match type with
  | .scalar kind => addLiteral (.one kind)
  | .vector size kind => addSplat size (← addLiteral (.one kind))
  | .matrix columns rows => do
    let column ← addSplat rows (← addLiteral (.one .float))
    mention type
    addCompose type (List.replicate columns column)
  | _ => reject

/-! ## Constructors -/

/-- Leading components of a vector. -/
def resize (size : Nat) (vector : Nat) : BuildM Nat := do
  match ← typeOf vector with
  | .vector given kind =>
    if given < size then reject
    else add (.swizzle vector (List.range size)) (.vector size kind)
  | _ => reject

/-- The components of a vector. -/
def componentsOf (size value : Nat) : BuildM (List Nat) :=
  (List.range size).mapM (addPart value)

/-- The components that a vector is made of, up to its size. -/
def gatherComponents (size : Nat) (kind : Scalar) : List Nat → List Nat → BuildM (List Nat)
  | gathered, [] => return gathered
  | gathered, value :: rest => do
    let value ← convertAlways value kind
    if gathered.length ≥ size then return gathered
    match ← typeOf value with
    | .vector given _ =>
      let parts ← componentsOf given value
      gatherComponents size kind (gathered ++ parts) rest
    | .matrix columns rows =>
      let parts ← (List.range columns).mapM fun index => do
        componentsOf rows (← addPart value index)
      gatherComponents size kind (gathered ++ parts.flatten) rest
    | _ => gatherComponents size kind (gathered ++ [value]) rest

/-- A vector of components taken from values. -/
def constructVector (size : Nat) (kind : Scalar) (values : List Nat) : BuildM Nat := do
  let parts ← gatherComponents size kind [] values
  addCompose (.vector size kind) (parts.take size)

/-- Truth values as numbers: a scalar, or a vector if there are more of them. -/
def constructFromTruth (kind : Scalar) (value : Nat) : BuildM Nat := do
  let size := (← typeOf value).size?.getD 1
  let nought ← addLiteral (.zero kind)
  let unit ← addLiteral (.one kind)
  let rejected ← splatTo size nought
  let accepted ← splatTo size unit
  add (.select value accepted rejected) (Ty.ofSize size kind)

/-- A matrix with a number on its diagonal. -/
def constructDiagonal (columns rows value : Nat) : BuildM Nat := do
  mention (.vector rows .float)
  let nought ← addLiteral (.zero .float)
  let parts ← (List.range columns).mapM fun index =>
    addCompose (.vector rows .float)
      ((List.range rows).map fun r => if r = index then value else nought)
  addCompose (.matrix columns rows) parts

/-- A matrix with the components of another one, and those of the identity where there are none. -/
def constructResized (columns rows columns' rows' value : Nat) : BuildM Nat := do
  let nought ← addLiteral (.zero .float)
  let unit ← addLiteral (.one .float)
  mention (.vector rows .float)
  let identity (index r : Nat) := if r = index then unit else nought
  let parts ← (List.range columns).mapM fun index => do
    if index < columns' then
      let column ← addPart value index
      if rows' < rows then
        let given ← componentsOf rows' column
        addCompose (.vector rows .float)
          (given ++ (List.range' rows' (rows - rows')).map (identity index))
      else if rows' = rows then return column
      else resize rows column
    else addCompose (.vector rows .float) ((List.range rows).map (identity index))
  addCompose (.matrix columns rows) parts

/-- A matrix made of one value. -/
def constructMatrixFromOne (columns rows value : Nat) : BuildM Nat := do
  let value ← convertAlways value .float
  match ← typeOf value with
  | .scalar _ => constructDiagonal columns rows value
  | .matrix columns' rows' => constructResized columns rows columns' rows' value
  | _ => addCompose (.matrix columns rows) (List.replicate columns value)

/-- A constructor's call with one argument. -/
def constructFromOne (target : Ty) (value : Nat) : BuildM Nat := do
  let type ← typeOf value
  match target.kind? with
  | some kind =>
    if type.kind? = some .bool ∧ kind ≠ .bool then constructFromTruth kind value
    else
      match target with
      | .scalar _ => do
        let whole ← match type with
          | .vector _ _ => addPart value 0
          | .matrix _ _ => do addPart (← addPart value 0) 0
          | _ => pure value
        addConversion whole kind
      | .vector size _ =>
        match type with
        | .vector given _ => do
          addConversion (← if given = size then pure value else resize size value) kind
        | .matrix _ _ => do constructVector size kind [← convertAlways value kind]
        | _ => do addSplat size (← convertAlways value kind)
      | .matrix columns rows => constructMatrixFromOne columns rows value
      | _ => reject
  | none =>
    match target with
    | .array element _ _ => do addCompose target [← convertToKindOf element value]
    | .structure index => do
      let entry ← require (← structures)[index]?
      let first ← require entry.members.head?
      addCompose target [← convertToKindOf first.type value]
    | _ => reject

/-- A matrix of numbers and columns, in order. -/
def constructMatrix (columns rows : Nat) (values : List Nat) : BuildM Nat := do
  let parts ← values.mapM fun value => do
    let value ← convertAlways value .float
    match ← typeOf value with
    | .vector size _ => componentsOf size value
    | _ => return [value]
  let flat := parts.flatten
  mention (.vector rows .float)
  if flat.length ≠ columns * rows then reject
  else
    let built ← (List.range columns).mapM fun index =>
      addCompose (.vector rows .float) ((flat.drop (index * rows)).take rows)
    addCompose (.matrix columns rows) built

/-- A constructor's call with any number of arguments but one. -/
def constructFromMany (target : Ty) (values : List Nat) : BuildM Nat := do
  match target with
  | .vector size kind => constructVector size kind values
  | .matrix columns rows => constructMatrix columns rows values
  | .array element _ _ => do addCompose target (← values.mapM (convertToKindOf element))
  | .structure index => do
    let entry ← require (← structures)[index]?
    let parts ← (values.zip entry.members).mapM fun (value, m) => convertToKindOf m.type value
    addCompose target parts
  | _ => reject

/-- A constructor's call. -/
def construct (target : Ty) (values : List Nat) : BuildM Nat :=
  match values with
  | [value] => constructFromOne target value
  | _ => constructFromMany target values

end GlBridge.Essl
