import GlBridge.Essl.Naming
import GlBridge.Interface.BindingPoint

/-!
# Writing programs

A program in the flat form as a text of the embedded language.  A node that is referred to more than
once is kept in a variable of its own, and so is everything that is read; all other nodes stand
where they are used.

* `Page` — what is needed to write a program;
* `operandText`, `nodeText` — expressions;
* `stepText` — statements;
* `programText` — whole programs.
-/

namespace GlBridge.Essl

open Interface

/-- What is needed to write a program. -/
structure Page where
  program : FlatProgram
  names : Names
  points : BindingPoints

namespace Page

/-- The number of the first node of a function: variables of the shader and constants come before
it. -/
def firstNode (page : Page) : Nat :=
  page.program.globals.length + page.program.constants.length

end Page

/-! ## Types -/

/-- The names of a structure. -/
def structureNames (names : Names) (index : Nat) : StructureNames :=
  (names.structures.lookup index).getD { name := [], members := [] }

/-- A type in writing, without the lengths of arrays. -/
def typeText (names : Names) : Ty → Text
  | .scalar kind => kind.name
  | .vector size kind => kind.lead ++ "vec".toList ++ Text.ofNat size
  | .matrix columns rows =>
    "mat".toList ++ Text.ofNat columns ++ ['x'] ++ Text.ofNat rows
  | .array element _ _ => typeText names element
  | .structure index => (structureNames names index).name
  | .pointer target _ => typeText names target
  | _ => []

/-- The lengths of an array type in writing. -/
def lengthsText : Ty → Text
  | .array element length _ =>
    ['['] ++ (length.elim [] Text.ofNat) ++ [']'] ++ lengthsText element
  | _ => []

/-- The type of a texture in writing.  The embedded language has no textures of one dimension. -/
def imageText (type : ImageType) : Text :=
  let dimension := match type.dimension with
    | .line => "2D".toList
    | .plane => "2D".toList
    | .volume => "3D".toList
    | .cube => "Cube".toList
  "highp ".toList ++ type.kind.lead ++ "sampler".toList ++ dimension
    ++ (if type.isMultisampled then "MS".toList else [])
    ++ (if type.arrayed then "Array".toList else [])
    ++ (if type.isDepth ∧ !type.isMultisampled then "Shadow".toList else [])

/-- Texts in parentheses, after what they are the arguments of. -/
def callText (function : Text) (arguments : List Text) : Text :=
  function ++ ['('] ++ Text.join ", ".toList arguments ++ [')']

/-- The value zero of a type in writing.  `fuel` bounds how deep types are nested. -/
def zeroText (names : Names) (structures : Structures) : Nat → Ty → Text
  | _, .scalar kind => (Literal.zero kind).text
  | _, .vector size kind => callText (typeText names (.vector size kind)) [(Literal.zero kind).text]
  | _, .matrix columns rows =>
    callText (typeText names (.matrix columns rows)) [(Literal.zero .float).text]
  | fuel + 1, .array element (some length) stride =>
    callText (typeText names element ++ lengthsText (.array element (some length) stride))
      (List.replicate length (zeroText names structures fuel element))
  | fuel + 1, .structure index =>
    callText (structureNames names index).name
      (((structures[index]?).elim [] Structure.members).map fun m =>
        zeroText names structures fuel m.type)
  | _, _ => []

/-- The value zero of a type in writing. -/
def Page.zero (page : Page) (type : Ty) : Text :=
  zeroText page.names page.program.structures typeDepthLimit type

/-- A constant in writing, by its value.  `fuel` bounds how deep constants are nested. -/
def constantValueText (page : Page) : Nat → PoolConstant → Text
  | 0, _ => []
  | fuel + 1, constant =>
    match constant.value with
    | .literal value => value.text
    | .null _ => page.zero constant.type
    | .compose parts _ =>
      callText (typeText page.names constant.type ++ lengthsText constant.type)
        (parts.map fun part =>
          match page.names.constants.lookup part with
          | some name => name
          | none => (page.program.constants[part]?).elim [] (constantValueText page fuel))

/-- A constant in writing, by its name if it has one. -/
def Page.constant (page : Page) (index : Nat) : Text :=
  match page.names.constants.lookup index with
  | some name => name
  | none => (page.program.constants[index]?).elim []
      (constantValueText page (page.program.constants.length + 1))

/-- What the generated names of a stage's resources end in. -/
def stageSuffix : Stage → Text
  | .vertex => "vs".toList
  | .fragment => "fs".toList
  | _ => "cs".toList

/-- The name of a variable of the shader. -/
def Page.global (page : Page) (index : Nat) : Text :=
  match (page.program.globals[index]?).bind Variable.key with
  | some (group, binding) =>
    "_group_".toList ++ Text.ofNat group ++ "_binding_".toList ++ Text.ofNat binding ++ ['_']
      ++ stageSuffix page.program.stage
  | none => page.names.globals.getD index []

/-! ## Expressions -/

/-- A function that is being written. -/
structure Scope where
  names : RoutineNames
  values : Array (Value Operand)
  /-- How often each node is referred to. -/
  counts : Array Nat

/-- How often a node has to be referred to for it to be kept in a variable; some never are. -/
def keepingLimit? : Operation Operand → Option Nat
  | .load _ => some 1
  | .sample _ => some 1
  | .fetch _ => some 1
  | .derivative _ _ => some 1
  | .result _ => some 0
  | .part _ _ => none
  | .access _ _ => none
  | .slot _ => none
  | .argument _ => none
  | .constant _ => none
  | _ => some 2

/-- Whether a node is kept in a variable. -/
def Scope.isKept (scope : Scope) (index : Nat) : Bool :=
  (scope.values[index]?).any fun value =>
    !value.type.isPointer
      && (keepingLimit? value.operation).any (· ≤ scope.counts.getD index 0)

/-- The variable that a node is kept in. -/
def Page.kept (page : Page) (index : Nat) : Text :=
  "_e".toList ++ Text.ofNat (page.firstNode + index)

/-- The type of an operand. -/
def Page.typeOf (page : Page) (scope : Scope) (operand : Operand) : Ty :=
  (operandType? page.program.globals.toArray page.program.constants.toArray scope.values
    operand).getD .float

/-- The letters of components. -/
def componentLetters : Text := ['x', 'y', 'z', 'w']

/-- A component after its vector. -/
def componentText (index : Nat) : Text := ['.', componentLetters.getD index 'x']

/-- Texts around a sign, in parentheses. -/
def aroundText (left : Text) (sign : Text) (right : Text) : Text :=
  ['('] ++ left ++ [' '] ++ sign ++ [' '] ++ right ++ [')']

/-- The functions that compare vectors component by component. -/
def comparisonName : BinaryOp → Text
  | .less => "lessThan".toList
  | .lessEqual => "lessThanEqual".toList
  | .greater => "greaterThan".toList
  | .greaterEqual => "greaterThanEqual".toList
  | .equal => "equal".toList
  | _ => "notEqual".toList

/-- An operator on truth values in writing. -/
def truthSign : BinaryOp → Text
  | .bitAnd => "&&".toList
  | .bitOr => "||".toList
  | op => op.sign

/-- An operator in writing, given its operands and their types. -/
def operatorText (names : Names) (op : BinaryOp) (left right : Text) (leftType rightType : Ty) :
    Text :=
  match leftType, rightType with
  | .vector size kind, .vector _ _ =>
    if op.isComparison then callText (comparisonName op) [left, right]
    else if op = .modulo ∧ kind = .float then
      aroundText left ['-'] (right ++ " * ".toList
        ++ callText "trunc".toList [left ++ " / ".toList ++ right])
    else if kind = .bool ∧ (op = .bitAnd ∨ op = .bitOr) then
      callText (typeText names leftType) ((List.range size).map fun index =>
        left ++ componentText index ++ [' '] ++ truthSign op ++ [' '] ++ right
          ++ componentText index)
    else aroundText left op.sign right
  | _, _ =>
    if op = .modulo ∧ (leftType.kind? = some .float ∨ rightType.kind? = some .float) then
      aroundText left ['-'] (right ++ " * ".toList
        ++ callText "trunc".toList [left ++ " / ".toList ++ right])
    else if leftType.kind? = some .bool ∧ rightType.kind? = some .bool then
      aroundText left (truthSign op) right
    else aroundText left op.sign right

/-- A part in writing, given what it is a part of. -/
def partText (names : Names) (base : Text) (type : Ty) (index : Nat) : Text :=
  match type.held with
  | .vector _ _ => base ++ componentText index
  | .structure s => base ++ ['.'] ++ (structureNames names s).members.getD index []
  | _ => base ++ ['['] ++ Text.ofNat index ++ [']']

/-- The function that keeps the bits of a number, if it becomes another kind of number. -/
def bitsFunction? (source target : Scalar) : Option Text :=
  match source, target with
  | .float, .int => some "floatBitsToInt".toList
  | .float, .uint => some "floatBitsToUint".toList
  | .int, .float => some "intBitsToFloat".toList
  | .uint, .float => some "uintBitsToFloat".toList
  | _, _ => none

/-- A conversion in writing, given its operand. -/
def conversionText (names : Names) (operand : Text) (type : Ty) (kind : Scalar) (bits : Bool) :
    Text :=
  let source := type.kind?.getD kind
  if bits ∧ source = kind then operand
  else
    match if bits then bitsFunction? source kind else none with
    | some function => callText function [operand]
    | none => callText (typeText names (type.withKind kind)) [operand]

/-- The names of derivatives in the embedded language. -/
def derivativeName (function : Intrinsic) : Text :=
  if "dFdx".toList.isPrefixOf function then "dFdx".toList
  else if "dFdy".toList.isPrefixOf function then "dFdy".toList
  else "fwidth".toList

/-- The name of a function in the embedded language. -/
def intrinsicName (function : Intrinsic) : Text :=
  if function = "round".toList then "roundEven".toList else function

/-- The functions whose results have a sign, whatever they are given. -/
def signedFunctions : List Text := ["findLSB".toList, "findMSB".toList, "bitCount".toList]

/-- A range of bits in writing. -/
def bitRangeText (start count : Text) : List Text :=
  let width := "32u".toList
  [callText "int".toList [callText "min".toList [start, width]],
    callText "int".toList [callText "min".toList
      [count, width ++ " - ".toList ++ callText "min".toList [start, width]]]]

/-- A call of a function of the language in writing, given the type of the first argument. -/
def intrinsicText (names : Names) (function : Intrinsic) (arguments : List Text) (type : Ty) :
    Text :=
  match arguments with
  | [value, start, count] =>
    if function = "bitfieldExtract".toList then
      callText function (value :: bitRangeText start count)
    else callText (intrinsicName function) arguments
  | [value, inserted, start, count] =>
    if function = "bitfieldInsert".toList then
      callText function (value :: inserted :: bitRangeText start count)
    else callText (intrinsicName function) arguments
  | _ =>
    let call := callText (intrinsicName function) arguments
    if type.kind? = some .uint ∧ signedFunctions.contains function then
      callText (typeText names type) [call]
    else call

/-- Whether a sample of depths at the first level is asked for by rates of change, as there are no
words for it. -/
def isGradient (image : ImageType) (sample : Sample ρ) : Bool :=
  (sample.layer.isSome || image.dimension == .cube) && sample.reference.isSome

/-- The arguments of a sample that give its level of detail, apart from one that moves it. -/
def levelTexts (image : ImageType) (text : Operand → Text) (sample : Sample Operand) :
    List Text :=
  let flat := image.dimension = .line
  let rate (operand : Operand) : Text :=
    if flat then callText "vec2".toList [text operand, "0.0".toList] else text operand
  match sample.level with
  | .first =>
    if isGradient image sample then
      let size := if image.dimension = .cube then 3 else 2
      List.replicate 2 (callText ("vec".toList ++ Text.ofNat size) ["0.0".toList])
    else ["0.0".toList]
  | .exact level => [text level]
  | .gradient x y => [rate x, rate y]
  | _ => []

/-- The function that samples a texture. -/
def sampleName (image : ImageType) (sample : Sample ρ) : Text :=
  let name := match sample.level with
    | .first => if isGradient image sample then "textureGrad".toList else "textureLod".toList
    | .exact _ => "textureLod".toList
    | .gradient _ _ => "textureGrad".toList
    | _ => "texture".toList
  name ++ if sample.offset.isSome then "Offset".toList else []

/-- A sample in writing.  Coordinates, layer and reference depth make one vector as long as there is
room in it. -/
def sampleText (page : Page) (image : ImageType) (text : Operand → Text) (coordinates : Nat)
    (sample : Sample Operand) : Text :=
  let atLayer := coordinates + if sample.layer.isSome then 1 else 0
  let together := sample.reference.isSome && atLayer < 4
  let count := atLayer + if together then 1 else 0
  let flat := image.dimension = .line
  let parts := [text sample.coordinate] ++ (if flat then ["0.0".toList] else [])
    ++ (sample.layer.map text).toList
    ++ (if together then (sample.reference.map text).toList else [])
  let place := if flat ∨ count ≠ 1 then
      callText ("vec".toList ++ Text.ofNat (count + if flat then 1 else 0)) parts
    else Text.join ", ".toList parts
  let offset := sample.offset.map fun index =>
    let moved := page.constant index
    if flat then callText "ivec2".toList [moved, ['0']] else moved
  let bias := match sample.level with
    | .bias value => [text value]
    | _ => []
  callText (sampleName image sample) ([text sample.image, place]
    ++ (if together then [] else (sample.reference.map text).toList)
    ++ levelTexts image text sample ++ offset.toList ++ bias)

/-- A texel in writing. -/
def fetchText (image : ImageType) (text : Operand → Text) (fetch : Fetch Operand) : Text :=
  let flat := image.dimension = .line
  let zero : List Text := if flat then [['0']] else []
  let size := image.dimension.coordinates + (if flat then 1 else 0)
    + if fetch.layer.isSome then 1 else 0
  let parts := text fetch.coordinate :: zero ++ (fetch.layer.map text).toList
  let place := if flat ∨ fetch.layer.isSome then
      callText ("ivec".toList ++ Text.ofNat size) parts
    else text fetch.coordinate
  callText "texelFetch".toList ([text fetch.image, place] ++ (fetch.level.map text).toList)

/-- The size of a texture in writing. -/
def imageSizeText (image : ImageType) (texture : Text) (level : Option Text) : Text :=
  let (type, letters) := match image.dimension with
    | .line => ("uint".toList, ['x'])
    | .volume => ("uvec3".toList, "xyz".toList)
    | _ => ("uvec2".toList, "xy".toList)
  let levels := match level with
    | some level => [level]
    | none => if image.isMultisampled then [] else [['0']]
  callText type [callText "textureSize".toList (texture :: levels) ++ ['.'] ++ letters]

mutual

/-- A node in writing, as the expression that computes it.  `fuel` bounds how deep expressions are
nested. -/
def nodeText (page : Page) (scope : Scope) : Nat → Operation Operand → Ty → Text
  | 0, _, _ => []
  | fuel + 1, operation, type =>
    let text := operandText page scope fuel
    match operation with
    | .literal value => value.text
    | .constant index => page.constant index
    | .global index => page.global index
    | .slot index => scope.names.locals.getD index []
    | .argument index => scope.names.arguments.getD index []
    | .load pointer => text pointer
    | .compose parts => callText (typeText page.names type ++ lengthsText type) (parts.map text)
    | .splat value => callText (typeText page.names type) [text value]
    | .swizzle vector components =>
      text vector ++ ['.'] ++ components.map (componentLetters.getD · 'x')
    | .part base index => partText page.names (text base) (page.typeOf scope base) index
    | .access base index => text base ++ ['['] ++ text index ++ [']']
    | .unary .negate operand => callText ['-'] [text operand]
    | .unary .complement operand => callText ['~'] [text operand]
    | .unary .not operand =>
      callText (if type.size?.isSome then "not".toList else ['!']) [text operand]
    | .binary op left right =>
      operatorText page.names op (text left) (text right) (page.typeOf scope left)
        (page.typeOf scope right)
    | .select condition accepted rejected =>
      if (page.typeOf scope condition).size?.isSome then
        callText "mix".toList [text rejected, text accepted, text condition]
      else ['('] ++ text condition ++ " ? ".toList ++ text accepted ++ " : ".toList
        ++ text rejected ++ [')']
    | .convert operand kind bits =>
      conversionText page.names (text operand) (page.typeOf scope operand) kind bits
    | .intrinsic function arguments =>
      intrinsicText page.names function (arguments.map text)
        ((arguments.head?.map (page.typeOf scope)).getD .float)
    | .derivative function operand => callText (derivativeName function) [text operand]
    | .sample sample =>
      match page.typeOf scope sample.image with
      | .image image =>
        sampleText page image text ((page.typeOf scope sample.coordinate).size?.getD 1) sample
      | _ => []
    | .fetch fetch =>
      match page.typeOf scope fetch.image with
      | .image image => fetchText image text fetch
      | _ => []
    | .imageSize image level =>
      match page.typeOf scope image with
      | .image type => imageSizeText type (text image) (level.map (levelText page scope fuel))
      | _ => []
    | .arrayLength pointer => callText "uint".toList [text pointer ++ ".length()".toList]
    | _ => []

/-- The level of a texture in writing, as a number with a sign. -/
def levelText (page : Page) (scope : Scope) : Nat → Operand → Text
  | 0, _ => []
  | fuel + 1, operand =>
    let level := operandText page scope fuel operand
    if page.typeOf scope operand = .scalar .uint then callText "int".toList [level] else level

/-- An operand in writing. -/
def operandText (page : Page) (scope : Scope) : Nat → Operand → Text
  | 0, _ => []
  | _, .global index => page.global index
  | _, .constant index => page.constant index
  | fuel + 1, .node index =>
    if scope.isKept index then page.kept index
    else
      match scope.values[index]? with
      | some value => nodeText page scope fuel value.operation value.type
      | none => []

end

/-- An operand in writing. -/
def Page.operand (page : Page) (scope : Scope) (operand : Operand) : Text :=
  operandText page scope (2 * scope.values.size + 2) operand

/-! ## Statements -/

/-- The blanks ahead of a line. -/
def indent (level : Nat) : Text := List.replicate (4 * level) ' '

/-- A line. -/
def lineText (level : Nat) (text : Text) : Text := indent level ++ text ++ ['\n']

/-- A variable with what it starts with. -/
def bindingText (names : Names) (type : Ty) (name value : Text) : Text :=
  typeText names type ++ [' '] ++ name ++ lengthsText type ++ " = ".toList ++ value ++ [';']

/-- The place where a node is computed: a variable, if it is kept in one. -/
def computeText (page : Page) (scope : Scope) (level : Nat) (operand : Operand) : Text :=
  match operand with
  | .node index =>
    match scope.values[index]? with
    | some value =>
      if scope.isKept index then
        lineText level (bindingText page.names value.type (page.kept index)
          (nodeText page scope (2 * scope.values.size + 2) value.operation value.type))
      else []
    | none => []
  | _ => []

/-- A call of a function in writing. -/
def routineCallText (page : Page) (scope : Scope) (routine : Nat) (arguments : List Operand)
    (result : Option Operand) : Text :=
  let name := ((page.names.routines.lookup routine).map RoutineNames.name).getD []
  let handles := arguments.filter fun a => !(page.typeOf scope a).isSampler
  let call := callText name (handles.map (page.operand scope))
  match result with
  | some (.node index) =>
    bindingText page.names (page.typeOf scope (.node index)) (page.kept index) call
  | _ => call ++ [';']

/-- The start of a case in writing. -/
def caseText (level : Nat) (number : Option Literal) (braced : Bool) : Text :=
  let label := match number with
    | some literal => "case ".toList ++ literal.text
    | none => "default".toList
  lineText level (label ++ [':'] ++ if braced then " \x7b".toList else [])

mutual

/-- A statement in writing.  Loops take names for the variables that tell their first round. -/
def stepText (page : Page) (scope : Scope) (level : Nat) : Step Operand → StateM Namer Text
  | .compute operand => return computeText page scope level operand
  | .store pointer value =>
    return lineText level
      (page.operand scope pointer ++ " = ".toList ++ page.operand scope value ++ [';'])
  | .call routine arguments result =>
    return lineText level (routineCallText page scope routine arguments result)
  | .ifElse condition accepted rejected => do
    let first ← stepsText page scope (level + 1) accepted
    let second ← stepsText page scope (level + 1) rejected
    let otherwise :=
      if rejected.isEmpty then [] else lineText level "\x7d else \x7b".toList ++ second
    return lineText level ("if (".toList ++ page.operand scope condition ++ ") \x7b".toList)
      ++ first ++ otherwise ++ lineText level ['}']
  | .block steps => stepsText page scope level steps
  | .choice selector cases => do
    let text ← casesText page scope (level + 1) cases
    return lineText level ("switch(".toList ++ page.operand scope selector ++ ") \x7b".toList)
      ++ text ++ lineText level ['}']
  | .loop body continuing => do
    if continuing.isEmpty then
      let text ← stepsText page scope (level + 1) body
      return lineText level "while(true) \x7b".toList ++ text ++ lineText level ['}']
    else
      let gate ← claimName "loop_init".toList
      let between ← stepsText page scope (level + 2) continuing
      let text ← stepsText page scope (level + 1) body
      return lineText level ("bool ".toList ++ gate ++ " = true;".toList)
        ++ lineText level "while(true) \x7b".toList
        ++ lineText (level + 1) ("if (!".toList ++ gate ++ ") \x7b".toList)
        ++ between ++ lineText (level + 1) ['}']
        ++ lineText (level + 1) (gate ++ " = false;".toList)
        ++ text ++ lineText level ['}']
  | .return none => return lineText level "return;".toList
  | .return (some value) =>
    return lineText level ("return ".toList ++ page.operand scope value ++ [';'])
  | .break => return lineText level "break;".toList
  | .continue => return lineText level "continue;".toList
  | .discard => return lineText level "discard;".toList

/-- The cases of a choice in writing. -/
def casesText (page : Page) (scope : Scope) (level : Nat) :
    Choices Operand → StateM Namer Text
  | .nil => return []
  | .cons number steps fallsThrough rest => do
    let braced := !(fallsThrough && steps.isEmpty)
    let text ← stepsText page scope (level + 1) steps
    let ending := if !fallsThrough && !steps.getLast?.any Step.isFinal then
        lineText (level + 1) "break;".toList
      else []
    let more ← casesText page scope level rest
    return caseText level number braced ++ text ++ ending
      ++ (if braced then lineText level ['}'] else []) ++ more

/-- Statements in writing. -/
def stepsText (page : Page) (scope : Scope) (level : Nat) : List (Step Operand) → StateM Namer Text
  | [] => return []
  | step :: rest => do
    let first ← stepText page scope level step
    return first ++ (← stepsText page scope level rest)

end

/-! ## Functions -/

/-- A parameter in writing; samplers are part of their textures. -/
def parameterText (page : Page) (argument : Argument) (name : Text) : Option Text :=
  match argument.type with
  | .sampler _ => none
  | .image type => some (imageText type ++ [' '] ++ name)
  | .pointer type _ =>
    some ("inout ".toList ++ typeText page.names type ++ [' '] ++ name ++ lengthsText type)
  | type => some (typeText page.names type ++ [' '] ++ name ++ lengthsText type)

/-- A function in writing. -/
def routineText (page : Page) (index : Nat) (routine : Routine Operand) : StateM Namer Text := do
  let names :=
    (page.names.routines.lookup index).getD { name := [], arguments := [], locals := [] }
  let values := routine.values.toArray
  let scope : Scope :=
    { names, values
      counts := tally values.size (routine.references.filterMap Operand.node?) }
  let result := routine.result.elim "void".toList fun type =>
    typeText page.names type ++ lengthsText type
  let parameters := (routine.arguments.zip names.arguments).filterMap fun (argument, name) =>
    parameterText page argument name
  let locals := (routine.locals.zip names.locals).flatMap fun (v, name) =>
    lineText 1 (bindingText page.names v.type name (v.initial.elim [] (page.operand scope)))
  let body ← stepsText page scope 1 routine.body
  return callText (result ++ [' '] ++ name names) parameters ++ " \x7b\n".toList
    ++ locals ++ body ++ "\x7d\n".toList
where
  /-- The name of the function. -/
  name (names : RoutineNames) : Text := names.name

/-! ## Variables of the shader -/

/-- The members of a structure in writing, in braces. -/
def membersText (page : Page) (index : Nat) : Text :=
  let names := structureNames page.names index
  let members := ((page.program.structures[index]?).elim [] Structure.members).zip names.members
  let lines := members.flatMap fun (m, name) =>
    lineText 1 (typeText page.names m.type ++ [' '] ++ name ++ lengthsText m.type ++ [';'])
  "\x7b\n".toList ++ lines ++ ['}']

/-- The structures in writing, but for those that are parts of blocks alone. -/
def structuresText (page : Page) : Text :=
  page.program.types.flatMap fun type =>
    match type with
    | .structure index =>
      if (page.program.structures[index]?).any Structure.endsUnsized then []
      else "struct ".toList ++ typeText page.names type ++ [' '] ++ membersText page index
        ++ ";\n".toList
    | _ => []

/-- The constants with names in writing. -/
def constantsText (page : Page) : Text :=
  let lines := page.names.constants.map fun (index, name) =>
    match page.program.constants[index]? with
    | some constant =>
      lineText 0 ("const ".toList ++ bindingText page.names constant.type name
        (constantValueText page (page.program.constants.length + 1) constant))
    | none => []
  if lines.isEmpty then [] else lines.flatten ++ ['\n']

/-- The name of a stage in the names of blocks. -/
def stageTitle : Stage → Text
  | .vertex => "Vertex".toList
  | .fragment => "Fragment".toList
  | _ => "Compute".toList

/-- A layout with the binding point of a resource, if it has one. -/
def layoutText (page : Page) (rules : Text) (v : Variable) : Text :=
  match v.key.bind fun key => page.points.lookup key with
  | some point => "layout(".toList ++ (if rules = [] then [] else rules ++ ", ".toList)
      ++ "binding = ".toList ++ Text.ofNat point ++ ") ".toList
  | none => if rules = "std430".toList then "layout(std430) ".toList else []

/-- A block in writing.  `number` counts the blocks ahead of it. -/
def blockText (page : Page) (number index : Nat) (v : Variable) : Text :=
  let type := typeText page.names v.type
  let title := Text.trimEndWhile (· == '_') type ++ "_block_".toList ++ Text.ofNat number
    ++ stageTitle page.program.stage
  let body := match v.type with
    | .structure s =>
      if (page.program.structures[s]?).any Structure.endsUnsized then
        membersText page s ++ [' '] ++ page.global index
      else "\x7b ".toList ++ type ++ [' '] ++ page.global index ++ "; \x7d".toList
    | _ => []
  let lead := match v.space with
    | .storage readable writable =>
      layoutText page "std430".toList v ++ (if writable then [] else "readonly ".toList)
        ++ (if readable then [] else "writeonly ".toList) ++ "buffer ".toList
    | _ => layoutText page "std140".toList v ++ "uniform ".toList
  lead ++ title ++ [' '] ++ body ++ ";\n\n".toList

/-- What an output that the language defines starts with, if it is not zero. -/
def outputStart? (channel : Channel) : Option Text :=
  if channel.binding.builtin? = some "gl_Position".toList then
    some "vec4(0.0, 0.0, 0.0, 1.0)".toList
  else if channel.binding.builtin? = some "gl_PointSize".toList then some "1.0".toList
  else none

/-- A variable that functions share, in writing. -/
def plainText (page : Page) (index : Nat) (v : Variable) : Text :=
  let start := match (page.program.outputs.find? (·.global == index)).bind outputStart? with
    | some text => text
    | none => v.initial.elim (page.zero v.type) page.constant
  bindingText page.names v.type (page.global index) start ++ "\n\n".toList

/-- A variable of the shader in writing, and the number of blocks so far. -/
def globalText (page : Page) (number index : Nat) (v : Variable) : Text × Nat :=
  match v.space, v.type with
  | .handle, .image type =>
    (layoutText page [] v ++ "uniform ".toList ++ imageText type ++ [' '] ++ page.global index
      ++ ";\n\n".toList, number)
  | .handle, _ => ([], number)
  | .uniform, _ => (blockText page number index v, number + 1)
  | .storage _ _, _ => (blockText page number index v, number + 1)
  | _, _ => (plainText page index v, number)

/-! ## Use of variables -/

/-- The variable of the shader that an operand is a pointer into, or that it is. -/
def flatRoot (values : Array (Value Operand)) : Nat → Operand → Option Nat
  | _, .global index => some index
  | fuel + 1, .node index =>
    match (values[index]?).map Value.operation with
    | some (.part base _) => flatRoot values fuel base
    | some (.access base _) => flatRoot values fuel base
    | _ => none
  | _, _ => none

/-- The variables of the shader that a function uses, given those that others use. -/
def flatUses (others : List (Nat × List Nat)) (routine : Routine Operand) : List Nat :=
  let values := routine.values.toArray
  let references := (routine.values.flatMap fun value => value.operation.uses)
    ++ stepsReferences routine.body
  references.filterMap (flatRoot values values.size)
    ++ (stepsCalls routine.body).flatMap fun index => (others.lookup index).getD []

/-- The variables that each function uses, in the order in which functions are written. -/
def flatUsesOfAll (program : FlatProgram) (order : List Nat) : List (Nat × List Nat) :=
  order.foldl (fun uses index =>
    uses ++ [(index, (program.routines[index]?).elim [] (flatUses uses))]) []

/-! ## Whole programs -/

/-- The variables in writing that are used. -/
def globalsText (page : Page) (used : List Nat) : Text :=
  let (text, _) := page.program.globals.zipIdx.foldl (fun (text, number) (v, index) =>
    if used.contains index then
      let (more, number) := globalText page number index v
      (text ++ more, number)
    else (text, number)) ((([] : Text), 0))
  text

/-- The inputs of the language that have a sign, unlike the variables they are kept in. -/
def countedNames : List Text :=
  ["gl_PrimitiveID".toList, "gl_BaseVertex".toList, "gl_BaseInstance".toList]

/-- The name of an input or an output in the embedded language. -/
def channelName (stage : Stage) (channel : Channel) : Text :=
  match channel.binding with
  | .location location _ _ =>
    let lead := match stage, channel.isInput with
      | .vertex, true => "_p2vs".toList
      | .fragment, false => "_fs2p".toList
      | _, _ => "_vs2fs".toList
    lead ++ "_location".toList ++ Text.ofNat location
  | .builtin name _ =>
    if name = "gl_VertexIndex".toList then "uint(gl_VertexID)".toList
    else if name = "gl_InstanceIndex".toList then
      "(uint(gl_InstanceID) + naga_vs_first_instance)".toList
    else if countedNames.contains name then callText "uint".toList [name]
    else name

/-- An interpolation in writing. -/
def interpolationText : Interpolation → Text
  | .smooth => "smooth ".toList
  | .linear => "noperspective ".toList
  | .flat => "flat ".toList

/-- Where within a pixel a value is interpolated, in writing. -/
def samplingText : Sampling → Text
  | .centroid => "centroid ".toList
  | .sample => "sample ".toList

/-- The declaration of an input or an output, if it is not one that the language defines. -/
def channelText (page : Page) (channel : Channel) : Text :=
  match channel.binding with
  | .location location interpolation sampling =>
    let between := (page.program.stage == .vertex) != channel.isInput
    let words := if between then
        interpolation.elim [] interpolationText ++ sampling.elim [] samplingText
      else []
    lineText 0 ("layout(location = ".toList ++ Text.ofNat location ++ ") ".toList ++ words
      ++ (if channel.isInput then "in ".toList else "out ".toList)
      ++ typeText page.names channel.type ++ [' '] ++ channelName page.program.stage channel
      ++ [';'])
  | .builtin name true => lineText 0 ("invariant ".toList ++ name ++ [';'])
  | .builtin _ false => []

/-- What the main function ends with: the outputs are set from the variables that keep them. -/
def returnText (page : Page) (loads : List Text) : Text :=
  let stage := page.program.stage
  match page.program.outputs with
  | [] => []
  | [channel] =>
    loads.flatMap (fun load =>
        lineText 1 (channelName stage channel ++ " = ".toList ++ load ++ [';']))
      ++ lineText 1 "return;".toList
  | channels =>
    let names := structureNames page.names (page.program.structures.length - 1)
    lineText 1 (names.name ++ " _tmp_return = ".toList ++ callText names.name loads ++ [';'])
      ++ (channels.zip names.members).flatMap (fun (channel, member) =>
        lineText 1 (channelName stage channel ++ " = _tmp_return.".toList ++ member ++ [';']))
      ++ lineText 1 "return;".toList

/-- The main function in writing: it fills the variables that keep the inputs, calls the routine
around the source's main function, and sets the outputs. -/
def mainText (page : Page) : Text :=
  let inputs := page.program.inputs.zip page.names.inputs
  let first := 2 * inputs.length + page.program.outputs.length
  let entry := ((page.names.routines.lookup page.program.routines.length).map
    RoutineNames.name).getD []
  let loads := page.program.outputs.zipIdx.map fun (channel, index) =>
    (channel, "_e".toList ++ Text.ofNat (first + index))
  "void main() \x7b\n".toList
    ++ inputs.flatMap (fun (channel, name) =>
      lineText 1
        (bindingText page.names channel.type name (channelName page.program.stage channel)))
    ++ inputs.flatMap (fun (channel, name) =>
      lineText 1 (page.global channel.global ++ " = ".toList ++ name ++ [';']))
    ++ lineText 1 (entry ++ "();".toList)
    ++ loads.flatMap (fun (channel, name) =>
      lineText 1 (bindingText page.names channel.type name (page.global channel.global)))
    ++ returnText page (loads.map Prod.snd) ++ "\x7d\n\n".toList

/-- The size of a work group in writing. -/
def groupSizeText (program : FlatProgram) : Text :=
  if program.stage = .compute then
    let size (key : String) : Text :=
      Text.ofNat ((program.groupSize.reverse.lookup key.toList).getD 1)
    "layout(local_size_x = ".toList ++ size "local_size_x" ++ ", local_size_y = ".toList
      ++ size "local_size_y" ++ ", local_size_z = ".toList ++ size "local_size_z"
      ++ ") in;\n\n".toList
  else []

/-- The program with a structure for what the main function returns, if that is more than one
output. -/
def withReturnType (program : FlatProgram) : FlatProgram :=
  if program.outputs.length < 2 then program
  else
    let members := program.outputs.map fun channel =>
      { name := none, type := channel.type : Member }
    { program with
      structures := program.structures ++ [{ name := none, members }]
      types := program.types ++ [.structure program.structures.length] }

/-- Whether a sample needs an extension. -/
def Sample.isExtended (image : ImageType) (sample : Sample ρ) : Bool :=
  let layered := image.arrayed && image.dimension == .plane
  let cubes := image.arrayed && image.dimension == .cube
  image.isDepth
    && ((layered && sample.offset.isSome && sample.level.isAutomatic)
      || (cubes && sample.level.isFirst))

/-- Whether an operation needs an extension for samples of depths. -/
def needsDepthLevels (program : FlatProgram) (operation : Operation Operand) : Bool :=
  match operation with
  | .sample sample =>
    match sample.image with
    | .global index =>
      match (program.globals[index]?).map Variable.type with
      | some (.image image) => sample.isExtended image
      | _ => false
    | _ => false
  | _ => false

/-- The extensions that a program needs. -/
def extensionsOf (program : FlatProgram) : List Text :=
  let images := program.types.filterMap fun type =>
    match type with
    | .image image => some image
    | _ => none
  let cubes := images.any fun image => image.arrayed && image.dimension == .cube
  let several := images.any fun image => image.arrayed && image.isMultisampled
  let samples := program.inputs.any fun channel =>
    channel.binding.builtin? == some "gl_SampleID".toList
  let levels := (program.entry :: program.routines).any fun routine =>
    routine.values.any fun value => needsDepthLevels program value.operation
  (if cubes then ["GL_EXT_texture_cube_map_array".toList] else [])
    ++ (if several then ["GL_OES_texture_storage_multisample_2d_array".toList] else [])
    ++ (if samples then ["GL_OES_sample_variables".toList] else [])
    ++ (if levels then ["GL_EXT_texture_shadow_lod".toList] else [])

/-- What stands ahead of everything else in a program. -/
def headText (program : FlatProgram) : Text :=
  "#version 320 es
".toList
    ++ (extensionsOf program).flatMap (fun name =>
      lineText 0 ("#extension ".toList ++ name ++ " : require".toList))
    ++ "
precision highp float;
precision highp int;

".toList
    ++ groupSizeText program
    ++ (if program.earlyTests then "layout(early_fragment_tests) in;
".toList else [])
    ++ (if program.inputs.any (·.binding.builtin? == some "gl_InstanceIndex".toList) then
      "uniform uint naga_vs_first_instance;

".toList else [])

/-- A program in writing. -/
def programText (points : BindingPoints) (source : FlatProgram) : Text :=
  let program := withReturnType source
  let order := writingOrder program
  let (names, namer) := (nameAll program order).run []
  let page : Page := { program, names, points }
  let uses := flatUsesOfAll program order
  let channels := (program.inputs ++ program.outputs).map Channel.global
  let used := flatUses uses program.entry ++ channels
  let written := order.filter fun index => ((uses.lookup index).getD []).all used.contains
  let routines := written.filterMap fun index => (program.routines[index]?).map (index, ·)
  let (texts, _) := ((routines ++ [(program.routines.length, program.entry)]).mapM
    fun (index, routine) => routineText page index routine).run namer
  headText program ++ structuresText page ++ constantsText page ++ globalsText page used
    ++ (program.inputs ++ program.outputs).flatMap (channelText page) ++ ['\n']
    ++ texts.flatMap (· ++ ['\n']) ++ mainText page

end GlBridge.Essl
