import GlBridge.Essl.Syntax
import GlBridge.Text.Blank

/-!
# Reading shaders

A recursive descent over the lexemes.  Every function that can call itself has a fuel argument,
for which the number of lexemes is enough: each call but a few per lexeme takes one.

* `Parser.expression`, `Parser.statement`, `Parser.declaration` — the parts of a shader;
* `parseShader?` — the declarations of a shader.
-/

namespace GlBridge.Essl

namespace Parser

/-- The words with a meaning of their own, apart from names of types. -/
def keywords : List Text :=
  Text.asciiWords (("layout in out inout uniform const buffer shared restrict readonly writeonly "
    ++ "invariant flat smooth noperspective centroid sample highp mediump lowp precision break "
    ++ "continue return discard if else switch case default while do for void struct true "
    ++ "false").toList)

/-- Whether a word is the name of a type. -/
def isTypeWord (text : Text) : Parser Bool := do
  return (Ty.ofName? text).isSome || (← get).typeNames.contains text

/-- Whether a type comes next. -/
def atType : Parser Bool := do
  match ← peek? with
  | some (.name text) =>
    return text = "void".toList || text = "struct".toList || (← isTypeWord text)
  | _ => return false

/-- A name that can be given to something. -/
def identifier : Parser Text := do
  let text ← name
  if keywords.contains text ∨ (Ty.ofName? text).isSome then fail else return text

/-- The assignment signs with an operator. -/
def assignmentOps : List (Text × BinaryOp) :=
  [("+=".toList, .add), ("-=".toList, .subtract), ("*=".toList, .multiply),
    ("/=".toList, .divide), ("%=".toList, .modulo), ("&=".toList, .bitAnd),
    ("|=".toList, .bitOr), ("^=".toList, .bitXor), ("<<=".toList, .shiftLeft),
    (">>=".toList, .shiftRight)]

/-- The operators of each level, the weakest level first. -/
def levels : List (List (Text × BinaryOp)) :=
  [[("||".toList, .or)], [("^^".toList, .notEqual)], [("&&".toList, .and)],
    [("|".toList, .bitOr)], [("^".toList, .bitXor)], [("&".toList, .bitAnd)],
    [("==".toList, .equal), ("!=".toList, .notEqual)],
    [("<".toList, .less), (">".toList, .greater), ("<=".toList, .lessEqual),
      (">=".toList, .greaterEqual)],
    [("<<".toList, .shiftLeft), (">>".toList, .shiftRight)],
    [("+".toList, .add), ("-".toList, .subtract)],
    [("*".toList, .multiply), ("/".toList, .divide), ("%".toList, .modulo)]]

mutual

/-- An expression, in which a comma leaves only what follows it. -/
def expression : Nat → Parser Expr
  | 0 => fail
  | fuel + 1 => do afterComma fuel (← assignment fuel)

/-- The rest of an expression after a part of it. -/
def afterComma : Nat → Expr → Parser Expr
  | 0, _ => fail
  | fuel + 1, value => do
    if ← acceptSign "," then afterComma fuel (.comma value (← assignment fuel)) else return value

/-- An expression without a comma. -/
def assignment : Nat → Parser Expr
  | 0 => fail
  | fuel + 1 => do
    let target ← unary fuel
    if ← acceptSign "=" then return .assign target (← assignment fuel)
    match ← operator? assignmentOps with
    | some op => return .assign target (.binary op target (← assignment fuel))
    | none => conditional fuel target

/-- An expression without assignments, after its first operand. -/
def conditional : Nat → Expr → Parser Expr
  | 0, _ => fail
  | fuel + 1, first => do
    let condition ← binary fuel levels first
    if ← acceptSign "?" then
      let accepted ← expression fuel
      sign ":"
      return .conditional condition accepted (← assignment fuel)
    else return condition

/-- An expression with operators of the given levels, after its first operand. -/
def binary : Nat → List (List (Text × BinaryOp)) → Expr → Parser Expr
  | 0, _, _ => fail
  | _, [], first => return first
  | fuel + 1, ops :: rest, first => do
    let left ← binary fuel rest first
    let operand : Parser Expr := do binary fuel rest (← unary fuel)
    leftToRight ops operand (fun op a b => return .binary op a b) fuel left

/-- An operand with the operators in front of it. -/
def unary : Nat → Parser Expr
  | 0 => fail
  | fuel + 1 => do
    if ← acceptSign "-" then return .unary .negate (← unary fuel)
    if ← acceptSign "+" then unary fuel
    else if ← acceptSign "!" then return .unary .not (← unary fuel)
    else if ← acceptSign "~" then return .unary .complement (← unary fuel)
    else if ← acceptSign "++" then return .step .add false (← unary fuel)
    else if ← acceptSign "--" then return .step .subtract false (← unary fuel)
    else postfixes fuel (← primary fuel)

/-- What follows an operand. -/
def postfixes : Nat → Expr → Parser Expr
  | 0, _ => fail
  | fuel + 1, base => do
    if ← acceptSign "[" then
      let index ← expression fuel
      sign "]"
      postfixes fuel (.index base index)
    else if ← acceptSign "." then
      let member ← identifier
      if ← acceptSign "(" then postfixes fuel (.method base member (← arguments fuel))
      else postfixes fuel (.field base member)
    else if ← acceptSign "++" then postfixes fuel (.step .add true base)
    else if ← acceptSign "--" then postfixes fuel (.step .subtract true base)
    else return base

/-- A literal, a name, a call, or an expression in parentheses. -/
def primary : Nat → Parser Expr
  | 0 => fail
  | fuel + 1 => do
    let lexeme ← next
    match lexeme with
    | .name text =>
      if text = "true".toList then return .literal (.bool true)
      if text = "false".toList then return .literal (.bool false)
      if ← isTypeWord text then
        let sizes ← lengths fuel
        sign "("
        return .construct text sizes (← arguments fuel)
      else if keywords.contains text then fail
      else if ← acceptSign "(" then return .call text (← arguments fuel)
      else return .name text
    | .sign ['('] =>
      let value ← expression fuel
      sign ")"
      return value
    | _ => return .literal (← StateT.lift lexeme.literal?)

/-- The arguments of a call, and the parenthesis after them. -/
def arguments : Nat → Parser (List Expr)
  | 0 => fail
  | fuel + 1 => do
    if ← acceptSign ")" then return []
    moreArguments fuel

/-- The arguments of a call where there has to be one, and the parenthesis after them. -/
def moreArguments : Nat → Parser (List Expr)
  | 0 => fail
  | fuel + 1 => do
    let value ← assignment fuel
    if ← acceptSign "," then return value :: (← moreArguments fuel)
    sign ")"
    return [value]

/-- The lengths of an array type. -/
def lengths : Nat → Parser Lengths
  | 0 => fail
  | fuel + 1 => do
    if ← acceptSign "[" then
      if ← acceptSign "]" then return none :: (← lengths fuel)
      let length ← conditional fuel (← unary fuel)
      sign "]"
      return some length :: (← lengths fuel)
    else return []

end

/-- How many calls reading an expression can take. -/
def expressionFuel : Parser Nat := do return 32 * (← count) + 32

/-- An expression. -/
def wholeExpression : Parser Expr := do expression (← expressionFuel)

/-- A constant expression: one without assignments and commas. -/
def constantExpression : Parser Expr := do
  let fuel ← expressionFuel
  conditional fuel (← unary fuel)

/-- The lengths of an array type. -/
def arrayLengths : Parser Lengths := do lengths (← expressionFuel)

/-! ## Types -/

mutual

/-- A type, which may be the definition of a structure. -/
def typeForm : Nat → Parser TypeForm
  | 0 => fail
  | fuel + 1 => do
    let text ← name
    if text = "struct".toList then
      let structureName ← identifier
      sign "\x7b"
      let declared ← members fuel
      modify fun remaining =>
        { remaining with typeNames := structureName :: remaining.typeNames }
      return .structure structureName declared (← arrayLengths)
    else if ← isTypeWord text then return .named text (← arrayLengths)
    else fail

/-- The members of a structure or a block, of which there is at least one, and the brace after
them. -/
def members : Nat → Parser Members
  | 0 => fail
  | fuel + 1 => do
    let type ← typeForm fuel
    let names ← memberNames fuel
    if ← acceptSign "\x7d" then return .cons type names .nil
    return .cons type names (← members fuel)

/-- The names of members of one type, and the semicolon after them. -/
def memberNames : Nat → Parser (List (Text × Lengths))
  | 0 => fail
  | fuel + 1 => do
    let text ← identifier
    let sizes ← arrayLengths
    if ← acceptSign "," then return (text, sizes) :: (← memberNames fuel)
    sign ";"
    return [(text, sizes)]

end

/-- A type. -/
def wholeType : Parser TypeForm := do typeForm (← count)

/-! ## Qualifiers -/

/-- Layout arguments, and the parenthesis after them. -/
def layoutArguments : Nat → Parser (List (Text × Option Expr))
  | 0 => fail
  | fuel + 1 => do
    let key ← identifier
    let value ← if ← acceptSign "=" then some <$> constantExpression else pure none
    if ← acceptSign "," then return (key, value) :: (← layoutArguments fuel)
    sign ")"
    return [(key, value)]

/-- A kind of memory, unless another one has been given. -/
def withStorage (storage : Storage) (q : Qualifiers) : Option Qualifiers :=
  if q.storage = .plain then some { q with storage } else none

/-- A kind of interpolation, unless one has been given. -/
def withInterpolation (interpolation : Interpolation) (q : Qualifiers) : Option Qualifiers :=
  if q.interpolation.isNone then some { q with interpolation := some interpolation } else none

/-- A place of interpolation, unless one has been given. -/
def withSampling (sampling : Sampling) (q : Qualifiers) : Option Qualifiers :=
  if q.sampling.isNone then some { q with sampling := some sampling } else none

/-- A precision, unless one has been given. -/
def withPrecision (q : Qualifiers) : Option Qualifiers :=
  if q.precise then none else some { q with precise := true }

/-- The words ahead of a type, each with what it changes. -/
def qualifierWords : List (Text × (Qualifiers → Option Qualifiers)) :=
  [("in".toList, withStorage .input), ("out".toList, withStorage .output),
    ("uniform".toList, withStorage .uniform), ("buffer".toList, withStorage .buffer),
    ("shared".toList, withStorage .shared), ("const".toList, withStorage .const),
    ("smooth".toList, withInterpolation .smooth), ("flat".toList, withInterpolation .flat),
    ("noperspective".toList, withInterpolation .linear),
    ("centroid".toList, withSampling .centroid), ("sample".toList, withSampling .sample),
    ("readonly".toList, fun q => if q.readOnly then none else some { q with readOnly := true }),
    ("writeonly".toList, fun q => if q.writeOnly then none else some { q with writeOnly := true }),
    ("invariant".toList, fun q => if q.invariant then none else some { q with invariant := true }),
    ("highp".toList, withPrecision), ("mediump".toList, withPrecision),
    ("lowp".toList, withPrecision), ("restrict".toList, some)]

/-- Whether a word ahead of a type comes next. -/
def atQualifier : Parser Bool := do
  match ← peek? with
  | some (.name text) => return text = "layout".toList || (qualifierWords.lookup text).isSome
  | _ => return false

/-- The words ahead of a type. -/
def qualifiers : Nat → Qualifiers → Parser Qualifiers
  | 0, _ => fail
  | fuel + 1, q => do
    if ← acceptWord "layout" then
      sign "("
      let arguments ← layoutArguments (← count)
      qualifiers fuel { q with layout := q.layout ++ arguments }
    else
      match ← peek? with
      | some (.name text) =>
        match qualifierWords.lookup text with
        | some change =>
          let _ ← next
          qualifiers fuel (← StateT.lift (change q))
        | none => return q
      | _ => return q

/-- The words ahead of a type. -/
def allQualifiers : Parser Qualifiers := do qualifiers ((← count) + 1) {}

/-! ## Variables -/

mutual

/-- What a variable starts with. -/
def initializer : Nat → Parser Initializer
  | 0 => fail
  | fuel + 1 => do
    if ← acceptSign "\x7b" then return .parts (← initializers fuel)
    else return .value (← assignment (← expressionFuel))

/-- What the parts of a variable start with, of which there is at least one, and the brace after
them. -/
def initializers : Nat → Parser (List Initializer)
  | 0 => fail
  | fuel + 1 => do
    let first ← initializer fuel
    if ← acceptSign "," then
      if ← acceptSign "\x7d" then return [first]
      return first :: (← initializers fuel)
    sign "\x7d"
    return [first]

end

/-- What a variable starts with. -/
def wholeInitializer : Parser Initializer := do initializer ((← count) + 1)

/-- The variables of a declaration, and the semicolon after them. -/
def declarators : Nat → Parser (List Declarator)
  | 0 => fail
  | fuel + 1 => do
    if ← acceptSign ";" then return []
    let text ← identifier
    let sizes ← arrayLengths
    let initial ← if ← acceptSign "=" then some <$> wholeInitializer else pure none
    let declarator : Declarator := { name := text, lengths := sizes, initial }
    if ← acceptSign "," then return declarator :: (← declarators fuel)
    sign ";"
    return [declarator]

/-- The variables of a declaration after its type.  A comma may stand ahead of them. -/
def allDeclarators : Parser (List Declarator) := do
  let _ ← acceptSign ","
  declarators ((← count) + 1)

/-! ## Functions without their bodies -/

/-- The words that say how an argument is passed. -/
def passingWords : List (Text × Passing) :=
  [("in".toList, .input), ("out".toList, .output), ("inout".toList, .both),
    ("const".toList, .const)]

/-- How an argument is passed, if it is said. -/
def passing? : Parser (Option Passing) := do
  match ← peek? with
  | some (.name text) =>
    match passingWords.lookup text with
    | some found =>
      let _ ← next
      return some found
    | none => return none
  | _ => return none

/-- The parameters of a function, and the parenthesis after them.  A last parameter without a name
is not counted. -/
def parameters : Nat → Parser (List Parameter)
  | 0 => fail
  | fuel + 1 => do
    let found ← passing?
    if found.isNone ∧ !(← atType) then
      sign ")"
      return []
    let passing := found.getD .input
    let type ← wholeType
    if ← acceptSign "," then return { passing, type, name := none } :: (← parameters fuel)
    if ← acceptSign ")" then return []
    let text ← identifier
    let parameter : Parameter := { passing, type, name := some text, lengths := ← arrayLengths }
    if ← acceptSign "," then return parameter :: (← parameters fuel)
    sign ")"
    return [parameter]

/-- All parameters of a function, and the parenthesis after them. -/
def allParameters : Parser (List Parameter) := do
  if ← acceptWord "void" then
    sign ")"
    return []
  parameters ((← count) + 1)

/-- A type, or none where nothing is returned. -/
def resultType : Parser (Option TypeForm) := do
  if ← acceptWord "void" then return none else some <$> wholeType

/-- Whether a name and a parenthesis come next. -/
def atHeader : Parser Bool := do
  match (← get).lexemes with
  | .name _ :: .sign ['('] :: _ => return true
  | _ => return false

/-- A function without its body, after its result. -/
def header (result : Option TypeForm) : Parser Header := do
  let text ← identifier
  sign "("
  return { result, name := text, parameters := ← allParameters }

/-! ## Statements -/

/-- A declaration in a function. -/
def localDeclaration : Parser Stmt := do
  let q ← allQualifiers
  let result ← resultType
  if ← atHeader then
    let declared ← header result
    sign ";"
    return .prototype declared
  else
    match result with
    | none => fail
    | some type => return .declare { qualifiers := q, type, declarators := ← allDeclarators }

/-- Whether a declaration comes next, and not the call of a constructor. -/
def atDeclaration : Parser Bool := do
  if ← atQualifier then return true
  else if ← atType then return (← get).lexemes.drop 1 |>.head? |> (· != some (.sign ['(']))
  else return false

/-- The condition of a loop that counts, and the semicolon after it. -/
def loopCondition : Parser LoopCondition := do
  if ← acceptSign ";" then return .always
  if (← atType) || (← atQualifier) then
    let q ← allQualifiers
    let type ← wholeType
    let text ← identifier
    sign "="
    let value ← wholeInitializer
    sign ";"
    return .variable q type text value
  else
    let value ← wholeExpression
    sign ";"
    return .holds value

/-- What a loop that counts starts with, and the semicolon after it. -/
def loopStart : Parser (Option Stmt) := do
  if ← acceptSign ";" then return none
  else if (← atType) || (← atQualifier) then some <$> localDeclaration
  else
    let value ← wholeExpression
    sign ";"
    return some (.expression value)

/-- An expression in parentheses. -/
def inParentheses : Parser Expr := do
  sign "("
  let value ← wholeExpression
  sign ")"
  return value

mutual

/-- A statement. -/
def statement : Nat → Parser Stmt
  | 0 => fail
  | fuel + 1 => do
    if ← atDeclaration then localDeclaration
    else if ← acceptSign ";" then return .nothing
    else if ← acceptSign "\x7b" then return .block (← statements fuel)
    else if ← acceptWord "if" then
      let condition ← inParentheses
      let accepted ← statement fuel
      let rejected ← if ← acceptWord "else" then some <$> statement fuel else pure none
      return .ifElse condition accepted rejected
    else if ← acceptWord "switch" then
      let selector ← inParentheses
      sign "\x7b"
      return .choice selector (← choices fuel)
    else if ← acceptWord "for" then
      sign "("
      let start ← loopStart
      let condition ← loopCondition
      let step ← if ← acceptSign ")" then pure none else
        let value ← wholeExpression
        sign ")"
        pure (some value)
      return .loop start condition step (← statement fuel)
    else if ← acceptWord "while" then
      let condition ← inParentheses
      return .loop none (.holds condition) none (← statement fuel)
    else if ← acceptWord "do" then
      let body ← statement fuel
      word "while"
      let condition ← inParentheses
      return .loopUntil body condition
    else if ← acceptWord "return" then
      if ← acceptSign ";" then return .return none
      let value ← wholeExpression
      sign ";"
      return .return (some value)
    else if ← acceptWord "break" then
      sign ";"
      return .break
    else if ← acceptWord "continue" then
      sign ";"
      return .continue
    else if ← acceptWord "discard" then
      sign ";"
      return .discard
    else
      let value ← wholeExpression
      sign ";"
      return .expression value

/-- Statements, and the brace after them. -/
def statements : Nat → Parser (List Stmt)
  | 0 => fail
  | fuel + 1 => do
    if ← acceptSign "\x7d" then return []
    let first ← statement fuel
    return first :: (← statements fuel)

/-- The cases of a choice, and the brace after them. -/
def choices : Nat → Parser Cases
  | 0 => fail
  | fuel + 1 => do
    if ← acceptSign "\x7d" then return .nil
    let number ← if ← acceptWord "default" then pure none else
      word "case"
      some <$> constantExpression
    sign ":"
    let body ← caseStatements fuel
    return .cons number body (← choices fuel)

/-- The statements of a case. -/
def caseStatements : Nat → Parser (List Stmt)
  | 0 => fail
  | fuel + 1 => do
    if (← atWord "case") || (← atWord "default") || (← atSign "\x7d") then return []
    let first ← statement fuel
    return first :: (← caseStatements fuel)

end

/-! ## Declarations -/

/-- A block after its name and the brace after that. -/
def blockRest (q : Qualifiers) (text : Text) : Parser Decl := do
  let declared ← members (← count)
  if ← acceptSign ";" then return .block q text declared none []
  let instanceName ← identifier
  let sizes ← arrayLengths
  sign ";"
  return .block q text declared (some instanceName) sizes

/-- A declaration that starts with the words ahead of a type or with a type. -/
def qualifiedDeclaration : Parser Decl := do
  let q ← allQualifiers
  if ← atType then
    let result ← resultType
    if ← atHeader then
      let declared ← header result
      if ← acceptSign ";" then return .prototype declared
      sign "\x7b"
      return .function declared (← statements (4 * (← count) + 4))
    else
      match result with
      | none => fail
      | some type => return .globals { qualifiers := q, type, declarators := ← allDeclarators }
  else if ← acceptSign ";" then return .shader q
  else
    let text ← identifier
    if ← acceptSign "\x7b" then blockRest q text
    else
      sign ";"
      return .invariant q text

/-- A declaration. -/
def declaration : Parser Decl := do
  if (← atQualifier) || (← atType) then qualifiedDeclaration
  else if ← acceptWord "precision" then
    let q ← allQualifiers
    if !q.precise then fail
    let type ← wholeType
    sign ";"
    return .precision type
  else
    sign ";"
    return .nothing

/-- All declarations of a shader.  `fuel` bounds their number. -/
def declarations : Nat → Parser (List Decl)
  | 0 => do if (← count) = 0 then return [] else fail
  | fuel + 1 => do
    if (← count) = 0 then return []
    let first ← declaration
    return first :: (← declarations fuel)

end Parser

/-- The declarations of a shader.  Types that the target language has none of are refused. -/
def parseShader? (source : Text) : Option (List Decl) := do
  let lexemes ← lexemesOf? source
  let isForeign : Lexeme → Bool
    | .name text => isForeignType text
    | _ => false
  let _ ← if lexemes.any isForeign then none else some ()
  let (declarations, _) ← (Parser.declarations lexemes.length).run { lexemes }
  return declarations

end GlBridge.Essl
