import GlBridge.Essl.Declaration

/-!
# Statements

A statement becomes steps.  A loop is left from inside its body, so a condition turns into a step
that leaves the loop unless the condition holds.  What cannot be reached is left out.

* `declareLocals`, `addCase`, `addLoop` — declarations, choices and loops;
* `lowerStatement` — a statement as steps;
* `closeBody` — the steps of a function, ended where its end can be reached;
* `isPlaced` — whether loops and choices are only left from inside.
-/

namespace GlBridge.Essl

/-- The truth value of a condition. -/
def evaluateCondition (condition : Expr) : BuildM Nat := do
  let value ← evaluate condition
  if (← typeOf value) = .scalar .bool then return value else reject

/-! ## Variables -/

/-- What is said ahead of the type of a variable of a function. -/
def resolveLocal (q : Qualifiers) : BuildM Marks := do
  if q.storage = .plain ∨ q.storage = .const then q.resolve else reject

/-- A variable of the function.  It starts with its initial value if that is a constant and the
variable is made only once; otherwise the value is stored. -/
def declareLocal (constant : Bool) (name : Text) (type : Ty) (initial : Option Nat) :
    BuildM Unit := do
  if !isConstructible (← structures) type then reject
  let fromStart ← initial.elim (return false) fun value => do
    return (← isConstant value) && !(← get).function.inLoop
  if fromStart then
    if (← initial.mapM typeOf) ≠ some type then reject
  let place ← addVariable (some name) type (if fromStart then initial else none)
  bindNew name { value := place, isPlace := true, writable := !constant }
  if !fromStart then initial.forM fun value => storeInto place value

/-- Variables of one type, the lengths of each of which count for all after it. -/
def declareLocals (constant : Bool) : Ty → List Declarator → BuildM Unit
  | _, [] => return ()
  | type, declarator :: rest => do
    let type ← prepareLengths type declarator.lengths
    let initial ← declarator.initial.mapM (lowerInitializer type)
    declareLocal constant declarator.name type initial
    declareLocals constant type rest

/-- A declaration in a function. -/
def declareInFunction (declaration : Declaration) : BuildM Unit := do
  let marks ← declaration.qualifiers.resolve
  let type ← resolveForm declaration.type
  if !declaration.declarators.isEmpty then
    let storage := declaration.qualifiers.storage
    if storage ≠ .plain ∧ storage ≠ .const then reject
    marks.finish
    declareLocals (storage = .const) type declaration.declarators

/-! ## Choices -/

/-- The number of a case, as a number of the kind that is chosen by. -/
def evaluateCase (unsigned : Bool) (number : Expr) : BuildM Literal := do
  let index ← outside (evaluate number)
  let value ← require (← get).shader.pool[index]?
  match value.operation with
  | .literal (.int n) =>
    if unsigned then return .uint (if n < 0 then (4294967296 + n).toNat else n.toNat)
    else return .int n
  | .literal (.uint n) => return .uint n
  | _ => reject

/-- A case with the steps it has come to.  A step at its end that leaves the choice is left out; the
next case comes after it if there is no such step. -/
def caseOf (number : Option Literal) (steps : List (Step Nat)) :
    Option Literal × List (Step Nat) × Bool :=
  match steps.getLast? with
  | some .break => (number, steps.dropLast, false)
  | _ => (number, steps, true)

/-- The last case, after which no other one comes. -/
def endCases (cases : List (Option Literal × List (Step Nat) × Bool)) :
    List (Option Literal × List (Step Nat) × Bool) :=
  match cases.getLast? with
  | some (number, steps, _) => cases.dropLast ++ [(number, steps, false)]
  | none => []

/-- Whether the numbers of cases are of the kind that is chosen by, each there only once. -/
def areCases (kind : Scalar) (cases : List (Option Literal × List (Step Nat) × Bool)) : Bool :=
  let numbers := cases.map Prod.fst
  numbers.Nodup && numbers.all fun number => number.all (·.kind == kind)

/-- A choice by number, given its cases.  What is left over gets a case of its own. -/
def addChoice (selector : Nat) (cases : List (Option Literal × List (Step Nat) × Bool)) :
    BuildM Unit := do
  let last := cases.getLast?
  if last.any fun (_, steps, fallsThrough) => steps.isEmpty && fallsThrough then reject
  let ended := endCases cases
  let whole := if ended.any (·.1.isNone) then ended else ended ++ [(none, [], false)]
  match ← typeOf selector with
  | .scalar kind =>
    if (kind = .int ∨ kind = .uint) ∧ areCases kind whole then
      push (.choice selector (Choices.ofList whole))
    else reject
  | _ => reject

/-! ## Loops -/

/-- Leaving the loop unless a condition holds. -/
def leaveUnless (condition : Nat) : BuildM Unit := do
  if (← typeOf condition) ≠ .scalar .bool then reject
  push (.ifElse (← addUnary .not condition) [.break] [])

/-- Being inside a loop from now on. -/
def enterLoop : BuildM Unit := modifyFunction ({ · with inLoop := true })

/-- What a loop does ahead of each round. -/
def addLoopCondition : LoopCondition → BuildM Unit
  | .always => return ()
  | .holds condition => do leaveUnless (← evaluate condition)
  | .variable q type name value => do
    let marks ← resolveLocal q
    let type ← resolveForm type
    let value ← lowerInitializer type value
    if !isConstructible (← structures) type then reject
    let place ← addVariable (some name) type none
    bindNew name { value := place, isPlace := true, writable := q.storage ≠ .const }
    marks.finish
    storeInto place value
    leaveUnless value

/-- A loop, given what its body does. -/
def addLoop (condition : LoopCondition) (step : Option Expr) (body : BuildM Unit) :
    BuildM Unit := do
  let ((), head) ← inBranch (addLoopCondition condition)
  let ((), continuing) ← inBranch (step.forM carryOut)
  let ((), steps) ← continueBranch head (do
    enterLoop
    body)
  push (.loop steps continuing)

/-! ## Statements -/

mutual

/-- A statement as steps. -/
def lowerStatement : Stmt → BuildM Unit
  | .declare declaration => declareInFunction declaration
  | .prototype header => declarePrototype header
  | .expression value => carryOut value
  | .nothing => return ()
  | .block statements => do
    let ((), steps) ← inBranch (inScope (lowerStatements statements))
    push (.block steps)
  | .ifElse condition accepted none => do
    let condition ← evaluateCondition condition
    let ((), steps) ← inBranch (lowerStatement accepted)
    push (.ifElse condition steps [])
  | .ifElse condition accepted (some rejected) => do
    let condition ← evaluateCondition condition
    let ((), acceptedSteps) ← inBranch (lowerStatement accepted)
    let ((), rejectedSteps) ← inBranch (lowerStatement rejected)
    push (.ifElse condition acceptedSteps rejectedSteps)
  | .choice selector cases => do
    let selector ← evaluate selector
    let unsigned := (← typeOf selector).kind? = some .uint
    addChoice selector (← lowerCases unsigned cases)
  | .loop none condition step body => inScope (addLoop condition step (lowerStatement body))
  | .loop (some start) condition step body => inScope do
    lowerStatement start
    addLoop condition step (lowerStatement body)
  | .loopUntil body condition => do
    let ((), steps) ← inBranch do
      enterLoop
      lowerStatement body
      leaveUnless (← evaluate condition)
    push (.loop steps [])
  | .return none => push (.return none)
  | .return (some value) => do push (.return (some (← evaluate value)))
  | .break => push .break
  | .continue => push .continue
  | .discard => push .discard

/-- Statements as steps. -/
def lowerStatements : List Stmt → BuildM Unit
  | [] => return ()
  | statement :: rest => do
    lowerStatement statement
    lowerStatements rest

/-- The cases of a choice with the steps they have come to. -/
def lowerCases (unsigned : Bool) :
    Cases → BuildM (List (Option Literal × List (Step Nat) × Bool))
  | .nil => return []
  | .cons number statements rest => do
    let number ← number.mapM (evaluateCase unsigned)
    let ((), steps) ← inBranch (lowerStatements statements)
    return caseOf number steps :: (← lowerCases unsigned rest)

end

/-! ## Ends of functions -/

/-- Whether a step can be the last one of a function only if nothing is returned. -/
def Step.wantsReturn : Step ρ → Bool
  | .store _ _ => true
  | .call _ _ _ => true
  | .loop _ _ => true
  | _ => false

mutual

/-- The last step of a function, with a return after it if its end can be reached. -/
def closeStep : Step ρ → List (Step ρ)
  | .block steps => [.block (closeBody steps)]
  | .ifElse condition accepted rejected =>
    [.ifElse condition (closeBody accepted) (closeBody rejected)]
  | .choice selector cases => [.choice selector (closeCases cases)]
  | step => if step.wantsReturn then [step, .return none] else [step]

/-- The cases of a choice at the end of a function, those after which no other one comes ended like
functions. -/
def closeCases : Choices ρ → Choices ρ
  | .nil => .nil
  | .cons number steps true rest => .cons number steps true (closeCases rest)
  | .cons number steps false rest => .cons number (closeBody steps) false (closeCases rest)

/-- The steps of a function, with returns where its end can be reached. -/
def closeBody : List (Step ρ) → List (Step ρ)
  | [] => [.return none]
  | [step] => closeStep step
  | step :: rest => step :: closeBody rest

end

mutual

/-- What a step returns. -/
def Step.returns : Step ρ → List (Option ρ)
  | .return value => [value]
  | .block steps => stepsReturns steps
  | .ifElse _ accepted rejected => stepsReturns accepted ++ stepsReturns rejected
  | .choice _ cases => cases.returns
  | .loop body continuing => stepsReturns body ++ stepsReturns continuing
  | _ => []

/-- What the cases of a choice return. -/
def Choices.returns : Choices ρ → List (Option ρ)
  | .nil => []
  | .cons _ steps _ rest => stepsReturns steps ++ rest.returns

/-- What steps return. -/
def stepsReturns : List (Step ρ) → List (Option ρ)
  | [] => []
  | step :: steps => step.returns ++ stepsReturns steps

end

mutual

/-- Whether loops and choices are only left from inside.  `leaves` says that there is a loop or a
choice around the step, `repeats` that there is a loop. -/
def Step.isPlaced (leaves repeats : Bool) : Step ρ → Bool
  | .break => leaves
  | .continue => repeats
  | .block steps => arePlaced leaves repeats steps
  | .ifElse _ accepted rejected =>
    arePlaced leaves repeats accepted && arePlaced leaves repeats rejected
  | .choice _ cases => cases.isPlaced repeats
  | .loop body continuing => arePlaced true true body && arePlaced false false continuing
  | _ => true

/-- The same for the cases of a choice. -/
def Choices.isPlaced (repeats : Bool) : Choices ρ → Bool
  | .nil => true
  | .cons _ steps _ rest => arePlaced true repeats steps && rest.isPlaced repeats

/-- The same for steps. -/
def arePlaced (leaves repeats : Bool) : List (Step ρ) → Bool
  | [] => true
  | step :: steps => step.isPlaced leaves repeats && arePlaced leaves repeats steps

end

end GlBridge.Essl
