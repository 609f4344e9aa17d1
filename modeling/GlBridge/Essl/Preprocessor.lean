import GlBridge.Essl.Condition

/-!
# Preprocessor lines

A line that starts with a `#` is no part of the shader itself: it defines a macro, chooses whether
the lines after it count, or tells the compiler something.  All other lines that count are joined,
and macros are replaced by what they stand for.

A macro is not replaced in what it has itself been replaced by, so every lexeme carries the names of
the macros that it came from.

* `Macro`, `expand?` — macros and their replacement;
* `Conditional` — a choice between lines;
* `Preprocessor.line` — a line of a source;
* `lexemesOf?` — the lexemes of a source.
-/

namespace GlBridge.Essl

/-! ## Macros -/

/-- What a name stands for. -/
structure Macro where
  /-- The names of the parameters, for a macro that is written like a function. -/
  parameters : Option (List Text)
  body : List Lexeme
deriving DecidableEq, Repr

/-- Macros by name. -/
abbrev Macros := List (Text × Macro)

/-- A lexeme and the macros that it came from. -/
structure Expanded where
  lexeme : Lexeme
  origin : List Text := []

/-- The arguments of a macro after the parenthesis, and what comes after them.  `depth` counts the
parentheses that are open in the argument, the last one first in reverse. -/
def macroArguments? (depth : Nat) (argument : List Expanded) :
    List Expanded → Option (List (List Expanded) × List Expanded)
  | [] => none
  | item :: rest =>
    if item.lexeme = .sign [')'] ∧ depth = 0 then some ([argument.reverse], rest)
    else if item.lexeme = .sign [','] ∧ depth = 0 then do
      let (arguments, after) ← macroArguments? 0 [] rest
      return (argument.reverse :: arguments, after)
    else
      let depth := if item.lexeme = .sign ['('] then depth + 1
        else if item.lexeme = .sign [')'] then depth - 1
        else depth
      macroArguments? depth (item :: argument) rest

/-- What a macro stands for, given its arguments by the names of the parameters. -/
def Macro.replacement (definition : Macro) (origin : List Text)
    (arguments : List (Text × List Expanded)) : List Expanded :=
  definition.body.flatMap fun lexeme =>
    match lexeme with
    | .name text =>
      match arguments.lookup text with
      | some items => items.map fun item => { item with origin := origin ++ item.origin }
      | none => [{ lexeme, origin }]
    | _ => [{ lexeme, origin }]

/-- Lexemes with all macros replaced.  `fuel` bounds the number of lexemes that are looked at. -/
def expandItems? (macros : Macros) : Nat → List Expanded → Option (List Expanded)
  | _, [] => some []
  | 0, _ => none
  | fuel + 1, item :: rest =>
    let kept := do return item :: (← expandItems? macros fuel rest)
    match item.lexeme with
    | .name text =>
      if item.origin.contains text then kept
      else
        match macros.lookup text with
        | none => kept
        | some definition =>
          let origin := text :: item.origin
          match definition.parameters, rest with
          | none, _ => expandItems? macros fuel (definition.replacement origin [] ++ rest)
          | some parameters, { lexeme := .sign ['('], .. } :: inside => do
            let (arguments, after) ← macroArguments? 0 [] inside
            let arguments ← arguments.mapM (expandItems? macros fuel)
            let isEmpty := parameters.isEmpty && arguments.length == 1 && arguments.all List.isEmpty
            if !isEmpty ∧ arguments.length ≠ parameters.length then none
            else
              expandItems? macros fuel
                (definition.replacement origin (parameters.zip arguments) ++ after)
          | some _, _ => kept
    | _ => kept

/-- How many lexemes macros can add. -/
def expansionLimit : Nat := 65536

/-- Lexemes with all macros replaced. -/
def expand? (macros : Macros) (lexemes : List Lexeme) : Option (List Lexeme) := do
  let items ← expandItems? macros (2 * lexemes.length + expansionLimit)
    (lexemes.map fun lexeme => { lexeme })
  return items.map Expanded.lexeme

/-- The parameters of a macro after the parenthesis, and what comes after them. -/
def macroParameters? : List Spaced → Option (List Text × List Spaced)
  | { lexeme := .sign [')'], .. } :: rest => some ([], rest)
  | { lexeme := .name text, .. } :: { lexeme := .sign [')'], .. } :: rest => some ([text], rest)
  | { lexeme := .name text, .. } :: { lexeme := .sign [','], .. } :: rest => do
    let (names, after) ← macroParameters? rest
    if names.isEmpty ∨ names.contains text then none else some (text :: names, after)
  | _ => none

/-- The macro that a line defines, after its name. -/
def macroOf? (rest : List Spaced) : Option Macro :=
  let body (items : List Spaced) : Option (List Lexeme) :=
    let lexemes := items.map Spaced.lexeme
    if lexemes.contains (.sign ['#']) then none else some lexemes
  match rest with
  | { lexeme := .sign ['('], blankAhead := false } :: inside => do
    let (names, after) ← macroParameters? inside
    return { parameters := some names, body := ← body after }
  | _ => do return { parameters := none, body := ← body rest }

/-- Whether a name is that of a macro, as a number in place of the question. -/
def answerDefined (macros : Macros) : List Lexeme → List Lexeme
  | .name ['d', 'e', 'f', 'i', 'n', 'e', 'd'] :: .sign ['('] :: .name text :: .sign [')'] :: rest =>
    .whole (if (macros.lookup text).isSome then 1 else 0) false :: answerDefined macros rest
  | .name ['d', 'e', 'f', 'i', 'n', 'e', 'd'] :: .name text :: rest =>
    .whole (if (macros.lookup text).isSome then 1 else 0) false :: answerDefined macros rest
  | lexeme :: rest => lexeme :: answerDefined macros rest
  | [] => []

/-- Whether a condition holds, if it has a value. -/
def conditionHolds? (macros : Macros) (lexemes : List Lexeme) : Option Bool := do
  let expanded ← expand? macros (answerDefined macros lexemes)
  return (← conditionValue? expanded) ≠ 0

/-! ## Lines -/

/-- A choice between lines that is not over yet. -/
structure Conditional where
  /-- Whether the lines around it count. -/
  enclosing : Bool
  /-- Whether some of its lines have counted so far. -/
  taken : Bool
  /-- Whether the lines that follow count. -/
  active : Bool
  /-- Whether only one more kind of lines can come. -/
  last : Bool := false
deriving DecidableEq, Repr

/-- What is known after some lines. -/
structure PreprocessorState where
  macros : Macros := []
  /-- The choices that are not over, the innermost first. -/
  conditionals : List Conditional := []
  /-- The lexemes since the last preprocessor line. -/
  pending : List (List Lexeme) := []
  /-- The lexemes before that, with macros replaced, the last ones first. -/
  done : List (List Lexeme) := []
  /-- Whether there has been a preprocessor line. -/
  started : Bool := false

/-- Something done to lines. -/
abbrev Preprocessor := StateT PreprocessorState Option

namespace Preprocessor

/-- Giving up. -/
def fail : Preprocessor α := fun _ => none

/-- Whether the lines that follow count. -/
def counts : Preprocessor Bool := do return (← get).conditionals.all Conditional.active

/-- Replacing macros in the lexemes since the last preprocessor line. -/
def settle : Preprocessor Unit := do
  let state ← get
  let expanded ← StateT.lift (expand? state.macros state.pending.reverse.flatten)
  set { state with pending := [], done := expanded :: state.done }

/-- Starting a choice. -/
def openConditional (holds : Bool) : Preprocessor Unit := do
  let enclosing ← counts
  let entry : Conditional := { enclosing, taken := holds, active := enclosing && holds }
  modify fun state => { state with conditionals := entry :: state.conditionals }

/-- Another kind of lines of the innermost choice: they count if `condition` holds and none have
counted so far. -/
def otherwise (last : Bool) (condition : Preprocessor Bool) : Preprocessor Unit := do
  match (← get).conditionals with
  | [] => fail
  | entry :: outer => do
    if entry.last then fail
    let holds ← if entry.enclosing && !entry.taken then condition else pure false
    let entry := { entry with taken := entry.taken || holds, active := holds, last }
    modify fun state => { state with conditionals := entry :: outer }

/-- The end of the innermost choice. -/
def closeConditional : Preprocessor Unit := do
  match (← get).conditionals with
  | [] => fail
  | _ :: outer => modify fun state => { state with conditionals := outer }

/-- A macro.  One that is defined twice has to be the same both times. -/
def define (name : Text) (rest : List Spaced) : Preprocessor Unit := do
  let definition ← StateT.lift (macroOf? rest)
  let macros := (← get).macros
  match macros.lookup name with
  | some known => if known = definition then return () else fail
  | none => modify fun state => { state with macros := (name, definition) :: macros }

/-- The versions of the language that are understood. -/
def knownVersions : List Nat := [440, 450, 460]

/-- What can be done about an extension. -/
def extensionBehaviors : List Text :=
  ["require".toList, "enable".toList, "warn".toList, "disable".toList]

/-- Whether a line that tells the compiler something is well formed. -/
def isWellFormed (isFirst : Bool) (word : Text) (rest : List Lexeme) : Bool :=
  if word = "version".toList then
    isFirst &&
      match rest with
      | [.whole version _] => knownVersions.contains version
      | [.whole version _, .name profile] =>
        knownVersions.contains version && profile == "core".toList
      | _ => false
  else if word = "extension".toList then
    match rest with
    | [.name _, .sign [':'], .name behavior] => extensionBehaviors.contains behavior
    | _ => false
  else if word = "line".toList then
    match rest with
    | [.whole _ _] => true
    | [.whole _ _, .whole _ _] => true
    | _ => false
  else word = "pragma".toList

/-- A preprocessor line that chooses lines, after its word.  These matter even where lines do not
count. -/
def choose (word : Text) (rest : List Lexeme) : Preprocessor Bool := do
  let active ← counts
  let macros := (← get).macros
  let condition : Preprocessor Bool := StateT.lift (conditionHolds? macros rest)
  let isDefined : Preprocessor Bool :=
    match rest with
    | [.name text] => return (macros.lookup text).isSome
    | _ => fail
  if word = "if".toList then openConditional (← if active then condition else pure false)
  else if word = "ifdef".toList then
    openConditional (← if active then isDefined else pure false)
  else if word = "ifndef".toList then
    openConditional (← if active then not <$> isDefined else pure false)
  else if word = "elif".toList then otherwise false condition
  else if word = "else".toList then
    if rest.isEmpty then otherwise true (pure true) else fail
  else if word = "endif".toList then
    if rest.isEmpty then closeConditional else fail
  else return false
  return true

/-- A preprocessor line, after its sign. -/
def directive (items : List Spaced) : Preprocessor Unit := do
  settle
  let isFirst := !(← get).started
  modify fun state => { state with started := true }
  match items with
  | [] => return ()
  | { lexeme := .name word, .. } :: rest =>
    let lexemes := rest.map Spaced.lexeme
    if ← choose word lexemes then return ()
    else if !(← counts) then return ()
    else if word = "define".toList then
      match rest with
      | { lexeme := .name name, .. } :: body => define name body
      | _ => fail
    else if word = "undef".toList then
      match lexemes with
      | [.name name] =>
        modify fun state => { state with macros := state.macros.filter (·.1 ≠ name) }
      | _ => fail
    else if isWellFormed isFirst word lexemes then return ()
    else fail
  | _ => if ← counts then fail else return ()

/-- A line. -/
def line (items : List Spaced) : Preprocessor Unit := do
  match items with
  | { lexeme := .sign ['#'], .. } :: rest => directive rest
  | _ =>
    if ← counts then
      let lexemes := items.map Spaced.lexeme
      if lexemes.contains (.sign ['#']) then fail
      else modify fun state => { state with pending := lexemes :: state.pending }

/-- The end of a source. -/
def finish : Preprocessor (List Lexeme) := do
  settle
  let state ← get
  if state.conditionals.isEmpty then return state.done.reverse.flatten else fail

end Preprocessor

/-- The lexemes of a source. -/
def lexemesOf? (source : Text) : Option (List Lexeme) := do
  let lines ← sourceLines? source
  let act : Preprocessor (List Lexeme) := do
    lines.forM Preprocessor.line
    Preprocessor.finish
  let (lexemes, _) ← act.run {}
  return lexemes

end GlBridge.Essl
