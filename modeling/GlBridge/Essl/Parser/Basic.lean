import GlBridge.Essl.Lexeme

/-!
# Reading lexemes

What both the conditions of preprocessor lines and the grammar of shaders are read with.

* `Remaining` — the lexemes that are left, and the names that have been given to structures;
* `Parser` — what is read from the front of them;
* `Parser.leftToRight` — operands with operators of one level between them.
-/

namespace GlBridge.Essl

/-- The lexemes that are left to read. -/
structure Remaining where
  lexemes : List Lexeme
  /-- The names that have been given to structures, which are names of types from then on. -/
  typeNames : List Text := []

/-- What can be read from the front of the lexemes. -/
abbrev Parser := StateT Remaining Option

namespace Parser

/-- Giving up. -/
def fail : Parser α := fun _ => none

/-- The next lexeme. -/
def next : Parser Lexeme := fun remaining =>
  match remaining.lexemes with
  | [] => none
  | lexeme :: rest => some (lexeme, { remaining with lexemes := rest })

/-- The next lexeme, left where it is. -/
def peek? : Parser (Option Lexeme) := do return (← get).lexemes.head?

/-- The number of lexemes that are left. -/
def count : Parser Nat := do return (← get).lexemes.length

/-- Whether the next lexeme is a sign. -/
def atSign (text : String) : Parser Bool := do return (← peek?) == some (.sign text.toList)

/-- Whether the next lexeme is a word. -/
def atWord (text : String) : Parser Bool := do return (← peek?) == some (.name text.toList)

/-- Taking a sign if it is next, and whether it was. -/
def acceptSign (text : String) : Parser Bool := do
  if ← atSign text then
    let _ ← next
    return true
  else return false

/-- Taking a word if it is next, and whether it was. -/
def acceptWord (text : String) : Parser Bool := do
  if ← atWord text then
    let _ ← next
    return true
  else return false

/-- A sign that has to come. -/
def sign (text : String) : Parser Unit := do
  if ← acceptSign text then return () else fail

/-- A word that has to come. -/
def word (text : String) : Parser Unit := do
  if ← acceptWord text then return () else fail

/-- A name. -/
def name : Parser Text := do
  match ← next with
  | .name text => return text
  | _ => fail

/-- An operator of a list, if one is next. -/
def operator? (ops : List (Text × β)) : Parser (Option β) := do
  match ← peek? with
  | some (.sign text) =>
    match ops.lookup text with
    | some op =>
      let _ ← next
      return some op
    | none => return none
  | _ => return none

/-- Operands with operators of one level between them, taken from left to right.  `fuel` bounds
the number of operators. -/
def leftToRight (ops : List (Text × β)) (operand : Parser α) (combine : β → α → α → Parser α) :
    Nat → α → Parser α
  | 0, _ => fail
  | fuel + 1, left => do
    match ← operator? ops with
    | some op =>
      let right ← operand
      leftToRight ops operand combine fuel (← combine op left right)
    | none => return left

end Parser

end GlBridge.Essl
