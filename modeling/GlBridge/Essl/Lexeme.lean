import GlBridge.Essl.Type
import GlBridge.Glsl.Token

/-!
# Lexemes of a shader

The compiler reads a source as lines of names, numbers and signs.  A backslash at the end of a line
continues it, and a comment counts as a blank, so a comment over several lines continues the line
that it starts on.

* `Lexeme` — a name, a number or a sign;
* `Spaced` — a lexeme, and whether a blank stands ahead of it;
* `sourceLines?` — the lines of a source.
-/

namespace GlBridge.Essl

open Text Glsl

/-- The smallest parts of a shader. -/
inductive Lexeme where
  | name (text : Text)
  /-- A number of single precision, given by its bits. -/
  | float (bits : UInt32)
  /-- A whole number, and whether it is marked as one without a sign. -/
  | whole (value : Nat) (unsigned : Bool)
  | sign (text : Text)
deriving DecidableEq, Repr

/-- A lexeme and whether a blank stands ahead of it. -/
structure Spaced where
  lexeme : Lexeme
  blankAhead : Bool
deriving DecidableEq, Repr

/-! ## Lines -/

/-- A text whose lines all end in a line feed alone. -/
def plainLineEnds : Text → Text
  | '\r' :: '\n' :: rest => '\n' :: plainLineEnds rest
  | '\n' :: '\r' :: rest => '\n' :: plainLineEnds rest
  | '\r' :: rest => '\n' :: plainLineEnds rest
  | c :: rest => c :: plainLineEnds rest
  | [] => []

/-- A text with its continued lines joined. -/
def joinedLines : Text → Text
  | '\\' :: '\n' :: rest => joinedLines rest
  | c :: rest => c :: joinedLines rest
  | [] => []

/-- Where a reader of comments is. -/
inductive CommentState where
  | outside
  /-- After a slash that may start a comment. -/
  | slash
  | line
  /-- In a comment that may have just seen a star. -/
  | block (star : Bool)
deriving DecidableEq, Repr

/-- A text with a blank in place of each comment. -/
def withoutComments : CommentState → Text → Text
  | .outside, [] => []
  | .outside, c :: rest =>
    if c = '/' then withoutComments .slash rest else c :: withoutComments .outside rest
  | .slash, [] => ['/']
  | .slash, c :: rest =>
    if c = '/' then withoutComments .line rest
    else if c = '*' then withoutComments (.block false) rest
    else '/' :: c :: withoutComments .outside rest
  | .line, [] => [' ']
  | .line, c :: rest =>
    if c = '\n' then '\n' :: withoutComments .outside rest else withoutComments .line rest
  | .block _, [] => [' ']
  | .block star, c :: rest =>
    if star && c == '/' then ' ' :: withoutComments .outside rest
    else withoutComments (.block (c == '*')) rest

/-! ## Signs -/

/-- The signs of more than one character, longer ones first. -/
def longSigns : List Text :=
  ["<<=".toList, ">>=".toList, "++".toList, "--".toList, "<<".toList, ">>".toList, "<=".toList,
    ">=".toList, "==".toList, "!=".toList, "&&".toList, "||".toList, "^^".toList, "+=".toList,
    "-=".toList, "*=".toList, "/=".toList, "%=".toList, "&=".toList, "|=".toList, "^=".toList]

/-- The signs of one character. -/
def shortSigns : Text := "()[]\x7b\x7d,;.:?+-*/%&|^~!<>=#".toList

/-- The sign that a text starts with. -/
def signAt? (text : Text) : Option Text :=
  match longSigns.find? (·.isPrefixOf text) with
  | some sign => some sign
  | none => (text.head?.filter shortSigns.contains).map ([·])

/-! ## Numbers -/

/-- Whether a number stands at the start of a text. -/
def startsNumber : Text → Bool
  | '.' :: c :: _ => isDigit c
  | c :: _ => isDigit c
  | [] => false

/-- The value of a digit up to `f`. -/
def hexDigit? (c : Char) : Option Nat :=
  if isDigit c then some (digitValue c)
  else if 'a' ≤ c ∧ c ≤ 'f' then some (c.toNat - 87)
  else if 'A' ≤ c ∧ c ≤ 'F' then some (c.toNat - 55)
  else none

/-- The number that digits write to a base. -/
def natOfDigits? (base : Nat) (digits : Text) : Option Nat :=
  if digits = [] then none
  else
    digits.foldlM (fun value c => do
      let digit ← hexDigit? c
      if digit < base then some (base * value + digit) else none) 0

/-- The bound of the whole numbers that can be written. -/
def wholeLimit : Nat := 0x10000000000000000

/-- A whole number of digits to a base, and what comes after it.  A mark for a width other than 32
bits is refused. -/
def wholeNumber? (base : Nat) (digits rest : Text) : Option (Lexeme × Text) := do
  let value ← natOfDigits? base digits
  if value ≥ wholeLimit then none
  else
    match rest with
    | c :: after =>
      if c = 'u' ∨ c = 'U' then some (.whole value true, after)
      else if ['l', 'L', 's', 'S'].contains c then none
      else some (.whole value false, rest)
    | [] => some (.whole value false, [])

/-- The number of single precision nearest to `digits * 10 ^ exponent`.  Exponents far out of range
give zero or infinity. -/
def floatOf (digits : Nat) (exponent : Int) : UInt32 :=
  if exponent > 400 then if digits = 0 then 0 else 0x7F800000
  else if exponent < -1000 then 0
  else singleOfRatio (digits * Nat.pow 10 exponent.toNat) (Nat.pow 10 (-exponent).toNat)

/-- The exponent that a text starts with, if it starts with the mark of one, and what comes after
it.  A mark without digits is refused. -/
def exponentAt? (text : Text) : Option (Int × Text) :=
  match text with
  | c :: rest =>
    if c = 'e' ∨ c = 'E' then
      let (negative, digits) := match rest with
        | '-' :: more => (true, more)
        | '+' :: more => (false, more)
        | _ => (false, rest)
      (decimal? (digits.takeWhile isDigit)).map fun n =>
        (if negative then -(n : Int) else n, digits.dropWhile isDigit)
    else some (0, text)
  | [] => some (0, [])

/-- Digits that may be missing. -/
def digits? (text : Text) : Option Nat := if text = [] then some 0 else decimal? text

/-- A floating point number after its whole digits: the point with the places, the exponent and a
mark.  A mark for a width other than 32 bits is refused. -/
def floatNumber? (whole rest : Text) : Option (Lexeme × Text) := do
  let fraction := if rest.head? = some '.' then rest.drop 1 else []
  let places := fraction.takeWhile isDigit
  let tail := if rest.head? = some '.' then fraction.dropWhile isDigit else rest
  let (exponent, after) ← exponentAt? tail
  let digits := (← digits? whole) * Nat.pow 10 places.length + (← digits? places)
  let lexeme := Lexeme.float (floatOf digits (exponent - places.length))
  match after with
  | c :: more =>
    if c = 'f' ∨ c = 'F' then some (lexeme, more)
    else if ["lf".toList, "LF".toList, "hf".toList, "HF".toList].any (·.isPrefixOf after) then none
    else some (lexeme, after)
  | [] => some (lexeme, [])

/-- The number that a text starts with, and what comes after it. -/
def numberAt? (text : Text) : Option (Lexeme × Text) :=
  if "0x".toList.isPrefixOf text ∨ "0X".toList.isPrefixOf text then
    let digits := (text.drop 2).takeWhile fun c => (hexDigit? c).isSome
    wholeNumber? 16 digits ((text.drop 2).drop digits.length)
  else
    let digits := text.takeWhile isDigit
    let rest := text.dropWhile isDigit
    if rest.head?.any fun c => ['.', 'e', 'E'].contains c then floatNumber? digits rest
    else wholeNumber? (if digits.head? = some '0' ∧ digits.length > 1 then 8 else 10) digits rest

/-! ## Scanning -/

namespace Lexeme

/-- The lexeme that a text starts with, and what comes after it. -/
def lead? (text : Text) : Option (Lexeme × Text) :=
  if text.head?.any isWordStart then
    some (name (text.takeWhile isWordChar), text.dropWhile isWordChar)
  else if startsNumber text then numberAt? text
  else (signAt? text).map fun found => (sign found, text.drop found.length)

/-- A number without a fraction. -/
def literal? : Lexeme → Option Literal
  | .float bits => some (.float bits)
  | .whole value true => some (.uint (value % word32Limit))
  | .whole value false => some (.int (Int.bmod value word32Limit))
  | _ => none

end Lexeme

/-- Whether a character separates lexemes. -/
def isLexicalBlank (c : Char) : Bool := [' ', '\t', '\x0b', '\x0c'].contains c

/-- The lexemes of a line.  `fuel` bounds their number. -/
def scanLine? : Nat → Bool → Text → Option (List Spaced)
  | _, _, [] => some []
  | 0, _, _ => none
  | fuel + 1, blankAhead, c :: rest =>
    if isLexicalBlank c then scanLine? fuel true rest
    else do
      let (lexeme, after) ← Lexeme.lead? (c :: rest)
      return { lexeme, blankAhead } :: (← scanLine? fuel false after)

/-- The lines of a source as lexemes, if it has no characters that are part of none. -/
def sourceLines? (source : Text) : Option (List (List Spaced)) :=
  let text := withoutComments .outside (joinedLines (plainLineEnds source))
  (splitOn '\n' text).mapM fun line => scanLine? line.length false line

example : numberAt? "1.5e-1;".toList = some (.float 0x3E19999A, [';']) := by decide +kernel
example : numberAt? "0x1Fu".toList = some (.whole 31 true, []) := by decide +kernel

end GlBridge.Essl
