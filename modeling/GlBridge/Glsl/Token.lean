import GlBridge.Glsl.Word

/-!
# Tokens of a shader text

Where declarations matter, a source is read as tokens.  Comments and preprocessor lines are passed
over: a line comment up to its line feed, a block comment up to its end or the end of the text, and
from a `#` that is first on its line up to a line feed that no backslash precedes.  What is left,
ASCII blanks aside, is a token: a maximal run of letters, digits and underscores, or any other
character together with the non-ASCII characters that follow it.

* `Piece.scan` — a text cut into line feeds, blanks, comments, directives and tokens;
* `Token` — a token and the positions it covers;
* `tokenize` — the tokens of a text.
-/

namespace GlBridge.Glsl

open Text

/-- What a piece of a source is. -/
inductive PieceKind where
  | lineFeed
  | blank
  | comment
  | directive
  | token
deriving DecidableEq, Repr

/-- A piece of a source. -/
structure Piece where
  kind : PieceKind
  text : Text
deriving DecidableEq, Repr

namespace Piece

/-- The length of a line comment: the characters up to the line feed. -/
def lineLength (text : Text) : Nat := (text.takeWhile (· ≠ '\n')).length

/-- The length of the rest of a block comment, its end included. -/
def blockLength : Text → Nat
  | '*' :: '/' :: _ => 2
  | _ :: rest => 1 + blockLength rest
  | [] => 0

/-- The length of the rest of a preprocessor line: up to a line feed without a backslash before
it. -/
def directiveLength : Text → Nat
  | '\\' :: '\n' :: rest => 2 + directiveLength rest
  | '\n' :: _ => 0
  | _ :: rest => 1 + directiveLength rest
  | [] => 0

/-- The kind of the piece that a text starts with, and how many characters of the text after its
first one belong to it. -/
def lead (lineStart : Bool) (c : Char) (rest : Text) : PieceKind × Nat :=
  if c = '\n' then (.lineFeed, 0)
  else if isAsciiBlank c then (.blank, 0)
  else if c = '/' ∧ rest.head? = some '/' then (.comment, lineLength rest)
  else if c = '/' ∧ rest.head? = some '*' then (.comment, 1 + blockLength (rest.drop 1))
  else if c = '#' ∧ lineStart then (.directive, directiveLength rest)
  else if isWordChar c then (.token, (rest.takeWhile isWordChar).length)
  else (.token, (rest.takeWhile fun d => !isAscii d).length)

/-- Whether the next piece is first on its line, blanks and comments aside. -/
def lineStartAfter (lineStart : Bool) : PieceKind → Bool
  | .lineFeed => true
  | .token => false
  | _ => lineStart

/-- The pieces of a text.  `lineStart` says whether the text is at the start of a line. -/
def scanFrom (lineStart : Bool) : Text → List Piece
  | [] => []
  | c :: rest =>
    let (kind, length) := lead lineStart c rest
    { kind := kind, text := c :: rest.take length }
      :: scanFrom (lineStartAfter lineStart kind) (rest.drop length)
termination_by text => text.length
decreasing_by simp only [List.length_drop, List.length_cons]; omega

/-- The pieces of a text. -/
def scan (text : Text) : List Piece := scanFrom true text

/-- **Nothing is lost.**  The pieces of a text concatenate to the text. -/
theorem flatMap_text_scanFrom (lineStart : Bool) (t : Text) :
    (scanFrom lineStart t).flatMap text = t := by
  fun_induction scanFrom lineStart t with
  | case1 => rfl
  | case2 _ c rest kind length _ ih =>
    rw [List.flatMap_cons, ih]
    simp [List.take_append_drop]

end Piece

/-- A token and where it stands. -/
structure Token where
  text : Text
  start : Nat
deriving DecidableEq, Repr

namespace Token

/-- The position just past the token. -/
def stop (token : Token) : Nat := token.start + token.text.length

/-- Whether the token is the given word or sign. -/
def is (token : Token) (word : String) : Bool := token.text == word.toList

end Token

/-- The tokens among pieces that start at a position. -/
def tokensFrom (position : Nat) : List Piece → List Token
  | [] => []
  | piece :: pieces =>
    let rest := tokensFrom (position + piece.text.length) pieces
    match piece.kind with
    | .token => { text := piece.text, start := position } :: rest
    | _ => rest

/-- The tokens of a text. -/
def tokenize (text : Text) : List Token := tokensFrom 0 (Piece.scan text)

/-- The tokens of the part of a text that a span covers, with their positions in the text. -/
def tokenizeIn (text : Text) (span : Span) : List Token :=
  tokensFrom span.start (Piece.scan (span.textIn text))

end GlBridge.Glsl
