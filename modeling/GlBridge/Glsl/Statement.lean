import GlBridge.Glsl.Token

/-!
# Global statements

A statement at global scope ends in a semicolon outside all braces.  Function bodies are passed
over: a closing brace starts the next statement if what stood before the matching opening brace
ended in a closing parenthesis.  A preprocessor line starts the next statement if nothing but
blanks stands before it in the current one.

* `globalStatements` — the spans of the statements, without their semicolons;
* `globalDeclarations` — their tokens, statements without any left out.
-/

namespace GlBridge.Glsl

open Text

/-- What the search for statements remembers between two characters. -/
structure StatementScan where
  /-- How many braces are open. -/
  depth : Nat := 0
  /-- Where the current statement starts. -/
  start : Nat := 0
  /-- Whether the open braces belong to a function body. -/
  inFunction : Bool := false
  /-- The statements found, the last one first. -/
  found : List Span := []

namespace StatementScan

/-- Reading the character `c` at `position`, outside comments and directives. -/
def character (source : Text) (scan : StatementScan) (position : Nat) (c : Char) :
    StatementScan :=
  if c = '{' then
    { scan with
      depth := scan.depth + 1
      inFunction :=
        if scan.depth = 0 then endsIn ')' (source.slice scan.start position)
        else scan.inFunction }
  else if c = '}' then
    if scan.depth ≤ 1 ∧ scan.inFunction then
      { scan with depth := 0, inFunction := false, start := position + 1 }
    else { scan with depth := scan.depth - 1 }
  else if c = ';' ∧ scan.depth = 0 then
    { scan with
      start := position + 1
      found := { start := scan.start, stop := position } :: scan.found }
  else scan

/-- Reading a run of characters that starts at `position`. -/
def characters (source : Text) (scan : StatementScan) (position : Nat) : Text → StatementScan
  | [] => scan
  | c :: rest => characters source (scan.character source position c) (position + 1) rest

/-- Reading a preprocessor line that ends just before `stop`. -/
def directive (source : Text) (scan : StatementScan) (stop : Nat) : StatementScan :=
  if scan.depth = 0 ∧ (trimStart (source.slice scan.start stop)).head? = some '#' then
    { scan with start := stop }
  else scan

/-- Reading the pieces of a source from `position` on. -/
def pieces (source : Text) (scan : StatementScan) (position : Nat) : List Piece → StatementScan
  | [] => scan
  | piece :: rest =>
    let next := position + piece.text.length
    let scan :=
      match piece.kind with
      | .token => scan.characters source position piece.text
      | .directive => scan.directive source next
      | _ => scan
    pieces source scan next rest

end StatementScan

/-- The spans of the statements at global scope, without their semicolons. -/
def globalStatements (source : Text) : List Span :=
  (StatementScan.pieces source {} 0 (Piece.scan source)).found.reverse

/-- The tokens of every statement at global scope that has any. -/
def globalDeclarations (source : Text) : List (List Token) :=
  ((globalStatements source).map (tokenizeIn source)).filter (· ≠ [])

end GlBridge.Glsl
