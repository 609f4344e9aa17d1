import GlBridge.Text.Basic

/-!
# Lines

A line feed ends a line.  `Text.inclusiveLines` keeps the line feeds, so that the lines of a text
concatenate to the text; `Text.lines` drops each together with a carriage return just before it.
Neither counts an empty line after a final line feed.
-/

namespace GlBridge.Text

/-- The lines of a text, each with the line feed that ends it. -/
def inclusiveLines : Text → List Text
  | [] => []
  | '\n' :: rest => ['\n'] :: inclusiveLines rest
  | c :: rest =>
    match inclusiveLines rest with
    | [] => [[c]]
    | line :: others => (c :: line) :: others

/-- A line without its line end: a line feed, or a carriage return and a line feed. -/
def dropLineEnd (line : Text) : Text :=
  match dropSuffix? ['\n'] line with
  | none => line
  | some body => (dropSuffix? ['\r'] body).getD body

/-- The lines of a text without their line ends. -/
def lines (text : Text) : List Text := (inclusiveLines text).map dropLineEnd

/-- The lines put together again, with a line feed between neighbours and, if `terminated`, one
more after the last. -/
def ofLines (lines : List Text) (terminated : Bool) : Text :=
  join ['\n'] lines ++ if terminated then ['\n'] else []

theorem flatten_inclusiveLines (text : Text) : (inclusiveLines text).flatten = text := by
  fun_induction inclusiveLines text with
  | case1 => rfl
  | case2 rest ih => simp [ih]
  | case3 c rest _ h ih => rw [h] at ih; simp [← ih]
  | case4 c rest _ line others h ih => rw [h] at ih; simp [← ih]

example : lines "a\r\nb\r\n\nc\r".toList
    = ["a".toList, "b".toList, [], "c\r".toList] := by decide

end GlBridge.Text
