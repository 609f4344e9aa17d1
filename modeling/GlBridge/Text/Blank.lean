import GlBridge.Text.Basic

/-!
# Blank characters

Two classes of blank characters are in use.  Most scanners go by the Unicode property
`White_Space`, twenty-five characters; the places that only look for the ends of tokens go by the
five ASCII blanks, which leave out the vertical tab.

* `Text.isBlank`, `Text.isAsciiBlank` — the two classes;
* `Text.trim` and its one-sided forms — a text without the blanks at its ends;
* `Text.words`, `Text.asciiWords` — the maximal runs without blanks.
-/

namespace GlBridge.Text

/-- The Unicode property `White_Space`. -/
def isBlank (c : Char) : Bool :=
  let n := c.toNat
  (9 ≤ n && n ≤ 13) || n == 0x20 || n == 0x85 || n == 0xA0 || n == 0x1680
    || (0x2000 ≤ n && n ≤ 0x200A) || n == 0x2028 || n == 0x2029 || n == 0x202F
    || n == 0x205F || n == 0x3000

/-- Space, tab, line feed, form feed and carriage return. -/
def isAsciiBlank (c : Char) : Bool :=
  c == ' ' || c == '\t' || c == '\n' || c == '\x0c' || c == '\r'

/-- Whether a character is one of the first 128. -/
def isAscii (c : Char) : Bool := c.toNat < 128

/-- Every ASCII blank is a blank. -/
theorem isBlank_of_isAsciiBlank {c : Char} (h : isAsciiBlank c = true) : isBlank c = true := by
  simp only [isAsciiBlank, Bool.or_eq_true, beq_iff_eq] at h
  rcases h with (((h | h) | h) | h) | h <;> subst h <;> decide

/-- What core counts as blank is blank here. -/
theorem isBlank_of_isWhitespace {c : Char} (h : c.isWhitespace = true) : isBlank c = true := by
  simp only [Char.isWhitespace, Bool.or_eq_true, decide_eq_true_eq] at h
  rcases h with ((h | h) | h) | h <;> subst h <;> decide

/-- A text without the blanks it starts with. -/
def trimStart (text : Text) : Text := text.dropWhile isBlank

/-- A text without the longest run of characters in `drop` that it ends in. -/
def trimEndWhile (drop : Char → Bool) (text : Text) : Text := (text.reverse.dropWhile drop).reverse

/-- A text without the blanks it ends in. -/
def trimEnd (text : Text) : Text := trimEndWhile isBlank text

/-- A text without the blanks at either end. -/
def trim (text : Text) : Text := trimEnd (trimStart text)

/-- The maximal runs of characters outside the class `blank`, in order. -/
def runs (blank : Char → Bool) : Text → List Text
  | [] => []
  | c :: rest =>
    if blank c then runs blank rest
    else
      match rest with
      | [] => [[c]]
      | next :: _ =>
        if blank next then [c] :: runs blank rest
        else
          match runs blank rest with
          | [] => [[c]]
          | run :: others => (c :: run) :: others

/-- The words of a text, as the Unicode blanks separate them. -/
def words (text : Text) : List Text := runs isBlank text

/-- The words of a text, as the ASCII blanks separate them. -/
def asciiWords (text : Text) : List Text := runs isAsciiBlank text

/-- Whether the last character that is no blank is `c`. -/
def endsIn (c : Char) (text : Text) : Bool := (trimEnd text).getLast? == some c

example : words " one\u00a0 two\n".toList = ["one".toList, "two".toList] := by decide
example : asciiWords "a\x0bb c".toList = ["a\x0bb".toList, "c".toList] := by decide

end GlBridge.Text
