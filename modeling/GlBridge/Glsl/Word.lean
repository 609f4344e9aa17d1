import GlBridge.Text.Blank
import GlBridge.Text.Decimal

/-!
# Identifiers in shader texts

The textual passes understand a shader no further than its identifiers.  A text is read as a list
of lexemes: identifiers, numeric literals, and single characters of anything else.  A literal
swallows letters and dots, so that no part of `1e5` or `2.0f` counts as an identifier, and
comments are read like any other text.  Of an identifier it is also known whether the last
character before it that is no blank is a dot, that is, whether it names a member or a swizzle.

* `Lexeme.scan` — the lexemes of a text, which concatenate to the text;
* `Glsl.renameUses` — the text with some identifiers renamed;
* `Glsl.identifiers`, `Glsl.countIdentifier`, `Glsl.containsIdentifier` — what occurs in a text;
* `Glsl.replaceMembers` — the text with every `instance.member` replaced.
-/

namespace GlBridge.Glsl

open Text

/-- Whether an identifier can start with the character. -/
def isWordStart (c : Char) : Bool :=
  ('a' ≤ c && c ≤ 'z') || ('A' ≤ c && c ≤ 'Z') || c == '_'

/-- Whether an identifier can go on with the character. -/
def isWordChar (c : Char) : Bool := isWordStart c || isDigit c

/-- Whether a numeric literal goes on with the character. -/
def isNumberChar (c : Char) : Bool := isWordChar c || c == '.'

/-- Whether a text is a single identifier. -/
def isIdentifier : Text → Bool
  | [] => false
  | c :: rest => isWordStart c && rest.all isWordChar

/-- The pieces that a shader text is read as. -/
inductive Lexeme where
  /-- An identifier, and whether it stands after a dot. -/
  | word (name : Text) (afterDot : Bool)
  /-- A numeric literal. -/
  | number (digits : Text)
  /-- Any other character. -/
  | other (c : Char)
deriving DecidableEq, Repr

namespace Lexeme

/-- The characters of a lexeme. -/
def text : Lexeme → Text
  | word name _ => name
  | number digits => digits
  | other c => [c]

/-- Whether the last nonblank character is a dot once `c` has been read. -/
def dotAfter (afterDot : Bool) (c : Char) : Bool := if isBlank c then afterDot else c == '.'

theorem dropWhile_length_le (keep : Char → Bool) (text : Text) :
    (text.dropWhile keep).length ≤ text.length := by
  induction text with
  | nil => simp
  | cons c rest ih =>
    rw [List.dropWhile_cons]
    split
    · exact Nat.le_succ_of_le ih
    · exact Nat.le_refl _

/-- The lexemes of a text that follows a dot, blanks aside, if `afterDot` says so. -/
def scanFrom (afterDot : Bool) : Text → List Lexeme
  | [] => []
  | c :: rest =>
    if isWordStart c then
      word (c :: rest.takeWhile isWordChar) afterDot
        :: scanFrom false (rest.dropWhile isWordChar)
    else if isDigit c then
      let digits := c :: rest.takeWhile isNumberChar
      number digits :: scanFrom (digits.getLast? == some '.') (rest.dropWhile isNumberChar)
    else
      other c :: scanFrom (dotAfter afterDot c) rest
termination_by text => text.length
decreasing_by
  · exact Nat.lt_succ_of_le (dropWhile_length_le _ _)
  · exact Nat.lt_succ_of_le (dropWhile_length_le _ _)
  · simp

/-- The lexemes of a text. -/
def scan (text : Text) : List Lexeme := scanFrom false text

/-- **Nothing is lost.**  The lexemes of a text concatenate to the text. -/
theorem flatMap_text_scanFrom (afterDot : Bool) (t : Text) :
    (scanFrom afterDot t).flatMap text = t := by
  fun_induction scanFrom afterDot t with
  | case1 => rfl
  | case2 _ c rest _ ih =>
    rw [List.flatMap_cons, ih]
    simp [Lexeme.text, List.takeWhile_append_dropWhile]
  | case3 _ c rest _ _ _ ih =>
    rw [List.flatMap_cons, ih]
    show (c :: rest.takeWhile isNumberChar) ++ _ = _
    simp [List.takeWhile_append_dropWhile]
  | case4 _ c rest _ _ ih => simp [Lexeme.text, ih]

theorem flatMap_text_scan (t : Text) : (scan t).flatMap text = t := flatMap_text_scanFrom false t

end Lexeme

/-- The identifiers of a text in order, each with whether it stands after a dot. -/
def identifierUses (text : Text) : List (Text × Bool) :=
  (Lexeme.scan text).filterMap fun
    | .word name afterDot => some (name, afterDot)
    | _ => none

/-- The identifiers of a text in order. -/
def identifiers (text : Text) : List Text := (identifierUses text).map Prod.fst

/-- The text with every identifier for which `rename` gives a new name renamed.  `rename` is told
whether the identifier stands after a dot. -/
def renameUses (rename : Text → Bool → Option Text) (text : Text) : Text :=
  (Lexeme.scan text).flatMap fun
    | .word name afterDot => (rename name afterDot).getD name
    | lexeme => lexeme.text

/-- The text with every identifier for which `rename` gives a new name renamed. -/
def renameIdentifiers (rename : Text → Option Text) (text : Text) : Text :=
  renameUses (fun name _ => rename name) text

/-- The text with the identifier `old` renamed to `new`. -/
def replaceIdentifier (old new text : Text) : Text :=
  renameIdentifiers (fun name => if name = old then some new else none) text

/-- How often an identifier occurs in a text. -/
def countIdentifier (name text : Text) : Nat := (identifiers text).count name

/-- Whether an identifier occurs in a text. -/
def containsIdentifier (name text : Text) : Bool := (identifiers text).contains name

/-- The text with every `instance.member` replaced by what `replace` makes of the member.  Only a
dot directly after the identifier `instance`, and a name directly after the dot, count. -/
def replaceMembers (instanceName : Text) (replace : Text → Text) : Text → Text
  | [] => []
  | c :: rest =>
    if isWordStart c then
      let word := c :: rest.takeWhile isWordChar
      match _h : rest.dropWhile isWordChar with
      | '.' :: tail =>
        let member := tail.takeWhile isWordChar
        if word = instanceName ∧ member ≠ [] then
          replace member ++ replaceMembers instanceName replace (tail.dropWhile isWordChar)
        else word ++ '.' :: replaceMembers instanceName replace tail
      | after => word ++ replaceMembers instanceName replace after
    else if isDigit c then
      c :: rest.takeWhile isNumberChar
        ++ replaceMembers instanceName replace (rest.dropWhile isNumberChar)
    else c :: replaceMembers instanceName replace rest
termination_by text => text.length
decreasing_by
  · have h1 := Lexeme.dropWhile_length_le isWordChar tail
    have h2 := Lexeme.dropWhile_length_le isWordChar rest
    simp only [_h, List.length_cons] at h2 ⊢; omega
  · have h2 := Lexeme.dropWhile_length_le isWordChar rest
    simp only [_h, List.length_cons] at h2 ⊢; omega
  · have h2 := Lexeme.dropWhile_length_le isWordChar rest
    simp only [_h] at h2; simp only [List.length_cons]; omega
  · exact Nat.lt_succ_of_le (Lexeme.dropWhile_length_le _ _)
  · simp

/-- Whether a member name reads as a swizzle: at most four letters, all of one of the three
component sets. -/
def isSwizzle (name : Text) : Bool :=
  name ≠ [] && name.length ≤ 4
    && ["xyzw".toList, "rgba".toList, "stpq".toList].any fun set => name.all set.contains

end GlBridge.Glsl
