/-!
# Texts and places in them

A shader source, a name, an option value: every text of the bridge is a list of characters.
Scanners recurse on the list, so that what a pass keeps, drops or inserts can be read off its
equations.  Places in a text are character positions; a caller that counts bytes converts them
with `byteOffset`, and a place reached that way never falls inside a character.

* `Text.slice` — the characters between two positions;
* `Text.dropPrefix?`, `Text.dropSuffix?` — the rest of a text that starts or ends in another one;
* `Text.splitAtFirst?`, `Text.splitAtLast?` — cutting a text at a separator;
* `Span` — a half-open range of positions.
-/

namespace GlBridge

/-- A text is a list of characters. -/
abbrev Text := List Char

namespace Text

/-- The characters of a string literal, as they stand in it.  Evaluating `toList` has to decode the
bytes of the string first, which takes the kernel long. -/
theorem toList_literal {literal : String} {text : Text} (h : literal = String.ofList text) :
    literal.toList = text := by
  rw [h, String.toList_ofList]

/-- The number of bytes a text takes in UTF-8. -/
def byteLength (text : Text) : Nat := text.foldl (· + ·.utf8Size) 0

/-- The byte offset of the character at `position`. -/
def byteOffset (text : Text) (position : Nat) : Nat := byteLength (text.take position)

/-- The characters from position `start` up to, and without, position `stop`. -/
def slice (text : Text) (start stop : Nat) : Text := (text.take stop).drop start

/-- What follows `lead`, if the text starts with it. -/
def dropPrefix? (lead text : Text) : Option Text :=
  if lead.isPrefixOf text then some (text.drop lead.length) else none

/-- What comes before `tail`, if the text ends in it. -/
def dropSuffix? (tail text : Text) : Option Text :=
  if tail.isSuffixOf text then some (text.take (text.length - tail.length)) else none

/-- The parts before and after the first place where `separator` stands. -/
def splitAtFirst? (separator : Text) : Text → Option (Text × Text)
  | [] => if separator = [] then some ([], []) else none
  | c :: rest =>
    match dropPrefix? separator (c :: rest) with
    | some after => some ([], after)
    | none => (splitAtFirst? separator rest).map fun (before, after) => (c :: before, after)

/-- The parts before and after the last occurrence of the character `separator`. -/
def splitAtLast? (separator : Char) : Text → Option (Text × Text)
  | [] => none
  | c :: rest =>
    match splitAtLast? separator rest with
    | some (before, after) => some (c :: before, after)
    | none => if c = separator then some ([], rest) else none

/-- The texts between the occurrences of the character `separator`: always one more than
there are separators. -/
def splitOn (separator : Char) : Text → List Text
  | [] => [[]]
  | c :: rest =>
    if c = separator then [] :: splitOn separator rest
    else
      match splitOn separator rest with
      | [] => [[c]]
      | part :: parts => (c :: part) :: parts

/-- The texts in order, with `separator` between neighbours. -/
def join (separator : Text) : List Text → Text
  | [] => []
  | [part] => part
  | part :: parts => part ++ separator ++ join separator parts

/-- A number in decimal digits, without leading zeros. -/
def ofNat (n : Nat) : Text := Nat.toDigits 10 n

/-- An integer in decimal digits, with a minus sign in front of a negative one. -/
def ofInt : Int → Text
  | .ofNat n => ofNat n
  | .negSucc n => '-' :: ofNat (n + 1)

/-- A number in lowercase hexadecimal digits, marked by a leading `0x`. -/
def ofNatHex (n : Nat) : Text := '0' :: 'x' :: Nat.toDigits 16 n

theorem slice_length_le (text : Text) (start stop : Nat) :
    (slice text start stop).length ≤ stop - start := by
  simp only [slice, List.length_drop, List.length_take]
  omega

@[simp] theorem slice_self (text : Text) (place : Nat) : slice text place place = [] := by
  simp [slice]

theorem slice_append (text : Text) {a b c : Nat} (hab : a ≤ b) (hbc : b ≤ c) :
    slice text a b ++ slice text b c = slice text a c := by
  have h : text.take c = text.take b ++ (text.take c).drop b := by
    have := (List.take_append_drop b (text.take c)).symm
    rwa [List.take_take, Nat.min_eq_left hbc] at this
  have hdrop : (text.take b ++ (text.take c).drop b).drop a
      = (text.take b).drop a ++ ((text.take c).drop b).drop (a - (text.take b).length) :=
    List.drop_append
  simp only [slice]
  rw [h, hdrop]
  by_cases hlen : b ≤ text.length
  · have : (text.take b).length = b := by simp [List.length_take, Nat.min_eq_left hlen]
    rw [this, Nat.sub_eq_zero_of_le hab, List.drop_zero]
    simp [this]
  · have hc : (text.take c).drop b = [] := by
      apply List.drop_eq_nil_of_le
      rw [List.length_take]; omega
    simp [hc]

end Text

/-- A half-open range of positions in a text. -/
structure Span where
  start : Nat
  stop : Nat
deriving DecidableEq, Repr

namespace Span

/-- The characters a span covers. -/
def textIn (span : Span) (text : Text) : Text := text.slice span.start span.stop

end Span

end GlBridge
