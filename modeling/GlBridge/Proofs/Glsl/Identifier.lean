import Mathlib
import GlBridge.Glsl.Word

/-!
# Identifiers of joined texts

The textual passes rename identifiers and put lines between lines.  This file says what the second
does to the list of a text's identifiers.

**Joining.**  Lexemes can run across the place where two texts meet, unless the first one ends in a
line feed: no identifier and no number goes on past one.  So the identifiers of whole lines and what
comes after them are the identifiers of both (`identifiers_append`).
-/

namespace GlBridge.Glsl

open Text

/-! ## Runs of characters -/

section Runs

variable {keep : Char → Bool} {c : Char} {run rest : Text}

/-- What is left after a run does not go on with it. -/
lemma head?_dropWhile_ne (hc : keep c = true) :
    (rest.dropWhile keep).head? ≠ some c := by
  intro h
  have hhead := List.head?_dropWhile_not keep rest
  rw [h] at hhead
  simp [hc] at hhead

/-- A run ends where something else starts. -/
lemma takeWhile_append_of_all (hrun : run.all keep = true)
    (hrest : ∀ d, rest.head? = some d → keep d = false) :
    (run ++ rest).takeWhile keep = run := by
  rw [List.all_eq_true] at hrun
  rw [List.takeWhile_append_of_pos hrun]
  cases rest with
  | nil => simp
  | cons d rest => rw [List.takeWhile_cons_of_neg (by simp [hrest d rfl]), List.append_nil]

lemma dropWhile_append_of_all (hrun : run.all keep = true)
    (hrest : ∀ d, rest.head? = some d → keep d = false) :
    (run ++ rest).dropWhile keep = rest := by
  rw [List.all_eq_true] at hrun
  rw [List.dropWhile_append_of_pos hrun]
  cases rest with
  | nil => rfl
  | cons d rest => rw [List.dropWhile_cons_of_neg (by simp [hrest d rfl])]

/-- A run in a text is the same if more text follows after a character that ends it. -/
lemma takeWhile_append_cons (text : Text) (hc : keep c = false) :
    (text ++ c :: rest).takeWhile keep = text.takeWhile keep := by
  induction text with
  | nil => simp [hc]
  | cons d text ih =>
      cases hd : keep d with
      | false => simp [hd]
      | true => simp [hd, ih]

lemma dropWhile_append_cons (text : Text) (hc : keep c = false) :
    (text ++ c :: rest).dropWhile keep = text.dropWhile keep ++ c :: rest := by
  induction text with
  | nil => simp [hc]
  | cons d text ih =>
      cases hd : keep d with
      | false => simp [hd]
      | true => simp [hd, ih]

end Runs

/-! ## The names of a text -/

namespace Lexeme

/-- The name that a lexeme is. -/
def name? : Lexeme → Option Text
  | word name _ => some name
  | _ => none

/-- The names of a text, with what is known of the character before it. -/
def names (afterDot : Bool) (text : Text) : List Text := (scanFrom afterDot text).filterMap name?

lemma names_nil (afterDot : Bool) : names afterDot [] = [] := by rw [names, scanFrom]; rfl

lemma names_word {c : Char} (afterDot : Bool) (rest : Text) (hc : isWordStart c = true) :
    names afterDot (c :: rest)
      = (c :: rest.takeWhile isWordChar) :: names false (rest.dropWhile isWordChar) := by
  rw [names, scanFrom, if_pos hc]
  rfl

lemma names_number {c : Char} (afterDot : Bool) (rest : Text) (hc : isWordStart c = false)
    (hdigit : isDigit c = true) :
    names afterDot (c :: rest) = names ((c :: rest.takeWhile isNumberChar).getLast? == some '.')
      (rest.dropWhile isNumberChar) := by
  rw [names, scanFrom, if_neg (by simp [hc]), if_pos hdigit]
  rfl

lemma names_other {c : Char} (afterDot : Bool) (rest : Text) (hc : isWordStart c = false)
    (hdigit : isDigit c = false) :
    names afterDot (c :: rest) = names (dotAfter afterDot c) rest := by
  rw [names, scanFrom, if_neg (by simp [hc]), if_neg (by simp [hdigit])]
  rfl

/-- Whether a dot stands before a text does not change its names. -/
lemma names_eq (afterDot other : Bool) (text : Text) : names afterDot text = names other text := by
  fun_induction scanFrom afterDot text generalizing other with
  | case1 afterDot => rw [names_nil, names_nil]
  | case2 afterDot c rest hc => rw [names_word _ _ hc, names_word _ _ hc]
  | case3 afterDot c rest hc hdigit =>
      rw [Bool.not_eq_true] at hc
      rw [names_number _ _ hc hdigit, names_number _ _ hc hdigit]
  | case4 afterDot c rest hc hdigit ih =>
      rw [Bool.not_eq_true] at hc hdigit
      rw [names_other _ _ hc hdigit, names_other _ _ hc hdigit]
      exact ih _

end Lexeme

open Lexeme

lemma identifiers_eq_names (text : Text) : identifiers text = names false text := by
  rw [identifiers, identifierUses, List.map_filterMap, names, scan]
  congr 1
  funext lexeme
  cases lexeme <;> rfl

/-! ## Joining -/

/-- A text of whole lines: it is empty or ends in a line feed. -/
def WholeLines (text : Text) : Prop := text = [] ∨ ∃ lines, text = lines ++ ['\n']

lemma names_append_lineFeed (afterDot : Bool) (text rest : Text) :
    names afterDot (text ++ '\n' :: rest) = names afterDot text ++ names false rest := by
  have hword : isWordChar '\n' = false := by decide
  have hnumber : isNumberChar '\n' = false := by decide
  fun_induction scanFrom afterDot text with
  | case1 afterDot =>
      rw [List.nil_append, names_other _ _ (by decide) (by decide), names_nil, List.nil_append]
      exact names_eq _ _ _
  | case2 afterDot c text hc ih =>
      rw [List.cons_append, names_word _ _ hc, names_word _ _ hc, takeWhile_append_cons text hword,
        dropWhile_append_cons text hword, ih, List.cons_append]
  | case3 afterDot c text hc hdigit digits ih =>
      rw [Bool.not_eq_true] at hc
      rw [List.cons_append, names_number _ _ hc hdigit, names_number _ _ hc hdigit,
        takeWhile_append_cons text hnumber, dropWhile_append_cons text hnumber, ih]
  | case4 afterDot c text hc hdigit ih =>
      rw [Bool.not_eq_true] at hc hdigit
      rw [List.cons_append, names_other _ _ hc hdigit, names_other _ _ hc hdigit, ih]

/-- **Identifiers do not run across the end of a line.** -/
theorem identifiers_append {whole : Text} (h : WholeLines whole) (rest : Text) :
    identifiers (whole ++ rest) = identifiers whole ++ identifiers rest := by
  simp only [identifiers_eq_names]
  rcases h with rfl | ⟨lines, rfl⟩
  · rw [names_nil, List.nil_append, List.nil_append]
  · rw [List.append_assoc, List.singleton_append, names_append_lineFeed, names_append_lineFeed,
      names_nil, List.append_nil]

end GlBridge.Glsl
