import Mathlib
import GlBridge.Text.Blank
import GlBridge.Text.Lines

/-!
# What a text starts and ends in

Readers of lines cut off what a line starts or ends in: a word they look for, or the blanks around
it.  What is left tells how the line was put together.
-/

namespace GlBridge.Text

variable {lead tail text rest : Text}

lemma eq_append_of_dropPrefix? (h : dropPrefix? lead text = some rest) : text = lead ++ rest := by
  rw [dropPrefix?, Option.ite_none_right_eq_some, List.isPrefixOf_iff_prefix] at h
  obtain ⟨⟨tail, rfl⟩, h⟩ := h
  rw [List.drop_left] at h
  rw [Option.some.inj h]

@[simp] lemma dropPrefix?_append (lead rest : Text) :
    dropPrefix? lead (lead ++ rest) = some rest := by
  simp [dropPrefix?]

lemma eq_append_of_dropSuffix? (h : dropSuffix? tail text = some rest) : text = rest ++ tail := by
  rw [dropSuffix?, Option.ite_none_right_eq_some, List.isSuffixOf_iff_suffix] at h
  obtain ⟨⟨lead, rfl⟩, h⟩ := h
  rw [List.length_append, Nat.add_sub_cancel, List.take_left] at h
  rw [Option.some.inj h]

@[simp] lemma dropSuffix?_append (rest tail : Text) :
    dropSuffix? tail (rest ++ tail) = some rest := by
  simp [dropSuffix?]

/-- A text is the blanks it starts with and what is left without them. -/
lemma exists_trimStart (text : Text) :
    ∃ lead, text = lead ++ trimStart text ∧ ∀ c ∈ lead, isBlank c = true :=
  ⟨text.takeWhile isBlank, List.takeWhile_append_dropWhile.symm, fun _ hc =>
    List.mem_takeWhile_imp hc⟩

lemma trimStart_append_of_blank (hlead : ∀ c ∈ lead, isBlank c = true)
    (hrest : ∀ c, rest.head? = some c → isBlank c = false) : trimStart (lead ++ rest) = rest := by
  rw [trimStart, List.dropWhile_append_of_pos hlead]
  cases rest with
  | nil => rfl
  | cons c rest => rw [List.dropWhile_cons_of_neg (by simp [hrest c rfl])]

/-- A text is what is left without the characters it ends in, and these. -/
lemma exists_trimEndWhile (drop : Char → Bool) (text : Text) :
    ∃ tail, text = trimEndWhile drop text ++ tail ∧ ∀ c ∈ tail, drop c = true := by
  refine ⟨(text.reverse.takeWhile drop).reverse, ?_, fun c hc => ?_⟩
  · rw [trimEndWhile, ← List.reverse_append, List.takeWhile_append_dropWhile, List.reverse_reverse]
  · exact List.mem_takeWhile_imp (List.mem_reverse.1 hc)

lemma trimEndWhile_append {drop : Char → Bool} (htail : ∀ c ∈ tail, drop c = true)
    (hrest : ∀ c, rest.getLast? = some c → drop c = false) :
    trimEndWhile drop (rest ++ tail) = rest := by
  rw [trimEndWhile, List.reverse_append,
    List.dropWhile_append_of_pos fun c hc => htail c (List.mem_reverse.1 hc)]
  rcases List.eq_nil_or_concat rest with rfl | ⟨body, c, rfl⟩
  · rfl
  · rw [List.concat_eq_append] at hrest ⊢
    rw [List.reverse_append, List.reverse_singleton, List.singleton_append,
      List.dropWhile_cons_of_neg (by simp [hrest c List.getLast?_concat])]
    simp

lemma trimEndWhile_eq_self {drop : Char → Bool}
    (hrest : ∀ c, rest.getLast? = some c → drop c = false) : trimEndWhile drop rest = rest := by
  have hnone : ∀ c ∈ ([] : Text), drop c = true := by simp
  simpa using trimEndWhile_append hnone hrest

lemma trim_eq_self (hhead : ∀ c, text.head? = some c → isBlank c = false)
    (hlast : ∀ c, text.getLast? = some c → isBlank c = false) : trim text = text := by
  have hstart : trimStart text = text := by
    have hnone : ∀ c ∈ ([] : Text), isBlank c = true := by simp
    exact trimStart_append_of_blank hnone hhead
  rw [trim, hstart]
  exact trimEndWhile_eq_self hlast

lemma head?_dropWhile_eq_false {drop : Char → Bool} {c : Char}
    (h : (text.dropWhile drop).head? = some c) : drop c = false := by
  have hhead := List.head?_dropWhile_not drop text
  rw [h] at hhead
  exact hhead

/-- A trimmed text starts and ends in no blank. -/
lemma trim_trim (text : Text) : trim (trim text) = trim text := by
  obtain ⟨tail, htail⟩ := exists_trimEndWhile isBlank (trimStart text)
  have hstart : trimStart text = trim text ++ tail := htail.1
  refine trim_eq_self (fun c hc => ?_) fun c hc => ?_
  · have hhead : (trimStart text).head? = some c := by
      rw [hstart, List.head?_append, hc]
      rfl
    exact head?_dropWhile_eq_false hhead
  · rw [trim, trimEnd, trimEndWhile, List.getLast?_reverse] at hc
    exact head?_dropWhile_eq_false hc

/-- Blanks at the end are cut off with what else is. -/
lemma trim_append_of_blank (htail : ∀ c ∈ tail, isBlank c = true) (text : Text) :
    trim (text ++ tail) = trim text := by
  have hnone : tail.dropWhile isBlank = [] := List.dropWhile_eq_nil_iff.2 htail
  have hend : ∀ rest : Text, trimEnd (rest ++ tail) = trimEnd rest := by
    intro rest
    rw [trimEnd, trimEnd, trimEndWhile, trimEndWhile, List.reverse_append,
      List.dropWhile_append_of_pos fun c hc => htail c (List.mem_reverse.1 hc)]
  rw [trim, trim, trimStart, trimStart, List.dropWhile_append, hnone]
  split_ifs with hempty
  · rw [List.isEmpty_iff.1 hempty]
  · exact hend _

/-- What a line loses with its line end is blank. -/
lemma exists_dropLineEnd (line : Text) :
    ∃ tail, line = dropLineEnd line ++ tail ∧ ∀ c ∈ tail, isBlank c = true := by
  rw [dropLineEnd]
  cases hfeed : dropSuffix? ['\n'] line with
  | none => exact ⟨[], by simp⟩
  | some body =>
      obtain rfl := eq_append_of_dropSuffix? hfeed
      cases hreturn : dropSuffix? ['\r'] body with
      | none => exact ⟨['\n'], by simp [hreturn], List.forall_mem_singleton.2 (by decide)⟩
      | some inner =>
          obtain rfl := eq_append_of_dropSuffix? hreturn
          refine ⟨['\r', '\n'], by simp, List.forall_mem_cons.2 ⟨by decide, ?_⟩⟩
          exact List.forall_mem_singleton.2 (by decide)

end GlBridge.Text
