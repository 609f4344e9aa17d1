import Mathlib.Data.List.Basic
import GlBridge.System.Path

/-!
# The names of a path

A path is walked name by name.  What matters to those that build paths is that a name put below a
path with `join` is the next name to walk through, however the path is written: empty, with slashes
doubled, or with a slash at its end.

* `Text.splitOn_append_cons` — a separator splits what is before it from what is after it;
* `Path.Plain` — the texts that are the name of one file;
* **`Path.names_join`** — joining adds one name.
-/

namespace GlBridge

namespace Text

/-! ## Splitting -/

lemma splitOn_ne_nil (separator : Char) (text : Text) : splitOn separator text ≠ [] := by
  cases text with
  | nil => simp [splitOn]
  | cons c rest =>
      rw [splitOn]
      split_ifs with hc
      · exact List.cons_ne_nil _ _
      · cases splitOn separator rest with
        | nil => exact List.cons_ne_nil _ _
        | cons part parts => exact List.cons_ne_nil _ _

/-- **A separator splits what is before it from what is after it.** -/
theorem splitOn_append_cons (separator : Char) (before after : Text) :
    splitOn separator (before ++ separator :: after)
      = splitOn separator before ++ splitOn separator after := by
  induction before with
  | nil => simp [splitOn]
  | cons c before ih =>
      by_cases hc : c = separator
      · simp [splitOn, hc, ih]
      · rw [List.cons_append, splitOn, splitOn, if_neg hc, if_neg hc, ih]
        cases hparts : splitOn separator before with
        | nil => exact absurd hparts (splitOn_ne_nil separator before)
        | cons part parts => rfl

lemma splitOn_eq_singleton {separator : Char} {text : Text} (h : separator ∉ text) :
    splitOn separator text = [text] := by
  induction text with
  | nil => rfl
  | cons c rest ih =>
      rw [List.mem_cons, not_or] at h
      rw [splitOn, if_neg (Ne.symm h.1), ih h.2]

end Text

namespace Path

/-! ## Names -/

/-- A text that is the name of one file: nothing in it leads anywhere else. -/
structure Plain (name : Text) : Prop where
  ne_nil : name ≠ []
  slash : '/' ∉ name
  nul : '\x00' ∉ name
  ne_here : name ≠ ['.']
  ne_up : name ≠ ['.', '.']

lemma names_nil : names [] = [] := rfl

lemma names_append_slash (before after : Path) :
    names (before ++ '/' :: after) = names before ++ names after := by
  rw [names, Text.splitOn_append_cons, List.filter_append]
  rfl

lemma Plain.names_eq {name : Text} (hname : Plain name) : names name = [name] := by
  rw [names, Text.splitOn_eq_singleton hname.slash]
  simp [hname.ne_nil]

/-- A path put below another one: a slash comes between, unless it is there or not needed. -/
lemma Plain.join_cases {name : Text} (hname : Plain name) (base : Path) :
    base = [] ∧ join base name = name ∨
      (∃ front, base = front ++ ['/'] ∧ join base name = front ++ '/' :: name) ∨
        join base name = base ++ '/' :: name := by
  have hhead : name.head? ≠ some '/' := fun h => hname.slash (List.mem_of_mem_head? h)
  rw [join, if_neg hhead]
  split_ifs with hbase
  · rcases hbase with hempty | hlast
    · have hnil : base = [] := List.isEmpty_iff.1 hempty
      exact .inl ⟨hnil, by rw [hnil, List.nil_append]⟩
    · obtain ⟨front, rfl⟩ := List.getLast?_eq_some_iff.1 hlast
      exact .inr (.inl ⟨front, rfl, by rw [List.append_assoc]; rfl⟩)
  · exact .inr (.inr rfl)

/-- **A plain name below a path is the next one to walk through.** -/
theorem names_join (base : Path) {name : Text} (hname : Plain name) :
    names (join base name) = names base ++ [name] := by
  rcases hname.join_cases base with ⟨rfl, h⟩ | ⟨front, rfl, h⟩ | h
  · rw [h, hname.names_eq, names_nil, List.nil_append]
  · rw [h, names_append_slash, names_append_slash, hname.names_eq, names_nil, List.append_nil]
  · rw [h, names_append_slash, hname.names_eq]

lemma nul_mem_join (base : Path) {name : Text} (hname : Plain name) :
    '\x00' ∈ join base name ↔ '\x00' ∈ base := by
  rcases hname.join_cases base with ⟨rfl, h⟩ | ⟨front, rfl, h⟩ | h <;> rw [h] <;>
    simp [hname.nul]

end Path
end GlBridge
