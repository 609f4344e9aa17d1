import GlBridge.Glsl.Version
import GlBridge.Proofs.Glsl.Identifier

/-!
# Changing the first lines of a source

The version directive is a line of its own, so that taking it out and putting lines after it are
changes between lines.

* `VersionDirective.find?_cut` — a directive cuts its source into whole lines before it, the line
  itself, and what comes after it;
* `mem_identifiers_insertAfterVersion`, `mem_identifiers_normalizeVersion` — neither change makes
  identifiers that were not there before;
* `inclusiveLines_line` — the first line of a text that is written as one.
-/

namespace GlBridge.Glsl

open Text

/-! ## Lines -/

/-- A line that is ended is the first line of a text. -/
lemma inclusiveLines_line {line : Text} (hline : '\n' ∉ line) (rest : Text) :
    inclusiveLines (line ++ '\n' :: rest) = (line ++ ['\n']) :: inclusiveLines rest := by
  induction line with
  | nil => rw [List.nil_append, inclusiveLines, List.nil_append]
  | cons c line ih =>
      rw [List.mem_cons, not_or] at hline
      rw [List.cons_append, inclusiveLines, ih hline.2, List.cons_append]
      exact fun h => hline.1 h.symm

/-- All lines but the last one are ended. -/
def Ended : List Text → Prop
  | [] => True
  | [_] => True
  | line :: next :: lines => WholeLines line ∧ Ended (next :: lines)

lemma WholeLines.cons {c : Char} {line : Text} (h : WholeLines line) (hline : line ≠ []) :
    WholeLines (c :: line) := by
  rcases h with rfl | ⟨body, rfl⟩
  · exact absurd rfl hline
  · exact Or.inr ⟨c :: body, rfl⟩

lemma WholeLines.append {first second : Text} (hfirst : WholeLines first)
    (hsecond : WholeLines second) : WholeLines (first ++ second) := by
  rcases hsecond with rfl | ⟨body, rfl⟩
  · rwa [List.append_nil]
  · exact Or.inr ⟨first ++ body, (List.append_assoc ..).symm⟩

lemma ne_nil_of_mem_inclusiveLines (text : Text) : ∀ line ∈ inclusiveLines text, line ≠ [] := by
  fun_induction inclusiveLines text with
  | case1 => simp
  | case2 rest ih => simpa using ih
  | case3 c rest _ h ih => simp
  | case4 c rest _ line others h ih =>
      rw [h] at ih
      simp only [List.mem_cons, forall_eq_or_imp, ne_eq, reduceCtorEq, not_false_eq_true, true_and]
      exact fun other hother => ih other (List.mem_cons_of_mem _ hother)

lemma ended_inclusiveLines (text : Text) : Ended (inclusiveLines text) := by
  fun_induction inclusiveLines text with
  | case1 => trivial
  | case2 rest ih =>
      cases hrest : inclusiveLines rest with
      | nil => trivial
      | cons line others => exact ⟨Or.inr ⟨[], rfl⟩, hrest ▸ ih⟩
  | case3 c rest _ h ih => trivial
  | case4 c rest _ line others h ih =>
      have hline : line ≠ [] :=
        ne_nil_of_mem_inclusiveLines rest line (h ▸ List.mem_cons_self)
      rw [h] at ih
      cases others with
      | nil => trivial
      | cons next others => exact ⟨ih.1.cons hline, ih.2⟩

/-! ## The directive as a cut -/

namespace VersionDirective

/-- Where a directive cuts its source. -/
structure Cuts (directive : VersionDirective) (source : Text) : Prop where
  text : source = directive.before ++ directive.line ++ directive.after
  before : WholeLines directive.before
  line : WholeLines (directive.before ++ directive.line) ∨ directive.after = []

lemma findIn_cut {lines : List Text} (hended : Ended lines) {before : Text}
    (hbefore : WholeLines before) {directive : VersionDirective}
    (h : findIn before lines = some directive) : directive.Cuts (before ++ lines.flatten) := by
  induction lines generalizing before with
  | nil => exact absurd h (by simp [findIn])
  | cons line others ih =>
      rw [findIn] at h
      split at h
      · next =>
          cases others with
          | nil => exact absurd h (by simp [findIn])
          | cons next others =>
              have hcut := ih hended.2 (hbefore.append hended.1) h
              rwa [List.append_assoc, ← List.flatten_cons] at hcut
      · next arguments _ =>
          rw [Option.some.injEq] at h
          subst h
          refine ⟨?_, hbefore, ?_⟩
          · rw [List.flatten_cons, List.append_assoc]
          · cases others with
            | nil => exact Or.inr rfl
            | cons next others => exact Or.inl (hbefore.append hended.1)

/-- **A version directive cuts its source between lines.** -/
theorem find?_cut {source : Text} {directive : VersionDirective}
    (h : find? source = some directive) : directive.Cuts source := by
  have hcut := findIn_cut (ended_inclusiveLines source) (Or.inl rfl) h
  rwa [List.nil_append, flatten_inclusiveLines] at hcut

namespace Cuts

variable {directive : VersionDirective} {source : Text}

/-- No identifier runs across the ends of the line. -/
lemma identifiers (h : directive.Cuts source) :
    identifiers source = identifiers (directive.before ++ directive.line)
      ++ identifiers directive.after := by
  rw [h.text]
  rcases h.line with hline | hafter
  · exact identifiers_append hline _
  · rw [hafter, List.append_nil, identifiers_eq_names [], Lexeme.names_nil, List.append_nil]

end Cuts

end VersionDirective

/-! ## Identifiers of the changed source -/

lemma identifiers_append_lineFeed (text : Text) : identifiers (text ++ ['\n']) = identifiers text := by
  rw [identifiers_eq_names, identifiers_eq_names, names_append_lineFeed, Lexeme.names_nil,
    List.append_nil]

/-- Ending a text in a line feed, if it does not end in one, makes whole lines of it. -/
lemma wholeLines_ended (text : Text) :
    WholeLines (text ++ if text.getLast? = some '\n' then [] else ['\n']) := by
  split
  · next h =>
      obtain ⟨lines, rfl⟩ := List.getLast?_eq_some_iff.1 h
      exact Or.inr ⟨lines, List.append_nil _⟩
  · exact Or.inr ⟨text, rfl⟩

lemma identifiers_ended (text : Text) :
    identifiers (text ++ if text.getLast? = some '\n' then [] else ['\n']) = identifiers text := by
  split
  · rw [List.append_nil]
  · exact identifiers_append_lineFeed text

/-- **Putting lines after the version directive adds their identifiers only.** -/
theorem mem_identifiers_insertAfterVersion {source insertion name : Text}
    (hinsertion : WholeLines insertion) (h : name ∈ identifiers (insertAfterVersion source insertion)) :
    name ∈ identifiers source ∨ name ∈ identifiers insertion := by
  unfold insertAfterVersion at h
  split at h
  · rw [identifiers_append hinsertion, List.mem_append] at h
    exact h.symm
  · next directive hfound =>
      rw [List.append_assoc _ insertion, identifiers_append (wholeLines_ended _),
        identifiers_append hinsertion, identifiers_ended, List.mem_append, List.mem_append] at h
      rw [(VersionDirective.find?_cut hfound).identifiers, List.mem_append]
      tauto

/-- **Putting another version directive on the first line adds its identifiers only.** -/
theorem mem_identifiers_normalizeVersion {source directive name : Text}
    (h : name ∈ identifiers (normalizeVersion source directive)) :
    name ∈ identifiers source ∨ name ∈ identifiers directive := by
  unfold normalizeVersion at h
  rw [identifiers_eq_names, names_append_lineFeed, List.mem_append, ← identifiers_eq_names,
    ← identifiers_eq_names] at h
  rcases h with h | h
  · exact Or.inr h
  split at h
  · exact Or.inl h
  · next found hfound =>
      have hcut := VersionDirective.find?_cut hfound
      rw [identifiers_append hcut.before, List.mem_append] at h
      rw [hcut.identifiers, identifiers_append hcut.before, List.mem_append, List.mem_append]
      tauto

end GlBridge.Glsl
