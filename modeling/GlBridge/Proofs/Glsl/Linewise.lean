import GlBridge.Proofs.Glsl.Directive
import GlBridge.Proofs.Glsl.Joining

/-!
# Texts line by line

A text is its lines.  What a pass does to a text is often best said of the list of them: lines are
dropped, put in, or changed one by one.

* `line_induction` — a statement about texts is proved by what one more line does to it;
* `inclusiveLines_flatten_of_sublist` — some of a text's lines, put together, have just these lines;
* `inclusiveLines_renameIdentifiers` — renaming goes line by line.
-/

namespace GlBridge.Glsl

open Text

/-! ## Lines of a text -/

/-- **Induction over lines.**  A text is a line that no line feed ends, or an ended line and what
comes after it. -/
theorem line_induction {motive : Text → Prop} (last : ∀ line, '\n' ∉ line → motive line)
    (ended : ∀ line rest, '\n' ∉ line → motive rest → motive (line ++ '\n' :: rest))
    (text : Text) : motive text := by
  -- the part of the line that has been read is carried along
  suffices h : ∀ line, '\n' ∉ line → motive (line ++ text) by
    simpa using h [] (by simp)
  induction text with
  | nil =>
      intro line hline
      rw [List.append_nil]
      exact last line hline
  | cons c text ih =>
      intro line hline
      by_cases hc : c = '\n'
      · subst hc
        exact ended line text hline (by simpa using ih [] (by simp))
      · have hnext := ih (line ++ [c]) (by simp [hline, Ne.symm hc])
        rwa [List.append_assoc, List.singleton_append] at hnext

section Lines

variable {line first text : Text} {lines others : List Text}

/-- What no line feed ends is one line. -/
lemma inclusiveLines_last (hline : '\n' ∉ line) (hne : line ≠ []) :
    inclusiveLines line = [line] := by
  induction line with
  | nil => exact absurd rfl hne
  | cons c line ih =>
      rw [List.mem_cons, not_or] at hline
      rw [inclusiveLines]
      · cases line with
        | nil => rfl
        | cons d line => rw [ih hline.2 (by simp)]
      · exact fun h => hline.1 h.symm

lemma inclusiveLines_append (h : WholeLines first) (rest : Text) :
    inclusiveLines (first ++ rest) = inclusiveLines first ++ inclusiveLines rest := by
  induction first using line_induction with
  | last line hline =>
      rcases h with rfl | ⟨body, rfl⟩
      · rfl
      · simp at hline
  | ended line others hline ih =>
      have hothers : WholeLines others := by
        rcases eq_or_ne others [] with rfl | hne
        · exact Or.inl rfl
        · rcases h with h | ⟨body, h⟩
          · simp at h
          · have hlast := congrArg List.getLast? h
            rw [List.getLast?_append_cons, List.getLast?_concat,
              List.getLast?_cons_of_ne_nil hne] at hlast
            exact Or.inr (List.getLast?_eq_some_iff.1 hlast)
      rw [List.append_assoc, List.cons_append, inclusiveLines_line hline, inclusiveLines_line hline,
        ih hothers, List.cons_append]

/-- A line of a text, with the line feed that it may lack. -/
lemma exists_ended_line (h : line ∈ inclusiveLines text) :
    ∃ body, '\n' ∉ body ∧ (line = body ++ ['\n'] ∨ line = body ∧ body ≠ []) := by
  induction text using line_induction with
  | last whole hwhole =>
      rcases eq_or_ne whole [] with rfl | hne
      · exact absurd h List.not_mem_nil
      · rw [inclusiveLines_last hwhole hne, List.mem_singleton] at h
        exact ⟨whole, hwhole, Or.inr ⟨h, hne⟩⟩
  | ended whole rest hwhole ih =>
      rw [inclusiveLines_line hwhole] at h
      rcases List.mem_cons.1 h with rfl | h
      · exact ⟨whole, hwhole, Or.inl rfl⟩
      · exact ih h

/-- A line of a text is one line by itself. -/
lemma inclusiveLines_of_mem (h : line ∈ inclusiveLines text) : inclusiveLines line = [line] := by
  obtain ⟨body, hbody, rfl | ⟨rfl, hne⟩⟩ := exists_ended_line h
  · exact inclusiveLines_line hbody []
  · exact inclusiveLines_last hbody hne

lemma ended_cons (hne : lines ≠ []) : Ended (line :: lines) ↔ WholeLines line ∧ Ended lines := by
  obtain ⟨next, lines, rfl⟩ := List.exists_cons_of_ne_nil hne
  rfl

lemma Ended.sublist (h : others.Sublist lines) (hended : Ended lines) : Ended others := by
  induction h with
  | slnil => trivial
  | @cons others lines line h ih =>
      rcases eq_or_ne lines [] with rfl | hne
      · rw [List.sublist_nil.1 h]
        trivial
      · exact ih ((ended_cons hne).1 hended).2
  | @cons_cons others lines line h ih =>
      rcases eq_or_ne others [] with rfl | hne
      · trivial
      · have hlines : lines ≠ [] := by
          rintro rfl
          exact hne (List.sublist_nil.1 h)
        obtain ⟨hline, hended⟩ := (ended_cons hlines).1 hended
        exact (ended_cons hne).2 ⟨hline, ih hended⟩

/-- **Some of a text's lines, put together, have just these lines.** -/
theorem inclusiveLines_flatten_of_sublist (h : lines.Sublist (inclusiveLines text)) :
    inclusiveLines lines.flatten = lines := by
  have hended : Ended lines := (ended_inclusiveLines text).sublist h
  have hline : ∀ line ∈ lines, inclusiveLines line = [line] := fun line hmem =>
    inclusiveLines_of_mem (h.subset hmem)
  clear h
  induction lines with
  | nil => rfl
  | cons line lines ih =>
      rw [List.forall_mem_cons] at hline
      rcases eq_or_ne lines [] with rfl | hne
      · simpa using hline.1
      · rw [ended_cons hne] at hended
        rw [List.flatten_cons, inclusiveLines_append hended.1, hline.1, ih hended.2 hline.2,
          List.singleton_append]

/-- What stands before a line and after it has just these lines. -/
lemma inclusiveLines_around {line : Text} {others : List Text}
    (h : inclusiveLines text = lines ++ line :: others) :
    inclusiveLines lines.flatten = lines ∧ inclusiveLines others.flatten = others := by
  have hothers : others.Sublist (inclusiveLines text) :=
    h ▸ (List.sublist_cons_self line others).trans (List.sublist_append_right _ _)
  exact ⟨inclusiveLines_flatten_of_sublist (h ▸ List.sublist_append_left _ _),
    inclusiveLines_flatten_of_sublist hothers⟩

end Lines

/-! ## Lines put together -/

section Joined

variable {line : Text} {first inner rest texts : List Text}

lemma join_cons (hne : rest ≠ []) (line : Text) :
    join ['\n'] (line :: rest) = line ++ '\n' :: join ['\n'] rest := by
  obtain ⟨next, others, rfl⟩ := List.exists_cons_of_ne_nil hne
  rw [join, List.append_assoc]
  · rfl
  · exact List.cons_ne_nil _ _

lemma join_append (hfirst : first ≠ []) (hrest : rest ≠ []) :
    join ['\n'] (first ++ rest) = join ['\n'] first ++ '\n' :: join ['\n'] rest := by
  induction first with
  | nil => exact absurd rfl hfirst
  | cons line first ih =>
      rcases eq_or_ne first [] with rfl | hne
      · rw [List.singleton_append, join_cons hrest]
        rfl
      · rw [List.cons_append, join_cons (by simp [hne]), ih hne, join_cons hne, List.append_assoc,
          List.cons_append]

/-- Lines put together are lines of what they are put into. -/
lemma join_append_join (hinner : inner ≠ []) (first rest : List Text) :
    join ['\n'] (first ++ join ['\n'] inner :: rest) = join ['\n'] (first ++ (inner ++ rest)) := by
  have hstart : join ['\n'] (join ['\n'] inner :: rest) = join ['\n'] (inner ++ rest) := by
    rcases eq_or_ne rest [] with rfl | hne
    · rw [List.append_nil]
      rfl
    · rw [join_cons hne, join_append hinner hne]
  rcases eq_or_ne first [] with rfl | hne
  · exact hstart
  · rw [join_append hne (List.cons_ne_nil _ _), hstart, join_append hne (by simp [hinner])]

/-- A line with nothing at its end that belongs to a line end. -/
def Bare (line : Text) : Prop := '\n' ∉ line ∧ line.getLast? ≠ some '\r'

instance : DecidablePred Bare := fun line =>
  inferInstanceAs (Decidable ('\n' ∉ line ∧ line.getLast? ≠ some '\r'))

lemma dropLineEnd_of_notMem (h : '\n' ∉ line) : dropLineEnd line = line := by
  have hnone : dropSuffix? ['\n'] line = none := by
    rw [dropSuffix?, if_neg]
    rw [List.isSuffixOf_iff_suffix]
    exact fun hsuffix => h (hsuffix.subset List.mem_cons_self)
  rw [dropLineEnd, hnone]

lemma Bare.dropLineEnd (h : Bare line) : dropLineEnd (line ++ ['\n']) = line := by
  have hfeed : dropSuffix? ['\n'] (line ++ ['\n']) = some line := dropSuffix?_append line ['\n']
  have hreturn : dropSuffix? ['\r'] line = none := by
    rw [dropSuffix?, if_neg]
    rw [List.isSuffixOf_iff_suffix]
    rintro ⟨body, rfl⟩
    exact h.2 List.getLast?_concat
  rw [Text.dropLineEnd, hfeed]
  simp only [hreturn, Option.getD_none]

/-- Lines are read one by one where each is ended. -/
lemma lines_join_terminated (h : ∀ line ∈ texts, Bare line) (hne : texts ≠ []) :
    lines (join ['\n'] texts ++ ['\n']) = texts := by
  induction texts with
  | nil => exact absurd rfl hne
  | cons line texts ih =>
      rw [List.forall_mem_cons] at h
      rcases eq_or_ne texts [] with rfl | hne
      · rw [show join ['\n'] [line] = line from rfl, lines, inclusiveLines_line h.1.1]
        simp [inclusiveLines, h.1.dropLineEnd]
      · rw [join_cons hne, List.append_assoc, List.cons_append, lines, inclusiveLines_line h.1.1,
          List.map_cons, h.1.dropLineEnd, ← lines, ih h.2 hne]

/-- Lines are read one by one if the last one is not empty. -/
lemma lines_join (h : ∀ line ∈ texts, Bare line) (hlast : texts.getLast? ≠ some []) :
    lines (join ['\n'] texts) = texts ∧ (join ['\n'] texts).getLast? ≠ some '\n' := by
  induction texts with
  | nil => exact ⟨rfl, by simp [join]⟩
  | cons line texts ih =>
      rw [List.forall_mem_cons] at h
      rcases eq_or_ne texts [] with rfl | hne
      · have hline : line ≠ [] := by simpa using hlast
        rw [show join ['\n'] [line] = line from rfl]
        refine ⟨?_, fun hfeed => h.1.1 (List.mem_of_getLast? hfeed)⟩
        rw [lines, inclusiveLines_last h.1.1 hline, List.map_singleton,
          dropLineEnd_of_notMem h.1.1]
      · rw [List.getLast?_cons_of_ne_nil hne] at hlast
        obtain ⟨hlines, hfeed⟩ := ih h.2 hlast
        rw [join_cons hne]
        constructor
        · rw [lines, inclusiveLines_line h.1.1, List.map_cons, h.1.dropLineEnd, ← lines, hlines]
        · rw [List.getLast?_append_cons]
          cases hjoined : join ['\n'] texts with
          | nil =>
              rw [hjoined] at hlines
              exact absurd hlines.symm hne
          | cons c others =>
              rw [List.getLast?_cons_cons, ← hjoined]
              exact hfeed

/-- A text that lines make is read as these lines, up to an empty one at the end.  With the line
feed that the text ends in then, any lines put before what is left make a text like it. -/
lemma exists_lines_join {after : List Text} (h : ∀ other ∈ first ++ line :: after, Bare other)
    (hline : line ≠ []) :
    ∃ kept, lines (join ['\n'] (first ++ line :: after)) = first ++ line :: kept ∧
      ∀ others, others ≠ [] →
        ofLines (others ++ kept) ((join ['\n'] (first ++ line :: after)).getLast? = some '\n')
          = join ['\n'] (others ++ after) := by
  by_cases hlast : after.getLast? = some []
  · obtain ⟨kept, rfl⟩ := List.getLast?_eq_some_iff.1 hlast
    have hjoin : ∀ others : List Text, others ≠ [] →
        join ['\n'] (others ++ [[]]) = join ['\n'] others ++ ['\n'] := fun others hne =>
      join_append hne (List.cons_ne_nil _ _)
    have hne : first ++ line :: kept ≠ [] := by simp
    have hsplit : first ++ line :: (kept ++ [[]]) = (first ++ line :: kept) ++ [[]] := by simp
    have hbare : ∀ other ∈ first ++ line :: kept, Bare other := fun other hmem =>
      h other (by rw [hsplit]; exact List.mem_append_left _ hmem)
    refine ⟨kept, ?_, fun others hothers => ?_⟩
    · rw [hsplit, hjoin _ hne, lines_join_terminated hbare hne]
    · rw [hsplit, hjoin _ hne, ofLines, ← List.append_assoc, hjoin _ (by simp [hothers])]
      simp
  · have hend : (first ++ line :: after).getLast? ≠ some [] := by
      rw [List.getLast?_append_cons]
      rcases eq_or_ne after [] with rfl | hne
      · simpa using hline
      · rwa [List.getLast?_cons_of_ne_nil hne]
    obtain ⟨hlines, hfeed⟩ := lines_join h hend
    refine ⟨after, hlines, fun others _ => ?_⟩
    rw [ofLines, if_neg (by simpa using hfeed), List.append_nil]

/-- Uses of a name are counted line by line. -/
lemma countIdentifier_join (name : Text) (lines : List Text) :
    countIdentifier name (join ['\n'] lines) = (lines.map (countIdentifier name)).sum := by
  induction lines with
  | nil =>
      rw [countIdentifier, show join ['\n'] [] = ([] : Text) from rfl, identifiers_plain (by simp)]
      rfl
  | cons line lines ih =>
      rcases eq_or_ne lines [] with rfl | hne
      · rfl
      · rw [join_cons hne, countIdentifier, identifiers_eq_names, names_append_lineFeed,
          List.count_append, List.map_cons, List.sum_cons, ← ih, countIdentifier, countIdentifier,
          identifiers_eq_names, identifiers_eq_names]

end Joined

/-! ## Renaming line by line -/

section Renaming

variable {rename : Text → Option Text} {text : Text}

lemma isWordChar_of_mem_identifier {name : Text} (h : isIdentifier name = true) :
    ∀ c ∈ name, isWordChar c = true := by
  cases name with
  | nil => simp
  | cons d name =>
      rw [isIdentifier, Bool.and_eq_true, List.all_eq_true] at h
      exact List.forall_mem_cons.2 ⟨by rw [isWordChar, h.1, Bool.true_or], h.2⟩

/-- Renaming ends no line. -/
lemma lineFeed_notMem_renameIdentifiers
    (hnew : ∀ old new, rename old = some new → isIdentifier new = true) (h : '\n' ∉ text) :
    '\n' ∉ renameIdentifiers rename text := by
  rw [renameIdentifiers_eq, List.flatMap_map, List.mem_flatMap]
  rintro ⟨lexeme, hlexeme, hfeed⟩
  have hkept : '\n' ∉ lexeme.text := by
    intro hmem
    rw [← Lexeme.flatMap_text_scan text, List.mem_flatMap] at h
    exact h ⟨lexeme, hlexeme, hmem⟩
  cases lexeme with
  | word name afterDot =>
      cases hname : rename name with
      | none => exact hkept (by simpa [Lexeme.renamed, Lexeme.text, hname] using hfeed)
      | some new =>
          have hmem : '\n' ∈ new := by simpa [Lexeme.renamed, Lexeme.text, hname] using hfeed
          exact absurd (isWordChar_of_mem_identifier (hnew name new hname) _ hmem) (by decide)
  | number digits => exact hkept hfeed
  | other c => exact hkept hfeed

/-- Only an empty text is renamed to an empty one. -/
lemma renameIdentifiers_eq_nil
    (hnew : ∀ old new, rename old = some new → isIdentifier new = true)
    (h : renameIdentifiers rename text = []) : text = [] := by
  have hscan := scan_renameIdentifiers hnew text
  rw [h, Lexeme.scan, Lexeme.scanFrom, eq_comm, List.map_eq_nil_iff] at hscan
  rw [← Lexeme.flatMap_text_scan text, hscan]
  rfl

lemma renameIdentifiers_lineFeed (rename : Text → Option Text) (text rest : Text) :
    renameIdentifiers rename (text ++ '\n' :: rest)
      = renameIdentifiers rename text ++ '\n' :: renameIdentifiers rename rest := by
  have htext : Parted text ('\n' :: rest) := by
    rintro c d _ ⟨rfl⟩ _
    decide
  rw [renameIdentifiers_append htext, renameIdentifiers_cons (by decide)]

lemma WholeLines.renameIdentifiers (h : WholeLines text) :
    WholeLines (renameIdentifiers rename text) := by
  rcases h with rfl | ⟨lines, rfl⟩
  · rw [renameIdentifiers_nil]
    exact Or.inl rfl
  · rw [renameIdentifiers_lineFeed, renameIdentifiers_nil]
    exact Or.inr ⟨_, rfl⟩

/-- **Renaming goes line by line.** -/
theorem inclusiveLines_renameIdentifiers
    (hnew : ∀ old new, rename old = some new → isIdentifier new = true) (text : Text) :
    inclusiveLines (renameIdentifiers rename text)
      = (inclusiveLines text).map (renameIdentifiers rename) := by
  induction text using line_induction with
  | last line hline =>
      rcases eq_or_ne line [] with rfl | hne
      · rw [renameIdentifiers_nil]
        rfl
      · have hrenamed : renameIdentifiers rename line ≠ [] := fun h =>
          hne (renameIdentifiers_eq_nil hnew h)
        rw [inclusiveLines_last hline hne, List.map_singleton,
          inclusiveLines_last (lineFeed_notMem_renameIdentifiers hnew hline) hrenamed]
  | ended line rest hline ih =>
      have hfeed : renameIdentifiers rename (line ++ ['\n'])
          = renameIdentifiers rename line ++ ['\n'] := by
        rw [renameIdentifiers_lineFeed, renameIdentifiers_nil]
      rw [renameIdentifiers_lineFeed,
        inclusiveLines_line (lineFeed_notMem_renameIdentifiers hnew hline),
        inclusiveLines_line hline, List.map_cons, hfeed, ih]

/-- Some of a text's lines, put together, are renamed one by one. -/
lemma renameIdentifiers_flatten
    (hnew : ∀ old new, rename old = some new → isIdentifier new = true) {lines : List Text}
    (h : lines.Sublist (inclusiveLines text)) :
    renameIdentifiers rename lines.flatten = (lines.map (renameIdentifiers rename)).flatten := by
  rw [← flatten_inclusiveLines (renameIdentifiers rename lines.flatten),
    inclusiveLines_renameIdentifiers hnew, inclusiveLines_flatten_of_sublist h]

end Renaming

end GlBridge.Glsl
