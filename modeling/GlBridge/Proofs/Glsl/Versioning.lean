import GlBridge.Proofs.Glsl.Linewise
import GlBridge.Proofs.Text.Affix

/-!
# One version directive

A compiled source is under one version directive, on its first line.  A source may come with any
number of them: none, one further down or behind a comment, several if it was put together from
fragments.  Putting a directive on the first line takes out the first one there was
(`inclusiveLines_normalizeVersion`).  So what is left is free of directives exactly if there was at
most one (`normalizeVersion_normalized_iff`), and of several the others stay
(`normalizeVersion_leaves_directive`).

**Directives among lines.**  What makes a line a directive is said once, of the line
(`isDirective_iff`).  A source is cut into three parts at its first directive, `VersionParts`, and
its lines determine them (`VersionParts.ofSource_eq_iff`).
-/

namespace GlBridge.Glsl

open Text

namespace VersionDirective

/-! ## Lines that are directives -/

/-- Whether a line is a version directive. -/
def isDirective (line : Text) : Bool := (arguments? line).isSome

/-- **What a version directive looks like**: blanks, a number sign, blanks, the word `version`, and
then a blank or nothing. -/
theorem isDirective_iff {line : Text} : isDirective line = true ↔
    ∃ lead gap rest, line = lead ++ '#' :: (gap ++ ("version".toList ++ rest)) ∧
      (∀ c ∈ lead, isBlank c = true) ∧ (∀ c ∈ gap, isBlank c = true) ∧
      ∀ c, rest.head? = some c → isBlank c = true := by
  constructor
  · intro h
    obtain ⟨arguments, h⟩ := Option.isSome_iff_exists.1 h
    simp only [arguments?, Option.bind_eq_some_iff, Option.map_eq_some_iff,
      Option.filter_eq_some_iff] at h
    obtain ⟨_, ⟨hashed, hhash, rfl⟩, hversion, hblank⟩ := h
    obtain ⟨lead, hline, hlead⟩ := exists_trimStart line
    obtain ⟨gap, hhashed, hgap⟩ := exists_trimStart hashed
    refine ⟨lead, gap, arguments, ?_, hlead, hgap, ?_⟩
    · rw [eq_append_of_dropPrefix? hversion] at hhashed
      rw [eq_append_of_dropPrefix? hhash, hhashed, List.singleton_append] at hline
      exact hline
    · rintro c hc
      obtain ⟨tail, rfl⟩ := List.head?_eq_some_iff.1 hc
      exact hblank
  · rintro ⟨lead, gap, rest, rfl, hlead, hgap, hrest⟩
    have hstart : trimStart (lead ++ '#' :: (gap ++ ("version".toList ++ rest)))
        = '#' :: (gap ++ ("version".toList ++ rest)) :=
      trimStart_append_of_blank hlead (by rintro c ⟨rfl⟩; decide)
    have hgap : trimStart (gap ++ ("version".toList ++ rest)) = "version".toList ++ rest :=
      trimStart_append_of_blank hgap (by rintro c ⟨rfl⟩; decide)
    have hhash : dropPrefix? ['#'] ('#' :: (gap ++ ("version".toList ++ rest)))
        = some (gap ++ ("version".toList ++ rest)) := dropPrefix?_append ['#'] _
    rw [isDirective, arguments?, hstart, hhash, Option.map_some, Option.bind_some, hgap,
      dropPrefix?_append, Option.filter_some, if_pos]
    · rfl
    · cases rest with
      | nil => rfl
      | cons c rest => exact hrest c rfl

lemma isDirective_append_lineFeed {line : Text} (h : isDirective line = true) :
    isDirective (line ++ ['\n']) = true := by
  obtain ⟨lead, gap, rest, rfl, hlead, hgap, hrest⟩ := isDirective_iff.1 h
  refine isDirective_iff.2 ⟨lead, gap, rest ++ ['\n'], by simp, hlead, hgap, ?_⟩
  cases rest with
  | nil => rintro c ⟨rfl⟩; decide
  | cons d rest => exact hrest

section Finding

variable {lines skipped others : List Text} {line : Text}

lemma findIn_eq_none (h : ∀ line ∈ lines, isDirective line = false) (before : Text) :
    findIn before lines = none := by
  induction lines generalizing before with
  | nil => rfl
  | cons line lines ih =>
      rw [List.forall_mem_cons] at h
      have hline : arguments? line = none := by
        simpa [isDirective] using h.1
      rw [findIn, hline]
      exact ih h.2 _

/-- The directive that is found is the first line that is one. -/
lemma exists_findIn (hskipped : ∀ line ∈ skipped, isDirective line = false)
    (hline : isDirective line = true) (before : Text) (others : List Text) :
    ∃ directive, findIn before (skipped ++ line :: others) = some directive ∧
      directive.before = before ++ skipped.flatten ∧ directive.line = line ∧
        directive.after = others.flatten := by
  induction skipped generalizing before with
  | nil =>
      obtain ⟨arguments, harguments⟩ := Option.isSome_iff_exists.1 hline
      rw [List.nil_append, findIn, harguments]
      exact ⟨_, rfl, by simp, rfl, rfl⟩
  | cons other skipped ih =>
      rw [List.forall_mem_cons] at hskipped
      have hother : arguments? other = none := by
        simpa [isDirective] using hskipped.1
      obtain ⟨directive, hfound, hbefore, hrest⟩ := ih hskipped.2 (before ++ other)
      rw [List.cons_append, findIn, hother]
      exact ⟨directive, hfound, by rw [hbefore, List.flatten_cons, List.append_assoc], hrest⟩

end Finding

end VersionDirective

open VersionDirective

/-! ## The parts of a source -/

/-- A source in three parts. -/
structure VersionParts where
  /-- What stands before the line of the version directive. -/
  before : Text
  /-- The line, with its line feed if it has one. -/
  line : Text
  /-- What stands after the line. -/
  after : Text
deriving DecidableEq, Repr

namespace VersionParts

/-- The parts of a source.  A source without a version directive is all behind it. -/
def ofSource (source : Text) : VersionParts :=
  match find? source with
  | none => { before := [], line := [], after := source }
  | some directive =>
    { before := directive.before, line := directive.line, after := directive.after }

/-- The parts put together. -/
def text (parts : VersionParts) : Text := parts.before ++ parts.line ++ parts.after

/-- The line feed that the line of a directive lacks if nothing ends it. -/
def lineEnd (parts : VersionParts) : Text :=
  if parts.line = [] ∨ parts.line.getLast? = some '\n' then [] else ['\n']

/-- The parts with lines put behind the directive, which is ended for them. -/
def insert (insertion : Text) (parts : VersionParts) : VersionParts :=
  { parts with line := parts.line ++ parts.lineEnd, after := insertion ++ parts.after }

/-- How the parts of a source come about from its lines: there is no directive among them, or the
line of the directive is the first one that is. -/
inductive OfLines (source : Text) : VersionParts → Prop
  | unversioned (hlines : ∀ line ∈ inclusiveLines source, isDirective line = false) :
      OfLines source { before := [], line := [], after := source }
  | versioned {skipped others : List Text} {line : Text}
      (hlines : inclusiveLines source = skipped ++ line :: others)
      (hskipped : ∀ line ∈ skipped, isDirective line = false) (hline : isDirective line = true) :
      OfLines source { before := skipped.flatten, line, after := others.flatten }

section Parts

variable {source directive insertion : Text} {parts : VersionParts}

/-- A source with a directive among its lines is cut at the first one. -/
lemma ofSource_of_lines {skipped others : List Text} {line : Text}
    (hlines : inclusiveLines source = skipped ++ line :: others)
    (hskipped : ∀ line ∈ skipped, isDirective line = false) (hline : isDirective line = true) :
    ofSource source = { before := skipped.flatten, line, after := others.flatten } := by
  obtain ⟨directive, hfound, hbefore, rfl, hafter⟩ := exists_findIn hskipped hline [] others
  rw [← hlines, ← find?] at hfound
  rw [ofSource, hfound]
  simp only
  rw [hbefore, hafter, List.nil_append]

lemma ofSource_of_unversioned (h : ∀ line ∈ inclusiveLines source, isDirective line = false) :
    ofSource source = { before := [], line := [], after := source } := by
  have hnone : find? source = none := findIn_eq_none h []
  rw [ofSource, hnone]

/-- **The lines of a source determine its parts.** -/
theorem ofSource_eq_iff : ofSource source = parts ↔ OfLines source parts := by
  constructor
  · rintro rfl
    cases hfirst : (inclusiveLines source).find? isDirective with
    | none =>
        have hnone : ∀ line ∈ inclusiveLines source, isDirective line = false := by
          simpa using hfirst
        rw [ofSource_of_unversioned hnone]
        exact .unversioned hnone
    | some line =>
        obtain ⟨hline, skipped, others, hlines, hskipped⟩ :=
          List.find?_eq_some_iff_append.1 hfirst
        have hnone : ∀ line ∈ skipped, isDirective line = false := fun other hother => by
          simpa using hskipped other hother
        rw [ofSource_of_lines hlines hnone hline]
        exact .versioned hlines hnone hline
  · rintro (hlines | ⟨hlines, hskipped, hline⟩)
    · exact ofSource_of_unversioned hlines
    · exact ofSource_of_lines hlines hskipped hline

lemma ofLines (source : Text) : OfLines source (ofSource source) := ofSource_eq_iff.1 rfl

/-- The parts put together are the source. -/
@[simp] lemma text_ofSource (source : Text) : (ofSource source).text = source := by
  have h := ofLines source
  generalize ofSource source = parts at h
  cases h with
  | unversioned hlines => rfl
  | versioned hlines hskipped hline =>
      rw [text, List.append_assoc, ← List.flatten_cons, ← List.flatten_append, ← hlines,
        flatten_inclusiveLines]

lemma line_ne_nil {directive : VersionDirective} (hfound : find? source = some directive) :
    directive.line ≠ [] := by
  have h := ofLines source
  generalize hparts : ofSource source = parts at h
  cases h with
  | unversioned hlines =>
      rw [find?, findIn_eq_none hlines] at hfound
      exact absurd hfound (by simp)
  | @versioned skipped others line hlines hskipped hline =>
      rw [ofSource, hfound] at hparts
      have hmem : line ∈ inclusiveLines source := by rw [hlines]; simp
      rw [show directive.line = line from congrArg VersionParts.line hparts]
      exact ne_nil_of_mem_inclusiveLines source line hmem

/-- **Inserting puts lines between the directive and what follows it.** -/
theorem insertAfterVersion_eq (source insertion : Text) :
    insertAfterVersion source insertion = ((ofSource source).insert insertion).text := by
  rw [insertAfterVersion, ofSource]
  cases hfound : find? source with
  | none => simp [insert, text, lineEnd]
  | some directive =>
      have hne := line_ne_nil hfound
      have hlast : (directive.before ++ directive.line).getLast? = directive.line.getLast? :=
        List.getLast?_append_of_ne_nil _ hne
      simp only [insert, text, lineEnd, hne, hlast, false_or, List.append_assoc]

/-- **A new directive on the first line takes the place of the old line.** -/
theorem normalizeVersion_eq (source directive : Text) :
    normalizeVersion source directive
      = directive ++ '\n' :: ((ofSource source).before ++ (ofSource source).after) := by
  rw [normalizeVersion, ofSource]
  cases find? source <;> rfl

end Parts

end VersionParts

/-! ## The directive on the first line -/

section Normalizing

variable {source directive : Text}

/-- **Putting a directive on the first line takes out the first directive there was**, and leaves
all other lines. -/
theorem inclusiveLines_normalizeVersion (hline : '\n' ∉ directive) (source : Text) :
    inclusiveLines (normalizeVersion source directive)
      = (directive ++ ['\n']) :: (inclusiveLines source).eraseP isDirective := by
  have h := VersionParts.ofLines source
  rw [VersionParts.normalizeVersion_eq, inclusiveLines_line hline]
  generalize VersionParts.ofSource source = parts at h
  cases h with
  | unversioned hlines =>
      rw [List.eraseP_of_forall_not (by simpa using hlines), List.nil_append]
  | @versioned skipped others line hlines hskipped hline =>
      have hkept : (skipped ++ others).Sublist (inclusiveLines source) := by
        rw [hlines]
        exact (List.sublist_cons_self _ _).append_left _
      rw [← List.flatten_append, inclusiveLines_flatten_of_sublist hkept, hlines,
        List.eraseP_append_right _ (by simpa using hskipped), List.eraseP_cons_of_pos hline]

/-- What a source is to be under a version directive: the directive is its first line, none of the
other lines is one, and these are the lines of the source that are none. -/
structure Normalized (directive source out : Text) : Prop where
  first : (inclusiveLines out).head? = some (directive ++ ['\n'])
  single : ∀ line ∈ (inclusiveLines out).tail, isDirective line = false
  others : (inclusiveLines out).tail = (inclusiveLines source).filter (!isDirective ·)

/-- Dropping the first such element leaves one fewer. -/
lemma countP_eraseP {α : Type*} (p : α → Bool) (list : List α) :
    (list.eraseP p).countP p = list.countP p - 1 := by
  induction list with
  | nil => rfl
  | cons a list ih =>
      cases ha : p a with
      | true => simp [ha]
      | false => simp [ha, ih]

/-- Dropping the first such element is dropping them all if there is at most one. -/
lemma eraseP_eq_filter {α : Type*} {p : α → Bool} {list : List α} (h : list.countP p ≤ 1) :
    list.eraseP p = list.filter (!p ·) := by
  induction list with
  | nil => rfl
  | cons a list ih =>
      cases ha : p a with
      | true =>
          have hnone : ∀ b ∈ list, p b = false := by
            simpa [ha] using h
          rw [List.eraseP_cons_of_pos ha, List.filter_cons_of_neg (by simp [ha]),
            List.filter_eq_self.2 fun b hb => by simp [hnone b hb]]
      | false =>
          rw [List.eraseP_cons_of_neg (by simp [ha]), List.filter_cons_of_pos (by simp [ha]),
            ih (by simpa [ha] using h)]

/-- **Exactly one version directive remains exactly if there was at most one.**  Of several the
first one is taken out, and the others stay behind the new one. -/
theorem normalizeVersion_normalized_iff (hline : '\n' ∉ directive)
    (hdirective : isDirective directive = true) (source : Text) :
    (inclusiveLines (normalizeVersion source directive)).countP isDirective
        = 1 + ((inclusiveLines source).countP isDirective - 1) ∧
      (Normalized directive source (normalizeVersion source directive) ↔
        (inclusiveLines source).countP isDirective ≤ 1) := by
  have hlines := inclusiveLines_normalizeVersion hline source
  have hfirst : isDirective (directive ++ ['\n']) = true :=
    isDirective_append_lineFeed hdirective
  constructor
  · rw [hlines, List.countP_cons_of_pos hfirst, countP_eraseP, Nat.add_comm]
  constructor
  · intro h
    have hsingle := h.single
    rw [hlines, List.tail_cons] at hsingle
    have hnone : ((inclusiveLines source).eraseP isDirective).countP isDirective = 0 :=
      List.countP_eq_zero.2 fun line hmem => by simp [hsingle line hmem]
    rw [countP_eraseP] at hnone
    exact Nat.le_of_sub_eq_zero hnone
  · intro hcount
    have hothers := eraseP_eq_filter hcount
    refine ⟨by rw [hlines]; rfl, ?_, by rw [hlines, List.tail_cons, hothers]⟩
    rw [hlines, List.tail_cons, hothers]
    intro line hmem
    simpa using (List.mem_filter.1 hmem).2

/-- A source with a directive behind a comment, after blanks, that nothing ends. -/
def commentedDirective : Text := "/* c */ \n # version 150".toList

theorem normalizeVersion_normalized_commented :
    isDirective "#version 460".toList = true ∧ '\n' ∉ "#version 460".toList ∧
      normalizeVersion commentedDirective "#version 460".toList
        = "#version 460\n/* c */ \n".toList ∧
      Normalized "#version 460".toList commentedDirective
        (normalizeVersion commentedDirective "#version 460".toList) := by
  have hdirective : isDirective "#version 460".toList = true := by decide
  have hline : '\n' ∉ "#version 460".toList := by decide
  have hout : normalizeVersion commentedDirective "#version 460".toList
      = "#version 460\n/* c */ \n".toList := by decide +kernel
  refine ⟨hdirective, hline, hout, ?_⟩
  refine (normalizeVersion_normalized_iff hline hdirective commentedDirective).2.2 ?_
  decide +kernel

/-- A source put together from fragments that each have a directive. -/
def twoDirectives : Text := "#version 110\nvoid f();\n#version 120\nvoid main(){}".toList

/-- **A second directive stays where it is.** -/
theorem normalizeVersion_leaves_directive :
    normalizeVersion twoDirectives "#version 460".toList
        = "#version 460\nvoid f();\n#version 120\nvoid main(){}".toList ∧
      isDirective "#version 460".toList = true ∧ isDirective "#version 120\n".toList = true ∧
      ¬ Normalized "#version 460".toList twoDirectives
        (normalizeVersion twoDirectives "#version 460".toList) := by
  have hout : normalizeVersion twoDirectives "#version 460".toList
      = "#version 460\nvoid f();\n#version 120\nvoid main(){}".toList := by
    unfold twoDirectives
    repeat rw [toList_literal rfl]
    decide +kernel
  have hsecond : isDirective "#version 120\n".toList = true := by decide
  refine ⟨hout, by decide, hsecond, fun h => ?_⟩
  have hmem : "#version 120\n".toList ∈
      (inclusiveLines (normalizeVersion twoDirectives "#version 460".toList)).tail := by
    rw [hout]
    repeat rw [toList_literal rfl]
    decide +kernel
  rw [h.single _ hmem] at hsecond
  exact absurd hsecond (by decide)

end Normalizing

end GlBridge.Glsl
